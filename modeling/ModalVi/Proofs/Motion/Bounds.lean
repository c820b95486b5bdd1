import ModalVi.Proofs.Text.Onward

namespace ModalVi

/-! Motions stay in the text.

Whatever a motion reads on its way, it reads with readers of the text, so where it stops is no further
than the end of the text. -/

variable {text : Text} {reader : Reader} {count : Nat}

namespace Reader

theorem Reads.linesDown (reads : Reads text reader) (count : Nat) :
    Reads text (reader.linesDown count) :=
  (Onward.linesDown count reader).reads reads

theorem Reads.sentenceBackward (reads : Reads text reader) :
    Reads text reader.sentenceBackward := by
  have stopped := (reads.advance 1).toPair TextObject.sentenceStart
  simp only [Reader.sentenceBackward]
  split
  · exact (stopped.turn .forward).skipSpace.turn .backward
  · exact stopped

theorem Reads.sentenceForward (reads : Reads text reader) : Reads text reader.sentenceForward :=
  (Onward.sentenceForward reader).reads (reads.advance 1)

theorem Reads.toEmptyLineAbove (reads : Reads text reader) : Reads text reader.toEmptyLineAbove :=
  (Onward.toEmptyLineAbove reader).reads (reads.advance 1)

theorem Reads.toEmptyLineBelow (reads : Reads text reader) : Reads text reader.toEmptyLineBelow :=
  (Onward.toEmptyLineBelow reader).reads (reads.advance 1)

end Reader

open Reader

/-! ### Searches for a character -/

namespace CharSearch

variable {target : Char} {found : Reader}

theorem onward_of_reach (reached : reach target reader = some found) : Onward reader found := by
  simp only [reach] at reached
  split at reached
  · cases reached
    exact .skipWhile _ reader
  · cases reached

theorem onward_of_reachForward (reached : reachForward target count reader = some found) :
    Onward reader found := by
  induction count generalizing reader with
  | zero =>
      cases reached
      exact .refl _
  | succ count ih =>
      simp only [reachForward] at reached
      obtain ⟨next, met, reached⟩ := Option.bind_eq_some_iff.mp reached
      have left : Onward reader next := by
        refine .trans ?_ (onward_of_reach met)
        split
        · exact .advance 1 reader
        · exact .refl reader
      split at reached
      · cases reached
        exact left
      · exact left.trans ((Onward.advance 1 next).trans (ih reached))

theorem onward_of_reachBackward (reached : reachBackward target count reader = some found) :
    Onward reader found := by
  induction count generalizing reader with
  | zero =>
      cases reached
      exact .refl _
  | succ count ih =>
      simp only [reachBackward] at reached
      obtain ⟨next, met, reached⟩ := Option.bind_eq_some_iff.mp reached
      have left := onward_of_reach met
      split at reached
      · cases reached
        exact left
      · exact left.trans ((Onward.advance 1 next).trans (ih reached))

theorem run_le_length {search : CharSearch} {repeated : Bool} {offset stop : Nat}
    (ran : search.run repeated count text offset = some stop) (inside : offset ≤ text.length) :
    stop ≤ text.length := by
  simp only [run] at ran
  split at ran
  · obtain ⟨found, reached, rfl⟩ := Option.map_eq_some_iff.mp ran
    have reads : Reads text found := by
      apply (onward_of_reachForward reached).reads
      split
      · exact (Reads.facing .forward offset).advance 1
      · exact Reads.facing .forward offset
    have within := reads.offset_le
    split <;> omega
  · obtain ⟨found, reached, rfl⟩ := Option.map_eq_some_iff.mp ran
    have reads : Reads text found := by
      apply (onward_of_reachBackward reached).reads
      split
      · exact (Reads.facing .backward offset).advance 1
      · exact Reads.facing .backward offset
    split
    · exact reads.offset_le
    · exact (reads.advance 1).offset_le

end CharSearch

/-! ### Brackets -/

theorem firstUnmatched_lt_length {inner target : Char} {depth position : Nat} {chars : List Char}
    (found : firstUnmatched inner target depth chars = some position) :
    position < chars.length := by
  induction chars generalizing depth position with
  | nil => cases found
  | cons c rest ih =>
      simp only [firstUnmatched] at found
      split at found
      · obtain ⟨later, met, rfl⟩ := Option.map_eq_some_iff.mp found
        exact Nat.succ_lt_succ (ih met)
      · split at found
        · cases depth with
          | zero =>
              cases found
              simp
          | succ depth =>
              obtain ⟨later, met, rfl⟩ := Option.map_eq_some_iff.mp found
              exact Nat.succ_lt_succ (ih met)
        · obtain ⟨later, met, rfl⟩ := Option.map_eq_some_iff.mp found
          exact Nat.succ_lt_succ (ih met)

theorem bracketPartner_lt_length {offset partner : Nat}
    (found : bracketPartner text offset = some partner) : partner < text.length := by
  simp only [bracketPartner] at found
  split at found
  · cases found
  · rename_i c held
    have within : offset < text.length := (List.getElem?_eq_some_iff.mp held).1
    split at found
    · obtain ⟨position, met, rfl⟩ := Option.map_eq_some_iff.mp found
      have inside := firstUnmatched_lt_length met
      simp only [List.length_drop] at inside
      omega
    · split at found
      · obtain ⟨position, met, rfl⟩ := Option.map_eq_some_iff.mp found
        omega
      · cases found

/-! ### Objects -/

namespace TextObject

variable {around : Bool}

theorem onward_runs {run space : Reader → Reader} (runOn : ∀ reader, Onward reader (run reader))
    (spaceOn : ∀ reader, Onward reader (space reader)) (around : Bool) (count : Nat)
    (reader : Reader) : Onward reader (runs run space around count reader) := by
  cases count with
  | zero => exact .refl reader
  | succ count =>
      have stepped := Onward.steps (fun reader => (runOn reader).trans (spaceOn _)) count reader
      have last := stepped.trans (runOn _)
      simp only [runs]
      split
      · exact last.trans (spaceOn _)
      · exact last

theorem onward_sentenceEnd (reader : Reader) : Onward reader (sentenceEnd reader) := by
  simp only [sentenceEnd]
  split
  · exact .pastPair _ reader
  · exact .skipThrough _ reader

theorem onward_sentences (around : Bool) (count : Nat) (reader : Reader) :
    Onward reader (sentences around count reader) := by
  cases count with
  | zero => exact .refl reader
  | succ count =>
      have further (reader : Reader) : Onward reader (sentenceEnd (reader.skipSpace.advance 1)) :=
        ((Onward.skipWhile _ reader).trans (.advance 1 _)).trans (onward_sentenceEnd _)
      have last := (onward_sentenceEnd reader).trans (Onward.steps further count _)
      simp only [sentences]
      split
      · exact last.trans (.skipWhile _ _)
      · exact last

theorem onward_paragraphEnd (around : Bool) (reader : Reader) :
    Onward (reader.toPair blankLine) (paragraphEnd around reader) := by
  simp only [paragraphEnd]
  split
  · exact .skipWhile _ _
  · split
    · exact .advance 1 _
    · exact .refl _

/-- A step on to the end of the next paragraph. -/
theorem onward_nextParagraph (around : Bool) (reader : Reader) :
    Onward reader (paragraphEnd around (reader.skipWhile (· == '\n'))) :=
  ((Onward.skipWhile _ reader).trans (.toPair _ _)).trans (onward_paragraphEnd around _)

theorem onward_paragraphs (around : Bool) (count : Nat) (reader : Reader) :
    Onward reader (paragraphs around count reader) := by
  cases count with
  | zero => exact .refl reader
  | succ count =>
      exact ((Onward.toPair _ reader).trans (onward_paragraphEnd around reader)).trans
        (.steps (onward_nextParagraph around) count _)

theorem onward_of_toMark {mark : Char} {past : Bool} {found : Reader}
    (reached : toMark mark past reader = some found) : Onward reader found := by
  simp only [toMark] at reached
  split at reached
  · cases reached
    split
    · exact .skipThrough _ reader
    · exact .skipWhile _ reader
  · cases reached

theorem onward_of_toUnmatched {inner target : Char} {past : Bool} {found : Reader}
    (reached : toUnmatched inner target past reader = some found) : Onward reader found := by
  obtain ⟨position, _, rfl⟩ := Option.map_eq_some_iff.mp reached
  exact .advance _ reader

theorem onward_of_outward {toStart toStop : (past : Bool) → Reader → Option Reader}
    (startOn : ∀ {past reader found}, toStart past reader = some found → Onward reader found)
    (stopOn : ∀ {past reader found}, toStop past reader = some found → Onward reader found)
    {extent found : Extent} (reached : outward toStart toStop around count extent = some found) :
    Onward extent.start found.start ∧ Onward extent.stop found.stop := by
  induction count generalizing extent with
  | zero =>
      cases reached
      exact ⟨.refl _, .refl _⟩
  | succ count ih =>
      simp only [outward] at reached
      split at reached
      · rename_i start stop started stopped
        obtain ⟨before, after⟩ := ih reached
        exact ⟨(startOn started).trans before, (stopOn stopped).trans after⟩
      · cases reached

theorem offset_atOffset_start {offset : Nat} (inside : offset ≤ text.length) :
    (Extent.atOffset text offset).start.offset = offset :=
  offset_facing .backward inside

theorem offset_atOffset_stop {offset : Nat} (inside : offset ≤ text.length) :
    (Extent.atOffset text offset).stop.offset = offset :=
  offset_facing .forward inside

section Select

variable {marks : Char → Bool} {object : TextObject} {extent found : Extent}

/-- The reader for the end of an object only reads on. -/
theorem onward_stop_of_select (selected : object.select marks around count extent = .ok found) :
    Onward extent.stop found.stop := by
  cases object with
  | word =>
      cases selected
      exact onward_runs (.skipWordRun _) (.skipWhile _) around count _
  | bigWord =>
      cases selected
      exact onward_runs (.skipWhile _) (.skipWhile _) around count _
  | sentence =>
      cases selected
      exact onward_sentences around count _
  | paragraph =>
      cases selected
      exact onward_paragraphs around count _
  | quoted mark =>
      simp only [select] at selected
      split at selected
      · rename_i reached
        cases selected
        exact (onward_of_outward onward_of_toMark onward_of_toMark reached).2
      · cases selected
  | block opening closing =>
      simp only [select] at selected
      split at selected
      · rename_i reached
        cases selected
        exact (onward_of_outward onward_of_toUnmatched onward_of_toUnmatched reached).2
      · cases selected

/-- So does the reader for its start, but for a paragraph, where it turns. -/
theorem onward_start_of_select (other : object ≠ .paragraph)
    (selected : object.select marks around count extent = .ok found) :
    Onward extent.start found.start := by
  cases object with
  | word | bigWord =>
      cases selected
      exact .skipWhile _ _
  | sentence =>
      cases selected
      exact .toPair _ _
  | paragraph => exact absurd rfl other
  | quoted mark =>
      simp only [select] at selected
      split at selected
      · rename_i reached
        cases selected
        exact (onward_of_outward onward_of_toMark onward_of_toMark reached).1
      · cases selected
  | block opening closing =>
      simp only [select] at selected
      split at selected
      · rename_i reached
        cases selected
        exact (onward_of_outward onward_of_toUnmatched onward_of_toUnmatched reached).1
      · cases selected

/-- Both readers of an extent read the text. -/
structure Extent.Within (text : Text) (extent : Extent) : Prop where
  start : Reads text extent.start
  stop : Reads text extent.stop

theorem within_of_select (selected : object.select marks around count extent = .ok found)
    (within : extent.Within text) : found.Within text := by
  refine ⟨?_, (onward_stop_of_select selected).reads within.stop⟩
  by_cases paragraph : object = .paragraph
  · subst paragraph
    cases selected
    have first := (within.start.toPair blankLine).turn .forward
    exact (first.skipWhile _).turn .backward
  · exact (onward_start_of_select paragraph selected).reads within.start

end Select

end TextObject

/-! ### Motions -/

/-- Both ends of the cursor are in the text. -/
structure Cursor.Within (text : Text) (cursor : Cursor) : Prop where
  caret : cursor.caret ≤ text.length
  anchor : cursor.anchor ≤ text.length

theorem Cursor.Within.high_le {cursor : Cursor} (within : cursor.Within text) :
    cursor.high ≤ text.length :=
  Nat.max_le.mpr ⟨within.caret, within.anchor⟩

theorem Cursor.Within.clamped {cursor : Cursor} (within : cursor.Within text) :
    cursor.clamped text.length = cursor := by
  simp [Cursor.clamped, Nat.min_eq_left within.caret, Nat.min_eq_left within.anchor]

/-- Whether the motion leads somewhere, and does not select an object of the text. -/
def Motion.leads : Motion → Bool
  | .object _ _ => false
  | _ => true

namespace Standpoint

variable {point : Standpoint} {found : Cursor}

theorem reads_reader (point : Standpoint) (direction : Direction) :
    Reads point.text (point.reader direction) :=
  .facing direction point.cursor.caret

theorem offset_reader (inside : point.cursor.caret ≤ point.text.length) (direction : Direction) :
    (point.reader direction).offset = point.cursor.caret :=
  Reader.offset_facing direction inside

theorem wordsForward_le_length (point : Standpoint) (big : Bool) (count : Nat) :
    point.wordsForward big count ≤ point.text.length := by
  have stepped (count : Nat) : Reads point.text ((point.reader .forward).steps
      (if big then Reader.bigWordForward else Reader.wordForward point.marks) count) := by
    refine (point.reads_reader .forward).steps (fun reader reads => ?_) count
    split
    · exact reads.bigWordForward
    · exact reads.wordForward
  simp only [wordsForward]
  split
  · cases count with
    | zero => exact (stepped 0).offset_le
    | succ count =>
        cases big with
        | false => exact (stepped count).skipWordRun.offset_le
        | true => exact (stepped count).skipNonSpace.offset_le
  · exact (stepped count).offset_le

theorem within_moveTo (within : point.cursor.Within point.text) {offset : Nat}
    (inside : offset ≤ point.text.length) : (point.moveTo offset).Within point.text :=
  ⟨inside, within.anchor⟩

theorem within_of_searchCharacter {search : CharSearch} {repeated : Bool}
    (searched : point.searchCharacter search repeated count = .ok found)
    (within : point.cursor.Within point.text) : found.Within point.text := by
  simp only [searchCharacter] at searched
  split at searched
  · rename_i offset ran
    cases searched
    exact within_moveTo within (CharSearch.run_le_length ran within.caret)
  · cases searched

theorem within_expand (within : point.cursor.Within point.text) {extent : TextObject.Extent}
    (inside : extent.Within point.text) : (point.expand extent).Within point.text := by
  have start := inside.start.offset_le
  have stop := inside.stop.offset_le
  have anchor := within.anchor
  simp only [expand]
  split
  · exact ⟨stop, by simp only; omega⟩
  · exact ⟨stop, by simp only; omega⟩

/-- A motion from within the text leads to a place in the text. -/
theorem within_of_resolve {memory : Option CharSearch} {motion : Motion}
    (resolved : point.resolve memory count motion = .ok found)
    (within : point.cursor.Within point.text) : found.Within point.text := by
  have forward := point.reads_reader .forward
  have backward := point.reads_reader .backward
  have placed (offset : Nat) : Reads point.text (Reader.forward point.text offset) :=
    .facing .forward offset
  cases motion with
  | lineStart =>
      cases resolved
      exact within_moveTo within (Reads.facing .backward _).toLineBreak.offset_le
  | lineEnd =>
      cases resolved
      refine within_moveTo within ?_
      split
      · exact forward.pastLineBreak.offset_le
      · exact forward.toLineBreak.offset_le
  | firstNonBlank | lineAbove | lineBelow =>
      cases resolved
      exact within_moveTo within ((placed _).skipWhile _).offset_le
  | wordForward big =>
      cases resolved
      exact within_moveTo within (point.wordsForward_le_length big count)
  | wordBackward big =>
      cases resolved
      refine within_moveTo within (backward.steps (fun reader reads => ?_) count).offset_le
      split
      · exact reads.skipSpace_skipNonSpace
      · exact reads.wordBackward
  | wordEnd big =>
      cases resolved
      refine within_moveTo within (forward.steps (fun reader reads => ?_) count).offset_le
      split
      · exact reads.skipSpace_skipNonSpace
      · exact reads.wordEnd
  | left =>
      cases resolved
      exact within_moveTo within (backward.advanceInLine count).offset_le
  | right =>
      cases resolved
      exact within_moveTo within (forward.advanceInLine count).offset_le
  | down | up =>
      cases resolved
      exact within_moveTo within ((placed _).advanceInLine _).offset_le
  | sentenceBackward =>
      cases resolved
      exact within_moveTo within
        (backward.steps (fun _ reads => reads.sentenceBackward) count).offset_le
  | sentenceForward =>
      cases resolved
      exact within_moveTo within
        (forward.steps (fun _ reads => reads.sentenceForward) count).offset_le
  | charSearch search => exact within_of_searchCharacter resolved within
  | searchAgain reversed =>
      simp only [resolve] at resolved
      split at resolved
      · cases resolved
      · exact within_of_searchCharacter resolved within
  | object around object =>
      simp only [resolve] at resolved
      cases selected : object.select point.marks around count
          (TextObject.Extent.atOffset point.text point.cursor.caret) with
      | error fault =>
          rw [selected] at resolved
          cases resolved
      | ok extent =>
          rw [selected] at resolved
          cases resolved
          exact within_expand within (TextObject.within_of_select selected ⟨backward, forward⟩)
  | lastCharacter =>
      cases resolved
      exact within_moveTo within (Nat.sub_le ..)
  | line =>
      cases resolved
      exact within_moveTo within ((placed 0).linesDown _).offset_le
  | matchingBracket =>
      simp only [resolve] at resolved
      split at resolved
      · rename_i offset met
        cases resolved
        exact within_moveTo within (Nat.le_of_lt (bracketPartner_lt_length met))
      · cases resolved
  | paragraphBackward =>
      cases resolved
      exact within_moveTo within
        (backward.steps (fun _ reads => reads.toLineBreak.toEmptyLineAbove) count).offset_le
  | paragraphForward =>
      cases resolved
      exact within_moveTo within
        (forward.steps (fun _ reads => reads.toEmptyLineBelow) count).offset_le
  | wholeLines =>
      cases resolved
      exact ⟨(forward.steps (fun _ reads => reads.pastLineBreak) count).offset_le,
        (Reads.facing .backward _).toLineBreak.offset_le⟩

/-- A motion that leads somewhere moves the caret alone. -/
theorem anchor_of_resolve {memory : Option CharSearch} {motion : Motion}
    (leads : motion.leads = true) (notLines : motion ≠ .wholeLines)
    (resolved : point.resolve memory count motion = .ok found) :
    found.anchor = point.cursor.anchor := by
  have searched {search : CharSearch} {repeated : Bool}
      (reached : point.searchCharacter search repeated count = .ok found) :
      found.anchor = point.cursor.anchor := by
    simp only [searchCharacter] at reached
    split at reached
    · cases reached
      rfl
    · cases reached
  cases motion with
  | object around object => cases leads
  | wholeLines => exact absurd rfl notLines
  | charSearch search => exact searched resolved
  | searchAgain reversed =>
      simp only [resolve] at resolved
      split at resolved
      · cases resolved
      · exact searched resolved
  | matchingBracket =>
      simp only [resolve] at resolved
      split at resolved
      · cases resolved
        rfl
      · cases resolved
  | _ =>
      cases resolved
      rfl

theorem within_ofCaret {marks : Char → Bool} {text : Text} {caret : Nat}
    (inside : caret ≤ text.length) :
    (ofCaret marks text caret).cursor.Within (ofCaret marks text caret).text :=
  ⟨inside, inside⟩

end Standpoint

end ModalVi
