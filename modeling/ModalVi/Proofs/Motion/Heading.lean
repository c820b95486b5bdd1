import ModalVi.Proofs.Motion.Lines
import ModalVi.Proofs.Motion.Sentence
import ModalVi.Proofs.Motion.WordSteps

namespace ModalVi

/-! Motions go their way.

Most motions only read on from the caret, so none of them ends on the other side of it, and those that
read a character first leave the caret.  The motions between lines keep to the order of the lines.  One
motion turns on its way, the one to the sentence before, and from some places it ends behind the
caret. -/

variable {text : Text}

/-- The way that a motion always goes, if there is one.  For the motion to the sentence before there is
none. -/
def Motion.heading : Motion → Option Direction
  | .left | .up | .wordBackward _ | .lineStart | .paragraphBackward => some .backward
  | .right | .down | .wordForward _ | .wordEnd _ | .lineEnd | .sentenceForward
  | .paragraphForward => some .forward
  | .charSearch search => some search.direction
  | _ => none

/-- Whether a motion with a heading leaves the caret, unless the text ends there. -/
def Motion.departs : Motion → Bool
  | .wordForward _ | .wordBackward _ | .wordEnd _ | .sentenceForward | .paragraphBackward
  | .paragraphForward => true
  | _ => false

/-! ### Reading on -/

namespace Reader

variable {reader : Reader} {step : Reader → Reader} {c : Char}

namespace Onward

variable (marks : Char → Bool) (big : Bool)

theorem wordForward (reader : Reader) :
    Onward reader ((if big then bigWordForward else Reader.wordForward marks) reader) := by
  cases big with
  | true => exact (skipWhile _ reader).trans (skipWhile _ _)
  | false => exact (skipWordRun marks reader).trans (skipWhile _ _)

theorem wordEnd (reader : Reader) :
    Onward reader ((if big then bigWordEnd else Reader.wordEnd marks) reader) := by
  cases big with
  | true => exact (skipWhile _ reader).trans (skipWhile _ _)
  | false => exact (skipWhile _ reader).trans (skipWordRun marks _)

theorem runBack (reader : Reader) :
    Onward reader ((if big then skipNonSpace else skipTokenBack marks) reader) := by
  cases big with
  | true => exact skipWhile _ reader
  | false =>
      simp only [Bool.false_eq_true, if_false, skipTokenBack]
      split
      · exact skipWhile _ reader
      · exact skipWhile _ reader

theorem wordBackward (reader : Reader) :
    Onward reader ((if big then bigWordBackward else Reader.wordBackward marks) reader) := by
  have run := (skipWhile _ reader).trans (runBack marks big reader.skipSpace)
  cases big with
  | true => exact run
  | false => exact run

/-- The run that a change stops behind. -/
theorem run (reader : Reader) :
    Onward reader ((if big then skipNonSpace else Reader.skipWordRun marks) reader) := by
  cases big with
  | true => exact .skipWhile _ reader
  | false => exact .skipWordRun marks reader

/-! ### Reading past the next character -/

theorem eq_or_advance {found : Reader} (onward : Onward reader found) :
    found = reader ∨ Onward (reader.advance 1) found := by
  obtain ⟨count, rfl⟩ := onward
  cases count with
  | zero => exact .inl (advance_zero reader)
  | succ count => exact .inr ⟨count, by rw [advance_advance, Nat.add_comm]⟩

/-- Of two things done in turn, one reads the next character if the second does so on its own. -/
theorem past_trans {found : Reader} {last : Reader → Reader} (first : Onward reader found)
    (on : Onward found (last found)) (past : Onward (reader.advance 1) (last reader)) :
    Onward (reader.advance 1) (last found) := by
  rcases first.eq_or_advance with rfl | passed
  · exact past
  · exact passed.trans on

theorem past_skipWhile {accept : Char → Bool} (next : reader.peek = some c)
    (accepted : accept c = true) :
    Onward (reader.advance 1) (reader.skipWhile accept) := by
  obtain ⟨rest, ahead⟩ := List.head?_eq_some_iff.mp next
  refine ⟨(rest.takeWhile accept).length, ?_⟩
  rw [Reader.skipWhile, advance_advance, ahead, List.takeWhile_cons_of_pos accepted, List.length_cons,
    Nat.add_comm]

/-- White space apart, every character is in a run: of the parts of a word, or of punctuation. -/
theorem past_skipWordRun (next : reader.peek = some c) (solid : Unicode.isWhitespace c = false) :
    Onward (reader.advance 1) (reader.skipWordRun marks) := by
  have parts := skipWhile (isWordPart marks) reader
  cases mark : isPunctuation marks c with
  | true =>
      simp only [Reader.skipWordRun]
      split
      · exact parts.past_trans (skipWhile _ _) (past_skipWhile next mark)
      · rename_i moved
        exact parts.eq_or_advance.resolve_left fun same => moved (congrArg Reader.offset same)
  | false =>
      have part : isWordPart marks c = true := by simp [isWordPart, solid, mark]
      have past := past_skipWhile next part
      simp only [Reader.skipWordRun]
      split
      · exact past.trans (skipWhile _ _)
      · exact past

theorem past_run (next : reader.peek = some c) (solid : Unicode.isWhitespace c = false) :
    Onward (reader.advance 1) ((if big then skipNonSpace else Reader.skipWordRun marks) reader) := by
  cases big with
  | true => exact past_skipWhile next (by rw [solid]; rfl)
  | false => exact past_skipWordRun marks next solid

theorem past_runBack (next : reader.peek = some c) (solid : Unicode.isWhitespace c = false) :
    Onward (reader.advance 1) ((if big then skipNonSpace else skipTokenBack marks) reader) := by
  cases big with
  | true => exact past_skipWhile next (by rw [solid]; rfl)
  | false =>
      simp only [Bool.false_eq_true, if_false, skipTokenBack, next, Option.any_some]
      split
      · exact past_skipWhile next ‹_›
      · rename_i part
        exact past_skipWhile next (by simp [isWordPart, solid, part])

theorem past_wordForward (next : reader.peek = some c) :
    Onward (reader.advance 1)
      ((if big then bigWordForward else Reader.wordForward marks) reader) := by
  have run := run marks big reader
  have past : Onward (reader.advance 1)
      ((if big then skipNonSpace else Reader.skipWordRun marks) reader).skipSpace := by
    cases space : Unicode.isWhitespace c with
    | true => exact run.past_trans (skipWhile _ _) (past_skipWhile next space)
    | false => exact (past_run marks big next space).trans (skipWhile _ _)
  cases big with
  | true => exact past
  | false => exact past

theorem past_wordEnd (next : reader.peek = some c) :
    Onward (reader.advance 1) ((if big then bigWordEnd else Reader.wordEnd marks) reader) := by
  have past : Onward (reader.advance 1)
      ((if big then skipNonSpace else Reader.skipWordRun marks) reader.skipSpace) := by
    cases space : Unicode.isWhitespace c with
    | true => exact (past_skipWhile next space).trans (run marks big _)
    | false => exact (skipWhile _ reader).past_trans (run marks big _) (past_run marks big next space)
  cases big with
  | true => exact past
  | false => exact past

theorem past_wordBackward (next : reader.peek = some c) :
    Onward (reader.advance 1)
      ((if big then bigWordBackward else Reader.wordBackward marks) reader) := by
  have past : Onward (reader.advance 1)
      ((if big then skipNonSpace else skipTokenBack marks) reader.skipSpace) := by
    cases space : Unicode.isWhitespace c with
    | true => exact (past_skipWhile next space).trans (runBack marks big _)
    | false =>
        exact (skipWhile _ reader).past_trans (runBack marks big _) (past_runBack marks big next space)
  cases big with
  | true => exact past
  | false => exact past

/-- Where a step reads the next character, several steps do so as well. -/
theorem past_steps (on : ∀ reader, Onward reader (step reader))
    (past : Onward (reader.advance 1) (step reader)) (count : Nat) :
    Onward (reader.advance 1) (reader.steps step (count + 1)) := by
  obtain ⟨more, stepped⟩ := exists_steps_succ step count reader
  rw [stepped]
  exact past.trans (steps on more _)

end Onward

end Reader

open Reader Text

/-- A character search ends on the side of its direction. -/
theorem CharSearch.run_forward {search : CharSearch} {repeated : Bool} {count offset place : Nat}
    (forward : search.direction = .forward) (inside : offset ≤ text.length)
    (ran : search.run repeated count text offset = some place) : offset ≤ place := by
  simp only [CharSearch.run, forward] at ran
  obtain ⟨found, reached, rfl⟩ := Option.map_eq_some_iff.mp ran
  have start : (Reader.forward text offset).offset = offset := offset_facing .forward inside
  have onward : Onward (Reader.forward text offset) found := by
    refine Onward.trans ?_ (onward_of_reachForward reached)
    split
    · exact .advance 1 _
    · exact .refl _
  have ordered := onward.le_offset rfl
  rw [start] at ordered
  split
  · exact Nat.le_max_right _ _
  · exact ordered

theorem CharSearch.run_backward {search : CharSearch} {repeated : Bool} {count offset place : Nat}
    (backward : search.direction = .backward) (inside : offset ≤ text.length)
    (ran : search.run repeated count text offset = some place) : place ≤ offset := by
  simp only [CharSearch.run, backward] at ran
  obtain ⟨found, reached, rfl⟩ := Option.map_eq_some_iff.mp ran
  have start : (Reader.backward text offset).offset = offset := offset_facing .backward inside
  have onward : Onward (Reader.backward text offset) found := by
    refine Onward.trans ?_ (onward_of_reachBackward reached)
    split
    · exact .advance 1 _
    · exact .refl _
  have ordered := onward.offset_le rfl
  have further := (onward.trans (.advance 1 found)).offset_le rfl
  rw [start] at ordered further
  split
  · exact ordered
  · exact further

/-! ### Motions -/

namespace Standpoint

variable {point : Standpoint} {memory : Option CharSearch} {count : Nat} {motion : Motion}
  {found : Cursor}

section Inside

variable (inside : point.cursor.caret ≤ point.text.length)
include inside

theorem caret_le_offset {reader : Reader} (onward : Onward (point.reader .forward) reader) :
    point.cursor.caret ≤ reader.offset := by
  rw [← offset_reader inside .forward]
  exact onward.le_offset rfl

theorem offset_le_caret {reader : Reader} (onward : Onward (point.reader .backward) reader) :
    reader.offset ≤ point.cursor.caret := by
  rw [← offset_reader inside .backward]
  exact onward.offset_le rfl

theorem caret_lt_offset {reader : Reader} (past : Onward ((point.reader .forward).advance 1) reader)
    (before : point.cursor.caret < point.text.length) : point.cursor.caret < reader.offset := by
  have start := offset_reader inside .forward
  rw [← start] at before ⊢
  exact past.lt_offset (point.reads_reader .forward) rfl before

theorem offset_lt_caret {reader : Reader}
    (past : Onward ((point.reader .backward).advance 1) reader)
    (after : 0 < point.cursor.caret) : reader.offset < point.cursor.caret := by
  have start := offset_reader inside .backward
  rw [← start] at after ⊢
  exact past.offset_lt (point.reads_reader .backward) rfl after

theorem caret_le_wordsForward (big : Bool) (count : Nat) :
    point.cursor.caret ≤ point.wordsForward big count := by
  have stepped (count : Nat) :=
    Onward.steps (Onward.wordForward point.marks big) count (point.reader .forward)
  simp only [wordsForward]
  split
  · cases count with
    | zero => exact caret_le_offset inside (.refl _)
    | succ count => exact caret_le_offset inside ((stepped count).trans (Onward.run point.marks big _))
  · exact caret_le_offset inside (stepped count)

/-- A motion forward does not end before the caret. -/
theorem caret_le_of_resolve (heading : motion.heading = some .forward)
    (resolved : point.resolve memory count motion = .ok found) :
    point.cursor.caret ≤ found.caret := by
  have onward {reader : Reader} (on : Onward (point.reader .forward) reader) :
      point.cursor.caret ≤ reader.offset := caret_le_offset inside on
  cases motion with
  | right =>
      cases resolved
      exact onward (.advanceInLine count _)
  | down =>
      obtain ⟨line, column, stands⟩ := Text.exists_stands inside
      rw [resolve_down stands] at resolved
      cases resolved
      exact stands.le_offsetAt (Nat.le_min.mpr ⟨Nat.le_add_right _ _, stands.among⟩)
  | wordForward big =>
      cases resolved
      exact caret_le_wordsForward inside big count
  | wordEnd big =>
      cases resolved
      exact onward (.steps (.wordEnd point.marks big) count _)
  | lineEnd =>
      cases resolved
      refine onward ?_
      split
      · exact .pastLineBreak _
      · exact .toLineBreak _
  | sentenceForward =>
      cases resolved
      exact onward (.steps
        (fun reader => (Onward.advance 1 reader).trans (.sentenceForward reader)) count _)
  | paragraphForward =>
      cases resolved
      exact onward (.steps
        (fun reader => (Onward.advance 1 reader).trans (.toEmptyLineBelow reader)) count _)
  | charSearch search =>
      simp only [resolve, searchCharacter] at resolved
      split at resolved
      · rename_i ran
        cases resolved
        exact CharSearch.run_forward (Option.some.inj heading) inside ran
      · cases resolved
  | _ => cases heading

/-- A motion backward does not end after the caret. -/
theorem le_caret_of_resolve (heading : motion.heading = some .backward)
    (resolved : point.resolve memory count motion = .ok found) :
    found.caret ≤ point.cursor.caret := by
  have onward {reader : Reader} (on : Onward (point.reader .backward) reader) :
      reader.offset ≤ point.cursor.caret := offset_le_caret inside on
  cases motion with
  | left =>
      cases resolved
      exact onward (.advanceInLine count _)
  | up =>
      obtain ⟨line, column, stands⟩ := Text.exists_stands inside
      rw [resolve_up stands] at resolved
      cases resolved
      exact stands.offsetAt_le (Nat.sub_le _ _)
  | wordBackward big =>
      cases resolved
      exact onward (.steps (.wordBackward point.marks big) count _)
  | lineStart =>
      cases resolved
      exact Text.lineStart_le inside
  | paragraphBackward =>
      cases resolved
      exact onward (.steps
        (fun reader => (Onward.advance 1 reader).trans (.paragraphBackward reader)) count _)
  | charSearch search =>
      simp only [resolve, searchCharacter] at resolved
      split at resolved
      · rename_i ran
        cases resolved
        exact CharSearch.run_backward (Option.some.inj heading) inside ran
      · cases resolved
  | _ => cases heading

theorem peek_forward_eq (before : point.cursor.caret < point.text.length) :
    ∃ c, (point.reader .forward).peek = some c ∧ point.text[point.cursor.caret]? = some c := by
  have peek := peek_forward (point.reads_reader .forward) rfl
  rw [offset_reader inside .forward] at peek
  have stands := List.getElem?_eq_getElem before
  exact ⟨_, peek.trans stands, stands⟩

theorem peek_backward_eq (after : 0 < point.cursor.caret) :
    ∃ c, (point.reader .backward).peek = some c := by
  have start := offset_reader inside .backward
  have peek := peek_backward (point.reads_reader .backward) rfl (by omega)
  rw [start] at peek
  exact ⟨_, peek.trans (List.getElem?_eq_getElem (by omega))⟩

/-- Words forward lead past the next character, unless a change of one word is asked for where there is
none. -/
theorem caret_lt_wordsForward (big : Bool) (before : point.cursor.caret < point.text.length)
    (solid : point.change = true → count = 0 →
      point.text.holds Unicode.isWhitespace point.cursor.caret = false) :
    point.cursor.caret < point.wordsForward big (count + 1) := by
  obtain ⟨c, next, stands⟩ := peek_forward_eq inside before
  have stepped (count : Nat) := Onward.past_steps (Onward.wordForward point.marks big)
    (Onward.past_wordForward point.marks big next) count
  have further {found : Reader} (past : Onward ((point.reader .forward).advance 1) found) :
      point.cursor.caret < found.offset := caret_lt_offset inside past before
  simp only [wordsForward]
  split
  · rename_i change
    cases count with
    | zero =>
        have alone := solid change rfl
        rw [holds_of_getElem? stands] at alone
        exact further (.past_run point.marks big next alone)
    | succ count => exact further ((stepped count).trans (.run point.marks big _))
  · exact further (stepped count)

/-- A motion forward that departs leaves the caret, unless the text ends there, or it is a change of one
word and white space is there. -/
theorem caret_lt_of_resolve (heading : motion.heading = some .forward)
    (departs : motion.departs = true) (counted : 0 < count)
    (before : point.cursor.caret < point.text.length)
    (solid : ∀ big, motion = .wordForward big → point.change = true → count = 1 →
      point.text.holds Unicode.isWhitespace point.cursor.caret = false)
    (resolved : point.resolve memory count motion = .ok found) :
    point.cursor.caret < found.caret := by
  obtain ⟨count, rfl⟩ := Nat.exists_eq_add_of_lt counted
  rw [Nat.zero_add] at resolved solid
  have further {reader : Reader} (past : Onward ((point.reader .forward).advance 1) reader) :
      point.cursor.caret < reader.offset := caret_lt_offset inside past before
  cases motion with
  | wordForward big =>
      cases resolved
      exact caret_lt_wordsForward inside big before fun change single =>
        solid big rfl change (congrArg (· + 1) single)
  | wordEnd big =>
      cases resolved
      obtain ⟨c, next, _⟩ := peek_forward_eq inside before
      exact further (.past_steps (.wordEnd point.marks big) (.past_wordEnd point.marks big next) count)
  | sentenceForward =>
      cases resolved
      exact further (.steps_succ .sentenceForward count _)
  | paragraphForward =>
      cases resolved
      exact further (.steps_succ .toEmptyLineBelow count _)
  | wordBackward _ | paragraphBackward => cases heading
  | _ => cases departs

/-- A motion backward that departs leaves the caret, unless the text starts there. -/
theorem lt_caret_of_resolve (heading : motion.heading = some .backward)
    (departs : motion.departs = true) (counted : 0 < count) (after : 0 < point.cursor.caret)
    (resolved : point.resolve memory count motion = .ok found) :
    found.caret < point.cursor.caret := by
  obtain ⟨count, rfl⟩ := Nat.exists_eq_add_of_lt counted
  rw [Nat.zero_add] at resolved
  have further {reader : Reader} (past : Onward ((point.reader .backward).advance 1) reader) :
      reader.offset < point.cursor.caret := offset_lt_caret inside past after
  cases motion with
  | wordBackward big =>
      cases resolved
      obtain ⟨c, next⟩ := peek_backward_eq inside after
      exact further
        (.past_steps (.wordBackward point.marks big) (.past_wordBackward point.marks big next) count)
  | paragraphBackward =>
      cases resolved
      exact further (.steps_succ .paragraphBackward count _)
  | wordForward _ | wordEnd _ | sentenceForward | paragraphForward => cases heading
  | _ => cases departs

end Inside

/-! ### Keys -/

/-- The keys of the motions backward.  The key `(` is not among them. -/
def backwardKeys : List Char := ['F', 'T', 'h', 'k', 'b', 'B', '0', '\x7b']

/-- The keys of the motions forward. -/
def forwardKeys : List Char := ['f', 't', '$', 'l', 'j', 'w', 'W', 'e', 'E', ')', '\x7d']

section Keys

variable {lineKey : Option Char} {key : Char} {rest : List Char} {counted : Bool}

theorem heading_of_backwardKeys (among : key ∈ backwardKeys)
    (parsed : Motion.parse lineKey ⟨key :: rest, count, counted⟩ = .ok motion) :
    motion.heading = some .backward := by
  simp only [backwardKeys, List.mem_cons, List.not_mem_nil, or_false] at among
  rcases among with rfl | rfl | among
  · cases rest <;> cases parsed
    rfl
  · cases rest <;> cases parsed
    rfl
  · rcases among with rfl | rfl | rfl | rfl | rfl | rfl <;> (cases parsed; rfl)

theorem heading_of_forwardKeys (among : key ∈ forwardKeys)
    (parsed : Motion.parse lineKey ⟨key :: rest, count, counted⟩ = .ok motion) :
    motion.heading = some .forward := by
  simp only [forwardKeys, List.mem_cons, List.not_mem_nil, or_false] at among
  rcases among with rfl | rfl | rfl | among
  · cases rest <;> cases parsed
    rfl
  · cases rest <;> cases parsed
    rfl
  · simp only [Motion.parse, KeyBuffer.next, KeyBuffer.refuseCount, bind, Except.bind] at parsed
    by_cases single : count = 1
    · rw [if_pos single] at parsed
      cases parsed
      rfl
    · rw [if_neg single] at parsed
      cases parsed
  · rcases among with rfl | rfl | rfl | rfl | rfl | rfl | rfl | rfl <;> (cases parsed; rfl)

/-- Back over sentences the caret does not stay or go forward, for any count, exactly if no two full
stops and white space are before it. -/
theorem follow_sentenceBackward_iff (inside : point.cursor.caret ≤ point.text.length)
    (memory : Option CharSearch) (lineKey : Option Char) (rest : List Char) :
    (∀ count counted found, 0 < count →
        point.follow memory lineKey ⟨'(' :: rest, count, counted⟩ = .ok found →
        found.caret ≤ point.cursor.caret - 1) ↔
      ¬ point.text.AfterStops point.cursor.caret := by
  have start := offset_reader inside .backward
  have steps := offset_steps_sentenceBackward_iff (point.reads_reader .backward) rfl
  rw [start] at steps
  rw [← steps]
  constructor
  · intro back count
    exact back (count + 1) true (point.moveTo _) (Nat.succ_pos count)
      ((follow_of_parse rfl).trans rfl)
  · intro back count counted found given followed
    rw [follow_of_parse rfl] at followed
    obtain ⟨count, rfl⟩ := Nat.exists_eq_add_of_lt given
    rw [Nat.zero_add] at followed
    cases followed
    exact back count

/-- Motions go their way.  From anywhere in the text, the motions backward do not end after the caret and
those forward not before it.  Those over words, sentences and paragraphs leave the caret, unless the text
ends there, or white space at the caret is all that there is to change.  Only the motion to the sentence
before may come back, or go further: where two full stops and white space are before the caret, and
nowhere else. -/
theorem caret_of_follow (inside : point.cursor.caret ≤ point.text.length)
    (memory : Option CharSearch) (lineKey : Option Char) (rest : List Char) :
    (∀ key count counted found,
      point.follow memory lineKey ⟨key :: rest, count, counted⟩ = .ok found →
        (key ∈ backwardKeys → found.caret ≤ point.cursor.caret) ∧
        (key ∈ forwardKeys → point.cursor.caret ≤ found.caret) ∧
        (key ∈ ['b', 'B', '\x7b'] → 0 < count → 0 < point.cursor.caret →
          found.caret < point.cursor.caret) ∧
        (key ∈ ['w', 'W', 'e', 'E', ')', '\x7d'] → 0 < count →
          point.cursor.caret < point.text.length →
          (key ∈ ['w', 'W'] → point.change = true → count = 1 →
            point.text.holds Unicode.isWhitespace point.cursor.caret = false) →
          point.cursor.caret < found.caret)) ∧
    ((∀ count counted found, 0 < count →
        point.follow memory lineKey ⟨'(' :: rest, count, counted⟩ = .ok found →
        found.caret ≤ point.cursor.caret - 1) ↔
      ¬ point.text.AfterStops point.cursor.caret) := by
  refine ⟨fun key count counted found followed => ?_, follow_sentenceBackward_iff inside ..⟩
  obtain ⟨motion, parsed, resolved⟩ := exists_motion_of_follow followed
  refine ⟨fun among => ?_, fun among => ?_, fun among given after => ?_,
    fun among given before solid => ?_⟩
  · exact le_caret_of_resolve inside (heading_of_backwardKeys among parsed) resolved
  · exact caret_le_of_resolve inside (heading_of_forwardKeys among parsed) resolved
  · simp only [List.mem_cons, List.not_mem_nil, or_false] at among
    rcases among with rfl | rfl | rfl <;>
      (cases parsed; exact lt_caret_of_resolve inside rfl rfl given after resolved)
  · simp only [List.mem_cons, List.not_mem_nil, or_false] at among solid
    rcases among with rfl | rfl | among
    · cases parsed
      exact caret_lt_of_resolve inside rfl rfl given before (fun _ _ => solid (.inl rfl)) resolved
    · cases parsed
      exact caret_lt_of_resolve inside rfl rfl given before (fun _ _ => solid (.inr rfl)) resolved
    · rcases among with rfl | rfl | rfl | rfl <;>
        (cases parsed
         exact caret_lt_of_resolve inside rfl rfl given before (fun _ other => by cases other)
          resolved)

/-- One big word back over the blank before the caret. -/
theorem caret_of_follow_over_blank :
    let point := ofCaret Unicode.isPunctuation "a. b".toList 3
    point.cursor.caret ≤ point.text.length ∧ 0 < point.cursor.caret ∧
      point.follow none none (.ofKeys ['B']) = .ok ⟨0, 3⟩ ∧ 0 < point.cursor.caret := by
  intro point
  have inside : point.cursor.caret ≤ point.text.length := by decide
  have after : 0 < point.cursor.caret := by decide
  have followed : point.follow none none (.ofKeys ['B']) = .ok ⟨0, 3⟩ := rfl
  obtain ⟨_, _, back, _⟩ := (caret_of_follow inside none none []).1 'B' 1 false ⟨0, 3⟩ followed
  exact ⟨inside, after, followed, back (by decide) Nat.one_pos after⟩

/-- Between two full stops and the next word, the motion to the sentence before goes on to that word. -/
theorem caret_lt_of_follow_sentenceBackward :
    let point := ofCaret Unicode.isPunctuation "One..  Two".toList 6
    point.text.AfterStops point.cursor.caret ∧
      ∃ found, point.follow none none (.ofKeys ['(']) = .ok found ∧
        point.cursor.caret < found.caret := by
  intro point
  have place : ((point.reader .backward).steps sentenceBackward 1).offset = 7 := by decide +kernel
  refine ⟨⟨3, rfl, rfl, by decide, by decide, by decide⟩, point.moveTo 7, ?_, by decide⟩
  rw [follow_of_parse rfl, ← place]
  rfl

end Keys

end Standpoint

end ModalVi
