import ModalVi.Proofs.Motion.Object

namespace ModalVi

/-! Inner words.

An inner word is looked for from the caret to both sides, and each side chooses its kind of characters
alone.  Backward that is always the word characters before the caret; forward it is word characters, or
punctuation if there are none.  So the two sides are of one kind unless a word ends at the caret and
punctuation begins there. -/

open Reader Text

namespace Text

variable {text : Text} {marks accept : Char → Bool} {start caret stop : Nat}

instance : Decidable (Accepts accept text start stop) :=
  decidable_of_iff
    (start ≤ stop ∧ ∀ index < stop, start ≤ index → text.holds accept index = true)
    ⟨fun ⟨ordered, each⟩ => ⟨ordered, each⟩, fun accepts => ⟨accepts.ordered, accepts.each⟩⟩

/-- The characters from `start` up to `stop` are all word characters, or all punctuation, or all white
space. -/
def OfOneKind (marks : Char → Bool) (text : Text) (start stop : Nat) : Prop :=
  ∃ kind ∈ [isWordPart marks, isPunctuation marks, Unicode.isWhitespace], Accepts kind text start stop

instance : Decidable (OfOneKind marks text start stop) :=
  inferInstanceAs (Decidable (∃ kind ∈ _, Accepts kind text start stop))

theorem Accepts.append (first : Accepts accept text start caret)
    (second : Accepts accept text caret stop) : Accepts accept text start stop where
  ordered := Nat.le_trans first.ordered second.ordered
  each index before after :=
    if within : index < caret then first.each index within after
    else second.each index before (Nat.le_of_not_lt within)

/-- What the inner word at the caret is: all word characters right before the caret, and the rest of the
word or of the punctuation that goes on from there. -/
structure InnerWord (marks : Char → Bool) (text : Text) (caret start stop : Nat) : Prop where
  front : Accepts (isWordPart marks) text start caret
  longest : start ≠ 0 → text.holds (isWordPart marks) (start - 1) = false
  back : PassesToken (wordKinds marks false) text caret stop

/-- A word ends at the caret, and punctuation begins there. -/
def WordMeetsPunctuation (marks : Char → Bool) (text : Text) (caret : Nat) : Prop :=
  caret ≠ 0 ∧ text.holds (isWordPart marks) (caret - 1) = true ∧
    text.holds (isPunctuation marks) caret = true

instance : Decidable (WordMeetsPunctuation marks text caret) :=
  inferInstanceAs (Decidable (_ ∧ _ ∧ _))

theorem not_ofOneKind {first second : Nat} (word : text.holds (isWordPart marks) first = true)
    (mark : text.holds (isPunctuation marks) second = true) (firstIn : start ≤ first ∧ first < stop)
    (secondIn : start ≤ second ∧ second < stop) : ¬ OfOneKind marks text start stop := by
  rintro ⟨kind, member, accepts⟩
  obtain ⟨c, firstAt, part⟩ := exists_of_holds word
  obtain ⟨d, secondAt, punctuation⟩ := exists_of_holds mark
  have firstHeld := accepts.each first firstIn.2 firstIn.1
  have secondHeld := accepts.each second secondIn.2 secondIn.1
  rw [holds_of_getElem? firstAt] at firstHeld
  rw [holds_of_getElem? secondAt] at secondHeld
  obtain ⟨solid, unmarked⟩ := solid_of_isWordPart part
  simp only [List.mem_cons, List.not_mem_nil, or_false] at member
  rcases member with rfl | rfl | rfl
  · rw [(solid_of_isWordPart secondHeld).2] at punctuation
    cases punctuation
  · rw [unmarked] at firstHeld
    cases firstHeld
  · rw [solid] at firstHeld
    cases firstHeld

theorem InnerWord.caret_le (inner : InnerWord marks text caret start stop) : caret ≤ stop := by
  cases inner.back with
  | none => exact Nat.le_refl caret
  | rest _ moved => exact Nat.le_of_lt moved

theorem InnerWord.ofOneKind_iff (inner : InnerWord marks text caret start stop) :
    OfOneKind marks text start stop ↔ ¬ WordMeetsPunctuation marks text caret := by
  obtain ⟨front, longest, back⟩ := inner
  have ordered := front.ordered
  cases back with
  | none nowhere =>
      refine iff_of_true ⟨isWordPart marks, .head _, front⟩ fun ⟨_, _, mark⟩ => ?_
      rw [nowhere (isPunctuation marks) (.tail _ (.head _))] at mark
      cases mark
  | rest member moved run =>
      have held := run.each caret moved (Nat.le_refl caret)
      rcases mem_wordKinds member with rfl | rfl
      · refine iff_of_true ⟨isWordPart marks, .head _, front.append run⟩ fun ⟨_, _, mark⟩ => ?_
        obtain ⟨c, known, part⟩ := exists_of_holds held
        rw [holds_of_getElem? known, (solid_of_isWordPart part).2] at mark
        cases mark
      -- Punctuation begins at the caret.  Either no word character is right before it, or a word ends there.
      · rcases Nat.eq_or_lt_of_le ordered with rfl | word
        · refine iff_of_true ⟨isPunctuation marks, .tail _ (.head _), run⟩ fun ⟨notFirst, word, _⟩ => ?_
          rw [longest notFirst] at word
          cases word
        · have last := front.each (caret - 1) (by omega) (by omega)
          exact iff_of_false (not_ofOneKind last held (by omega) (by omega))
            (not_not_intro ⟨by omega, last, held⟩)

end Text

theorem TextObject.innerWord_of_select (marks : Char → Bool) {text : Text} {caret : Nat}
    (inside : caret ≤ text.length) :
    ∃ extent, TextObject.word.select marks false 1 (.atOffset text caret) = .ok extent ∧
      InnerWord marks text caret extent.start.offset extent.stop.offset := by
  obtain ⟨front, longest⟩ :=
    accepts_skipWhile_backward (reads_backward text caret) rfl (isWordPart marks)
  obtain ⟨_, _, back⟩ := (skipsToken_skipWordRun text).forward (reads_forward text caret) rfl
  rw [offset_backward, Nat.min_eq_left inside] at front
  rw [offset_forward, Nat.min_eq_left inside] at back
  exact ⟨_, rfl, front, longest, back⟩

namespace Standpoint

variable {point : Standpoint} {extent : TextObject.Extent} {caret : Nat}

/-- Where nothing is selected, an object around the caret is selected from end to end. -/
theorem expand_of_collapsed (alone : point.cursor = .collapsed caret)
    (start : extent.start.offset ≤ caret) (stop : caret ≤ extent.stop.offset) :
    point.expand extent = ⟨extent.stop.offset, extent.start.offset⟩ := by
  have anchor : point.cursor.anchor = caret := congrArg Cursor.anchor alone
  rw [expand, if_pos (Nat.le_trans start stop), anchor, Nat.min_eq_right start]

/-- From a caret with nothing selected, `iw` selects the inner word at the caret.  It is of one kind of
characters in all cases but one: a word ends at the caret, and punctuation begins there. -/
theorem ofOneKind_of_follow_word (inside : caret ≤ point.text.length)
    (alone : point.cursor = .collapsed caret) (memory : Option CharSearch) (lineKey : Option Char)
    (rest : List Char) (counted : Bool) :
    ∃ start stop,
      point.follow memory lineKey ⟨'i' :: 'w' :: rest, 1, counted⟩ = .ok ⟨stop, start⟩ ∧
      InnerWord point.marks point.text caret start stop ∧
      (OfOneKind point.marks point.text start stop ↔
        ¬ WordMeetsPunctuation point.marks point.text caret) := by
  obtain ⟨extent, selected, inner⟩ := TextObject.innerWord_of_select point.marks inside
  have caretAt : point.cursor.caret = caret := congrArg Cursor.caret alone
  have expanded := expand_of_collapsed alone inner.front.ordered inner.caret_le
  refine ⟨extent.start.offset, extent.stop.offset, ?_, inner, inner.ofOneKind_iff⟩
  have parsed : Motion.parse lineKey ⟨'i' :: 'w' :: rest, 1, counted⟩ =
      .ok (.object false .word) := rfl
  rw [follow_of_parse parsed, resolve, caretAt, selected]
  exact congrArg Except.ok expanded

/-- Among full stops right after a word, the inner word is those after the caret. -/
theorem ofOneKind_of_follow_word_among_stops :
    let point := ofCaret Unicode.isPunctuation "ab...".toList 3
    3 ≤ point.text.length ∧ point.cursor = .collapsed 3 ∧
      point.follow none none (.ofKeys ['i', 'w']) = .ok ⟨5, 3⟩ ∧
        OfOneKind point.marks point.text 3 5 := by
  intro point
  have inside : 3 ≤ point.text.length := by decide
  obtain ⟨start, stop, followed, _, kind⟩ :=
    ofOneKind_of_follow_word inside rfl none none [] false
  have known : point.follow none none (.ofKeys ['i', 'w']) = .ok ⟨5, 3⟩ := by decide +kernel
  have apart : ¬ WordMeetsPunctuation point.marks point.text 3 := by decide +kernel
  cases known.symm.trans followed
  exact ⟨inside, rfl, known, kind.mpr apart⟩

/-- Between a word and the full stop after it, both are selected. -/
theorem not_ofOneKind_of_follow_word :
    let point := ofCaret Unicode.isPunctuation "foo.".toList 3
    point.cursor = .collapsed 3 ∧ point.follow none none (.ofKeys ['i', 'w']) = .ok ⟨4, 0⟩ ∧
      ¬ OfOneKind point.marks point.text 0 4 := by
  intro point
  exact ⟨rfl, by decide +kernel, by decide +kernel⟩

end Standpoint

end ModalVi
