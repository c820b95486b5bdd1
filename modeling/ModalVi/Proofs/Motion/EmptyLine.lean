import ModalVi.Proofs.Motion.Follow
import ModalVi.Proofs.Motion.WordSteps
import ModalVi.Proofs.Text.Line

namespace ModalVi

/-! Empty lines above and below.

A line starts behind a break or with the text, and it ends before a break or with the text; it is empty if
it does both at one place.  The motion upward goes from line start to line start and knows an empty line
by its distance from the next one.  The motion downward leaves the character at the caret before it looks
for the end of the line, so from a break it starts with the line below. -/

namespace Text

variable {text : Text} {place line : Nat}

/-! ### Empty lines -/

/-- A line starts at the place and has no characters. -/
def EmptyLineAt (text : Text) (place : Nat) : Prop := StartsLine text place ∧ EndsLine text place

instance : Decidable (EmptyLineAt text place) := inferInstanceAs (Decidable (_ ∧ _))

/-- Where empty lines start, in ascending order. -/
def emptyLines (text : Text) : List Nat :=
  (List.range (text.length + 1)).filter (EmptyLineAt text ·)

/-- The start of the nearest empty line above the line that holds a place, or of the text. -/
def emptyLineAbove (text : Text) (place : Nat) : Nat :=
  firstAfter (· > ·) text.emptyLines.reverse 0 (text.lineStart place)

/-- The start of the nearest empty line below the line that holds a place, or the end of the text. -/
def emptyLineBelow (text : Text) (place : Nat) : Nat :=
  firstAfter (· < ·) text.emptyLines text.length (text.lineEnd place)

theorem mem_emptyLines : line ∈ text.emptyLines ↔ EmptyLineAt text line := by
  rw [emptyLines, List.mem_filter, List.mem_range, decide_eq_true_iff]
  exact and_iff_right_of_imp fun empty => Nat.lt_succ_of_le empty.1.inside

theorem mem_reverse_emptyLines : line ∈ text.emptyLines.reverse ↔ EmptyLineAt text line :=
  List.mem_reverse.trans mem_emptyLines

theorem sorted_emptyLines (text : Text) : text.emptyLines.Pairwise (· < ·) :=
  List.pairwise_lt_range.filter _

theorem sorted_reverse_emptyLines (text : Text) : text.emptyLines.reverse.Pairwise (· > ·) :=
  List.pairwise_reverse.mpr text.sorted_emptyLines

theorem isGreatest_emptyLineAbove (text : Text) (place : Nat) :
    IsGreatest {line | line < text.lineStart place ∧ EmptyLineAt text line}
        (text.emptyLineAbove place) ∨
      text.emptyLineAbove place = 0 ∧
        ∀ line < text.lineStart place, ¬ EmptyLineAt text line := by
  rcases firstAfter_nearest text.sorted_reverse_emptyLines 0 (text.lineStart place) with
    ⟨member, above, nearest⟩ | ⟨first, none⟩
  · refine .inl ⟨⟨above, mem_reverse_emptyLines.mp member⟩, fun line ⟨before, empty⟩ => ?_⟩
    exact Nat.le_of_not_lt (nearest line (mem_reverse_emptyLines.mpr empty) before)
  · exact .inr ⟨first, fun line before empty =>
      none line (mem_reverse_emptyLines.mpr empty) before⟩

theorem isLeast_emptyLineBelow (text : Text) (place : Nat) :
    IsLeast {line | text.lineEnd place < line ∧ EmptyLineAt text line}
        (text.emptyLineBelow place) ∨
      text.emptyLineBelow place = text.length ∧
        ∀ line, text.lineEnd place < line → ¬ EmptyLineAt text line := by
  rcases firstAfter_nearest text.sorted_emptyLines text.length (text.lineEnd place) with
    ⟨member, below, nearest⟩ | ⟨last, none⟩
  · refine .inl ⟨⟨below, mem_emptyLines.mp member⟩, fun line ⟨after, empty⟩ => ?_⟩
    exact Nat.le_of_not_lt (nearest line (mem_emptyLines.mpr empty) after)
  · exact .inr ⟨last, fun line after empty => none line (mem_emptyLines.mpr empty) after⟩

/-! ### From one line start to the one above -/

section Above

variable {start above : Nat} (starts : StartsLine text start)
  (goesUp : text.lineStart (start - 1) = above)
include starts goesUp

theorem lineStart_above : above ≤ start - 1 ∧ StartsLine text above := by
  have inside := starts.inside
  rw [← goesUp]
  exact (isGreatest_lineStart (by omega)).1

/-- No empty line starts between the line above and a line start. -/
theorem le_of_emptyLineAt (before : line < start) (empty : EmptyLineAt text line) :
    line ≤ above := by
  have inside := starts.inside
  rw [← goesUp]
  exact (isGreatest_lineStart (by omega)).2 ⟨by omega, empty.1⟩

/-- The line above is empty exactly if nothing but its break is before the line start. -/
theorem emptyLineAt_above_iff (after : 0 < start) : EmptyLineAt text above ↔ above + 1 = start := by
  obtain ⟨ordered, startsAbove⟩ := lineStart_above starts goesUp
  constructor
  · intro empty
    by_contra apart
    have inside := starts.inside
    have same := sameLine_lineStart (show start - 1 ≤ text.length by omega)
    rw [goesUp] at same
    rcases empty.2 with last | broken
    · omega
    · exact same.getElem?_ne (Nat.le_refl above) (by omega) broken
  · intro adjacent
    refine ⟨startsAbove, .inr ?_⟩
    rcases starts with first | broken
    · omega
    · rwa [show above = start - 1 by omega]

end Above

/-! ### From one place to the next -/

theorem emptyLineBelow_lineEnd (inside : place ≤ text.length) :
    text.emptyLineBelow (text.lineEnd place) = text.emptyLineBelow place := by
  rw [emptyLineBelow, lineEnd_of_ends (isLeast_lineEnd inside).1.2, emptyLineBelow]

theorem emptyLineBelow_of_last (last : text.length ≤ text.lineEnd place + 1) :
    text.emptyLineBelow place = text.length := by
  rcases firstAfter_mem (· < ·) text.emptyLines text.length (text.lineEnd place) with
    ⟨member, after⟩ | atEnd
  · have inside := (mem_emptyLines.mp member).1.inside
    rw [emptyLineBelow]
    omega
  · exact atEnd

/-- Between two breaks an empty line starts, and it is the nearest below from the first of them. -/
theorem emptyLineBelow_of_breaks (first : text[place]? = some '\n')
    (second : text[place + 1]? = some '\n') : text.emptyLineBelow place = place + 1 := by
  have empty : EmptyLineAt text (place + 1) := ⟨.inr first, .inr second⟩
  have ended := lineEnd_of_ends (.inr first)
  exact firstAfter_eq text.sorted_emptyLines (mem_emptyLines.mpr empty) (by omega)
    fun other _ after => by omega

theorem lt_emptyLineBelow (before : place < text.length) : place < text.emptyLineBelow place := by
  have further := text.le_lineEnd place
  rcases firstAfter_mem (· < ·) text.emptyLines text.length (text.lineEnd place) with
    ⟨_, after⟩ | atEnd
  · exact Nat.lt_of_le_of_lt further after
  · exact before.trans_eq atEnd.symm

theorem emptyLineBelow_succ
    (apart : ¬ (text[place]? = some '\n' ∧ text[place + 1]? = some '\n')) :
    text.emptyLineBelow (place + 1) = text.emptyLineBelow place := by
  by_cases last : text.length ≤ place + 1
  · have further := text.le_lineEnd place
    have furtherNext := text.le_lineEnd (place + 1)
    rw [emptyLineBelow_of_last (by omega), emptyLineBelow_of_last (by omega)]
  · by_cases broken : text[place]? = some '\n'
    · have next : text[place + 1]? ≠ some '\n' := fun also => apart ⟨broken, also⟩
      have ended := lineEnd_of_ends (.inr broken)
      have further := text.le_lineEnd (place + 1)
      refine firstAfter_congr fun line member => ⟨fun after => by omega, fun after => ?_⟩
      obtain ⟨starts, ends⟩ := mem_emptyLines.mp member
      -- The line that starts right behind the break has a character.
      have notNext : line ≠ place + 1 := by
        rintro rfl
        exact ends.elim (by omega) next
      have before : EndsLine text (line - 1) := .inr (starts.resolve_left (by omega))
      have bound := (isLeast_lineEnd (show place + 1 ≤ text.length by omega)).2
        ⟨by omega, before⟩
      omega
    · rw [emptyLineBelow, emptyLineBelow, lineEnd_succ (by omega) broken]

theorem emptyLineBelow_succ_iff :
    text.emptyLineBelow (place + 1) = text.emptyLineBelow place ↔
      ¬ (text[place]? = some '\n' ∧ text[place + 1]? = some '\n') := by
  refine ⟨fun same ⟨first, second⟩ => ?_, emptyLineBelow_succ⟩
  have inside := (List.getElem?_eq_some_iff.mp second).1
  have further := lt_emptyLineBelow inside
  rw [same, emptyLineBelow_of_breaks first second] at further
  exact absurd further (Nat.lt_irrefl _)

end Text

open Reader Text

namespace Reader

variable {text : Text} {reader : Reader}

/-! ### Upward -/

/-- One round of the search upward: over the break before the reader, and to the start of that line. -/
def lineUp (reader : Reader) : Reader := (reader.advance 1).toLineBreak

/-- The search upward ends with the round from `reader`: the text starts there, or only a break was
read. -/
def EndsAbove (reader : Reader) : Prop :=
  reader.lineUp.ahead = [] ∨ reader.lineUp.offset + 1 = reader.offset

/-- The search upward is round after round until one ends it, which happens after no more rounds than
there are characters to read. -/
theorem exists_rounds_toEmptyLineAbove (reader : Reader) :
    ∃ rounds ≤ reader.ahead.length,
      (∀ earlier < rounds, ¬ EndsAbove (lineUp^[earlier] reader)) ∧
        EndsAbove (lineUp^[rounds] reader) ∧
        reader.toEmptyLineAbove = lineUp^[rounds + 1] reader := by
  induction reader using toEmptyLineAbove.induct with
  | case1 reader above stops =>
      refine ⟨0, Nat.zero_le _, fun _ before => absurd before (Nat.not_lt_zero _), stops, ?_⟩
      rw [toEmptyLineAbove, dif_pos stops]
      rfl
  | case2 reader above goesOn ih =>
      obtain ⟨rounds, bound, before, ends, found⟩ := ih
      have shorter := length_ahead_lt_of_advance (not_or.mp goesOn).1
      refine ⟨rounds + 1, Nat.le_trans (Nat.succ_le_succ bound) shorter, ?_, ends, ?_⟩
      · rintro (_ | earlier) within
        · exact goesOn
        · exact before earlier (Nat.lt_of_succ_lt_succ within)
      · rw [toEmptyLineAbove, dif_neg goesOn]
        exact found

theorem offset_lineUp (reads : Reads text reader) (backward : reader.direction = .backward) :
    reader.lineUp.offset = text.lineStart (reader.offset - 1) := by
  rw [lineUp, offset_toLineBreak_backward (reads.advance 1) backward,
    offset_advance_back reads backward]

/-- From a line start, the search upward ends at the nearest empty line. -/
theorem offset_toEmptyLineAbove (reads : Reads text reader)
    (backward : reader.direction = .backward) (starts : StartsLine text reader.offset) :
    reader.toEmptyLineAbove.offset =
      firstAfter (· > ·) text.emptyLines.reverse 0 reader.offset := by
  induction reader using toEmptyLineAbove.induct with
  | case1 reader above stops =>
      have up : above.offset = text.lineStart (reader.offset - 1) := offset_lineUp reads backward
      have ahead : above.ahead.length = above.offset :=
        length_ahead_backward (reads.advance 1).toLineBreak backward
      rw [toEmptyLineAbove, dif_pos stops]
      change above.offset = _
      rcases stops with nothing | adjacent
      · -- The text starts here, so no empty line is further up.
        rw [nothing, List.length_nil] at ahead
        rcases firstAfter_mem (· > ·) text.emptyLines.reverse 0 reader.offset with
          ⟨member, before⟩ | first
        · have further := le_of_emptyLineAt starts up.symm before (mem_reverse_emptyLines.mp member)
          omega
        · rw [first, ← ahead]
      · have empty := (emptyLineAt_above_iff starts up.symm (by omega)).mpr adjacent
        exact (firstAfter_eq text.sorted_reverse_emptyLines (mem_reverse_emptyLines.mpr empty)
          (by omega) (fun other _ before => by omega)).symm
  | case2 reader above goesOn ih =>
      -- The line above is not empty, so its start has the same empty lines before it as the reader.
      obtain ⟨given, apart⟩ := not_or.mp goesOn
      have up : above.offset = text.lineStart (reader.offset - 1) := offset_lineUp reads backward
      have ahead : above.ahead.length = above.offset :=
        length_ahead_backward (reads.advance 1).toLineBreak backward
      have notFirst := List.length_pos_iff.mpr given
      obtain ⟨ordered, startsAbove⟩ := lineStart_above starts up.symm
      have full := (emptyLineAt_above_iff starts up.symm (by omega)).not.mpr apart
      rw [toEmptyLineAbove, dif_neg goesOn]
      refine (ih (reads.advance 1).toLineBreak backward startsAbove).trans
        (firstAfter_congr fun line member => ⟨fun before => ?_, fun before => ?_⟩)
      · omega
      · have empty := mem_reverse_emptyLines.mp member
        have bound := le_of_emptyLineAt starts up.symm before empty
        exact Nat.lt_of_le_of_ne bound fun same => full (same ▸ empty)

theorem walks_paragraphBackward (text : Text) :
    Walks text .backward (fun reader => reader.toLineBreak.toEmptyLineAbove)
      text.emptyLineAbove where
  reads reads _ := reads.toLineBreak.toEmptyLineAbove
  facing _ facing := (Onward.toEmptyLineAbove _).direction_eq.trans facing
  offset {reader} reads facing := by
    have start := offset_toLineBreak_backward reads facing
    have starts := (isGreatest_lineStart reads.offset_le).1.2
    rw [← start] at starts
    rw [offset_toEmptyLineAbove reads.toLineBreak facing starts, start, emptyLineAbove]

/-! ### Downward -/

/-- One round of the search downward: over the next character, and past the end of the line then. -/
theorem offset_lineDown (reads : Reads text reader) (forward : reader.direction = .forward) :
    (reader.advance 1).pastLineBreak.offset =
      min (text.lineEnd (reader.offset + 1) + 1) text.length := by
  have inside := reads.offset_le
  have left := offset_advance_forward forward 1
  have after := nextLineStart_eq (reads.advance 1).offset_le
  rw [length_ahead_forward reads forward] at left
  rw [offset_pastLineBreak (reads.advance 1) forward, after, lineEnd]
  rcases Nat.eq_or_lt_of_le inside with last | before
  · omega
  · rw [show (reader.advance 1).offset = reader.offset + 1 by omega]
    omega

/-- From any place, the search downward ends at the nearest empty line below the next place. -/
theorem offset_toEmptyLineBelow (reads : Reads text reader)
    (forward : reader.direction = .forward) :
    reader.toEmptyLineBelow.offset = text.emptyLineBelow (reader.offset + 1) := by
  induction reader using toEmptyLineBelow.induct with
  | case1 reader below stops =>
      have readsBelow : Reads text below := (reads.advance 1).pastLineBreak
      have down : below.offset = _ := offset_lineDown reads forward
      rw [toEmptyLineBelow, dif_pos stops]
      change below.offset = _
      by_cases last : text.length ≤ text.lineEnd (reader.offset + 1) + 1
      · rw [emptyLineBelow_of_last last, down, Nat.min_eq_right last]
      · have ended : below.offset = text.lineEnd (reader.offset + 1) + 1 := by omega
        have second : text[below.offset]? = some '\n' := by
          rw [← peek_forward readsBelow forward]
          refine stops.resolve_left fun nothing => ?_
          have ahead := length_ahead_forward readsBelow forward
          rw [nothing, List.length_nil] at ahead
          omega
        have further := text.le_lineEnd (reader.offset + 1)
        rw [ended] at second ⊢
        rw [← emptyLineBelow_lineEnd (by omega),
          emptyLineBelow_of_breaks (getElem?_lineEnd (by omega)) second]
  | case2 reader below goesOn ih =>
      -- The reader is behind a break, at a character that is none: neither is right before two breaks.
      obtain ⟨given, other⟩ := not_or.mp goesOn
      have readsBelow : Reads text below := (reads.advance 1).pastLineBreak
      have down : below.offset = _ := offset_lineDown reads forward
      have ahead := length_ahead_forward readsBelow forward
      have more := List.length_pos_iff.mpr given
      have ended : below.offset = text.lineEnd (reader.offset + 1) + 1 := by omega
      have further := text.le_lineEnd (reader.offset + 1)
      rw [peek_forward readsBelow forward] at other
      rw [toEmptyLineBelow, dif_neg goesOn]
      calc below.toEmptyLineBelow.offset
          = text.emptyLineBelow (below.offset + 1) := ih readsBelow forward
        _ = text.emptyLineBelow below.offset := emptyLineBelow_succ fun both => other both.1
        _ = text.emptyLineBelow (text.lineEnd (reader.offset + 1)) := by
            rw [ended] at other ⊢
            exact emptyLineBelow_succ fun both => other both.2
        _ = text.emptyLineBelow (reader.offset + 1) := emptyLineBelow_lineEnd (by omega)

theorem walks_paragraphForward (text : Text) :
    Walks text .forward toEmptyLineBelow (fun place => text.emptyLineBelow (place + 1)) where
  reads reads _ := reads.toEmptyLineBelow
  facing _ facing := (Onward.toEmptyLineBelow _).direction_eq.trans facing
  offset := offset_toEmptyLineBelow

end Reader

/-! ### Where the keys lead -/

namespace Standpoint

/-- `{` goes to the nearest empty line above the line of the caret, as often as the count says.  That is
the greatest place before the start of the line at which an empty line starts, or the start of the text if
there is none.  The search for it ends. -/
theorem follow_paragraphBackward (point : Standpoint) (memory : Option CharSearch)
    (lineKey : Option Char) (rest : List Char) (count : Nat) (counted : Bool) :
    let text := point.text
    point.follow memory lineKey ⟨'\x7b' :: rest, count, counted⟩ =
        .ok (point.moveTo (text.emptyLineAbove^[count] (min point.cursor.caret text.length))) ∧
      (∀ place,
        IsGreatest {line | line < text.lineStart place ∧ EmptyLineAt text line}
            (text.emptyLineAbove place) ∨
          text.emptyLineAbove place = 0 ∧
            ∀ line < text.lineStart place, ¬ EmptyLineAt text line) ∧
      ∀ reader : Reader, ∃ rounds ≤ reader.ahead.length,
        (∀ earlier < rounds, ¬ EndsAbove (lineUp^[earlier] reader)) ∧
          EndsAbove (lineUp^[rounds] reader) ∧
          reader.toEmptyLineAbove = lineUp^[rounds + 1] reader := by
  intro text
  refine ⟨?_, isGreatest_emptyLineAbove text, exists_rounds_toEmptyLineAbove⟩
  have reached := (walks_paragraphBackward text).offset_steps (point.reads_reader .backward) rfl count
  have parsed : Motion.parse lineKey ⟨'\x7b' :: rest, count, counted⟩ = .ok .paragraphBackward := rfl
  rw [follow_of_parse parsed, resolve]
  exact congrArg (fun offset => Except.ok (point.moveTo offset)) reached

-- The two empty lines of the text start at 4 and at 9.
example :
    (ofCaret Unicode.isPunctuation "a\nb\n\nc\nd\n\ne".toList 10).follow none none ⟨['\x7b'], 2, true⟩ =
      .ok ⟨4, 10⟩ := by
  decide +kernel

/-- `}` goes to the nearest empty line below the line of the place after the caret, as often as the
count says.  From all places but those right before two breaks, that is the nearest empty line below the
line of the caret: the least place after the end of the line at which an empty line starts, or the end of
the text if there is none. -/
theorem follow_paragraphForward (point : Standpoint) (memory : Option CharSearch)
    (lineKey : Option Char) (rest : List Char) (count : Nat) (counted : Bool) :
    let text := point.text
    point.follow memory lineKey ⟨'\x7d' :: rest, count, counted⟩ =
        .ok (point.moveTo ((fun place => text.emptyLineBelow (place + 1))^[count]
          (min point.cursor.caret text.length))) ∧
      (∀ place,
        IsLeast {line | text.lineEnd place < line ∧ EmptyLineAt text line}
            (text.emptyLineBelow place) ∨
          text.emptyLineBelow place = text.length ∧
            ∀ line, text.lineEnd place < line → ¬ EmptyLineAt text line) ∧
      ∀ place, text.emptyLineBelow (place + 1) = text.emptyLineBelow place ↔
        ¬ (text[place]? = some '\n' ∧ text[place + 1]? = some '\n') := by
  intro text
  refine ⟨?_, isLeast_emptyLineBelow text, fun place => emptyLineBelow_succ_iff⟩
  have reached := (walks_paragraphForward text).offset_steps (point.reads_reader .forward) rfl count
  have parsed : Motion.parse lineKey ⟨'\x7d' :: rest, count, counted⟩ = .ok .paragraphForward := rfl
  rw [follow_of_parse parsed, resolve]
  exact congrArg (fun offset => Except.ok (point.moveTo offset)) reached

/-- From the break before an empty line, the search downward passes that line. -/
theorem follow_paragraphForward_of_break :
    let text := "a\n\nb".toList
    (ofCaret Unicode.isPunctuation text 1).follow none none (.ofKeys ['\x7d']) = .ok ⟨4, 1⟩ ∧
      Text.lineEnd text 1 < 2 ∧
      EmptyLineAt text 2 := by
  decide +kernel

end Standpoint

end ModalVi
