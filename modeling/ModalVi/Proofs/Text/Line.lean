import Mathlib.Order.Bounds.Defs
import ModalVi.Proofs.Text.Onward

namespace ModalVi.Text

/-! Lines of a text.

Two places are in the same line if no line break is between them.  Such places have the same line start,
and the same line comes after them. -/

variable {text : Text} {offset start stop : Nat}

/-- No line break is between the two places, of which `start` is the first. -/
structure SameLine (text : Text) (start stop : Nat) : Prop where
  ordered : start ≤ stop
  bounded : stop ≤ text.length
  unbroken : ∀ c ∈ text.slice start stop, c ≠ '\n'

/-- The number of characters between a place and the end of its line. -/
def restOfLine (text : Text) (offset : Nat) : Nat :=
  ((text.drop offset).takeWhile (· != '\n')).length

theorem lineStart_eq (inside : offset ≤ text.length) :
    text.lineStart offset = offset - ((text.take offset).reverse.takeWhile (· != '\n')).length := by
  have within := (List.takeWhile_sublist (· != '\n') (l := (text.take offset).reverse)).length_le
  simp only [lineStart, Reader.backward, Reader.facing, Reader.toLineBreak, Reader.lineAhead,
    Reader.offset, Reader.advance, List.length_take]
  omega

theorem nextLineStart_eq (inside : offset ≤ text.length) :
    text.nextLineStart offset = offset + min (text.restOfLine offset + 1) (text.length - offset) := by
  simp only [nextLineStart, Reader.forward, Reader.facing, Reader.pastLineBreak, Reader.lineAhead,
    Reader.offset, Reader.advance, List.length_take, List.length_drop, restOfLine]
  omega

theorem restOfLine_le (text : Text) (offset : Nat) :
    text.restOfLine offset ≤ text.length - offset := by
  have within := (List.takeWhile_sublist (· != '\n') (l := text.drop offset)).length_le
  rw [List.length_drop] at within
  exact within

theorem le_nextLineStart (inside : offset ≤ text.length) : offset ≤ text.nextLineStart offset := by
  rw [nextLineStart_eq inside]
  omega

theorem nextLineStart_le (inside : offset ≤ text.length) :
    text.nextLineStart offset ≤ text.length := by
  rw [nextLineStart_eq inside]
  omega

theorem nextLineStart_length (text : Text) : text.nextLineStart text.length = text.length := by
  rw [nextLineStart_eq (Nat.le_refl _)]
  omega

theorem le_iterate_nextLineStart (inside : offset ≤ text.length) (count : Nat) :
    offset ≤ text.nextLineStart^[count] offset := by
  induction count generalizing offset with
  | zero => exact Nat.le_refl _
  | succ count ih =>
      rw [Function.iterate_succ_apply]
      exact Nat.le_trans (le_nextLineStart inside) (ih (nextLineStart_le inside))

theorem drop_eq_slice_append (ordered : start ≤ stop) :
    text.drop start = text.slice start stop ++ text.drop stop := by
  have later : text.drop stop = (text.drop start).drop (stop - start) := by
    rw [List.drop_drop]
    congr 1
    omega
  rw [later]
  exact (List.take_append_drop _ _).symm

theorem take_eq_append_slice (ordered : start ≤ stop) :
    text.take stop = text.take start ++ text.slice start stop := by
  rw [slice, ← List.take_add]
  congr 1
  omega

namespace SameLine

theorem length_slice (same : SameLine text start stop) :
    (text.slice start stop).length = stop - start :=
  Text.length_slice same.ordered same.bounded

theorem restOfLine (same : SameLine text start stop) :
    text.restOfLine start = stop - start + text.restOfLine stop := by
  have accepted : ∀ c ∈ text.slice start stop, (c != '\n') = true := by
    intro c member
    simpa using same.unbroken c member
  rw [Text.restOfLine, drop_eq_slice_append same.ordered, List.takeWhile_append_of_pos accepted,
    List.length_append, same.length_slice, Text.restOfLine]

theorem nextLineStart (same : SameLine text start stop) :
    text.nextLineStart start = text.nextLineStart stop := by
  have ordered := same.ordered
  have bounded := same.bounded
  rw [nextLineStart_eq (Nat.le_trans ordered bounded), nextLineStart_eq bounded, same.restOfLine]
  omega

theorem lineStart (same : SameLine text start stop) :
    text.lineStart start = text.lineStart stop := by
  have ordered := same.ordered
  have bounded := same.bounded
  have accepted : ∀ c ∈ (text.slice start stop).reverse, (c != '\n') = true := by
    intro c member
    simpa using same.unbroken c (List.mem_reverse.mp member)
  rw [lineStart_eq (Nat.le_trans ordered bounded), lineStart_eq bounded,
    take_eq_append_slice ordered, List.reverse_append, List.takeWhile_append_of_pos accepted,
    List.length_append, List.length_reverse, same.length_slice]
  omega

end SameLine

/-! ### Places of one line -/

theorem sameLine_lineStart (inside : offset ≤ text.length) :
    SameLine text (text.lineStart offset) offset := by
  have start := lineStart_eq inside
  have run := List.prefix_iff_eq_take.mp
    (List.takeWhile_prefix (· != '\n') (l := (text.take offset).reverse))
  have all := List.all_takeWhile (p := (· != '\n')) (l := (text.take offset).reverse)
  generalize (text.take offset).reverse.takeWhile (· != '\n') = held at start run all
  have within : held.length ≤ offset := by
    have shorter := congrArg List.length run
    rw [List.length_take, List.length_reverse, List.length_take] at shorter
    omega
  refine ⟨by omega, inside, fun c member => ?_⟩
  have slice : text.slice (text.lineStart offset) offset = held.reverse := by
    rw [run, List.take_reverse, List.reverse_reverse, List.length_take, Nat.min_eq_left inside,
      start, Text.slice, List.drop_take]
  rw [slice, List.mem_reverse] at member
  simpa using List.all_eq_true.mp all c member

/-- A run of characters none of which is a break stays in one line. -/
theorem sameLine_takeWhile {accept : Char → Bool} {count : Nat} (refuses : accept '\n' = false)
    (inside : offset ≤ text.length)
    (within : count ≤ ((text.drop offset).takeWhile accept).length) :
    SameLine text offset (offset + count) := by
  have run := List.prefix_iff_eq_take.mp (List.takeWhile_prefix accept (l := text.drop offset))
  have all := List.all_takeWhile (p := accept) (l := text.drop offset)
  have shorter := (List.takeWhile_sublist accept (l := text.drop offset)).length_le
  rw [List.length_drop] at shorter
  generalize (text.drop offset).takeWhile accept = held at within run all shorter
  refine ⟨by omega, by omega, fun c member => ?_⟩
  have slice : text.slice offset (offset + count) = held.take count := by
    rw [run, List.take_take, Nat.min_eq_left within, Text.slice, Nat.add_sub_cancel_left]
  rw [slice] at member
  rintro rfl
  have accepted := List.all_eq_true.mp all _ (List.mem_of_mem_take member)
  rw [refuses] at accepted
  cases accepted

theorem sameLine_skipWhile {accept : Char → Bool} (refuses : accept '\n' = false)
    (inside : start ≤ text.length) :
    SameLine text start ((Reader.forward text start).skipWhile accept).offset := by
  rw [Reader.offset_skipWhile_from inside]
  exact sameLine_takeWhile refuses inside (Nat.le_refl _)

theorem sameLine_add {count : Nat} (inside : offset ≤ text.length)
    (within : count ≤ text.restOfLine offset) : SameLine text offset (offset + count) :=
  sameLine_takeWhile rfl inside within

theorem lineStart_lineStart (inside : offset ≤ text.length) :
    text.lineStart (text.lineStart offset) = text.lineStart offset :=
  (sameLine_lineStart inside).lineStart

theorem lineStart_le (inside : offset ≤ text.length) : text.lineStart offset ≤ offset :=
  (sameLine_lineStart inside).ordered

/-- There is no break within a line. -/
theorem SameLine.getElem?_ne {index : Nat} (same : SameLine text start stop) (after : start ≤ index)
    (before : index < stop) : text[index]? ≠ some '\n' := by
  intro broken
  have held : (text.slice start stop)[index - start]? = some '\n' := by
    rw [slice, List.getElem?_take_of_lt (by omega), List.getElem?_drop, Nat.add_sub_cancel' after]
    exact broken
  exact same.unbroken '\n' (List.mem_of_getElem? held) rfl

/-- A line that ends before the end of the text ends in a break. -/
theorem getElem?_restOfLine (shorter : text.restOfLine offset < text.length - offset) :
    text[offset + text.restOfLine offset]? = some '\n' := by
  have parts := List.takeWhile_append_dropWhile (p := (· != '\n')) (l := text.drop offset)
  have refused := List.head?_dropWhile_not (· != '\n') (text.drop offset)
  rw [restOfLine] at shorter ⊢
  generalize (text.drop offset).takeWhile (· != '\n') = held at parts shorter ⊢
  generalize (text.drop offset).dropWhile (· != '\n') = later at parts refused
  rw [← List.getElem?_drop, ← parts, List.getElem?_append_right (Nat.le_refl _), Nat.sub_self]
  cases later with
  | nil =>
      have length := congrArg List.length parts
      rw [List.append_nil, List.length_drop] at length
      omega
  | cons c rest => simpa using refused

/-! ### Where lines begin and end -/

/-- A line begins with the text or right after a break. -/
theorem lineStart_eq_zero_or_break (inside : offset ≤ text.length) :
    text.lineStart offset = 0 ∨ text[text.lineStart offset - 1]? = some '\n' := by
  have start := lineStart_eq inside
  have parts := List.takeWhile_append_dropWhile (p := (· != '\n'))
    (l := (text.take offset).reverse)
  have refused := List.head?_dropWhile_not (· != '\n') (text.take offset).reverse
  generalize (text.take offset).reverse.takeWhile (· != '\n') = held at start parts
  generalize (text.take offset).reverse.dropWhile (· != '\n') = earlier at parts refused
  have length := congrArg List.length parts
  rw [List.length_append, List.length_reverse, List.length_take, Nat.min_eq_left inside] at length
  cases earlier with
  | nil =>
      left
      rw [List.length_nil] at length
      omega
  | cons c rest =>
      right
      rw [List.length_cons] at length
      have broken : c = '\n' := by simpa using refused
      have front : text.take offset = rest.reverse ++ (c :: held.reverse) := by
        rw [← List.reverse_inj, ← parts]
        simp
      have index : text.lineStart offset - 1 = rest.reverse.length := by
        rw [List.length_reverse]
        omega
      have within : rest.reverse.length < offset := by
        rw [List.length_reverse]
        omega
      rw [index, ← List.getElem?_take_of_lt within, front,
        List.getElem?_append_right (Nat.le_refl _), Nat.sub_self, broken]
      rfl

theorem lt_nextLineStart (before : offset < text.length) : offset < text.nextLineStart offset := by
  rw [nextLineStart_eq (Nat.le_of_lt before)]
  omega

/-- All that is between a place and the start of the next line, up to its last character, is in one
line. -/
theorem sameLine_last (before : offset < text.length) :
    SameLine text offset (text.nextLineStart offset - 1) := by
  have next := nextLineStart_eq (Nat.le_of_lt before)
  have within : min (text.restOfLine offset) (text.length - offset - 1) ≤ text.restOfLine offset :=
    Nat.min_le_left _ _
  have place : text.nextLineStart offset - 1 =
      offset + min (text.restOfLine offset) (text.length - offset - 1) := by
    omega
  rw [place]
  exact sameLine_add (Nat.le_of_lt before) within

/-- A line that does not end in a break is the last one. -/
theorem nextLineStart_eq_length_or_break (before : offset < text.length) :
    text.nextLineStart offset = text.length ∧ SameLine text offset text.length ∨
      text[text.nextLineStart offset - 1]? = some '\n' := by
  have next := nextLineStart_eq (Nat.le_of_lt before)
  have rest := text.restOfLine_le offset
  by_cases shorter : text.restOfLine offset < text.length - offset
  · right
    have last : text.nextLineStart offset - 1 = offset + text.restOfLine offset := by omega
    rw [last]
    exact getElem?_restOfLine shorter
  · left
    have whole : text.length = offset + text.restOfLine offset := by omega
    refine ⟨by omega, ?_⟩
    have same := sameLine_add (Nat.le_of_lt before) (Nat.le_refl (text.restOfLine offset))
    rwa [← whole] at same

theorem lineStart_le_nextLineStart (ordered : start ≤ stop) (bounded : stop ≤ text.length) :
    text.lineStart start ≤ text.nextLineStart stop :=
  Nat.le_trans (lineStart_le (Nat.le_trans ordered bounded))
    (Nat.le_trans ordered (le_nextLineStart bounded))

theorem lineStart_mono (ordered : start ≤ stop) (bounded : stop ≤ text.length) :
    text.lineStart start ≤ text.lineStart stop := by
  have inside := Nat.le_trans ordered bounded
  have before := lineStart_le inside
  apply Nat.le_of_not_lt
  intro earlier
  rcases lineStart_eq_zero_or_break inside with first | broken
  · omega
  · exact (sameLine_lineStart bounded).getElem?_ne (by omega) (by omega) broken

theorem nextLineStart_mono (ordered : start ≤ stop) (bounded : stop ≤ text.length) :
    text.nextLineStart start ≤ text.nextLineStart stop := by
  rcases Nat.eq_or_lt_of_le bounded with last | before
  · rw [last, nextLineStart_length]
    exact nextLineStart_le (Nat.le_trans ordered bounded)
  · have after := lt_nextLineStart before
    apply Nat.le_of_not_lt
    intro further
    rcases nextLineStart_eq_length_or_break before with ⟨whole, _⟩ | broken
    · have within := nextLineStart_le (Nat.le_trans ordered bounded)
      omega
    · have same := sameLine_last (Nat.lt_of_le_of_lt ordered before)
      exact same.getElem?_ne (by omega) (by omega) broken

/-! ### Starts and ends of lines -/

/-- The text begins at the place, or a break is right before it. -/
def StartsLine (text : Text) (offset : Nat) : Prop := offset = 0 ∨ text[offset - 1]? = some '\n'

/-- The text ends at the place, or a break is there. -/
def EndsLine (text : Text) (offset : Nat) : Prop :=
  offset = text.length ∨ text[offset]? = some '\n'

instance : Decidable (StartsLine text offset) := inferInstanceAs (Decidable (_ ∨ _))

instance : Decidable (EndsLine text offset) := inferInstanceAs (Decidable (_ ∨ _))

/-- The end of the line that holds `offset`, before its break. -/
def lineEnd (text : Text) (offset : Nat) : Nat := offset + text.restOfLine offset

theorem StartsLine.inside (starts : StartsLine text offset) : offset ≤ text.length := by
  rcases starts with rfl | broken
  · exact Nat.zero_le _
  · have before := (List.getElem?_eq_some_iff.mp broken).1
    omega

theorem isGreatest_lineStart (inside : offset ≤ text.length) :
    IsGreatest {start | start ≤ offset ∧ StartsLine text start} (text.lineStart offset) := by
  refine ⟨⟨lineStart_le inside, lineStart_eq_zero_or_break inside⟩,
    fun start ⟨before, starts⟩ => ?_⟩
  apply Nat.le_of_not_lt
  intro after
  rcases starts with first | broken
  · omega
  · exact (sameLine_lineStart inside).getElem?_ne (by omega) (by omega) broken

theorem lineStart_of_starts (starts : StartsLine text offset) : text.lineStart offset = offset :=
  Nat.le_antisymm (lineStart_le starts.inside)
    ((isGreatest_lineStart starts.inside).2 ⟨Nat.le_refl offset, starts⟩)

theorem isLeast_nextLineStart (before : offset < text.length) :
    IsLeast {stop | offset < stop ∧ (stop = text.length ∨ StartsLine text stop)}
      (text.nextLineStart offset) := by
  have after := lt_nextLineStart before
  refine ⟨⟨after, ?_⟩, fun stop ⟨further, ends⟩ => ?_⟩
  · rcases nextLineStart_eq_length_or_break before with ⟨whole, _⟩ | broken
    · exact .inl whole
    · exact .inr (.inr broken)
  · apply Nat.le_of_not_lt
    intro sooner
    rcases ends with whole | first | broken
    · have within := nextLineStart_le (Nat.le_of_lt before)
      omega
    · omega
    · exact (sameLine_last before).getElem?_ne (by omega) (by omega) broken

theorem lineStart_min (first : start ≤ text.length) (second : stop ≤ text.length) :
    text.lineStart (min start stop) = min (text.lineStart start) (text.lineStart stop) := by
  rcases Nat.le_total start stop with ordered | ordered
  · rw [Nat.min_eq_left ordered, Nat.min_eq_left (lineStart_mono ordered second)]
  · rw [Nat.min_eq_right ordered, Nat.min_eq_right (lineStart_mono ordered first)]

theorem nextLineStart_max (first : start ≤ text.length) (second : stop ≤ text.length) :
    text.nextLineStart (max start stop) = max (text.nextLineStart start) (text.nextLineStart stop) := by
  rcases Nat.le_total start stop with ordered | ordered
  · rw [Nat.max_eq_right ordered, Nat.max_eq_right (nextLineStart_mono ordered second)]
  · rw [Nat.max_eq_left ordered, Nat.max_eq_left (nextLineStart_mono ordered first)]

theorem isLeast_lineEnd (inside : offset ≤ text.length) :
    IsLeast {stop | offset ≤ stop ∧ EndsLine text stop} (text.lineEnd offset) := by
  have rest := text.restOfLine_le offset
  refine ⟨⟨Nat.le_add_right _ _, ?_⟩, fun stop ⟨after, ends⟩ => ?_⟩
  · by_cases shorter : text.restOfLine offset < text.length - offset
    · exact .inr (getElem?_restOfLine shorter)
    · exact .inl (by rw [lineEnd]; omega)
  · apply Nat.le_of_not_lt
    intro before
    rw [lineEnd] at before
    rcases ends with last | broken
    · omega
    · exact (sameLine_add inside (Nat.le_refl _)).getElem?_ne after before broken

theorem le_lineEnd (text : Text) (offset : Nat) : offset ≤ text.lineEnd offset :=
  Nat.le_add_right _ _

theorem lineEnd_le (inside : offset ≤ text.length) : text.lineEnd offset ≤ text.length := by
  have rest := text.restOfLine_le offset
  rw [lineEnd]
  omega

theorem getElem?_lineEnd (before : text.lineEnd offset < text.length) :
    text[text.lineEnd offset]? = some '\n' :=
  getElem?_restOfLine (Nat.lt_sub_of_add_lt (Nat.add_comm .. ▸ before))

theorem lineEnd_of_ends (ends : EndsLine text offset) : text.lineEnd offset = offset := by
  have inside : offset ≤ text.length := by
    rcases ends with rfl | broken
    · exact Nat.le_refl _
    · exact Nat.le_of_lt (List.getElem?_eq_some_iff.mp broken).1
  have bound := (isLeast_lineEnd inside).2 ⟨Nat.le_refl offset, ends⟩
  exact Nat.le_antisymm bound (le_lineEnd text offset)

/-- The place after a character other than a break has the same line end. -/
theorem lineEnd_succ (before : offset < text.length) (other : text[offset]? ≠ some '\n') :
    text.lineEnd (offset + 1) = text.lineEnd offset := by
  have given : 1 ≤ text.restOfLine offset := by
    by_contra none
    have here : text.restOfLine offset = 0 := by omega
    have broken := getElem?_restOfLine (show text.restOfLine offset < text.length - offset by omega)
    rw [here] at broken
    exact other broken
  have rest := (sameLine_add (Nat.le_of_lt before) given).restOfLine
  rw [lineEnd, lineEnd]
  omega

/-- All places between a line start and a place of that line have the same line start. -/
theorem lineStart_eq_of_le (inside : stop ≤ text.length) (after : text.lineStart stop ≤ offset)
    (before : offset ≤ stop) : text.lineStart offset = text.lineStart stop := by
  refine Nat.le_antisymm (lineStart_mono before inside) ?_
  have started := lineStart_mono after (Nat.le_trans before inside)
  rwa [lineStart_lineStart inside] at started

/-! ### Lines below -/

section Readers

variable {reader : Reader} {count : Nat}

open Reader

theorem lineAhead_eq_restOfLine (reads : Reads text reader)
    (forward : reader.direction = .forward) :
    reader.lineAhead.length = text.restOfLine reader.offset := by
  rw [lineAhead, reads.ahead_eq_drop forward, restOfLine]

theorem offset_pastLineBreak (reads : Reads text reader) (forward : reader.direction = .forward) :
    reader.pastLineBreak.offset = text.nextLineStart reader.offset := by
  have line := lineAhead_eq_restOfLine reads forward
  rw [nextLineStart_eq reads.offset_le, ← line, ← length_ahead_forward reads forward]
  simp only [Reader.offset, pastLineBreak, forward, Reader.advance, Nat.add_assoc,
    List.length_take]

theorem offset_advanceInLine (inside : offset ≤ text.length) (count : Nat) :
    ((Reader.forward text offset).advanceInLine count).offset =
      offset + min count (text.restOfLine offset) := by
  have start : (Reader.forward text offset).offset = offset := offset_facing .forward inside
  have line := lineAhead_eq_restOfLine (reads_forward text offset) rfl
  have ahead := length_ahead_forward (reads_forward text offset) rfl
  have rest := text.restOfLine_le offset
  rw [start] at line ahead
  rw [advanceInLine, offset_advance_forward rfl, start, line, ahead]
  omega

theorem sameLine_advanceInLine (inside : offset ≤ text.length) (count : Nat) :
    SameLine text offset ((Reader.forward text offset).advanceInLine count).offset := by
  rw [offset_advanceInLine inside]
  exact sameLine_add inside (Nat.min_le_right _ _)

theorem offset_toLineBreak_forward (reads : Reads text reader)
    (forward : reader.direction = .forward) :
    reader.toLineBreak.offset = reader.offset + text.restOfLine reader.offset := by
  rw [← lineAhead_eq_restOfLine reads forward]
  exact offset_skipWhile_forward forward (· != '\n')

theorem offset_toLineBreak (inside : offset ≤ text.length) :
    (Reader.forward text offset).toLineBreak.offset = text.lineEnd offset := by
  have broken := offset_toLineBreak_forward (reads_forward text offset) rfl
  rwa [show (Reader.forward text offset).offset = offset from offset_facing .forward inside] at broken

/-- A reader at the end of its line sees what ends it, and behind that is the next line. -/
theorem peek_toLineBreak (inside : offset ≤ text.length) :
    (Reader.forward text offset).toLineBreak.peek = text[text.lineEnd offset]? ∧
      ((Reader.forward text offset).toLineBreak.advance 1).offset = text.nextLineStart offset := by
  have reads := (reads_forward text offset).toLineBreak
  have stop := offset_toLineBreak inside
  have rest := text.restOfLine_le offset
  refine ⟨stop ▸ peek_forward reads rfl, ?_⟩
  rw [offset_advance_forward rfl, length_ahead_forward reads rfl, stop, nextLineStart_eq inside,
    lineEnd]
  omega

/-- At the end of a line there is no character to go past. -/
theorem advanceInLine_of_lineEnd (inside : offset ≤ text.length) (count : Nat) :
    ((Reader.forward text (text.lineEnd offset)).advanceInLine count).offset =
      text.lineEnd offset := by
  obtain ⟨_, ends⟩ := (isLeast_lineEnd inside).1
  have none : text.restOfLine (text.lineEnd offset) = 0 :=
    Nat.add_left_cancel (lineEnd_of_ends ends)
  rw [offset_advanceInLine (lineEnd_le inside), none, Nat.min_zero, Nat.add_zero]

theorem offset_toLineBreak_backward (reads : Reads text reader)
    (backward : reader.direction = .backward) :
    reader.toLineBreak.offset = text.lineStart reader.offset := by
  rw [lineStart_eq reads.offset_le, ← reads.ahead_eq_take backward]
  exact offset_skipWhile_backward backward (· != '\n')

/-- Going back past a line break leads to the end of the line above. -/
theorem offset_pastLineBreak_backward (reads : Reads text reader)
    (backward : reader.direction = .backward) :
    reader.pastLineBreak.offset = text.lineStart reader.offset - 1 := by
  rw [pastLineBreak, offset_advance_backward backward, lineAhead,
    length_ahead_backward reads backward, reads.ahead_eq_take backward,
    lineStart_eq reads.offset_le]
  omega

theorem walks_pastLineBreak_backward (text : Text) :
    Walks text .backward pastLineBreak (text.lineStart · - 1) where
  reads reads _ := reads.pastLineBreak
  facing _ facing := facing
  offset := offset_pastLineBreak_backward

theorem walks_pastLineBreak (text : Text) :
    Walks text .forward pastLineBreak text.nextLineStart where
  reads reads _ := reads.pastLineBreak
  facing _ facing := facing
  offset := offset_pastLineBreak

/-- Stepping past line breaks until nothing moves is stepping from line start to line start. -/
theorem offset_steps_pastLineBreak (reads : Reads text reader)
    (forward : reader.direction = .forward) (count : Nat) :
    (reader.steps pastLineBreak count).offset = text.nextLineStart^[count] reader.offset :=
  (walks_pastLineBreak text).offset_steps reads forward count

theorem direction_linesDown (count : Nat) (reader : Reader) :
    (reader.linesDown count).direction = reader.direction :=
  (Onward.linesDown count reader).direction_eq

theorem le_offset_linesDown (forward : reader.direction = .forward) (count : Nat) :
    reader.offset ≤ (reader.linesDown count).offset :=
  (Onward.linesDown count reader).le_offset forward

theorem le_offset_steps_pastLineBreak (forward : reader.direction = .forward) (count : Nat) :
    reader.offset ≤ (reader.steps pastLineBreak count).offset :=
  (Onward.steps Onward.pastLineBreak count reader).le_offset forward

/-- What comes after the line that is `count` lines below is reached by as many steps and one more. -/
theorem nextLineStart_linesDown (reads : Reads text reader)
    (forward : reader.direction = .forward) (count : Nat) :
    text.nextLineStart (reader.linesDown count).offset =
      text.nextLineStart^[count + 1] reader.offset := by
  induction count generalizing reader with
  | zero => rfl
  | succ count ih =>
      have moved := offset_pastLineBreak reads forward
      rw [Function.iterate_succ_apply, ← moved]
      simp only [linesDown]
      split
      · rename_i last
        have inside := reads.offset_le
        rw [lineAhead_eq_restOfLine reads forward, length_ahead_forward reads forward] at last
        have atEnd : text.nextLineStart reader.offset = text.length := by
          rw [nextLineStart_eq inside, last]
          omega
        rw [moved, atEnd, Function.iterate_fixed text.nextLineStart_length]
      · exact ih reads.pastLineBreak forward

end Readers

/-! ### Lines by number -/

variable {line later : Nat}

theorem startOfLine_le (line : Nat) (text : Text) : startOfLine line text ≤ text.length := by
  induction text generalizing line with
  | nil => cases line <;> exact Nat.le_refl _
  | cons c rest ih =>
      cases line with
      | zero => exact Nat.zero_le _
      | succ line =>
          have same := ih line
          have next := ih (line + 1)
          simp only [startOfLine, List.length_cons]
          split <;> omega

theorem startOfLine_mono (text : Text) (ordered : line ≤ later) :
    startOfLine line text ≤ startOfLine later text := by
  induction text generalizing line later with
  | nil => cases line <;> exact Nat.zero_le _
  | cons c rest ih =>
      cases line with
      | zero => exact Nat.zero_le _
      | succ line =>
          obtain ⟨later, rfl⟩ := Nat.exists_eq_succ_of_ne_zero (Nat.ne_zero_of_lt ordered)
          have same := ih (Nat.le_of_succ_le_succ ordered)
          have next := ih ordered
          simp only [Nat.succ_eq_add_one, startOfLine] at next ⊢
          split <;> omega

/-- After the last line there is nothing. -/
theorem startOfLine_of_lineCount_le (beyond : text.lineCount ≤ line) :
    startOfLine line text = text.length := by
  rw [lineCount] at beyond
  induction text generalizing line with
  | nil => cases line <;> rfl
  | cons c rest ih =>
      cases line with
      | zero => exact absurd beyond (by simp)
      | succ line =>
          rw [List.count_cons] at beyond
          simp only [startOfLine, List.length_cons, Nat.add_right_cancel_iff]
          split
          · rename_i broken
            exact ih (by rw [if_pos broken] at beyond; omega)
          · rename_i unbroken
            exact ih (by rw [if_neg unbroken] at beyond; omega)

theorem lineOf_mono (text : Text) {offset further : Nat} (ordered : offset ≤ further) :
    text.lineOf offset ≤ text.lineOf further :=
  (List.take_sublist_take_left ordered).count_le '\n'

theorem min_lt_lineCount (text : Text) (line : Nat) :
    min line (text.lineCount - 1) < text.lineCount :=
  Nat.lt_of_le_of_lt (Nat.min_le_right ..) (Nat.sub_one_lt (Nat.succ_ne_zero _))

theorem lineOf_lt_lineCount (text : Text) (offset : Nat) : text.lineOf offset < text.lineCount :=
  Nat.lt_succ_of_le ((List.take_sublist offset text).count_le '\n')

theorem lineOf_min_length (text : Text) (offset : Nat) :
    text.lineOf (min offset text.length) = text.lineOf offset := by
  rw [lineOf, lineOf, ← List.take_eq_take_min]

theorem lineOf_succ (text : Text) (offset : Nat) :
    text.lineOf (offset + 1) = text.lineOf offset + if text[offset]? = some '\n' then 1 else 0 := by
  rw [lineOf, List.take_add_one, List.count_append, lineOf]
  cases text[offset]? with
  | none => simp
  | some c => by_cases broken : c = '\n' <;> simp [broken]

/-- Between two places there is one in every line between theirs. -/
theorem exists_lineOf {low high : Nat} (ordered : low ≤ high) (after : text.lineOf low ≤ line)
    (before : line ≤ text.lineOf high) :
    ∃ offset, low ≤ offset ∧ offset ≤ high ∧ text.lineOf offset = line := by
  induction ordered with
  | refl => exact ⟨low, Nat.le_refl _, Nat.le_refl _, Nat.le_antisymm after before⟩
  | @step high ordered ih =>
      by_cases earlier : line ≤ text.lineOf high
      · obtain ⟨offset, started, ended, same⟩ := ih earlier
        exact ⟨offset, started, Nat.le_succ_of_le ended, same⟩
      · refine ⟨high + 1, Nat.le_succ_of_le ordered, Nat.le_refl _, ?_⟩
        have next := lineOf_succ text high
        rw [next] at before ⊢
        split at before <;> split <;> omega

theorem exists_lineOf_iff {low high : Nat} (given : low < high) :
    text.lineOf low ≤ line ∧ line ≤ text.lineOf (high - 1) ↔
      ∃ offset, low ≤ offset ∧ offset < high ∧ text.lineOf offset = line := by
  constructor
  · rintro ⟨after, before⟩
    obtain ⟨offset, started, ended, same⟩ := exists_lineOf (Nat.le_sub_one_of_lt given) after before
    exact ⟨offset, started, by omega, same⟩
  · rintro ⟨offset, started, ended, rfl⟩
    exact ⟨lineOf_mono text started, lineOf_mono text (Nat.le_sub_one_of_lt ended)⟩

end ModalVi.Text
