import Mathlib.Logic.Function.Iterate
import ModalVi.Text.Word

namespace ModalVi.Reader

/-! Readers stay in the text that they read. -/

variable {text : Text} {reader : Reader}

/-- The readers of a text: each is placed somewhere in it, and then moved on or back or turned. -/
inductive Reads (text : Text) : Reader → Prop where
  | facing (direction : Direction) (offset : Nat) : Reads text (Reader.facing direction text offset)
  | advance {reader : Reader} (reads : Reads text reader) (count : Nat) :
      Reads text (reader.advance count)
  | giveBack {reader : Reader} (reads : Reads text reader) (count : Nat) :
      Reads text (reader.giveBack count)
  | turn {reader : Reader} (reads : Reads text reader) (direction : Direction) :
      Reads text (reader.turn direction)

/-- The numbers of a reader say how much of the text is on each side of it. -/
structure Sound (text : Text) (reader : Reader) : Prop where
  text : reader.text = text
  forward : reader.direction = .forward →
    reader.behind.length = reader.origin + reader.consumed
  backward : reader.direction = .backward →
    reader.ahead.length + reader.consumed = reader.origin
  consumed : reader.consumed ≤ reader.behind.length

theorem Sound.facing (direction : Direction) (text : Text) (offset : Nat) :
    Sound text (Reader.facing direction text offset) := by
  cases direction with
  | forward =>
      refine ⟨?_, fun _ => ?_, fun backward => absurd backward (by simp [Reader.facing]), ?_⟩
      · simp [Reader.text, Reader.facing]
      · simp [Reader.facing]
      · simp [Reader.facing]
  | backward =>
      refine ⟨?_, fun forward => absurd forward (by simp [Reader.facing]), fun _ => ?_, ?_⟩
      · simp [Reader.text, Reader.facing]
      · simp [Reader.facing]
      · simp [Reader.facing]

theorem Sound.advance (sound : Sound text reader) (count : Nat) :
    Sound text (reader.advance count) := by
  have behind : (reader.advance count).behind.length =
      min count reader.ahead.length + reader.behind.length := by
    simp [Reader.advance]
  refine ⟨(text_advance count reader).trans sound.text, fun forward => ?_, fun backward => ?_, ?_⟩
  · have before := sound.forward forward
    have origin : (reader.advance count).origin = reader.origin := rfl
    rw [behind, origin, consumed_advance]
    omega
  · have before := sound.backward backward
    have origin : (reader.advance count).origin = reader.origin := rfl
    rw [ahead_advance, List.length_drop, origin, consumed_advance]
    omega
  · have before := sound.consumed
    rw [behind, consumed_advance]
    omega

theorem Sound.giveBack (sound : Sound text reader) (count : Nat) :
    Sound text (reader.giveBack count) := by
  have consumed := sound.consumed
  refine ⟨?_, fun forward => ?_, fun backward => ?_, ?_⟩
  · have same : (reader.giveBack count).text = reader.text := by
      cases direction : reader.direction with
      | forward =>
          simp only [Reader.text, Reader.giveBack, direction]
          rw [← List.append_assoc, ← List.reverse_append, List.take_append_drop]
      | backward =>
          simp [Reader.text, Reader.giveBack, direction]
    exact same.trans sound.text
  · have before := sound.forward forward
    simp only [Reader.giveBack, List.length_drop]
    omega
  · have before := sound.backward backward
    simp only [Reader.giveBack, List.length_append, List.length_reverse, List.length_take]
    omega
  · simp only [Reader.giveBack, List.length_drop]
    omega

/-- A reader's offset is the number of characters before it. -/
theorem Sound.offset_eq (sound : Sound text reader) :
    reader.offset =
      match reader.direction with
      | .forward => reader.behind.length
      | .backward => reader.ahead.length := by
  cases direction : reader.direction with
  | forward =>
      have before := sound.forward direction
      simp only [Reader.offset, direction]
      omega
  | backward =>
      have before := sound.backward direction
      simp only [Reader.offset, direction]
      omega

theorem Sound.turn (sound : Sound text reader) (direction : Direction) :
    Sound text (reader.turn direction) := by
  have offset := sound.offset_eq
  by_cases same : reader.direction = direction
  · rw [Reader.turn, if_pos same]
    refine ⟨sound.text, fun forward => ?_, fun backward => ?_, Nat.zero_le _⟩
    · simp only at forward
      rw [forward] at offset
      exact offset.symm
    · simp only at backward
      rw [backward] at offset
      exact offset.symm
  · rw [Reader.turn, if_neg same]
    cases turned : reader.direction with
    | forward =>
        cases direction with
        | forward => exact absurd turned same
        | backward =>
            rw [turned] at offset
            refine ⟨?_, fun forward => (by cases forward), fun _ => offset.symm, Nat.zero_le _⟩
            rw [← sound.text]
            simp only [Reader.text, turned]
    | backward =>
        cases direction with
        | backward => exact absurd turned same
        | forward =>
            rw [turned] at offset
            refine ⟨?_, fun _ => offset.symm, fun backward => (by cases backward), Nat.zero_le _⟩
            rw [← sound.text]
            simp only [Reader.text, turned]

theorem Reads.sound (reads : Reads text reader) : Sound text reader := by
  induction reads with
  | facing direction offset => exact .facing direction text offset
  | advance _ count ih => exact ih.advance count
  | giveBack _ count ih => exact ih.giveBack count
  | turn _ direction ih => exact ih.turn direction

theorem Reads.offset_le (reads : Reads text reader) : reader.offset ≤ text.length := by
  have sound := reads.sound
  rw [sound.offset_eq, ← sound.text]
  cases direction : reader.direction with
  | forward => simp [Reader.text, direction]
  | backward => simp [Reader.text, direction]

theorem reads_forward (text : Text) (offset : Nat) : Reads text (Reader.forward text offset) :=
  .facing .forward offset

theorem reads_backward (text : Text) (offset : Nat) : Reads text (Reader.backward text offset) :=
  .facing .backward offset

theorem offset_forward (text : Text) (offset : Nat) :
    (Reader.forward text offset).offset = min offset text.length := rfl

theorem offset_backward (text : Text) (offset : Nat) :
    (Reader.backward text offset).offset = min offset text.length := rfl

theorem offset_facing (direction : Direction) {offset : Nat} (inside : offset ≤ text.length) :
    (Reader.facing direction text offset).offset = offset := by
  cases direction <;> simp [Reader.facing, Reader.offset, Nat.min_eq_left inside]

/-- A reader that is placed behind the end of the text is placed at its end. -/
theorem facing_min (direction : Direction) (text : Text) (offset : Nat) :
    Reader.facing direction text (min offset text.length) = Reader.facing direction text offset := by
  rcases Nat.le_total offset text.length with inside | beyond
  · rw [Nat.min_eq_left inside]
  · rw [Nat.min_eq_right beyond]
    simp only [Reader.facing, Nat.min_self, Nat.min_eq_right beyond, List.take_length,
      List.take_of_length_le beyond, List.drop_length, List.drop_of_length_le beyond]

theorem le_offset_advance (forward : reader.direction = .forward) (count : Nat) :
    reader.offset ≤ (reader.advance count).offset := by
  simp only [Reader.offset, Reader.advance, forward]
  omega

theorem offset_advance_le (backward : reader.direction = .backward) (count : Nat) :
    (reader.advance count).offset ≤ reader.offset := by
  simp only [Reader.offset, Reader.advance, backward]
  omega

/-- What a reader that faces forward has not read is what stands after its offset. -/
theorem Reads.ahead_eq_drop (reads : Reads text reader) (forward : reader.direction = .forward) :
    reader.ahead = text.drop reader.offset := by
  have sound := reads.sound
  have offset := sound.offset_eq
  have whole := sound.text
  rw [forward] at offset
  rw [Reader.text, forward] at whole
  rw [offset, ← whole]
  simp

/-- What a reader that faces backward has not read is what stands before its offset. -/
theorem Reads.ahead_eq_take (reads : Reads text reader) (backward : reader.direction = .backward) :
    reader.ahead = (text.take reader.offset).reverse := by
  have sound := reads.sound
  have offset := sound.offset_eq
  have whole := sound.text
  rw [backward] at offset
  rw [Reader.text, backward] at whole
  rw [offset, ← whole]
  simp

theorem peek_forward (reads : Reads text reader) (forward : reader.direction = .forward) :
    reader.peek = text[reader.offset]? := by
  rw [peek, reads.ahead_eq_drop forward, List.head?_drop]

theorem length_ahead_forward (reads : Reads text reader) (forward : reader.direction = .forward) :
    reader.ahead.length = text.length - reader.offset := by
  rw [reads.ahead_eq_drop forward, List.length_drop]

theorem length_ahead_backward (reads : Reads text reader)
    (backward : reader.direction = .backward) : reader.ahead.length = reader.offset := by
  rw [reads.ahead_eq_take backward, List.length_reverse, List.length_take,
    Nat.min_eq_left reads.offset_le]

theorem getElem?_ahead_backward (reads : Reads text reader)
    (backward : reader.direction = .backward) {index : Nat} (within : index < reader.offset) :
    reader.ahead[index]? = text[reader.offset - 1 - index]? := by
  have inside := reads.offset_le
  have bound : index < (text.take reader.offset).length := by
    rwa [List.length_take, Nat.min_eq_left inside]
  rw [reads.ahead_eq_take backward, List.getElem?_reverse bound, List.length_take,
    Nat.min_eq_left inside, List.getElem?_take_of_lt (by omega)]

theorem peek_backward (reads : Reads text reader) (backward : reader.direction = .backward)
    (notFirst : reader.offset ≠ 0) : reader.peek = text[reader.offset - 1]? := by
  rw [peek, List.head?_eq_getElem?, getElem?_ahead_backward reads backward (by omega), Nat.sub_zero]

@[simp] theorem advance_zero (reader : Reader) : reader.advance 0 = reader := by
  simp [Reader.advance]

theorem advance_advance (first second : Nat) (reader : Reader) :
    (reader.advance first).advance second = reader.advance (first + second) := by
  simp only [Reader.advance, List.take_add, List.drop_drop, List.length_append,
    List.reverse_append, List.append_assoc, Nat.add_assoc]

theorem offset_advance_forward (forward : reader.direction = .forward) (count : Nat) :
    (reader.advance count).offset = reader.offset + min count reader.ahead.length := by
  simp only [Reader.offset, direction_advance, consumed_advance, forward]
  exact (Nat.add_assoc ..).symm

theorem offset_advance_backward (backward : reader.direction = .backward) (count : Nat) :
    (reader.advance count).offset = reader.offset - min count reader.ahead.length := by
  simp only [Reader.offset, direction_advance, consumed_advance, backward]
  exact (Nat.sub_sub ..).symm

/-- A reader goes back as far as it is told, or to the start of the text. -/
theorem offset_advance_back (reads : Reads text reader) (backward : reader.direction = .backward)
    (count : Nat) : (reader.advance count).offset = reader.offset - count := by
  rw [offset_advance_backward backward, length_ahead_backward reads backward]
  omega

theorem offset_skipWhile_forward (forward : reader.direction = .forward) (accept : Char → Bool) :
    (reader.skipWhile accept).offset = reader.offset + (reader.ahead.takeWhile accept).length := by
  have run := (List.takeWhile_sublist accept (l := reader.ahead)).length_le
  rw [skipWhile, offset_advance_forward forward, Nat.min_eq_left run]

theorem offset_skipWhile_from {start : Nat} (inside : start ≤ text.length) (accept : Char → Bool) :
    ((Reader.forward text start).skipWhile accept).offset =
      start + ((text.drop start).takeWhile accept).length := by
  have begun : (Reader.forward text start).offset = start := offset_facing .forward inside
  rw [offset_skipWhile_forward rfl, (reads_forward text start).ahead_eq_drop rfl, begun]

theorem offset_skipWhile_backward (backward : reader.direction = .backward)
    (accept : Char → Bool) :
    (reader.skipWhile accept).offset = reader.offset - (reader.ahead.takeWhile accept).length := by
  have run := (List.takeWhile_sublist accept (l := reader.ahead)).length_le
  rw [skipWhile, offset_advance_backward backward, Nat.min_eq_left run]

theorem direction_turn (direction : Direction) (reader : Reader) :
    (reader.turn direction).direction = direction := by
  rw [Reader.turn]
  split
  · assumption
  · rfl

theorem offset_turn (direction : Direction) (reader : Reader) :
    (reader.turn direction).offset = reader.offset := by
  rw [Reader.turn]
  split <;> cases direction <;> simp_all [Reader.offset]

/-! ### What readers do -/

theorem Reads.toLineBreak (reads : Reads text reader) : Reads text reader.toLineBreak :=
  reads.advance _

theorem Reads.pastLineBreak (reads : Reads text reader) : Reads text reader.pastLineBreak :=
  reads.advance _

theorem Reads.advanceInLine (reads : Reads text reader) (count : Nat) :
    Reads text (reader.advanceInLine count) :=
  reads.advance _

theorem Reads.skipWhile (reads : Reads text reader) (accept : Char → Bool) :
    Reads text (reader.skipWhile accept) :=
  reads.advance _

theorem Reads.skipWindows {σ : Type} (reads : Reads text reader) (size : Nat) (around : Bool)
    (accept : σ → List Char → Bool × σ) (state : σ) :
    Reads text (reader.skipWindows size around accept state).2 := by
  simp only [Reader.skipWindows]
  split
  · exact reads.advance _
  · exact reads.advance _

theorem Reads.toPair (reads : Reads text reader) (stop : Char → Char → Bool) :
    Reads text (reader.toPair stop) :=
  reads.skipWindows ..

/-- What each step keeps, any number of them does. -/
theorem steps_keeps {kept : Reader → Prop} {step : Reader → Reader}
    (keeps : ∀ reader, kept reader → kept (step reader)) (count : Nat) (held : kept reader) :
    kept (reader.steps step count) := by
  induction count generalizing reader with
  | zero => exact held
  | succ count ih =>
      simp only [Reader.steps]
      split
      · exact keeps _ held
      · exact ih (keeps _ held)

theorem Reads.steps {step : Reader → Reader}
    (stays : ∀ reader, Reads text reader → Reads text (step reader)) (count : Nat)
    (reads : Reads text reader) : Reads text (reader.steps step count) :=
  steps_keeps stays count reads

/-- After the first step, any number of further ones is taken. -/
theorem exists_steps_succ (step : Reader → Reader) (count : Nat) (reader : Reader) :
    ∃ further, reader.steps step (count + 1) = (step reader).steps step further := by
  simp only [Reader.steps]
  split
  · exact ⟨0, rfl⟩
  · exact ⟨count, rfl⟩

/-- A step takes the readers of a text that face one way from place to place, and where it leads
depends on nothing but the place. -/
structure Walks (text : Text) (direction : Direction) (step : Reader → Reader)
    (next : Nat → Nat) : Prop where
  reads : ∀ {reader}, Reads text reader → reader.direction = direction → Reads text (step reader)
  facing : ∀ {reader}, Reads text reader → reader.direction = direction →
    (step reader).direction = direction
  offset : ∀ {reader}, Reads text reader → reader.direction = direction →
    (step reader).offset = next reader.offset

theorem Walks.offset_iterate {direction : Direction} {step : Reader → Reader} {next : Nat → Nat}
    (walks : Walks text direction step next) (reads : Reads text reader)
    (facing : reader.direction = direction) (count : Nat) :
    (step^[count] reader).offset = next^[count] reader.offset := by
  induction count generalizing reader with
  | zero => rfl
  | succ count ih =>
      rw [Function.iterate_succ_apply, Function.iterate_succ_apply, ← walks.offset reads facing]
      exact ih (walks.reads reads facing) (walks.facing reads facing)

/-- Steps that stop where nothing moves any more lead as far as all of them. -/
theorem Walks.offset_steps {direction : Direction} {step : Reader → Reader} {next : Nat → Nat}
    (walks : Walks text direction step next) (reads : Reads text reader)
    (facing : reader.direction = direction) (count : Nat) :
    (reader.steps step count).offset = next^[count] reader.offset := by
  induction count generalizing reader with
  | zero => rfl
  | succ count ih =>
      have moved := walks.offset reads facing
      rw [Reader.steps, Function.iterate_succ_apply, ← moved]
      split
      · rename_i still
        rw [still] at moved ⊢
        exact (Function.iterate_fixed moved.symm count).symm
      · exact ih (walks.reads reads facing) (walks.facing reads facing)

theorem Walks.direction_steps {direction : Direction} {step : Reader → Reader} {next : Nat → Nat}
    (walks : Walks text direction step next) (reads : Reads text reader)
    (facing : reader.direction = direction) (count : Nat) :
    (reader.steps step count).direction = direction := by
  let kept (reader : Reader) : Prop := Reads text reader ∧ reader.direction = direction
  have keeps (reader : Reader) (held : kept reader) : kept (step reader) :=
    ⟨walks.reads held.1 held.2, walks.facing held.1 held.2⟩
  have held : kept (reader.steps step count) := steps_keeps keeps count ⟨reads, facing⟩
  exact held.2

/-! ### Words -/

variable {marks : Char → Bool}

theorem Reads.skipSpace (reads : Reads text reader) : Reads text reader.skipSpace :=
  reads.skipWhile _

theorem Reads.skipNonSpace (reads : Reads text reader) : Reads text reader.skipNonSpace :=
  reads.skipWhile _

theorem Reads.skipWordParts (reads : Reads text reader) : Reads text (reader.skipWordParts marks) :=
  reads.skipWhile _

theorem Reads.skipWordRun (reads : Reads text reader) : Reads text (reader.skipWordRun marks) := by
  simp only [Reader.skipWordRun]
  split
  · exact reads.skipWordParts.skipWhile _
  · exact reads.skipWordParts

theorem Reads.wordForward (reads : Reads text reader) : Reads text (reader.wordForward marks) :=
  reads.skipWordRun.skipSpace

theorem Reads.wordBackward (reads : Reads text reader) :
    Reads text (reader.wordBackward marks) := by
  simp only [Reader.wordBackward]
  split
  · exact reads.skipSpace.skipWhile _
  · exact reads.skipSpace.skipWordParts

theorem Reads.wordEnd (reads : Reads text reader) : Reads text (reader.wordEnd marks) :=
  reads.skipSpace.skipWordRun

theorem Reads.bigWordForward (reads : Reads text reader) : Reads text reader.bigWordForward :=
  reads.skipNonSpace.skipSpace

/-- Both ends of a big word are reached over the white space before it, whichever way one reads. -/
theorem Reads.skipSpace_skipNonSpace (reads : Reads text reader) :
    Reads text reader.skipSpace.skipNonSpace :=
  reads.skipSpace.skipNonSpace

end ModalVi.Reader
