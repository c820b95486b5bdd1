import ModalVi.Motion.Resolve
import ModalVi.Proofs.Text.Reader

namespace ModalVi.Reader

/-! Reading on.

What a reader does without turning is to read on, and so it never comes back behind where it was.  If it
has read a character before, it has left that place, unless the text ends there. -/

variable {text : Text} {reader start middle found : Reader}

/-- Reading on from one reader leads to the other. -/
def Onward (start found : Reader) : Prop := ∃ count, found = start.advance count

namespace Onward

theorem advance (count : Nat) (reader : Reader) : Onward reader (reader.advance count) :=
  ⟨count, rfl⟩

theorem refl (reader : Reader) : Onward reader reader := ⟨0, (advance_zero reader).symm⟩

theorem trans (first : Onward start middle) (second : Onward middle found) :
    Onward start found := by
  obtain ⟨count, rfl⟩ := first
  obtain ⟨further, rfl⟩ := second
  exact ⟨count + further, advance_advance count further start⟩

theorem direction_eq (onward : Onward start found) : found.direction = start.direction := by
  obtain ⟨count, rfl⟩ := onward
  rfl

theorem reads (onward : Onward start found) (reads : Reads text start) : Reads text found := by
  obtain ⟨count, rfl⟩ := onward
  exact reads.advance count

theorem le_offset (onward : Onward start found) (forward : start.direction = .forward) :
    start.offset ≤ found.offset := by
  obtain ⟨count, rfl⟩ := onward
  exact le_offset_advance forward count

theorem offset_le (onward : Onward start found) (backward : start.direction = .backward) :
    found.offset ≤ start.offset := by
  obtain ⟨count, rfl⟩ := onward
  exact offset_advance_le backward count

/-- Behind a character that was read forward, a reader is further on. -/
theorem lt_offset (onward : Onward (start.advance 1) found) (reads : Reads text start)
    (forward : start.direction = .forward) (before : start.offset < text.length) :
    start.offset < found.offset := by
  have further := onward.le_offset forward
  rw [offset_advance_forward forward, length_ahead_forward reads forward] at further
  omega

/-- Behind a character that was read backward, a reader is further back. -/
theorem offset_lt (onward : Onward (start.advance 1) found) (reads : Reads text start)
    (backward : start.direction = .backward) (after : 0 < start.offset) :
    found.offset < start.offset := by
  have further := onward.offset_le backward
  rw [offset_advance_back reads backward] at further
  omega

theorem steps {step : Reader → Reader} (on : ∀ reader, Onward reader (step reader)) (count : Nat)
    (reader : Reader) : Onward reader (reader.steps step count) :=
  steps_keeps (fun later onward => onward.trans (on later)) count (refl reader)

/-- Where each step reads a character, several steps do so as well. -/
theorem steps_succ {step : Reader → Reader}
    (on : ∀ reader, Onward (reader.advance 1) (step reader)) (count : Nat) (reader : Reader) :
    Onward (reader.advance 1) (reader.steps step (count + 1)) := by
  obtain ⟨further, stepped⟩ := exists_steps_succ step count reader
  rw [stepped]
  exact (on reader).trans (steps (fun later => (advance 1 later).trans (on later)) further _)

/-! ### What reads on -/

theorem skipWhile (accept : Char → Bool) (reader : Reader) :
    Onward reader (reader.skipWhile accept) :=
  advance _ reader

theorem toLineBreak (reader : Reader) : Onward reader reader.toLineBreak := advance _ reader

theorem pastLineBreak (reader : Reader) : Onward reader reader.pastLineBreak := advance _ reader

theorem advanceInLine (count : Nat) (reader : Reader) :
    Onward reader (reader.advanceInLine count) :=
  advance _ reader

theorem toPair (stop : Char → Char → Bool) (reader : Reader) :
    Onward reader (reader.toPair stop) := by
  simp only [Reader.toPair, skipWindows]
  split <;> exact advance _ reader

theorem pastPair (stop : Char → Char → Bool) (reader : Reader) :
    Onward reader (reader.pastPair stop) := by
  simp only [Reader.pastPair, skipWindows]
  split <;> exact advance _ reader

theorem skipThrough (accept : Char → Bool) (reader : Reader) :
    Onward reader (reader.skipThrough accept) :=
  advance _ reader

theorem skipWordRun (marks : Char → Bool) (reader : Reader) :
    Onward reader (reader.skipWordRun marks) := by
  simp only [Reader.skipWordRun]
  split
  · exact (skipWhile _ reader).trans (skipWhile _ _)
  · exact skipWhile _ reader

theorem linesDown (count : Nat) (reader : Reader) : Onward reader (reader.linesDown count) := by
  induction count generalizing reader with
  | zero => exact refl reader
  | succ count ih =>
      simp only [Reader.linesDown]
      split
      · exact refl reader
      · exact (pastLineBreak reader).trans (ih _)

theorem sentenceForward (reader : Reader) :
    Onward (reader.advance 1) reader.sentenceForward := by
  have stopped := toPair (fun first second => first == '.' || TextObject.blankLine first second)
    (reader.advance 1)
  have passed := stopped.trans (advance 1 _)
  simp only [Reader.sentenceForward]
  split
  · exact passed.trans (skipWhile _ _)
  · exact passed.trans (skipWhile _ _)

theorem toEmptyLineAbove (reader : Reader) :
    Onward (reader.advance 1) reader.toEmptyLineAbove := by
  induction reader using Reader.toEmptyLineAbove.induct with
  | case1 reader above stops =>
      rw [Reader.toEmptyLineAbove, dif_pos stops]
      exact toLineBreak _
  | case2 reader above goesOn ih =>
      rw [Reader.toEmptyLineAbove, dif_neg goesOn]
      exact (toLineBreak _).trans ((advance 1 _).trans ih)

theorem toEmptyLineBelow (reader : Reader) :
    Onward (reader.advance 1) reader.toEmptyLineBelow := by
  induction reader using Reader.toEmptyLineBelow.induct with
  | case1 reader below stops =>
      rw [Reader.toEmptyLineBelow, dif_pos stops]
      exact pastLineBreak _
  | case2 reader below goesOn ih =>
      rw [Reader.toEmptyLineBelow, dif_neg goesOn]
      exact (pastLineBreak _).trans ((advance 1 _).trans ih)

/-- Reading on before a character is read, or after, makes no difference. -/
theorem advance_swap (onward : Onward reader found) :
    Onward (reader.advance 1) (found.advance 1) := by
  obtain ⟨count, rfl⟩ := onward
  exact ⟨count, by rw [advance_advance, advance_advance, Nat.add_comm]⟩

theorem paragraphBackward (reader : Reader) :
    Onward (reader.advance 1) reader.toLineBreak.toEmptyLineAbove :=
  (toLineBreak reader).advance_swap.trans (toEmptyLineAbove _)

end Onward

end ModalVi.Reader
