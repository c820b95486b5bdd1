import ModalVi.Ex.Substitute
import ModalVi.Proofs.Text.Line

namespace ModalVi.Strict

/-! Reading a text with every access checked.

A span, a character, a line and a difference of offsets are given only where they exist.  What reads a
text by these alone has no answer as soon as one access is out of range.  Whatever the engine reads is
stated here a second time in this way, under the name that it has without the checks, and shown to have
the answer that it has without them. -/

variable {text : Text} {start stop place count line : Nat}

/-- The span, if it is one of the text. -/
def slice (text : Text) (start stop : Nat) : Option Text :=
  if start ≤ stop ∧ stop ≤ text.length then some (text.slice start stop) else none

/-- The place `count` before another, if there is one. -/
def back (place count : Nat) : Option Nat :=
  if count ≤ place then some (place - count) else none

theorem slice_eq (ordered : start ≤ stop) (bounded : stop ≤ text.length) :
    slice text start stop = some (text.slice start stop) :=
  if_pos ⟨ordered, bounded⟩

theorem back_eq (enough : count ≤ place) : back place count = some (place - count) :=
  if_pos enough

/-! ### Readers -/

section Readers

open Reader

variable {reader : Reader}

/-- A reader's offset, if it has not read more than there was. -/
def offset (reader : Reader) : Option Nat :=
  match reader.direction with
  | .forward => some (reader.origin + reader.consumed)
  | .backward => back reader.origin reader.consumed

/-- The next character of a reader, looked up in the text at its offset. -/
def peek (text : Text) (reader : Reader) : Option (Option Char) := do
  let place ← offset reader
  match reader.direction with
  | .forward => some text[place]?
  | .backward =>
      if place = 0 then some none
      else do
        let before ← back place 1
        some text[before]?

theorem offset_eq (reads : Reads text reader) : offset reader = some reader.offset := by
  have sound := reads.sound
  cases direction : reader.direction with
  | forward => simp only [offset, Reader.offset, direction]
  | backward =>
      have origin := sound.backward direction
      simp only [offset, Reader.offset, direction]
      exact back_eq (by omega)

theorem peek_eq (reads : Reads text reader) : peek text reader = some reader.peek := by
  have sound := reads.sound
  have place := sound.offset_eq
  have whole := sound.text
  simp only [peek, offset_eq reads, Option.bind_eq_bind, Option.bind_some]
  cases direction : reader.direction with
  | forward =>
      rw [direction] at place
      rw [Reader.text, direction] at whole
      rw [place, Reader.peek, ← whole]
      simp [List.head?_eq_getElem?, List.getElem?_append_right]
  | backward =>
      rw [direction] at place
      rw [Reader.text, direction] at whole
      rw [place, Reader.peek, ← whole]
      cases ahead : reader.ahead with
      | nil => rfl
      | cons c rest =>
          have nearest : back (rest.length + 1) 1 = some rest.length := back_eq (by omega)
          simp [nearest]

end Readers

/-! ### Lines -/

/-- The line of a place, if the text has that place. -/
def lineOf (text : Text) (place : Nat) : Option Nat :=
  if place ≤ text.length then some (text.lineOf place) else none

/-- The start of a line, if the text has that line. -/
def startOfLine (text : Text) (line : Nat) : Option Nat :=
  if line < text.lineCount then some (Text.startOfLine line text) else none

/-- The start of the line after another, or the end of the text. -/
def endOfLine (text : Text) (line : Nat) : Option Nat :=
  if line + 1 < text.lineCount then startOfLine text (line + 1) else some text.length

theorem lineOf_min (text : Text) (place : Nat) :
    lineOf text (min place text.length) = some (text.lineOf place) := by
  rw [lineOf, if_pos (Nat.min_le_right _ _), Text.lineOf, Text.lineOf, ← List.take_eq_take_min]

theorem startOfLine_eq (within : line < text.lineCount) :
    startOfLine text line = some (Text.startOfLine line text) :=
  if_pos within

theorem endOfLine_eq (text : Text) (line : Nat) :
    endOfLine text line = some (Text.startOfLine (line + 1) text) := by
  rw [endOfLine]
  split
  · rename_i more
    exact startOfLine_eq more
  · rename_i noMore
    rw [Text.startOfLine_of_lineCount_le (by omega)]

/-! ### Substitutions -/

def executeWith (rewrite : LineRewrite) (countOnly : Bool) (first last : Nat) (text : Text) :
    Option SubstitutionResult := do
  let last := min last (text.lineCount - 1)
  let first := min first last
  let start ← startOfLine text first
  let stop ← endOfLine text last
  let lines ← slice text start stop
  let (new, count, lastLine) :=
    Substitution.gather rewrite countOnly start (Text.brokenLines lines)
  some ⟨start, stop, new, count, lastLine⟩

theorem executeWith_eq (rewrite : LineRewrite) (countOnly : Bool) (first last : Nat)
    (text : Text) :
    executeWith rewrite countOnly first last text =
      some (Substitution.executeWith rewrite countOnly first last text) := by
  have lines : 0 < text.lineCount := Nat.succ_pos _
  simp only [executeWith, Substitution.executeWith]
  generalize lastEq : min last (text.lineCount - 1) = last
  generalize firstEq : min first last = first
  have started : startOfLine text first = some (Text.startOfLine first text) :=
    startOfLine_eq (by omega)
  have stopped := endOfLine_eq text last
  have held := slice_eq (Text.startOfLine_mono text (by omega : first ≤ last + 1))
    (Text.startOfLine_le (last + 1) text)
  simp only [started, stopped, held, Option.bind_eq_bind, Option.bind_some]

def execute (library : Library) (substitution : Substitution) (first last : Nat) (text : Text) :
    Option (Except String SubstitutionResult) :=
  match substitution.rewrite library with
  | .error fault => some (.error fault)
  | .ok rewrite =>
      (executeWith rewrite substitution.flags.countOnly first last text).map .ok

theorem execute_eq (library : Library) (substitution : Substitution) (first last : Nat)
    (text : Text) :
    execute library substitution first last text =
      some (substitution.execute library first last text) := by
  simp only [execute, Substitution.execute]
  cases substitution.rewrite library with
  | error fault => rfl
  | ok rewrite =>
      simp only [executeWith_eq, Option.map_some]
      rfl

end ModalVi.Strict
