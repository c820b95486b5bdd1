namespace ModalVi

/-! A caret with a selection anchor, and the selection a host shows for it. -/

/-- Toward the end of the text, or toward its start: the way of selections, readers and searches. -/
inductive Direction where
  | forward
  | backward
deriving DecidableEq, Repr, Inhabited

namespace Direction

def flip : Direction → Direction
  | .forward => .backward
  | .backward => .forward

@[simp] theorem flip_flip (direction : Direction) : direction.flip.flip = direction := by
  cases direction <;> rfl

end Direction

/-- The caret and the other end of the selection.  Nothing is selected when both agree. -/
structure Cursor where
  caret : Nat
  anchor : Nat
deriving DecidableEq, Repr, Inhabited

namespace Cursor

/-- A caret with nothing selected. -/
def collapsed (offset : Nat) : Cursor := ⟨offset, offset⟩

/-- The selection from `low` to `high` with its caret at the end that `direction` points to. -/
def spanning (low high : Nat) : Direction → Cursor
  | .forward => ⟨high, low⟩
  | .backward => ⟨low, high⟩

/-- Whether the caret is the high end.  An empty selection counts as forward. -/
def isForward (cursor : Cursor) : Bool := cursor.anchor ≤ cursor.caret

/-- Which end of the selection the caret is. -/
def direction (cursor : Cursor) : Direction :=
  if cursor.isForward then .forward else .backward

/-- The low end of the selection. -/
def low (cursor : Cursor) : Nat := min cursor.caret cursor.anchor

/-- The high end of the selection. -/
def high (cursor : Cursor) : Nat := max cursor.caret cursor.anchor

/-- The number of selected characters. -/
def size (cursor : Cursor) : Nat := cursor.high - cursor.low

/-- Whether nothing is selected. -/
def isEmpty (cursor : Cursor) : Bool := cursor.caret == cursor.anchor

/-- The caret alone, moved to the low end. -/
def atStart (cursor : Cursor) : Cursor := collapsed cursor.low

/-- The caret alone, moved to the high end. -/
def atEnd (cursor : Cursor) : Cursor := collapsed cursor.high

def swapped (cursor : Cursor) : Cursor := ⟨cursor.anchor, cursor.caret⟩

/-- Both ends brought down to `length` where they lie beyond it. -/
def clamped (cursor : Cursor) (length : Nat) : Cursor :=
  ⟨min cursor.caret length, min cursor.anchor length⟩

/-- The cursor as diagnostics show it. -/
def describe (cursor : Cursor) : String :=
  if cursor.isEmpty then s!"Cursor({cursor.caret})"
  else s!"Cursor({cursor.caret}<-{cursor.anchor})"

@[simp] theorem collapsed_low (offset : Nat) : (collapsed offset).low = offset := by
  simp [collapsed, low]

@[simp] theorem collapsed_high (offset : Nat) : (collapsed offset).high = offset := by
  simp [collapsed, high]

theorem low_le_high (cursor : Cursor) : cursor.low ≤ cursor.high := by
  simp only [low, high]; omega

/-- The ordered ends and the direction determine the cursor. -/
@[simp] theorem spanning_direction (cursor : Cursor) :
    spanning cursor.low cursor.high cursor.direction = cursor := by
  cases cursor with
  | mk caret anchor =>
      by_cases ordered : anchor ≤ caret
      · simp [direction, isForward, ordered, spanning, low, high]
      · have reversed : caret ≤ anchor := by omega
        simp [direction, isForward, ordered, spanning, low, high, reversed]

end Cursor

/-- A selection as a host shows it: ordered ends, and which of them is the caret. -/
structure Selection where
  start : Nat
  stop : Nat
  direction : Direction
deriving DecidableEq, Repr, Inhabited

namespace Selection

def caret (offset : Nat) : Selection := ⟨offset, offset, .forward⟩

/-- The caret and anchor of a selection. -/
def toCursor (selection : Selection) : Cursor :=
  Cursor.spanning selection.start selection.stop selection.direction

def ofCursor (cursor : Cursor) : Selection := ⟨cursor.low, cursor.high, cursor.direction⟩

/-- Both ends brought down to `length` where they lie beyond it. -/
def clamped (selection : Selection) (length : Nat) : Selection :=
  ⟨min selection.start length, min selection.stop length, selection.direction⟩

@[simp] theorem toCursor_ofCursor (cursor : Cursor) : (ofCursor cursor).toCursor = cursor :=
  cursor.spanning_direction

@[simp] theorem toCursor_caret (offset : Nat) :
    (caret offset).toCursor = Cursor.collapsed offset := rfl

end Selection

end ModalVi
