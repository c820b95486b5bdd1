import ModalVi.Text.Basic

namespace ModalVi

/-! The change that `.` repeats: the keys of a command, and the text typed after it. -/

/-- The last change, and the typing that is still going on. -/
structure LastChange where
  /-- The keys of the command; none if only text was typed. -/
  keys : List Char
  typed : Text
  /-- Whether the text being typed belongs to the command. -/
  capturing : Bool
  /-- How many changes there were when typing began. -/
  mark : Option Nat
deriving DecidableEq, Repr, Inhabited

namespace LastChange

/-- Nothing was changed yet. -/
def empty : LastChange := ⟨[], [], false, none⟩

/-- Whether there is nothing to repeat. -/
def isEmpty (last : LastChange) : Bool := last.keys.isEmpty && last.typed.isEmpty

/-- Remembers a command that changed the text.  What is typed next belongs to it if it led to insert
mode. -/
def recordCommand (keys : List Char) (inserting : Bool) (last : LastChange) : LastChange :=
  { last with keys := keys, typed := [], capturing := inserting }

def beginTyping (mark : Nat) (last : LastChange) : LastChange := { last with mark := some mark }

/-- Notes that typing ended with `typed`.  Text that belongs to no command is a change of its own,
unless it is empty. -/
def finishTyping (typed : Text) (last : LastChange) : LastChange :=
  if last.capturing then { last with typed := typed, capturing := false, mark := none }
  else if typed.isEmpty then { last with mark := none }
  else { last with keys := [], typed := typed, mark := none }

end LastChange

end ModalVi
