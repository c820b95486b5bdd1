namespace ModalVi

/-! The modes of a session. -/

/-- How a visual selection grows. -/
inductive VisualKind where
  | characters
  | lines
deriving DecidableEq, Repr

/-- The kind as the status line shows it. -/
def VisualKind.label : VisualKind → String
  | .characters => "VISUAL"
  | .lines => "VISUAL LINE"

/-- Who handles keys, and what they do. -/
inductive Mode where
  /-- The host edits; the session only looks out for the key that ends this. -/
  | insert
  /-- Keys are commands. -/
  | command
  /-- Keys move an end of the selection or act on it. -/
  | visual (kind : VisualKind)
deriving DecidableEq, Repr

namespace Mode

/-- The mode as the status line shows it. -/
def label : Mode → String
  | .insert => "INSERT"
  | .command => "COMMAND"
  | .visual kind => kind.label

/-- Whether the session handles keys. -/
def isEngineOwned (mode : Mode) : Bool := mode != .insert

/-- Whether a selection is being made. -/
def isVisual : Mode → Bool
  | .visual _ => true
  | _ => false

/-- Whether a selection of whole lines is being made. -/
def isVisualLine (mode : Mode) : Bool := mode == .visual .lines

end Mode

end ModalVi
