import ModalVi.Error
import ModalVi.Text.Basic

namespace ModalVi

/-! The host's clipboard.  Any access may fail; what becomes of the coming ones is part of it. -/

/-- What the clipboard holds, and which coming accesses fail. -/
structure Clipboard where
  content : Text
  /-- The failure of each coming access, if it fails, next first. -/
  faults : Nat → Option ClipboardError

namespace Clipboard

def ofText (content : Text) : Clipboard := ⟨content, fun _ => none⟩

/-- A clipboard on which every access fails in one way. -/
def failing (error : ClipboardError) : Clipboard := ⟨[], fun _ => some error⟩

def accessed (clipboard : Clipboard) : Clipboard :=
  { clipboard with faults := fun index => clipboard.faults (index + 1) }

def write (text : Text) (clipboard : Clipboard) : Except ClipboardError Unit × Clipboard :=
  match clipboard.faults 0 with
  | some error => (.error error, clipboard.accessed)
  | none => (.ok (), { clipboard.accessed with content := text })

def read (clipboard : Clipboard) : Except ClipboardError Text × Clipboard :=
  match clipboard.faults 0 with
  | some error => (.error error, clipboard.accessed)
  | none => (.ok clipboard.content, clipboard.accessed)

end Clipboard

end ModalVi
