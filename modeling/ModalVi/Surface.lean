import ModalVi.Cursor
import ModalVi.Text.Basic

namespace ModalVi

/-! The host's text field.

The engine reads the text and the selection, asks for edits, and scrolls.  The host may refuse any
edit that the engine asks for; its verdicts on the coming ones are part of the surface.  What the
user types into the field reaches it without being asked for. -/

/-- A text field: its text, selection and scroll position, and what the host will allow. -/
structure Surface where
  text : Text
  selection : Selection
  /-- Pixels scrolled down. -/
  scroll : Int
  /-- Height of the visible part in pixels. -/
  height : Int
  /-- Whether the field has several lines. -/
  multiline : Bool
  /-- Whether the host accepts each coming edit by the engine, next first. -/
  verdicts : Nat → Bool

namespace Surface

/-- A field of several lines with the caret at the start, whose host accepts every edit. -/
def ofText (text : Text) : Surface := ⟨text, Selection.caret 0, 0, 400, true, fun _ => true⟩

/-- The field with `selection` selected, as far as the text reaches. -/
def select (selection : Selection) (surface : Surface) : Surface :=
  { surface with selection := selection.clamped surface.text.length }

/-- The field with the caret at `offset`, or at the end of the text if that is nearer. -/
def withCaret (offset : Nat) (surface : Surface) : Surface :=
  surface.select (Selection.caret offset)

/-- Replaces the characters from `start` to `stop` and selects what replaced them.  There is no such
edit if the span is reversed or reaches beyond the text. -/
def replace? (start stop : Nat) (new : Text) (surface : Surface) : Option Surface :=
  if start ≤ stop ∧ stop ≤ surface.text.length then
    some { surface with
      text := surface.text.splice start stop new
      selection := ⟨start, start + new.length, .forward⟩ }
  else none

/-- An edit that the engine asks for: whether the host made it, and the field afterwards. -/
def edit (start stop : Nat) (new : Text) (surface : Surface) : Bool × Surface :=
  let judged := { surface with verdicts := fun index => surface.verdicts (index + 1) }
  if surface.verdicts 0 then
    match judged.replace? start stop new with
    | some edited => (true, edited)
    | none => (false, judged)
  else (false, judged)

/-- The field after the user typed `text` over the selection. -/
def type (text : Text) (surface : Surface) : Surface :=
  match surface.replace? surface.selection.start surface.selection.stop text with
  | some edited =>
      { edited with selection := Selection.caret (surface.selection.start + text.length) }
  | none => surface

/-- The field scrolled by `pixels`, not beyond the top. -/
def scrollBy (pixels : Int) (surface : Surface) : Surface :=
  { surface with scroll := max (surface.scroll + pixels) 0 }

/-- The field of a host that accepts every edit to come, or none. -/
def withPolicy (accepting : Bool) (surface : Surface) : Surface :=
  { surface with verdicts := fun _ => accepting }

end Surface

end ModalVi
