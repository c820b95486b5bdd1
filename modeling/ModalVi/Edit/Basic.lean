import ModalVi.Text.Basic
import ModalVi.Unicode.Casing

namespace ModalVi

/-! What becomes of a range of a text that is indented, joined, or put in the other case. -/

/-- The other case of a character.  It may take several characters; one without case stays. -/
def swappedCase (c : Char) : Text :=
  if Unicode.isUppercase c then Unicode.lowered c
  else if Unicode.isLowercase c then Unicode.raised c
  else [c]

namespace Text

def swapCase (text : Text) : Text := text.flatMap swappedCase

/-! ### Indenting and unindenting lines by one unit -/

/-- Puts `unit` before every line that is not empty.  The text begins a line if `fresh` is set. -/
def indentFrom (unit : Text) : (fresh : Bool) → Text → Text
  | _, [] => []
  | fresh, c :: rest =>
      let rest := c :: indentFrom unit (c == '\n') rest
      if fresh && c != '\n' then unit ++ rest else rest

/-- Puts `unit` before every line that is not empty.  A range that ends after a line break leaves the
next line alone. -/
def indent (text unit : Text) : Text := indentFrom unit true text

/-- A line without one level of indentation: without a leading tab, or else without `unit`. -/
def unindentLine (unit line : Text) : Text :=
  match line with
  | '\t' :: rest => rest
  | _ => if unit.isPrefixOf line then line.drop unit.length else line

/-- Takes one level of indentation off every line. -/
def unindent (text unit : Text) : Text := (brokenLines text).flatMap (unindentLine unit)

/-! ### Joining lines -/

/-- Lines after the first, without the white space at each join. -/
def trimLaterLines : List Text → List Text
  | [] => []
  | [line] => [trimStart line]
  | line :: rest => trimEnd (trimStart line) :: trimLaterLines rest

/-- Lines without the white space at each join.  The start of the first and the end of the last stay
as they are. -/
def trimJoints : List Text → List Text
  | [] => []
  | [line] => [line]
  | line :: rest => trimEnd line :: trimLaterLines rest

/-- Joins the lines of a text with `between`, and tells the offset of the last join.  A final line
break is kept. -/
def join (text between : Text) : Text × Nat :=
  let (body, broken) := splitFinalBreak text
  let lines := trimJoints (Text.lines body)
  let joined := between.intercalate lines
  (if broken then joined ++ ['\n'] else joined, (between.intercalate lines.dropLast).length)

end Text

end ModalVi
