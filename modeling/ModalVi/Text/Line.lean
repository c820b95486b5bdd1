import ModalVi.Text.Word

namespace ModalVi.Text

/-! Lines of a text by offset and by number, counted from zero. -/

def lineStart (text : Text) (offset : Nat) : Nat := (Reader.backward text offset).toLineBreak.offset

/-- The start of the line after the one that holds `offset`, or the end of the text. -/
def nextLineStart (text : Text) (offset : Nat) : Nat :=
  (Reader.forward text offset).pastLineBreak.offset

/-- The first place from `offset` on that is not before a space or a tab. -/
def indentEnd (text : Text) (offset : Nat) : Nat := (Reader.forward text offset).skipBlanks.offset

/-- The end, before its break, of the line `count - 1` lines below the reader's own, or of the last
line if there are fewer. -/
def lineEndBelow : (count : Nat) → Reader → Reader
  | 0, reader => reader
  | 1, reader => reader.toLineBreak
  | count + 2, reader =>
      let ended := reader.toLineBreak
      if ended.ahead.isEmpty then ended else lineEndBelow (count + 1) (ended.advance 1)

/-- The end, before its break, of the `count`th line from `offset`; the first is its own. -/
def nthLineEnd (text : Text) (offset count : Nat) : Nat :=
  (lineEndBelow count (Reader.forward text offset)).offset

def lineCount (text : Text) : Nat := text.count '\n' + 1

def lineOf (text : Text) (offset : Nat) : Nat := (text.take offset).count '\n'

/-- The number of characters before line `line`; the whole length if there are fewer lines. -/
def startOfLine : (line : Nat) → Text → Nat
  | 0, _ => 0
  | _ + 1, [] => 0
  | line + 1, c :: rest =>
      (if c == '\n' then startOfLine line rest else startOfLine (line + 1) rest) + 1

end ModalVi.Text
