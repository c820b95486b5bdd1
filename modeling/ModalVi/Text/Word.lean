import ModalVi.Text.Reader

namespace ModalVi

/-! Words in a text.

Every character is white space, punctuation, or part of a word; symbols such as `+` are parts of
words, and so is the underscore.  A word is a longest run of word characters, and a big word a
longest run without white space.  Which characters are marks of punctuation is a parameter. -/

variable (marks : Char → Bool)

def isPunctuation (c : Char) : Bool := c != '_' && marks c

def isWordPart (c : Char) : Bool := !Unicode.isWhitespace c && !isPunctuation marks c

namespace Reader

def skipSpace (reader : Reader) : Reader := reader.skipWhile Unicode.isWhitespace

def skipLineSpace (reader : Reader) : Reader :=
  reader.skipWhile fun c => c != '\n' && Unicode.isWhitespace c

def skipNonSpace (reader : Reader) : Reader := reader.skipWhile fun c => !Unicode.isWhitespace c

def skipWordParts (reader : Reader) : Reader := reader.skipWhile (isWordPart marks)

def skipPunctuation (reader : Reader) : Reader := reader.skipWhile (isPunctuation marks)

/-- Skips spaces and tabs. -/
def skipBlanks (reader : Reader) : Reader := reader.skipWhile fun c => c == ' ' || c == '\t'

/-- Skips the rest of the word, or of the punctuation if no word character is next. -/
def skipWordRun (reader : Reader) : Reader :=
  let moved := reader.skipWordParts marks
  if moved.offset = reader.offset then moved.skipPunctuation marks else moved

/-- To the start of the next word. -/
def wordForward (reader : Reader) : Reader := (reader.skipWordRun marks).skipSpace

def wordBackward (reader : Reader) : Reader :=
  let moved := reader.skipSpace
  if moved.peek.any (isPunctuation marks) then moved.skipPunctuation marks
  else moved.skipWordParts marks

def wordEnd (reader : Reader) : Reader := reader.skipSpace.skipWordRun marks

def bigWordForward (reader : Reader) : Reader := reader.skipNonSpace.skipSpace

/-- To the start of the big word before; the reader faces backward. -/
def bigWordBackward (reader : Reader) : Reader := reader.skipSpace.skipNonSpace

def bigWordEnd (reader : Reader) : Reader := reader.skipSpace.skipNonSpace

end Reader

namespace Text

/-- The ends of the word that `offset` touches.  They agree if it touches none. -/
def wordAround (text : Text) (offset : Nat) : Nat × Nat :=
  (((Reader.backward text offset).skipWordParts marks).offset,
    ((Reader.forward text offset).skipWordParts marks).offset)

end Text

end ModalVi
