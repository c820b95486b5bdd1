import ModalVi.Motion.Basic
import ModalVi.Text.Line

namespace ModalVi

/-! Where motions lead.

A motion moves the caret and leaves the anchor, so that an operator gets the span between the two
and a visual selection grows by it.  Text objects and doubled operator keys set both ends. -/

/-- What a motion starts from. -/
structure Standpoint where
  text : Text
  cursor : Cursor
  /-- Whether the line end includes the break, as in visual mode. -/
  visual : Bool
  /-- Whether a word motion stops at the end of the last word, as after `c`. -/
  change : Bool
  /-- Which characters are marks of punctuation. -/
  marks : Char → Bool

namespace Reader

/-- Past the next `count` line breaks, or past as many as there are.  The reader, which faces forward,
stays where it is in the last line. -/
def linesDown : (count : Nat) → Reader → Reader
  | 0, reader => reader
  | count + 1, reader =>
      let below := reader.pastLineBreak
      if reader.lineAhead.length = reader.ahead.length then reader else linesDown count below

/-- Up to the start of the line `count` lines above, or of the first line.  The reader stands at a
line start and faces backward. -/
def linesUp : (count : Nat) → Reader → Reader
  | 0, reader => reader
  | count + 1, reader =>
      if reader.ahead.isEmpty then reader else linesUp count (reader.advance 1).toLineBreak

/-- To the end of the sentence before, and over the white space after it.  The reader faces
backward. -/
def sentenceBackward (reader : Reader) : Reader :=
  let stopped := (reader.advance 1).toPair TextObject.sentenceStart
  if stopped.peek = some '.' then ((stopped.turn .forward).skipSpace).turn .backward else stopped

/-- To the start of the next sentence, or to the blanks after the next blank line. -/
def sentenceForward (reader : Reader) : Reader :=
  let stopped := (reader.advance 1).toPair fun first second =>
    first == '.' || TextObject.blankLine first second
  let passed := stopped.advance 1
  if stopped.peek = some '.' then passed.skipSpace else passed.skipBlanks

/-- Reading a character and then anything more leaves less ahead, unless nothing was. -/
theorem length_ahead_lt_of_advance {reader : Reader} {count : Nat}
    (unread : ((reader.advance 1).advance count).ahead ≠ []) :
    ((reader.advance 1).advance count).ahead.length < reader.ahead.length := by
  have left : 0 < ((reader.advance 1).advance count).ahead.length :=
    List.length_pos_iff.mpr unread
  simp only [ahead_advance, List.length_drop] at left ⊢
  omega

/-- From a line start up to the nearest empty line before it, or to the start of the text.  The
reader faces backward. -/
def toEmptyLineAbove (reader : Reader) : Reader :=
  let above := (reader.advance 1).toLineBreak
  if _ : above.ahead = [] ∨ above.offset + 1 = reader.offset then above
  else toEmptyLineAbove above
termination_by reader.ahead.length
decreasing_by exact length_ahead_lt_of_advance (not_or.mp ‹_›).1

/-- Down to the nearest empty line after the next character's, or to the end of the text. -/
def toEmptyLineBelow (reader : Reader) : Reader :=
  let below := (reader.advance 1).pastLineBreak
  if _ : below.ahead = [] ∨ below.peek = some '\n' then below
  else toEmptyLineBelow below
termination_by reader.ahead.length
decreasing_by exact length_ahead_lt_of_advance (not_or.mp ‹_›).1

end Reader

namespace Standpoint

/-- A standpoint with nothing selected. -/
def ofCaret (marks : Char → Bool) (text : Text) (caret : Nat) : Standpoint :=
  ⟨text, Cursor.collapsed caret, false, false, marks⟩

def reader (point : Standpoint) (direction : Direction) : Reader :=
  Reader.facing direction point.text point.cursor.caret

def lineStart (point : Standpoint) : Nat := point.text.lineStart point.cursor.caret

def firstNonBlank (point : Standpoint) (lineStart : Nat) : Nat :=
  (Reader.forward point.text lineStart).skipLineSpace.offset

/-- The place in the line at `lineStart` that is as far right as the caret in its own line. -/
def sameColumn (point : Standpoint) (lineStart : Nat) : Nat :=
  let column := (point.reader .backward).lineAhead.length
  ((Reader.forward point.text lineStart).advanceInLine column).offset

def moveTo (point : Standpoint) (offset : Nat) : Cursor := ⟨offset, point.cursor.anchor⟩

/-- The selection carried over an object without giving up what was selected before it. -/
def expand (point : Standpoint) (extent : TextObject.Extent) : Cursor :=
  let start := extent.start.offset
  let stop := extent.stop.offset
  if start ≤ stop then ⟨stop, min point.cursor.anchor start⟩
  else ⟨stop, max point.cursor.anchor start⟩

/-- The end of `count` words; before a change the white space after the last one is left alone. -/
def wordsForward (point : Standpoint) (big : Bool) (count : Nat) : Nat :=
  let step := if big then Reader.bigWordForward else Reader.wordForward point.marks
  let run := if big then Reader.skipNonSpace else Reader.skipWordRun point.marks
  let reader := point.reader .forward
  let moved :=
    if point.change then
      match count with
      | 0 => reader
      | count + 1 => run (reader.steps step count)
    else reader.steps step count
  moved.offset

def searchCharacter (point : Standpoint) (search : CharSearch) (repeated : Bool) (count : Nat) :
    Except ParseError Cursor :=
  match search.run repeated count point.text point.cursor.caret with
  | some offset => .ok (point.moveTo offset)
  | none => .error (.invalidMotion .characterNotFound)

/-- Where a motion with a count leads.  `memory` is the character search tried last. -/
def resolve (point : Standpoint) (memory : Option CharSearch) (count : Nat) :
    Motion → Except ParseError Cursor
  | .lineStart => .ok (point.moveTo point.lineStart)
  | .lineEnd =>
      let reader := point.reader .forward
      .ok (point.moveTo
        (if point.visual then reader.pastLineBreak else reader.toLineBreak).offset)
  | .firstNonBlank => .ok (point.moveTo (point.firstNonBlank point.lineStart))
  | .lineAbove =>
      let above := (point.reader .backward).steps Reader.pastLineBreak count
      .ok (point.moveTo (point.firstNonBlank above.toLineBreak.offset))
  | .lineBelow =>
      let below := (point.reader .forward).steps Reader.pastLineBreak count
      .ok (point.moveTo (point.firstNonBlank (below.turn .backward).toLineBreak.offset))
  | .wordForward big => .ok (point.moveTo (point.wordsForward big count))
  | .wordBackward big =>
      let step := if big then Reader.bigWordBackward else Reader.wordBackward point.marks
      .ok (point.moveTo ((point.reader .backward).steps step count).offset)
  | .wordEnd big =>
      let step := if big then Reader.bigWordEnd else Reader.wordEnd point.marks
      .ok (point.moveTo ((point.reader .forward).steps step count).offset)
  | .left => .ok (point.moveTo ((point.reader .backward).advanceInLine count).offset)
  | .right => .ok (point.moveTo ((point.reader .forward).advanceInLine count).offset)
  | .down =>
      let below := (Reader.forward point.text point.lineStart).linesDown count
      .ok (point.moveTo (point.sameColumn below.offset))
  | .up =>
      let above := ((point.reader .backward).toLineBreak).linesUp count
      .ok (point.moveTo (point.sameColumn above.offset))
  | .sentenceBackward =>
      .ok (point.moveTo ((point.reader .backward).steps Reader.sentenceBackward count).offset)
  | .sentenceForward =>
      .ok (point.moveTo ((point.reader .forward).steps Reader.sentenceForward count).offset)
  | .charSearch search => point.searchCharacter search false count
  | .searchAgain reversed =>
      match memory with
      | none => .error (.invalidMotion .noCharSearch)
      | some search =>
          point.searchCharacter (if reversed then search.reversed else search) true count
  | .object around object => do
      let extent ← object.select point.marks around count
        (TextObject.Extent.atOffset point.text point.cursor.caret)
      .ok (point.expand extent)
  | .lastCharacter => .ok (point.moveTo (point.text.length - 1))
  | .line => .ok (point.moveTo ((Reader.forward point.text 0).linesDown (count - 1)).offset)
  | .matchingBracket =>
      match ModalVi.matchingBracket point.text point.cursor.caret with
      | some offset => .ok (point.moveTo offset)
      | none => .error (.invalidMotion .noMatchingBracket)
  | .paragraphBackward =>
      let step (reader : Reader) : Reader := reader.toLineBreak.toEmptyLineAbove
      .ok (point.moveTo ((point.reader .backward).steps step count).offset)
  | .paragraphForward =>
      .ok (point.moveTo ((point.reader .forward).steps Reader.toEmptyLineBelow count).offset)
  | .wholeLines =>
      let stop := (point.reader .forward).steps Reader.pastLineBreak count
      .ok ⟨stop.offset, point.lineStart⟩

end Standpoint

end ModalVi
