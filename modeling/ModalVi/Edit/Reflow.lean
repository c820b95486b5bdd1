import ModalVi.Text.Basic

namespace ModalVi

/-! Filling paragraphs again.

A paragraph is a run of lines that are not blank and share their leading blanks and their prefix.
Its words are put back one after the other, as many on a line as keep it shorter than the width.  A
prefix such as `#` is repeated before every line, and a line that begins with `- ` opens a list item
whose further lines hang by two spaces. -/

namespace Reflow

/-- A line taken apart: leading blanks, the prefix if it has one, and the rest without white space
at its ends. -/
structure Line where
  lead : Text
  marker : Option Text
  content : Text
deriving DecidableEq, Repr

/-- The longest of the markers that starts `body` and is followed by white space or nothing. -/
def longestMarker (markers : List Text) (body : Text) : Option Text :=
  let fits (marker : Text) : Bool :=
    !marker.isEmpty && marker.isPrefixOf body &&
      (body.drop marker.length).head?.all Unicode.isWhitespace
  (markers.filter fits).foldl
    (fun best marker =>
      match best with
      | some longest => if longest.length ≤ marker.length then some marker else some longest
      | none => some marker)
    none

namespace Line

/-- Takes a line apart. -/
def parse (markers : List Text) (line : Text) : Line :=
  let blank (c : Char) : Bool := c == ' ' || c == '\t'
  let body := line.dropWhile blank
  let marker := longestMarker markers body
  ⟨line.takeWhile blank, marker, Text.trim (body.drop ((marker.getD []).length))⟩

/-- Whether nothing but blanks and a prefix stands on the line. -/
def isBlank (line : Line) : Bool := line.content.isEmpty

def isListItem (line : Line) : Bool :=
  line.content == ['-'] || ['-', ' '].isPrefixOf line.content

/-- What a blank line keeps: its prefix with the blanks before it. -/
def kept (line : Line) : Text :=
  match line.marker with
  | some marker => line.lead ++ marker
  | none => Text.trimEnd line.lead

/-- The two spaces by which the further lines of a list item hang. -/
def hanging : Text := [' ', ' ']

/-- Whether `line` goes on with the paragraph that `first` opens. -/
def continues (first line : Line) : Bool :=
  if line.isBlank || line.isListItem || line.marker != first.marker then false
  else
    line.lead == first.lead ||
      (first.marker.isNone && first.isListItem && line.lead == first.lead ++ hanging)

/-- What every line of the paragraph begins with. -/
def head (first : Line) : Text :=
  match first.marker with
  | some marker => first.lead ++ marker ++ [' ']
  | none => first.lead

def furtherHead (first : Line) : Text :=
  if first.isListItem then first.head ++ hanging else first.head

end Line

/-- A blank line, or a paragraph with its opening line and its words. -/
inductive Block where
  | blank (line : Line)
  | paragraph (first : Line) (words : List Text)
deriving DecidableEq, Repr

/-- The blocks of a text, given the paragraph that is still open. -/
def blocksFrom : Option (Line × List Text) → List Line → List Block
  | none, [] => []
  | some (first, words), [] => [.paragraph first words]
  | none, line :: rest =>
      if line.isBlank then .blank line :: blocksFrom none rest
      else blocksFrom (some (line, Text.words line.content)) rest
  | some (first, words), line :: rest =>
      if Line.continues first line then
        blocksFrom (some (first, words ++ Text.words line.content)) rest
      else
        .paragraph first words ::
          (if line.isBlank then .blank line :: blocksFrom none rest
          else blocksFrom (some (line, Text.words line.content)) rest)

/-- Fills lines with words.  `line` is the line so far, and `fresh` tells that no word is on it. -/
def fillFrom (width : Nat) (furtherHead : Text) : (line : Text) → (fresh : Bool) →
    List Text → List Text
  | line, _, [] => [line]
  | line, true, word :: rest => fillFrom width furtherHead (line ++ word) false rest
  | line, false, word :: rest =>
      if width ≤ line.length + 1 + word.length then
        line :: fillFrom width furtherHead (furtherHead ++ word) false rest
      else fillFrom width furtherHead (line ++ ' ' :: word) false rest

def Block.lines (width : Nat) : Block → List Text
  | .blank line => [line.kept]
  | .paragraph first words => fillFrom width first.furtherHead first.head true words

end Reflow

/-- The text with its paragraphs filled to lines shorter than `width`. -/
def Text.reflow (width : Nat) (markers : List Text) (text : Text) : Text :=
  let (body, broken) := splitFinalBreak text
  let blocks := Reflow.blocksFrom none ((Text.lines body).map (Reflow.Line.parse markers))
  let filled := Text.ofLines (blocks.flatMap (Reflow.Block.lines width))
  if broken then filled ++ ['\n'] else filled

end ModalVi
