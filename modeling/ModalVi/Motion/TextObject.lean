import ModalVi.Error
import ModalVi.Motion.Bracket
import ModalVi.Text.Word

namespace ModalVi

/-! Text objects: parts of a text that lie around a place.

An object is found by two readers that start at the same place, one backward to its start and one
forward to its end.  The inner object leaves out the delimiters or the white space after it; a count
carries the end further, or the pair outward. -/

inductive TextObject where
  | word
  | bigWord
  | sentence
  | paragraph
  | quoted (mark : Char)
  | block (opening closing : Char)
deriving DecidableEq, Repr

namespace TextObject

def ofKey (key : Char) : Except ParseError TextObject :=
  match key with
  | 'w' => .ok .word
  | 'W' => .ok .bigWord
  | 's' => .ok .sentence
  | 'p' => .ok .paragraph
  | '\'' | '"' => .ok (.quoted key)
  | '(' | ')' | 'b' => .ok (.block '(' ')')
  | '<' | '>' => .ok (.block '<' '>')
  | 'B' | '\x7b' | '\x7d' => .ok (.block '\x7b' '\x7d')
  | 't' => .error (.invalidMotion .tagObject)
  | _ => .error (.invalidMotion .unknownObject)

/-- The readers at the start and at the end of what was found so far. -/
structure Extent where
  start : Reader
  stop : Reader
deriving Repr

/-- Two readers at one place. -/
def Extent.atOffset (text : Text) (offset : Nat) : Extent :=
  ⟨Reader.backward text offset, Reader.forward text offset⟩

/-- Takes `count` runs with the white space between them, and that after the last one if `around`
is set. -/
def runs (run space : Reader → Reader) (around : Bool) (count : Nat) (reader : Reader) : Reader :=
  match count with
  | 0 => reader
  | count + 1 =>
      let last := run (reader.steps (fun reader => space (run reader)) count)
      if around then space last else last

/-- Whether a sentence ends between two neighbours of which the second was reached first: at the
full stop before, or at a blank line. -/
def sentenceStart (later earlier : Char) : Bool :=
  earlier == '.' || (later == '\n' && earlier == '\n')

/-- Whether two neighbours are the breaks around a blank line. -/
def blankLine (first second : Char) : Bool := first == '\n' && second == '\n'

/-- To the end of a sentence: past the next full stop or the next blank line, whichever comes
first. -/
def sentenceEnd (reader : Reader) : Reader :=
  let stopped := reader.skipThrough (· != '.')
  let blank := reader.pastPair blankLine
  if blank.offset < stopped.offset then blank else stopped

def sentences (around : Bool) (count : Nat) (reader : Reader) : Reader :=
  match count with
  | 0 => reader
  | count + 1 =>
      let further (reader : Reader) : Reader := sentenceEnd (reader.skipSpace.advance 1)
      let last := (sentenceEnd reader).steps further count
      if around then last.skipSpace else last

/-- To the end of a paragraph, its line break or all blank lines after it included. -/
def paragraphEnd (around : Bool) (reader : Reader) : Reader :=
  let ended := reader.toPair blankLine
  if around then ended.skipWhile (· == '\n')
  else if ended.peek = some '\n' then ended.advance 1 else ended

def paragraphs (around : Bool) (count : Nat) (reader : Reader) : Reader :=
  match count with
  | 0 => reader
  | count + 1 =>
      (paragraphEnd around reader).steps
        (fun reader => paragraphEnd around (reader.skipWhile (· == '\n'))) count

def toMark (mark : Char) (past : Bool) (reader : Reader) : Option Reader :=
  if reader.meetsEnd (· != mark) then
    some (if past then reader.skipThrough (· != mark) else reader.skipWhile (· != mark))
  else none

/-- Reads to the first `target` without a partner, and past it if `past` is set. -/
def toUnmatched (inner target : Char) (past : Bool) (reader : Reader) : Option Reader :=
  (firstUnmatched inner target 0 reader.ahead).map fun position =>
    reader.advance (if past then position + 1 else position)

/-- Goes outward over `count` pairs of delimiters; the last pair is included if `around` is set. -/
def outward (toStart toStop : (past : Bool) → Reader → Option Reader) (around : Bool) :
    (count : Nat) → Extent → Option Extent
  | 0, extent => some extent
  | count + 1, extent =>
      let past := around || count != 0
      match toStart past extent.start, toStop past extent.stop with
      | some start, some stop => outward toStart toStop around count ⟨start, stop⟩
      | _, _ => none

/-- Carries the two readers over the object. -/
def select (object : TextObject) (marks : Char → Bool) (around : Bool) (count : Nat)
    (extent : Extent) : Except ParseError Extent :=
  match object with
  | .word =>
      .ok ⟨extent.start.skipWordParts marks,
        runs (Reader.skipWordRun marks) Reader.skipSpace around count extent.stop⟩
  | .bigWord =>
      .ok ⟨extent.start.skipNonSpace,
        runs Reader.skipNonSpace Reader.skipLineSpace around count extent.stop⟩
  | .sentence =>
      .ok ⟨extent.start.toPair sentenceStart, sentences around count extent.stop⟩
  | .paragraph =>
      let first := (extent.start.toPair blankLine).turn .forward
      .ok ⟨(first.skipWhile (· == '\n')).turn .backward, paragraphs around count extent.stop⟩
  | .quoted mark =>
      match outward (toMark mark) (toMark mark) around count extent with
      | some extent => .ok extent
      | none => .error (.invalidMotion .noEnclosingQuote)
  | .block opening closing =>
      match outward (toUnmatched closing opening) (toUnmatched opening closing) around count
          extent with
      | some extent => .ok extent
      | none => .error (.invalidMotion .noEnclosingBracket)

end TextObject

end ModalVi
