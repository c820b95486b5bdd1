import ModalVi.Error
import ModalVi.Text.Reader

namespace ModalVi

/-! Searching for a character on the caret's line. -/

/-- What a character search looks for, remembered so that it can be repeated. -/
structure CharSearch where
  target : Char
  direction : Direction
  /-- Whether to stop next to the character instead of on it. -/
  before : Bool
deriving DecidableEq, Repr

namespace CharSearch

/-- The same search the other way. -/
def reversed (search : CharSearch) : CharSearch :=
  { search with direction := search.direction.flip }

/-- Reads to the first `target` of the line, or fails. -/
def reach (target : Char) (reader : Reader) : Option Reader :=
  let reader := reader.skipWhile fun c => c != target && c != '\n'
  if reader.peek = some target then some reader else none

/-- Reads to the `count`th target.  Before every one the reader leaves the character it stands on,
unless that breaks the line, so of two adjacent targets only one is counted. -/
def reachForward (target : Char) : (count : Nat) → Reader → Option Reader
  | 0, reader => some reader
  | count + 1, reader =>
      let reader := if reader.peek.any (· != '\n') then reader.advance 1 else reader
      (reach target reader).bind fun found =>
        if count = 0 then some found else reachForward target count (found.advance 1)

/-- Reads backward to the `count`th target and stops after it in the text. -/
def reachBackward (target : Char) : (count : Nat) → Reader → Option Reader
  | 0, reader => some reader
  | count + 1, reader =>
      (reach target reader).bind fun found =>
        if count = 0 then some found else reachBackward target count (found.advance 1)

/-- Where the search leads from `offset`.  A repeated search that stops next to its target first
leaves the target that it stopped next to. -/
def run (search : CharSearch) (repeated : Bool) (count : Nat) (text : Text) (offset : Nat) :
    Option Nat :=
  match search.direction with
  | .forward =>
      let reader := Reader.forward text offset
      let adjacent := search.before && repeated && text[offset + 1]? == some search.target
      (reachForward search.target count (if adjacent then reader.advance 1 else reader)).map
        fun found => if search.before then max (found.offset - 1) offset else found.offset
  | .backward =>
      let reader := Reader.backward text offset
      let adjacent := search.before && repeated && reader.peek == some search.target
      (reachBackward search.target count (if adjacent then reader.advance 1 else reader)).map
        fun found => if search.before then found.offset else (found.advance 1).offset

end CharSearch

end ModalVi
