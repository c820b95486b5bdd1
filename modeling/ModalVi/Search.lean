import ModalVi.Cursor
import ModalVi.Error
import ModalVi.Library

namespace ModalVi

/-! Searching a text for a pattern.

A pattern is a literal text or a regular expression.  Forward, the search starts one character after
the caret and wraps around to the first match; backward, it takes the last match that ends before the
caret and wraps around to the last one.  The matcher of the last expression is kept and built anew
only when the expression changes. -/

namespace Finder

/-- The match that starts last, among those that start at `offset` or later, if any does, and `best`
otherwise.  Every step of `fuel` goes on after the start of the match before. -/
def lastFrom (find : Finder) (text : Text) : (fuel offset : Nat) →
    (best : Option (Nat × Nat)) → Option (Nat × Nat)
  | 0, _, best => best
  | fuel + 1, offset, best =>
      match find text offset with
      | none => best
      | some (start, stop) =>
          if start < text.length then lastFrom find text fuel (start + 1) (some (start, stop))
          else some (start, stop)

/-- The match that starts last, matches that overlap others included. -/
def last (find : Finder) (text : Text) : Option (Nat × Nat) :=
  lastFrom find text (text.length + 1) 0 none

/-- The first match that starts after `caret`, or else the first of all. -/
def forward (find : Finder) (text : Text) (caret : Nat) : Option (Nat × Nat) :=
  (find text (min (caret + 1) text.length)).or (find text 0)

/-- The last match in the text before `caret`, or else the last of all. -/
def backward (find : Finder) (text : Text) (caret : Nat) : Option (Nat × Nat) :=
  (find.last (text.take caret)).or (find.last text)

end Finder

inductive SearchPattern where
  | none
  | literal (text : Text)
  | expression (source : Text)
deriving DecidableEq, Repr, Inhabited

namespace SearchPattern

/-- The pattern after a character that tells its kind. -/
def marked : SearchPattern → Text
  | .none => []
  | .literal text => ' ' :: text
  | .expression source => '/' :: source

/-- The regular expression to search with. -/
def source? (library : Library) : SearchPattern → Option Text
  | .none => Option.none
  | .literal text => some (library.escape text)
  | .expression source => some source

/-- Whether the pattern was given as a regular expression. -/
def isExpression : SearchPattern → Bool
  | .expression _ => true
  | _ => false

/-- The pattern of a line entered at a prompt: an expression after a slash, or a literal text. -/
def entered : Text → SearchPattern
  | '/' :: source => .expression source
  | line => .literal line

def wholeWord (library : Library) (word : Text) : SearchPattern :=
  .expression (['\\', 'b'] ++ library.escape word ++ ['\\', 'b'])

end SearchPattern

structure Search where
  pattern : SearchPattern
  direction : Direction
  /-- The expression built last, and its finder. -/
  compiled : Option (Text × Finder)
  /-- How many finders were built. -/
  compilations : Nat

namespace Search

/-- Nothing was searched for yet. -/
def empty : Search := ⟨.none, .forward, none, 0⟩

def set (pattern : SearchPattern) (direction : Direction) (search : Search) : Search :=
  { search with pattern := pattern, direction := direction }

/-- Changes the direction only. -/
def setDirection (direction : Direction) (search : Search) : Search :=
  { search with direction := direction }

def hasPattern (search : Search) : Bool := search.pattern != .none

/-- The finder of an expression: the one built last if it is for the same expression, or a new one.
An expression that cannot be built leaves everything as it is. -/
def finderOf (library : Library) (source : Text) (search : Search) :
    Except String Finder × Search :=
  let kept := search.compiled.filter fun (built, _) => built == source
  match kept with
  | some (_, find) => (.ok find, search)
  | none =>
      match library.compile source with
      | .error fault => (.error fault, search)
      | .ok find =>
          (.ok find,
            { search with
              compiled := some (source, find), compilations := search.compilations + 1 })

/-- Searches from `caret`, against the remembered direction if `reversed` is set.  The answer is an
error for a pattern that is no expression, and nothing for one that is not found. -/
def find (library : Library) (text : Text) (caret : Nat) (reversed : Bool) (search : Search) :
    Except EditError (Option (Nat × Nat)) × Search :=
  let direction := if reversed then search.direction.flip else search.direction
  match search.pattern.source? library with
  | none => (.ok none, search)
  | some source =>
      match search.finderOf library source with
      | (.error fault, search) => (.error (.searchPattern fault), search)
      | (.ok find, search) =>
          match direction with
          | .forward => (.ok (find.forward text caret), search)
          | .backward => (.ok (find.backward text caret), search)

end Search

end ModalVi
