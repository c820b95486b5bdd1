import ModalVi.Regex.CharSet

namespace ModalVi.Regex

/-! Regular expressions as trees. -/

/-- Which side of a word a place lies at. -/
inductive WordEdge where
  | boundary
  | noBoundary
  | start
  | stop
  | startHalf
  | stopHalf
deriving DecidableEq, Repr

/-- A condition on the place between two characters. -/
inductive Look where
  | textStart
  | textEnd
  | lineStart
  | lineEnd
  /-- As `lineStart`, where a carriage return also breaks lines. -/
  | anyLineStart
  /-- As `lineEnd`, where a carriage return also breaks lines. -/
  | anyLineEnd
  /-- At an edge of a word, made up of ASCII characters only if `ascii` is set. -/
  | word (edge : WordEdge) (ascii : Bool)
deriving DecidableEq, Repr

namespace Look

/-- Whether an edge lies between a character that may be part of a word and one that may be. -/
def atEdge (wordBefore wordAfter : Bool) : WordEdge → Bool
  | .boundary => wordBefore != wordAfter
  | .noBoundary => wordBefore == wordAfter
  | .start => !wordBefore && wordAfter
  | .stop => wordBefore && !wordAfter
  | .startHalf => !wordBefore
  | .stopHalf => !wordAfter

/-- Whether the condition holds between the character before and the one after; there is none at the
start and at the end of the text. -/
def holds (before after : Option Char) : Look → Bool
  | .textStart => before.isNone
  | .textEnd => after.isNone
  | .lineStart => before.all (· == '\n')
  | .lineEnd => after.all (· == '\n')
  | .anyLineStart => before.all fun c => c == '\n' || (c == '\r' && after != some '\n')
  | .anyLineEnd => after.all fun c => c == '\r' || (c == '\n' && before != some '\r')
  | .word edge ascii =>
      let isWord := (if ascii then CharSet.asciiWord else CharSet.word).contains
      atEdge (before.any isWord) (after.any isWord) edge

end Look

/-- A regular expression. -/
inductive Pattern where
  | empty
  /-- One character of a set. -/
  | oneOf (set : CharSet)
  | look (look : Look)
  /-- Matches nothing and notes the place under a number. -/
  | mark (slot : Nat)
  | seq (first second : Pattern)
  /-- The first of the two is preferred. -/
  | alt (first second : Pattern)
  /-- `body` at least `min` times and up to `more` times more, without limit if that is not given.
  A greedy repetition prefers more, any other prefers fewer. -/
  | repeated (body : Pattern) (min : Nat) (more : Option Nat) (greedy : Bool)
  /-- What is left of a repetition without limit once it may end. -/
  | loop (body : Pattern) (greedy : Bool)
deriving DecidableEq, Repr

namespace Pattern

/-- Whether the expression never matches a character. -/
def isZeroWidth : Pattern → Bool
  | .empty | .look _ | .mark _ => true
  | .oneOf _ => false
  | .seq first second | .alt first second => first.isZeroWidth && second.isZeroWidth
  | .repeated body _ _ _ | .loop body _ => body.isZeroWidth

/-- One expression after the other. -/
def sequence : List Pattern → Pattern
  | [] => .empty
  | [pattern] => pattern
  | pattern :: rest => .seq pattern (sequence rest)

/-- One expression or the other, earlier ones preferred. -/
def choice : List Pattern → Pattern
  | [] => .empty
  | [pattern] => pattern
  | pattern :: rest => .alt pattern (choice rest)

/-- The expression between the marks of group `index`. -/
def group (index : Nat) (body : Pattern) : Pattern :=
  .seq (.mark (2 * index)) (.seq body (.mark (2 * index + 1)))

/-- Repetition from `min` to `max` times.  An expression that never matches a character is not tried
more than once. -/
def repetition (body : Pattern) (min : Nat) (max : Option Nat) (greedy : Bool) : Pattern :=
  let (min, max) :=
    if body.isZeroWidth then (Nat.min min 1, some (Nat.min (max.getD 1) 1)) else (min, max)
  match max with
  | none => .repeated body min none greedy
  | some max =>
      if max = 0 then .empty
      else if min = 1 ∧ max = 1 then body
      else .repeated body min (some (max - min)) greedy

end Pattern

end ModalVi.Regex
