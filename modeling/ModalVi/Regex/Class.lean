import ModalVi.Regex.Escape

namespace ModalVi.Regex

/-! Bracketed classes.

A class is a union of characters, ranges, escapes and classes in it; `&&`, `--` and `~~` intersect,
subtract and compare what stands on their sides, from left to right. -/

inductive ClassOperation where
  | intersection
  | difference
  | symmetricDifference
deriving Repr

/-- A class of which only the front was read. -/
inductive OpenClass where
  /-- A bracket, and the union read in the class around it. -/
  | bracket (negated : Bool) (around : CharSet)
  /-- What stands before an operation. -/
  | pending (operation : ClassOperation) (left : CharSet)
deriving Repr

namespace OpenClass

/-- The result of an operation.  Ignoring case widens both sides first. -/
def apply (flags : Flags) (operation : ClassOperation) (left right : CharSet) : CharSet :=
  let left := left.adjusted flags false
  let right := right.adjusted flags false
  match operation with
  | .intersection => .intersection left right
  | .difference => left.difference right
  | .symmetricDifference => left.symmetricDifference right

/-- Carries out the operation that waits for its right side, if one does. -/
def settle (flags : Flags) (right : CharSet) : List OpenClass → CharSet × List OpenClass
  | .pending operation left :: outer => (apply flags operation left right, outer)
  | outer => (right, outer)

def asciiNames : List (String × CharSet) :=
  [("alnum", .ofRanges [(0x30, 0x39), (0x41, 0x5a), (0x61, 0x7a)]),
    ("alpha", .ofRanges [(0x41, 0x5a), (0x61, 0x7a)]),
    ("ascii", .range 0x0 0x7f),
    ("blank", .ofRanges [(0x9, 0x9), (0x20, 0x20)]),
    ("cntrl", .ofRanges [(0x0, 0x1f), (0x7f, 0x7f)]),
    ("digit", .range 0x30 0x39),
    ("graph", .range 0x21 0x7e),
    ("lower", .range 0x61 0x7a),
    ("print", .range 0x20 0x7e),
    ("punct", .ofRanges [(0x21, 0x2f), (0x3a, 0x40), (0x5b, 0x60), (0x7b, 0x7e)]),
    ("space", .ofRanges [(0x9, 0xd), (0x20, 0x20)]),
    ("upper", .range 0x41 0x5a),
    ("word", .ofRanges [(0x30, 0x39), (0x41, 0x5a), (0x5f, 0x5f), (0x61, 0x7a)]),
    ("xdigit", .ofRanges [(0x30, 0x39), (0x41, 0x46), (0x61, 0x66)])]

/-- Reads a named set such as `[:alpha:]` from its colon on: whether its complement is meant, the set,
and what follows. -/
def readName : Text → Option (Bool × CharSet × Text)
  | ':' :: rest =>
      let negated := rest.head? == some '^'
      let rest := if negated then rest.drop 1 else rest
      let name := rest.takeWhile (· != ':')
      match asciiNames.lookup (String.ofList name), rest.drop name.length with
      | some members, ':' :: ']' :: rest => some (negated, members, rest)
      | _, _ => none
  | _ => none

/-- A set read in a class, or its complement.  Without Unicode a complement is refused because it
would match parts of characters. -/
def completed (flags : Flags) (negated : Bool) (members : CharSet) : Option CharSet :=
  if negated && !flags.unicode then none else some (members.adjusted flags negated)

/-- Reads a character or an escape inside a class. -/
def readItem (flags : Flags) : Text → Option (Escape × Text)
  | [] => none
  | '\\' :: rest => Escape.read flags rest
  | c :: rest => some (.literal c, rest)

/-- The set of one item; conditions cannot stand in a class. -/
def itemSet (flags : Flags) : Escape → Option CharSet
  | .literal c => if !flags.unicode && 0x80 ≤ c.toNat then none else some (.single c)
  | .set members => some members
  | .look _ => none

def readRange (flags : Flags) (source : Text) : Option (CharSet × Text) := do
  let (first, rest) ← readItem flags source
  let rest := flags.skip rest
  match rest with
  | [] => none
  | '-' :: beyond =>
      match (flags.skip beyond).head? with
      | some ']' | some '-' => (itemSet flags first).map (·, rest)
      | _ =>
          let (last, rest) ← readItem flags (flags.skip beyond)
          match first, last with
          | .literal low, .literal high =>
              if high < low || (!flags.unicode && 0x80 ≤ high.toNat) then none
              else some (.range low.toNat high.toNat, rest)
          | _, _ => none
  | _ => (itemSet flags first).map (·, rest)

/-- Reads what may stand right after an opening bracket: a negation sign, hyphens, and a closing
bracket that is meant as a character. -/
def readOpening (flags : Flags) (source : Text) : Bool × CharSet × Text :=
  let source := flags.skip source
  let negated := source.head? == some '^'
  let (hyphens, rest) := flags.gather (· == '-') (if negated then source.drop 1 else source)
  if !hyphens.isEmpty then (negated, .single '-', rest)
  else if rest.head? == some ']' then (negated, .single ']', rest.drop 1)
  else (negated, .none, rest)

/-- Reads a class to its end.  `members` is the union read since the innermost bracket or operation,
and every step of `fuel` reads a character. -/
def readFrom (flags : Flags) : (fuel : Nat) → List OpenClass → (members : CharSet) → Text →
    Option (CharSet × Text)
  | 0, _, _, _ => none
  | fuel + 1, outer, members, source =>
      let operate (operation : ClassOperation) (rest : Text) : Option (CharSet × Text) :=
        let (left, outer) := settle flags members outer
        readFrom flags fuel (.pending operation left :: outer) .none rest
      match flags.skip source with
      | [] => none
      | '[' :: rest =>
          match readName rest with
          | some (negated, named, rest) => do
              let named ← completed flags negated named
              readFrom flags fuel outer (.union members named) rest
          | none =>
              let (negated, opened, rest) := readOpening flags rest
              readFrom flags fuel (.bracket negated members :: outer) opened rest
      | ']' :: rest =>
          let (members, outer) := settle flags members outer
          match outer with
          | .bracket negated around :: outer => do
              let members ← completed flags negated members
              if outer.isEmpty then some (members, rest)
              else readFrom flags fuel outer (.union around members) rest
          | _ => none
      | '&' :: '&' :: rest => operate .intersection rest
      | '-' :: '-' :: rest => operate .difference rest
      | '~' :: '~' :: rest => operate .symmetricDifference rest
      | source => do
          let (range, rest) ← readRange flags source
          readFrom flags fuel outer (.union members range) rest

end OpenClass

/-- Reads a class after its opening bracket. -/
def readClass (flags : Flags) (source : Text) : Option (CharSet × Text) :=
  let (negated, opened, rest) := OpenClass.readOpening flags source
  OpenClass.readFrom flags (rest.length + 1) [.bracket negated .none] opened rest

end ModalVi.Regex
