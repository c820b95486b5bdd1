import ModalVi.Regex.Class
import ModalVi.Regex.Match

namespace ModalVi.Regex

/-! Reading regular expressions.

The reader keeps the groups that are open, innermost first, and for the innermost level the finished
alternatives and the parts of the one being read.  A setting of flags is a part without a pattern,
because nothing can repeat it. -/

/-- What is read inside one pair of parentheses. -/
structure Level where
  flags : Flags
  /-- The finished alternatives, newest first. -/
  branches : List Pattern
  /-- The parts of the alternative being read, newest first. -/
  parts : List (Option Pattern)
deriving Repr

namespace Level

/-- The alternative being read. -/
def current (level : Level) : Pattern := Pattern.sequence (level.parts.filterMap id).reverse

/-- All alternatives. -/
def pattern (level : Level) : Pattern := Pattern.choice (level.current :: level.branches).reverse

/-- The level with another part. -/
def add (pattern : Pattern) (level : Level) : Level :=
  { level with parts := some pattern :: level.parts }

/-- The level with the last part repeated.  There must be one, and a setting of flags is none. -/
def repeatLast (min : Nat) (max : Option Nat) (greedy : Bool) (level : Level) : Option Level :=
  match level.parts with
  | some last :: parts =>
      let greedy := greedy != level.flags.swapGreed
      some { level with parts := some (last.repetition min max greedy) :: parts }
  | _ => none

def addCharacter (c : Char) (level : Level) : Level :=
  level.add (.oneOf (CharSet.adjusted level.flags false (.single c)))

/-- What `.` matches; without Unicode it is refused because it would match parts of characters. -/
def dot (flags : Flags) : Option CharSet :=
  if !flags.unicode then none
  else if flags.dotAll then some .any
  else if flags.anyBreak then some (.complement (.union (.single '\n') (.single '\r')))
  else some (.complement (.single '\n'))

/-- What `^` asks for. -/
def startLook (flags : Flags) : Look :=
  if flags.multiLine then (if flags.anyBreak then .anyLineStart else .lineStart) else .textStart

/-- What `$` asks for. -/
def endLook (flags : Flags) : Look :=
  if flags.multiLine then (if flags.anyBreak then .anyLineEnd else .lineEnd) else .textEnd

end Level

/-- A group that is open: its number if it captures, and the level around it. -/
structure OpenGroup where
  index : Option Nat
  around : Level
deriving Repr

/-- The names and the number of capturing groups so far. -/
structure Groups where
  count : Nat
  names : List Text
deriving Repr

namespace Groups

/-- The number of the next group. -/
def opened (groups : Groups) : Nat × Groups :=
  (groups.count + 1, { groups with count := groups.count + 1 })

def startsName (c : Char) : Bool := c == '_' || Unicode.isAlphabetic c

def continuesName (c : Char) : Bool :=
  c == '_' || c == '.' || c == '[' || c == ']' || Unicode.isAlphanumeric c

/-- Reads the name of a group up to its closing angle bracket.  No two groups have one name. -/
def readName (source : Text) (groups : Groups) : Option (Nat × Groups × Text) :=
  let name := source.takeWhile (· != '>')
  match name, source.drop name.length with
  | first :: others, _ :: rest =>
      if startsName first && others.all continuesName && !groups.names.contains name then
        let (index, groups) := groups.opened
        some (index, { groups with names := name :: groups.names }, rest)
      else none
  | _, _ => none

end Groups

/-- Reads a decimal number with white space around it. -/
def readDecimal (flags : Flags) (source : Text) : Option (Nat × Text) :=
  let (digits, rest) := flags.gather Char.isDigit (source.dropWhile Unicode.isWhitespace)
  let value := digits.foldl (fun value digit => 10 * value + (digit.toNat - '0'.toNat)) 0
  if digits.isEmpty || UInt32.size ≤ value then none
  else some (value, rest.dropWhile Unicode.isWhitespace)

/-- Reads the bounds of a repetition after its opening brace. -/
def readBounds (flags : Flags) (source : Text) : Option (Nat × Option Nat × Text) := do
  let (min, rest) ← readDecimal flags (flags.skip source)
  match rest with
  | '\x7d' :: rest => some (min, some min, rest)
  | ',' :: rest =>
      match flags.skip rest with
      | '\x7d' :: rest => some (min, none, rest)
      | rest =>
          let (max, rest) ← readDecimal flags rest
          match rest with
          | '\x7d' :: rest => if max < min then none else some (min, some max, rest)
          | _ => none
  | _ => none

/-- Reads the question mark that makes a repetition lazy. -/
def readGreed : Text → Bool × Text
  | '?' :: rest => (false, rest)
  | source => (true, source)

/-- Whether an opening parenthesis begins a look at what stands before or after, which there is
not. -/
def looksAround (source : Text) : Bool :=
  ["?=", "?!", "?<=", "?<!"].any fun sign => sign.toList.isPrefixOf source

/-- Reads an expression to its end.  Every step of `fuel` reads a character. -/
def parseFrom : (fuel : Nat) → Groups → List OpenGroup → Level → Text → Option Pattern
  | 0, _, _, _, _ => none
  | fuel + 1, groups, outer, level, source =>
      let go := parseFrom fuel
      let turns (min : Nat) (max : Option Nat) (rest : Text) : Option Pattern := do
        let (greedy, rest) := readGreed rest
        let level ← level.repeatLast min max greedy
        go groups outer level rest
      let inside (index : Option Nat) (flags : Flags) (groups : Groups) (rest : Text) :
          Option Pattern :=
        go groups (⟨index, level⟩ :: outer) ⟨flags, [], []⟩ rest
      match level.flags.skip source with
      | [] => if outer.isEmpty then some level.pattern else none
      | '(' :: rest =>
          let rest := level.flags.skip rest
          if looksAround rest then none
          else
            match rest with
            | '?' :: 'P' :: '<' :: rest | '?' :: '<' :: rest => do
                let (index, groups, rest) ← groups.readName rest
                inside (some index) level.flags groups rest
            | '?' :: rest => do
                let (flags, seen, mark, rest) ← Flags.read true [] level.flags rest
                if mark == ':' then inside none flags groups rest
                else if seen.isEmpty then none
                else go groups outer { level with flags := flags, parts := none :: level.parts } rest
            | _ =>
                let (index, groups) := groups.opened
                inside (some index) level.flags groups rest
      | ')' :: rest =>
          match outer with
          | [] => none
          | ⟨index, around⟩ :: outer =>
              let body := level.pattern
              let part := match index with
                | some index => Pattern.group index body
                | none => body
              go groups outer (around.add part) rest
      | '|' :: rest =>
          go groups outer { level with branches := level.current :: level.branches, parts := [] } rest
      | '[' :: rest => do
          let (members, rest) ← readClass level.flags rest
          go groups outer (level.add (.oneOf members)) rest
      | '?' :: rest => turns 0 (some 1) rest
      | '*' :: rest => turns 0 none rest
      | '+' :: rest => turns 1 none rest
      | '\x7b' :: rest => do
          let (min, max, rest) ← readBounds level.flags rest
          turns min max (level.flags.skip rest)
      | '\\' :: rest => do
          let (escape, rest) ← Escape.read level.flags rest
          let level := match escape with
            | .literal c => level.addCharacter c
            | .set members => level.add (.oneOf members)
            | .look condition => level.add (.look condition)
          go groups outer level rest
      | '.' :: rest => do
          let members ← Level.dot level.flags
          go groups outer (level.add (.oneOf members)) rest
      | '^' :: rest => go groups outer (level.add (.look (Level.startLook level.flags))) rest
      | '$' :: rest => go groups outer (level.add (.look (Level.endLook level.flags))) rest
      | c :: rest => go groups outer (level.addCharacter c) rest

/-- Reads an expression, ignoring case from the start if asked to.  Nothing is returned for what is
no regular expression. -/
def parse (ignoringCase : Bool) (source : Text) : Option Pattern :=
  parseFrom (source.length + 1) ⟨0, []⟩ [] ⟨{ ignoreCase := ignoringCase }, [], []⟩ source

end ModalVi.Regex
