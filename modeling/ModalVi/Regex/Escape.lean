import ModalVi.Regex.Pattern

namespace ModalVi.Regex

/-! Escapes: what a backslash and the characters after it stand for. -/

inductive Escape where
  | literal (c : Char)
  | set (members : CharSet)
  | look (condition : Look)
deriving Repr

/-- The characters with a meaning of their own in expressions. -/
def metaCharacters : List Char := "\\.+*?()|[]\x7b\x7d^$#&-~".toList

/-- The text as an expression that matches just it. -/
def quote (text : Text) : Text :=
  text.flatMap fun c => if metaCharacters.contains c then ['\\', c] else [c]

namespace Escape

/-- The value of a hexadecimal digit. -/
def hexDigit? (c : Char) : Option Nat :=
  if c.isDigit then some (c.toNat - '0'.toNat)
  else if 'a' ≤ c ∧ c ≤ 'f' then some (c.toNat - 'a'.toNat + 10)
  else if 'A' ≤ c ∧ c ≤ 'F' then some (c.toNat - 'A'.toNat + 10)
  else none

/-- The character whose code point the digits write. -/
def ofHex (digits : Text) : Option Char := do
  let values ← digits.mapM hexDigit?
  let point := values.foldl (fun value digit => 16 * value + digit) 0
  if digits.isEmpty || !point.isValidChar then none else some (Char.ofNat point)

def takeCounted (flags : Flags) : (count : Nat) → Text → Option (Text × Text)
  | 0, source => some ([], source)
  | count + 1, source =>
      match flags.skip source with
      | [] => none
      | c :: rest => (takeCounted flags count rest).map fun (taken, rest) => (c :: taken, rest)

/-- Reads a code point of `width` digits, or of any number of them in braces.  Without Unicode, two
digits write a byte, and one that is no character by itself is refused. -/
def readHex (flags : Flags) (width : Nat) (source : Text) : Option (Escape × Text) :=
  match flags.skip source with
  | '\x7b' :: rest =>
      match flags.gather (· != '\x7d') rest with
      | (digits, _ :: rest) => (ofHex digits).map fun c => (.literal c, rest)
      | (_, []) => none
  | source => do
      let (digits, rest) ← takeCounted flags width source
      let c ← ofHex digits
      if width = 2 && !flags.unicode && 0x80 ≤ c.toNat then none else some (.literal c, rest)

/-- The text up to the first place where `mark` stands, and the text after that. -/
def splitAround (mark text : Text) : Option (Text × Text) :=
  match text with
  | [] => none
  | c :: rest =>
      if mark.isPrefixOf text then some ([], text.drop mark.length)
      else (splitAround mark rest).map fun (before, after) => (c :: before, after)

/-- The property asked for in braces, and whether the characters without it are meant. -/
def bracedProperty (content : Text) : Option (Property × Bool) :=
  match splitAround ['!', '='] content with
  | some (name, value) => (Property.valued name value).map (·, true)
  | none =>
      match (splitAround [':'] content).or (splitAround ['='] content) with
      | some (name, value) => (Property.valued name value).map (·, false)
      | none => (Property.named content).map (·, false)

/-- Reads a property: one letter, or a name in braces. -/
def readProperty (flags : Flags) (negated : Bool) (source : Text) : Option (Escape × Text) :=
  if !flags.unicode then none
  else
    match flags.skip source with
    | '\x7b' :: rest =>
        match flags.gather (· != '\x7d') rest with
        | (content, _ :: rest) =>
            (bracedProperty content).map fun (property, other) =>
              (.set (.adjusted flags (negated != other) (.property property)), rest)
        | (_, []) => none
    | letter :: rest =>
        if letter == '\\' then none
        else
          (Property.named [letter]).map fun property =>
            (.set (.adjusted flags negated (.property property)), rest)
    | [] => none

/-- The set of a letter such as `d`.  Without Unicode it holds ASCII characters only, and its
complement is refused because it would match parts of characters. -/
def letterSet (flags : Flags) (full ascii : CharSet) (negated : Bool) : Option CharSet :=
  if flags.unicode then some (if negated then .complement full else full)
  else if negated then none
  else some ascii

def namedEdge (name : Text) : Option WordEdge :=
  match String.ofList name with
  | "start" => some .start
  | "end" => some .stop
  | "start-half" => some .startHalf
  | "end-half" => some .stopHalf
  | _ => none

/-- Reads what may follow `\b`: the name of a word edge in braces.  Braces with anything else in front
are the bounds of a repetition. -/
def readEdge (flags : Flags) (source : Text) : Option (Escape × Text) :=
  let found (edge : WordEdge) : Escape := .look (.word edge !flags.unicode)
  match source with
  | '\x7b' :: inside =>
      match flags.gather (fun c => c.isAlpha || c == '-') inside with
      | (_, []) => none
      | ([], _) => some (found .boundary, source)
      | (name, '\x7d' :: rest) => (namedEdge name).map fun edge => (found edge, rest)
      | _ => none
  | _ => some (found .boundary, source)

def read (flags : Flags) : Text → Option (Escape × Text)
  | [] => none
  | c :: rest =>
      let letter (full ascii : CharSet) (negated : Bool) : Option (Escape × Text) :=
        (letterSet flags full ascii negated).map fun members => (.set members, rest)
      let edge (edge : WordEdge) : Option (Escape × Text) :=
        some (.look (.word edge !flags.unicode), rest)
      match c with
      | 'x' => readHex flags 2 rest
      | 'u' => readHex flags 4 rest
      | 'U' => readHex flags 8 rest
      | 'p' => readProperty flags false rest
      | 'P' => readProperty flags true rest
      | 'd' => letter .digit .asciiDigit false
      | 'D' => letter .digit .asciiDigit true
      | 's' => letter .space .asciiSpace false
      | 'S' => letter .space .asciiSpace true
      | 'w' => letter .word .asciiWord false
      | 'W' => letter .word .asciiWord true
      | 'a' => some (.literal '\x07', rest)
      | 'f' => some (.literal '\x0c', rest)
      | 't' => some (.literal '\t', rest)
      | 'n' => some (.literal '\n', rest)
      | 'r' => some (.literal '\r', rest)
      | 'v' => some (.literal '\x0b', rest)
      | 'A' => some (.look .textStart, rest)
      | 'z' => some (.look .textEnd, rest)
      | 'b' => readEdge flags rest
      | 'B' => edge .noBoundary
      | '<' => edge .start
      | '>' => edge .stop
      | _ => if c.toNat < 0x80 && !c.isAlphanum then some (.literal c, rest) else none

end Escape

end ModalVi.Regex
