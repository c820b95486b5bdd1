import ModalVi.KeyBuffer
import ModalVi.Text.Basic
import ModalVi.Unicode.Alphanumeric

namespace ModalVi

/-! The line entered after a colon.

The one command is a substitution: an optional range of lines, the letter `s`, the pattern and the
replacement between delimiters, and flags.  A backslash before a delimiter makes it part of the
pattern or the replacement.  A lone `s` asks for the previous substitution. -/

inductive LineRange where
  /-- The caret's line. -/
  | current
  /-- `%` -/
  | all
  /-- `N,M` or `N`, counted from zero. -/
  | lines (first last : Nat)
  /-- The lines of the selection. -/
  | visual
deriving DecidableEq, Repr

/-- What the letters after a substitution ask for. -/
structure SubstitutionFlags where
  /-- `g`: every match of a line, not just the first. -/
  everyMatch : Bool
  /-- `i` -/
  ignoreCase : Bool
  /-- `n`: count matches and change nothing. -/
  countOnly : Bool
deriving DecidableEq, Repr

/-- A pattern and what replaces its matches. -/
structure Substitution where
  pattern : Text
  replacement : Text
  flags : SubstitutionFlags
deriving DecidableEq, Repr

inductive ExCommand where
  | substitute (range : LineRange) (substitution : Substitution)
  | substituteAgain (range : LineRange)
deriving DecidableEq, Repr

namespace ExCommand

def range : ExCommand → LineRange
  | .substitute range _ | .substituteAgain range => range

def readNumber (line : Text) : Option (Nat × Text) :=
  let digits := line.takeWhile Char.isDigit
  if digits.isEmpty then none
  else (countValue? digits).map fun value => (value, line.drop digits.length)

def readRange (line : Text) : LineRange × Text :=
  match line with
  | '%' :: rest => (.all, rest)
  | '\'' :: '<' :: ',' :: '\'' :: '>' :: rest => (.visual, rest)
  | _ =>
      match readNumber line with
      | none => (.current, line)
      | some (first, rest) =>
          let alone := (LineRange.lines (first - 1) (first - 1), rest)
          match rest with
          | ',' :: beyond =>
              match readNumber beyond with
              | some (last, rest) => (.lines (first - 1) (last - 1), rest)
              | none => alone
          | _ => alone

/-- The text before the first delimiter that no backslash escapes, and the text after it. -/
def splitAtDelimiter (delimiter : Char) : (escaped : Bool) → Text → Option (Text × Text)
  | _, [] => none
  | escaped, c :: rest =>
      let go (escaped : Bool) : Option (Text × Text) :=
        (splitAtDelimiter delimiter escaped rest).map fun (before, after) => (c :: before, after)
      if escaped then go false
      else if c == '\\' then go true
      else if c == delimiter then some ([], rest)
      else go false

/-- The text without the backslashes before delimiters. -/
def unescape (delimiter : Char) : Text → Text
  | [] => []
  | [c] => [c]
  | c :: next :: rest =>
      if c == '\\' && next == delimiter then delimiter :: unescape delimiter rest
      else c :: unescape delimiter (next :: rest)

def readFlags (line : Text) : Except ParseError SubstitutionFlags :=
  (Text.trim line).foldlM
    (fun flags letter =>
      match letter with
      | 'g' => .ok { flags with everyMatch := true }
      | 'i' => .ok { flags with ignoreCase := true }
      | 'n' => .ok { flags with countOnly := true }
      | _ => .error (.invalidCommand .unknownFlag))
    ⟨false, false, false⟩

def isDelimiter (c : Char) : Bool :=
  !Unicode.isAlphanumeric c && c != '\\' && !Unicode.isWhitespace c

/-- Reads what follows the letter `s`. -/
def readBody (range : LineRange) (body : Text) : Except ParseError ExCommand :=
  match body with
  | [] => .ok (.substituteAgain range)
  | delimiter :: rest =>
      if !isDelimiter delimiter then .error (.invalidCommand .badDelimiter)
      else
        let (pattern, rest) := (splitAtDelimiter delimiter false rest).getD (rest, [])
        let (replacement, letters) := (splitAtDelimiter delimiter false rest).getD (rest, [])
        if pattern.isEmpty then .error (.invalidCommand .emptyPattern)
        else do
          let flags ← readFlags letters
          .ok (.substitute range
            ⟨unescape delimiter pattern, unescape delimiter replacement, flags⟩)

def parse (line : Text) : Except ParseError ExCommand :=
  match readRange (Text.trim line) with
  | (range, 's' :: body) => readBody range body
  | _ => .error (.invalidCommand .unknownEx)

end ExCommand

end ModalVi
