import ModalVi.Text.Basic

namespace ModalVi.Regex

/-! Flags of expressions. -/

structure Flags where
  /-- `i`: letters match in either case. -/
  ignoreCase : Bool := false
  /-- `m`: `^` and `$` match at line breaks. -/
  multiLine : Bool := false
  /-- `s`: `.` matches line breaks. -/
  dotAll : Bool := false
  /-- `U`: repetitions are greedy only where they are marked. -/
  swapGreed : Bool := false
  /-- `u`: classes hold characters beyond ASCII. -/
  unicode : Bool := true
  /-- `R`: a carriage return breaks lines too. -/
  anyBreak : Bool := false
  /-- `x`: white space and comments are left out. -/
  verbose : Bool := false
deriving DecidableEq, Repr, Inhabited

namespace Flags

/-- An expression without the white space and comments at its front. -/
def skipComments : (inside : Bool) → Text → Text
  | _, [] => []
  | true, c :: rest => skipComments (c != '\n') rest
  | false, c :: rest =>
      if Unicode.isWhitespace c then skipComments false rest
      else if c == '#' then skipComments true rest
      else c :: rest

/-- An expression from the next character that counts on. -/
def skip (flags : Flags) (source : Text) : Text :=
  if flags.verbose then skipComments false source else source

/-- The characters at the front that `accept` takes, and the expression after them.  If `verbose` is
set, white space and comments among them are left out; `inside` tells that a comment was begun. -/
def gatherFrom (verbose : Bool) (accept : Char → Bool) : (inside : Bool) → Text → Text × Text
  | _, [] => ([], [])
  | true, c :: rest => gatherFrom verbose accept (c != '\n') rest
  | false, c :: rest =>
      if verbose && Unicode.isWhitespace c then gatherFrom verbose accept false rest
      else if verbose && c == '#' then gatherFrom verbose accept true rest
      else if accept c then
        let (taken, rest) := gatherFrom verbose accept false rest
        (c :: taken, rest)
      else ([], c :: rest)

/-- The characters at the front that `accept` takes, without those that do not count, and the
expression from the next character that counts on. -/
def gather (flags : Flags) (accept : Char → Bool) (source : Text) : Text × Text :=
  gatherFrom flags.verbose accept false source

/-- The flags with the one that `letter` names set or cleared. -/
def update (letter : Char) (on : Bool) (flags : Flags) : Option Flags :=
  match letter with
  | 'i' => some { flags with ignoreCase := on }
  | 'm' => some { flags with multiLine := on }
  | 's' => some { flags with dotAll := on }
  | 'U' => some { flags with swapGreed := on }
  | 'u' => some { flags with unicode := on }
  | 'R' => some { flags with anyBreak := on }
  | 'x' => some { flags with verbose := on }
  | _ => none

/-- Reads letters of flags up to a colon or a closing parenthesis.  No letter and no minus sign may
come twice, and a letter must follow the minus sign.  The answer holds the flags, the letters seen,
the character that ended them and what follows it. -/
def read :
    (on : Bool) → (seen : List Char) → Flags → Text → Option (Flags × List Char × Char × Text)
  | _, _, _, [] => none
  | on, seen, flags, c :: rest =>
      if c == ':' || c == ')' then
        if seen.head? == some '-' then none else some (flags, seen, c, rest)
      else if seen.contains c then none
      else if c == '-' then read false ('-' :: seen) flags rest
      else (flags.update c on).bind fun flags => read on (c :: seen) flags rest

end Flags

end ModalVi.Regex
