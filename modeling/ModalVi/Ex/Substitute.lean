import ModalVi.Ex.Command
import ModalVi.Ex.Replacement
import ModalVi.Library
import ModalVi.Text.Line

namespace ModalVi

/-! Substituting on lines.

Every line is rewritten on its own, without its break.  What rewrites a line is a parameter, so that
the rest says the same for every kind of pattern. -/

/-- What becomes of a line: how many matches it has, and the line with them replaced. -/
abbrev LineRewrite := Text → Nat × Text

structure SubstitutionResult where
  /-- The start and the end of the lines in the old text. -/
  start : Nat
  stop : Nat
  /-- What replaces them. -/
  text : Text
  /-- How many matches there are. -/
  count : Nat
  /-- Where the last line with a match starts in the new text, if lines were rewritten. -/
  lastLine : Option Nat
deriving DecidableEq, Repr

namespace Substitution

/-- How the expression of a substitution rewrites lines. -/
def rewriteWith (expression : Expression) (substitution : Substitution) : LineRewrite := fun line =>
  let template := Replacement.translate substitution.replacement
  if substitution.flags.everyMatch then (expression.count line, expression.replace 0 template line)
  else ((expression.isMatch line).toNat, expression.replace 1 template line)

def rewrite (library : Library) (substitution : Substitution) : Except String LineRewrite :=
  (library.build substitution.flags.ignoreCase substitution.pattern).map fun expression =>
    substitution.rewriteWith expression

/-- Goes through the lines from `offset` on and gathers the new text, the number of matches, and the
start of the last line that was rewritten. -/
def gather (rewrite : LineRewrite) (countOnly : Bool) : (offset : Nat) → List Text →
    Text × Nat × Option Nat
  | _, [] => ([], 0, none)
  | offset, line :: rest =>
      let (body, broken) := Text.splitFinalBreak line
      let (count, replaced) := rewrite body
      let rewritten := count != 0 && !countOnly
      let new := if rewritten then (if broken then replaced ++ ['\n'] else replaced) else line
      let (others, more, last) := gather rewrite countOnly (offset + new.length) rest
      (new ++ others, count + more, last.or (if rewritten then some offset else none))

/-- Rewrites the lines from `first` to `last`, as far as there are such lines. -/
def executeWith (rewrite : LineRewrite) (countOnly : Bool) (first last : Nat) (text : Text) :
    SubstitutionResult :=
  let last := min last (text.lineCount - 1)
  let first := min first last
  let start := Text.startOfLine first text
  let stop := Text.startOfLine (last + 1) text
  let (new, count, lastLine) :=
    gather rewrite countOnly start (Text.brokenLines (text.slice start stop))
  ⟨start, stop, new, count, lastLine⟩

def execute (library : Library) (substitution : Substitution) (first last : Nat) (text : Text) :
    Except String SubstitutionResult :=
  (substitution.rewrite library).map fun rewrite =>
    executeWith rewrite substitution.flags.countOnly first last text

end Substitution

end ModalVi
