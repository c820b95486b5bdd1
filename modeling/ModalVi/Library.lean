import ModalVi.Text.Basic

namespace ModalVi

/-! What an editor takes from other libraries.

Which characters are punctuation, and what a regular expression matches, is not decided here.  What is
built on these two takes a library for them, and says what it has to know about that library. -/

/-- Finds the first match that starts at an offset or later: its start and its end. -/
abbrev Finder := Text → Nat → Option (Nat × Nat)

/-- A regular expression that was built. -/
structure Expression where
  find : Finder
  /-- Whether a text has a match. -/
  isMatch : Text → Bool
  /-- How many matches a text has, without overlap. -/
  count : Text → Nat
  /-- A text with a template expanded in place of its first `limit` matches, or of all if that is zero. -/
  replace : (limit : Nat) → (template text : Text) → Text

structure Library where
  isPunctuation : Char → Bool
  /-- The expression for a text that stands for itself. -/
  escape : Text → Text
  /-- Builds an expression that ignores case or does not, or tells what is wrong with it. -/
  build : (ignoreCase : Bool) → (source : Text) → Except String Expression

/-- The finder of an expression that does not ignore case. -/
def Library.compile (library : Library) (source : Text) : Except String Finder :=
  (library.build false source).map Expression.find

/-! ### What is relied upon -/

/-- What is found begins before it ends, and ends in the text. -/
def Finder.Bounded (find : Finder) : Prop :=
  ∀ text, ∀ offset ≤ text.length, ∀ start stop, find text offset = some (start, stop) →
    start ≤ stop ∧ stop ≤ text.length

/-- Every match that is found is a span of the text. -/
def Library.FindsSpans (library : Library) : Prop :=
  ∀ source find, library.compile source = .ok find → find.Bounded

/-- No white space is a mark of punctuation. -/
def MarksApart (marks : Char → Bool) : Prop := ∀ c, Unicode.isWhitespace c = true → marks c = false

end ModalVi
