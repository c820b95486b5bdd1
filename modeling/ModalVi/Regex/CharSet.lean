import ModalVi.Regex.Flags
import ModalVi.Regex.Property
import ModalVi.Unicode.WordCharacter

namespace ModalVi.Regex

/-! Sets of characters, as classes in regular expressions describe them.

A set stays in the form in which it was written, and membership is decided character by character,
so no operation on sets ever has to be carried out. -/

inductive CharSet where
  | none
  /-- The code points from `low` to `high`, both included. -/
  | range (low high : Nat)
  /-- Word characters, `\w`. -/
  | word
  /-- Decimal digits, `\d`. -/
  | digit
  /-- White space, `\s`. -/
  | space
  /-- The characters with a property. -/
  | property (asked : Property)
  | complement (set : CharSet)
  | union (left right : CharSet)
  | intersection (left right : CharSet)
  /-- Every character that differs from a member in case only, where only the case of ASCII letters
  counts if `ascii` is set. -/
  | folded (ascii : Bool) (set : CharSet)
deriving DecidableEq, Repr

namespace CharSet

/-- The characters that count as `c` when case is ignored. -/
def variants (ascii : Bool) (c : Char) : List Char :=
  if ascii then [c, c.toLower, c.toUpper] else Unicode.caseVariants c

def contains : CharSet → Char → Bool
  | .none, _ => false
  | .range low high, c => low ≤ c.toNat && c.toNat ≤ high
  | .word, c => Unicode.isWordCharacter c
  | .digit, c => Unicode.isDecimalDigit c
  | .space, c => Unicode.isWhitespace c
  | .property asked, c => asked.holds c
  | .complement set, c => !set.contains c
  | .union left right, c => left.contains c || right.contains c
  | .intersection left right, c => left.contains c && right.contains c
  | .folded ascii set, c => (variants ascii c).any set.contains

def single (c : Char) : CharSet := .range c.toNat c.toNat

def any : CharSet := .complement .none

def difference (left right : CharSet) : CharSet := .intersection left (.complement right)

/-- The members of exactly one of the two sets. -/
def symmetricDifference (left right : CharSet) : CharSet :=
  .union (difference left right) (difference right left)

def adjusted (flags : Flags) (negated : Bool) (set : CharSet) : CharSet :=
  let set := if flags.ignoreCase then .folded (!flags.unicode) set else set
  if negated then .complement set else set

def ofRanges (ranges : List (Nat × Nat)) : CharSet :=
  ranges.foldr (fun (low, high) set => .union (.range low high) set) .none

/-- Digits, letters and the underscore of ASCII. -/
def asciiWord : CharSet := ofRanges [(0x30, 0x39), (0x41, 0x5a), (0x5f, 0x5f), (0x61, 0x7a)]

def asciiDigit : CharSet := .range 0x30 0x39

def asciiSpace : CharSet := ofRanges [(0x9, 0xd), (0x20, 0x20)]

@[simp] theorem contains_single (c d : Char) : (single c).contains d = (d == c) := by
  rw [Bool.eq_iff_iff]
  simp only [single, contains, Bool.and_eq_true, decide_eq_true_eq, beq_iff_eq]
  constructor
  · intro bounds
    exact Char.toNat_inj.mp (by omega)
  · rintro rfl
    omega

end CharSet

end ModalVi.Regex
