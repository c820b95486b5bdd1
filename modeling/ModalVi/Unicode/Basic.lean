namespace ModalVi.Unicode

/-! White space, and tables of code points.

A table is an ascending list of code points at which something changes.  A set is such a list of the
points where membership changes: outside before the first, inside from the first to just before the
second, and so on.  A point is inside exactly when an odd number of changes lie at or below it. -/

/-- Whether `c` has the property `White_Space`: tab to carriage return, the space, the next-line
control, and the spaces and separators beyond ASCII. -/
def isWhitespace (c : Char) : Bool :=
  let point := c.toNat
  (0x9 ≤ point && point ≤ 0xd) || point == 0x20 || point == 0x85 || point == 0xa0 ||
    point == 0x1680 || (0x2000 ≤ point && point ≤ 0x200a) || point == 0x2028 ||
    point == 0x2029 || point == 0x202f || point == 0x205f || point == 0x3000

/-- How many entries of `points` lie at or below `point`, when those before index `low` do and those
from index `high` on do not.  Every round halves the interval between the two. -/
def rank (points : Array Nat) (point : Nat) : (rounds low high : Nat) → Nat
  | 0, low, _ => low
  | rounds + 1, low, high =>
      if low < high then
        let middle := (low + high) / 2
        if points.getD middle 0 ≤ point then rank points point rounds (middle + 1) high
        else rank points point rounds low middle
      else low

/-- How many entries of the ascending table `points` lie at or below `point`. -/
def rankOf (points : Array Nat) (point : Nat) : Nat :=
  rank points point (points.size.log2 + 1) 0 points.size

/-- A set of code points, given by the ascending points at which membership changes. -/
structure CodePointSet where
  flips : Array Nat

def CodePointSet.contains (set : CodePointSet) (c : Char) : Bool :=
  rankOf set.flips c.toNat % 2 == 1

end ModalVi.Unicode
