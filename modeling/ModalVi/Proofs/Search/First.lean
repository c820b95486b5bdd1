import ModalVi.Search

namespace ModalVi

/-! The first match.

A finder answers where the first match from a place on starts, and where it ends.  What it makes of places
that are not in the text does not matter, since it is never asked about them. -/

namespace Finder

variable {find : Finder} {stopAt : Nat → Option Nat} {text : Text} {offset start stop : Nat}
  {answer : Option (Nat × Nat)}

/-- The answer is the first match that starts at `offset` or later, where `stopAt` tells the end of
the match that starts at a place. -/
inductive First (stopAt : Nat → Option Nat) (text : Text) (offset : Nat) :
    Option (Nat × Nat) → Prop where
  | found {start stop : Nat} (reached : offset ≤ start) (inside : start ≤ text.length)
      (matched : stopAt start = some stop)
      (earliest : ∀ earlier < start, offset ≤ earlier → stopAt earlier = none) :
      First stopAt text offset (some (start, stop))
  | missed (nothing : ∀ start ≤ text.length, offset ≤ start → stopAt start = none) :
      First stopAt text offset none

/-- What the finder finds in the text is always the first match. -/
def FindsFirst (find : Finder) (text : Text) (stopAt : Nat → Option Nat) : Prop :=
  ∀ offset ≤ text.length, First stopAt text offset (find text offset)

/-- Where the match that starts at `start` ends, if all matches are of one length. -/
def stopWhere (starts : Nat → Prop) [DecidablePred starts] (length start : Nat) : Option Nat :=
  if starts start then some (start + length) else none

section

variable {starts : Nat → Prop} [DecidablePred starts] {length : Nat}

theorem stopWhere_eq_some :
    stopWhere starts length start = some stop ↔ starts start ∧ start + length = stop := by
  rw [stopWhere, Option.ite_none_right_eq_some, Option.some.injEq]

theorem stopWhere_eq_none : stopWhere starts length start = none ↔ ¬ starts start := by
  simp [stopWhere]

end

/-- Where no match starts at a place, the search may as well begin after it. -/
theorem First.of_missed (missed : stopAt offset = none)
    (first : First stopAt text (offset + 1) answer) : First stopAt text offset answer := by
  cases first with
  | found reached inside matched earliest =>
      refine .found (Nat.le_of_succ_le reached) inside matched fun earlier before after => ?_
      rcases Nat.eq_or_lt_of_le after with rfl | later
      · exact missed
      · exact earliest earlier before later
  | missed nothing =>
      refine .missed fun start within after => ?_
      rcases Nat.eq_or_lt_of_le after with rfl | later
      · exact missed
      · exact nothing start within later

theorem First.congr {other : Nat → Option Nat}
    (same : ∀ start ≤ text.length, stopAt start = other start)
    (first : First stopAt text offset answer) : First other text offset answer := by
  cases first with
  | found reached inside matched earliest =>
      refine .found reached inside (same _ inside ▸ matched) fun earlier before after => ?_
      rw [← same earlier (by omega)]
      exact earliest earlier before after
  | missed nothing =>
      refine .missed fun start within after => ?_
      rw [← same start within]
      exact nothing start within after

end Finder

end ModalVi
