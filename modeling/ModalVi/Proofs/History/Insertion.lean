import Mathlib.Data.List.Rotate
import ModalVi.Proofs.History.Difference

namespace ModalVi.Change

/-! The change found after something was typed.

The difference between two texts begins after everything that they have in common at the front.  Where
what follows the caret begins with what was typed, that reaches past the caret: the change lies further
on, and its new text is what was typed, rotated by as much. -/

variable {front back typed kept fresh : Text}

theorem commonLength_prefix (first more : List Char) :
    commonLength first (first ++ more) = first.length := by
  have same := commonLength_append first [] more
  rw [List.append_nil] at same
  rw [same]
  rfl

/-- A text with the same in front of it and after it is rotated by what goes around. -/
theorem eq_rotate_of_append (given : typed ≠ []) (around : typed ++ kept = kept ++ fresh) :
    fresh = typed.rotate kept.length := by
  induction length : kept.length using Nat.strong_induction_on generalizing kept with
  | _ _ ih =>
      subst length
      rcases List.append_eq_append_iff.mp around with ⟨rest, rfl, afterwards⟩ | ⟨rest, rfl, rfl⟩
      · -- What goes around is longer than what was typed, and once less of it goes around alike.
        have shorter : rest.length < (typed ++ rest).length := by
          have positive := List.length_pos_iff.mpr given
          rw [List.length_append]
          omega
        have turned := ih rest.length shorter afterwards rfl
        rw [turned, List.length_append, ← List.rotate_rotate, List.rotate_length]
      · rw [List.rotate_append_length_eq]

/-- How far what was typed goes on after the caret. -/
def overlap (typed back : Text) : Nat := commonLength back (typed ++ back)

/-- What is typed stands where it was typed if another character follows the caret. -/
theorem overlap_eq_zero (given : typed ≠ []) (differs : typed.head? ≠ back.head?) :
    overlap typed back = 0 := by
  obtain ⟨a, rest, rfl⟩ := List.exists_cons_of_ne_nil given
  cases back with
  | nil => rfl
  | cons b others =>
      have other : (b == a) = false := by
        simp only [List.head?_cons, ne_eq, Option.some.injEq] at differs
        simpa using fun same => differs same.symm
      simp only [overlap, List.cons_append, commonLength, other, Bool.false_eq_true, if_false]

/-- What was typed and what follows it, parted where the difference begins. -/
theorem exists_overlap (given : typed ≠ []) (back : Text) :
    ∃ kept ahead, back = kept ++ ahead ∧ kept.length = overlap typed back ∧
      typed ++ back = kept ++ (typed.rotate kept.length ++ ahead) := by
  have shared := take_commonLength back (typed ++ back)
  have length : (back.take (overlap typed back)).length = overlap typed back := by
    rw [List.length_take]
    exact Nat.min_eq_left (commonLength_le_left back (typed ++ back))
  have around : (typed ++ back.take (overlap typed back)) ++ back.drop (overlap typed back) =
      back.take (overlap typed back) ++ (typed ++ back).drop (overlap typed back) := by
    rw [List.append_assoc, List.take_append_drop, overlap, shared, List.take_append_drop]
  refine ⟨back.take (overlap typed back), back.drop (overlap typed back),
    (List.take_append_drop _ _).symm, length, ?_⟩
  rcases List.append_eq_append_iff.mp around with ⟨more, longer, _⟩ | ⟨fresh, turned, ahead⟩
  · have lengths := congrArg List.length longer
    have positive := List.length_pos_iff.mpr given
    rw [List.length_append, List.length_append] at lengths
    omega
  · rw [← eq_rotate_of_append given turned, ← ahead, overlap, shared, List.take_append_drop]

/-- The difference that typing makes. -/
theorem between?_insertion (front back : Text) (given : typed ≠ []) :
    between? (front ++ back) (front ++ typed ++ back) =
      some ⟨front.length + overlap typed back, front.length + overlap typed back, [],
        typed.rotate (overlap typed back), none, none⟩ := by
  have start : commonLength (front ++ back) (front ++ typed ++ back) =
      front.length + overlap typed back := by
    rw [List.append_assoc, commonLength_append, overlap]
  obtain ⟨kept, ahead, backParts, length, whole⟩ := exists_overlap given back
  have freshGiven : typed.rotate (overlap typed back) ≠ [] := by simpa using given
  rw [length] at whole
  generalize typed.rotate (overlap typed back) = fresh at whole freshGiven ⊢
  generalize overlap typed back = turn at start length ⊢
  have oldRest : (front ++ back).drop (front.length + turn) = ahead := by
    rw [← length, backParts, List.drop_length_add_append, List.drop_left]
  have newRest : (front ++ typed ++ back).drop (front.length + turn) = fresh ++ ahead := by
    rw [← length, List.append_assoc, whole, List.drop_length_add_append, List.drop_left]
  have ends : commonLength ahead.reverse (fresh ++ ahead).reverse = ahead.length := by
    rw [List.reverse_append, commonLength_prefix, List.length_reverse]
  have stop : (front ++ back).length - ahead.length = front.length + turn := by
    rw [backParts, List.length_append, List.length_append]
    omega
  have notEmpty : (fresh ++ ahead).isEmpty = false := by simp [freshGiven]
  have taken : (fresh ++ ahead).take ((fresh ++ ahead).length - ahead.length) = fresh := by
    rw [List.length_append, Nat.add_sub_cancel, List.take_left]
  simp only [between?, start, oldRest, newRest, ends, stop, notEmpty, taken, Bool.and_false,
    Bool.false_eq_true, if_false, Nat.sub_self, List.take_zero]

end ModalVi.Change
