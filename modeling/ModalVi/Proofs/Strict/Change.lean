import ModalVi.Proofs.History.Difference
import ModalVi.Proofs.Strict.Text

namespace ModalVi.Strict

/-! The change between two texts, with every access checked.

The common end is found by comparing the last characters of what is left of each text, as long as
neither has shrunk to the common beginning. -/

variable {old new : Text} {start oldStop newStop : Nat}

/-- The stops of the two spans from `start` on that are left without their common end. -/
def trimEnds (old new : Text) (start : Nat) : (oldStop newStop : Nat) → Option (Nat × Nat)
  | oldStop + 1, newStop + 1 =>
      if start ≤ oldStop ∧ start ≤ newStop then do
        let last ← old[oldStop]?
        let other ← new[newStop]?
        if last == other then trimEnds old new start oldStop newStop
        else some (oldStop + 1, newStop + 1)
      else some (oldStop + 1, newStop + 1)
  | oldStop, newStop => some (oldStop, newStop)

/-- As `Change.between?`. -/
def between (old new : Text) : Option (Option Change) :=
  let start := Change.commonLength old new
  if start = old.length ∧ start = new.length then some none
  else do
    let (oldStop, newStop) ← trimEnds old new start old.length new.length
    let held ← slice old start oldStop
    let fresh ← slice new start newStop
    some (some ⟨start, oldStop, held, fresh, none, none⟩)

theorem reverse_slice_succ {text : Text} {stop : Nat} (ordered : start ≤ stop)
    (inside : stop < text.length) :
    (text.slice start (stop + 1)).reverse = text[stop] :: (text.slice start stop).reverse := by
  have longer : text.slice start (stop + 1) = text.slice start stop ++ [text[stop]] := by
    have place : start + (stop - start) = stop := by omega
    have held : (text.drop start)[stop - start]? = some text[stop] := by
      rw [List.getElem?_drop, place, List.getElem?_eq_getElem inside]
    rw [Text.slice, Text.slice, Nat.sub_add_comm ordered, List.take_add_one, held]
    rfl
  rw [longer, List.reverse_append]
  rfl

theorem trimEnds_eq (oldOrdered : start ≤ oldStop) (oldBounded : oldStop ≤ old.length)
    (newOrdered : start ≤ newStop) (newBounded : newStop ≤ new.length) :
    trimEnds old new start oldStop newStop =
      some
        (oldStop - Change.commonLength (old.slice start oldStop).reverse
          (new.slice start newStop).reverse,
        newStop - Change.commonLength (old.slice start oldStop).reverse
          (new.slice start newStop).reverse) := by
  -- A span that has shrunk to nothing has no end in common with another.
  have nothing (text other : Text) (stop : Nat) :
      Change.commonLength (text.slice start start).reverse (other.slice start stop).reverse = 0 ∧
        Change.commonLength (other.slice start stop).reverse (text.slice start start).reverse = 0 := by
    rw [Change.commonLength_comm (other.slice start stop).reverse, Text.slice_self]
    exact ⟨rfl, rfl⟩
  induction oldStop generalizing newStop with
  | zero =>
      obtain rfl : start = 0 := by omega
      rw [(nothing old new newStop).1]
      rfl
  | succ oldStop ih =>
      cases newStop with
      | zero =>
          obtain rfl : start = 0 := by omega
          rw [(nothing new old (oldStop + 1)).2]
          rfl
      | succ newStop =>
          simp only [trimEnds]
          split
          · rename_i room
            have shorter := ih room.1 (Nat.le_of_succ_le oldBounded) room.2
              (Nat.le_of_succ_le newBounded)
            rw [List.getElem?_eq_getElem oldBounded, List.getElem?_eq_getElem newBounded,
              reverse_slice_succ room.1 oldBounded, reverse_slice_succ room.2 newBounded]
            simp only [Option.bind_eq_bind, Option.bind_some, Change.commonLength]
            split
            · rw [shorter, Nat.add_sub_add_right, Nat.add_sub_add_right]
            · rfl
          · rename_i full
            have ended : start = oldStop + 1 ∨ start = newStop + 1 := by omega
            rcases ended with rfl | rfl
            · rw [(nothing old new (newStop + 1)).1]
              rfl
            · rw [(nothing new old (oldStop + 1)).2]
              rfl

theorem between_eq (old new : Text) : between old new = some (Change.between? old new) := by
  have inOld := Change.commonLength_le_left old new
  have inNew := Change.commonLength_le_right old new
  simp only [between, Change.between?]
  generalize Change.commonLength old new = start at inOld inNew
  have oldRest : old.slice start old.length = old.drop start :=
    List.take_of_length_le (by simp)
  have newRest : new.slice start new.length = new.drop start :=
    List.take_of_length_le (by simp)
  have trimmed := trimEnds_eq inOld (Nat.le_refl old.length) inNew (Nat.le_refl new.length)
  have keptOld := Change.commonLength_le_left (old.drop start).reverse (new.drop start).reverse
  have keptNew := Change.commonLength_le_right (old.drop start).reverse (new.drop start).reverse
  rw [oldRest, newRest] at trimmed
  generalize Change.commonLength (old.drop start).reverse (new.drop start).reverse = kept
    at trimmed keptOld keptNew
  rw [List.length_reverse, List.length_drop] at keptOld keptNew
  have same : (start = old.length ∧ start = new.length) ↔
      ((old.drop start).isEmpty && (new.drop start).isEmpty) = true := by
    simp only [Bool.and_eq_true, List.isEmpty_iff, List.drop_eq_nil_iff]
    omega
  have held : slice old start (old.length - kept) =
      some ((old.drop start).take ((old.drop start).length - kept)) := by
    rw [slice_eq (by omega) (Nat.sub_le ..), Text.slice, List.length_drop]
    congr 2
    omega
  have fresh : slice new start (new.length - kept) =
      some ((new.drop start).take ((new.drop start).length - kept)) := by
    rw [slice_eq (by omega) (Nat.sub_le ..), Text.slice, List.length_drop]
    congr 2
    omega
  simp only [same, trimmed, Option.bind_eq_bind, Option.bind_some, held, fresh]
  split <;> rfl

end ModalVi.Strict
