import ModalVi.History
import ModalVi.Proofs.Text.Splice

namespace ModalVi.Change

/-! What a change says about the texts before and after it, and the change found between two texts. -/

/-- The change leads from one text to another: its span holds its old text in the first, and putting
its new text there gives the second. -/
structure Takes (change : Change) (before after : Text) : Prop where
  ordered : change.start ≤ change.stop
  bounded : change.stop ≤ before.length
  held : before.slice change.start change.stop = change.old
  replaced : before.splice change.start change.stop change.new = after

namespace Takes

variable {change : Change} {before after : Text}

theorem start_add_length_old (takes : change.Takes before after) :
    change.start + change.old.length = change.stop := by
  have filled := Text.length_slice takes.ordered takes.bounded
  rw [takes.held] at filled
  have ordered := takes.ordered
  omega

theorem start_add_length_new_le (takes : change.Takes before after) :
    change.start + change.new.length ≤ after.length := by
  rw [← takes.replaced]
  exact Text.start_add_length_le_splice change.new takes.ordered takes.bounded

theorem splice_old (takes : change.Takes before after) :
    after.splice change.start (change.start + change.new.length) change.old = before := by
  rw [← takes.replaced, ← takes.held]
  exact Text.splice_splice_slice change.new takes.ordered takes.bounded

theorem splice_new (takes : change.Takes before after) :
    before.splice change.start (change.start + change.old.length) change.new = after := by
  rw [takes.start_add_length_old]
  exact takes.replaced

theorem slice_new (takes : change.Takes before after) :
    after.slice change.start (change.start + change.new.length) = change.new := by
  obtain ⟨front, held, back, parts, start, stop⟩ := Text.exists_parts takes.ordered takes.bounded
  rw [← takes.replaced, parts, stop, start, Text.splice_parts, Text.slice_parts]

theorem withCarets (takes : change.Takes before after) (caretBefore caretAfter : Option Nat) :
    ({ change with caretBefore, caretAfter } : Change).Takes before after :=
  ⟨takes.ordered, takes.bounded, takes.held, takes.replaced⟩

/-- Inserting right after the new text makes the same change longer. -/
theorem grown (takes : change.Takes before after) (more : Text) (caretAfter : Option Nat) :
    ({ change with new := change.new ++ more, caretAfter } : Change).Takes before
      (after.splice (change.start + change.new.length) (change.start + change.new.length) more) where
  ordered := takes.ordered
  bounded := takes.bounded
  held := takes.held
  replaced := by
    rw [← takes.replaced]
    exact (Text.splice_insert_after change.new more takes.ordered takes.bounded).symm

end Takes

/-! ### The change between two texts -/

theorem commonLength_le_left (first second : List Char) :
    commonLength first second ≤ first.length := by
  induction first generalizing second with
  | nil => exact Nat.le_refl _
  | cons a rest ih =>
      cases second with
      | nil => exact Nat.zero_le _
      | cons b others =>
          simp only [commonLength, List.length_cons]
          have shorter := ih others
          split <;> omega

theorem take_commonLength (first second : List Char) :
    first.take (commonLength first second) = second.take (commonLength first second) := by
  induction first generalizing second with
  | nil => rfl
  | cons a rest ih =>
      cases second with
      | nil => rfl
      | cons b others =>
          simp only [commonLength]
          split
          · rename_i same
            have equal : a = b := eq_of_beq same
            rw [List.take_succ_cons, List.take_succ_cons, equal, ih others]
          · rfl

theorem commonLength_comm (first second : List Char) :
    commonLength first second = commonLength second first := by
  induction first generalizing second with
  | nil => cases second <;> rfl
  | cons a rest ih =>
      cases second with
      | nil => rfl
      | cons b others => simp only [commonLength, ih others, Bool.beq_comm (a := a)]

theorem commonLength_le_right (first second : List Char) :
    commonLength first second ≤ second.length := by
  rw [commonLength_comm]
  exact commonLength_le_left second first

theorem commonLength_append (front first second : List Char) :
    commonLength (front ++ first) (front ++ second) = front.length + commonLength first second := by
  induction front with
  | nil => simp
  | cons c rest ih =>
      simp only [List.cons_append, commonLength, beq_self_eq_true, if_true, ih, List.length_cons]
      omega

/-- A list without the end that it shares with another. -/
theorem exists_common_end (first second : List Char) :
    ∃ shared, shared.length = commonLength first.reverse second.reverse ∧
      first = first.take (first.length - shared.length) ++ shared ∧
      second = second.take (second.length - shared.length) ++ shared := by
  let kept := commonLength first.reverse second.reverse
  have inFirst : kept ≤ first.length := by
    simpa using commonLength_le_left first.reverse second.reverse
  have inSecond : kept ≤ second.length := by
    simpa using commonLength_le_right first.reverse second.reverse
  have same : first.drop (first.length - kept) = second.drop (second.length - kept) := by
    have ends := take_commonLength first.reverse second.reverse
    rw [List.take_reverse, List.take_reverse] at ends
    exact List.reverse_inj.mp ends
  have length : (first.drop (first.length - kept)).length = kept := by
    rw [List.length_drop]
    omega
  refine ⟨first.drop (first.length - kept), length, ?_, ?_⟩
  · rw [length, List.take_append_drop]
  · rw [length, same, List.take_append_drop]

theorem commonLength_self (list : List Char) : commonLength list list = list.length := by
  induction list with
  | nil => rfl
  | cons a rest ih => simp [commonLength, ih]

theorem between?_self (text : Text) : between? text text = none := by
  simp [between?, commonLength_self]

/-- There is no change between equal texts only. -/
theorem eq_of_between?_eq_none {old new : Text} (none : between? old new = none) : old = new := by
  simp only [between?] at none
  split at none
  · rename_i nothingLeft
    simp only [Bool.and_eq_true, List.isEmpty_iff] at nothingLeft
    have front := take_commonLength old new
    rw [← List.take_append_drop (commonLength old new) old, nothingLeft.1, front,
      ← nothingLeft.2, List.take_append_drop]
  · cases none

/-- No carets are known of a change that was found. -/
theorem carets_of_between? {old new : Text} {change : Change}
    (found : between? old new = some change) :
    change.caretBefore = none ∧ change.caretAfter = none := by
  simp only [between?] at found
  split at found
  · cases found
  · cases found
    exact ⟨rfl, rfl⟩

/-- Replacing what lies between a common beginning and a common end. -/
theorem takes_of_parts (front held fresh back : Text) :
    (⟨front.length, front.length + held.length, held, fresh, none, none⟩ : Change).Takes
      (front ++ held ++ back) (front ++ fresh ++ back) where
  ordered := Nat.le_add_right _ _
  bounded := by simp
  held := Text.slice_parts front held back
  replaced := Text.splice_parts front held back fresh

/-- Whatever text holds what a change put there, the change leads to it from the text with that taken
back. -/
theorem takes_of_slice_new {change : Change} {after : Text}
    (whole : change.start + change.old.length = change.stop)
    (bounded : change.start + change.new.length ≤ after.length)
    (held : after.slice change.start (change.start + change.new.length) = change.new) :
    change.Takes (after.splice change.start (change.start + change.new.length) change.old) after := by
  obtain ⟨start, stop, old, new, caretBefore, caretAfter⟩ := change
  obtain ⟨front, middle, back, rfl, startEq, stopEq⟩ :=
    Text.exists_parts (Nat.le_add_right start new.length) bounded
  simp only at whole held ⊢
  rw [startEq] at whole stopEq held ⊢
  have same : middle = new := by
    rw [stopEq, Text.slice_parts] at held
    exact held
  rw [← same, Text.splice_parts, ← whole]
  exact (takes_of_parts front old middle back).withCarets caretBefore caretAfter

/-- The change found between two texts leads from the one to the other. -/
theorem takes_of_between? {old new : Text} {change : Change}
    (found : between? old new = some change) : change.Takes old new := by
  simp only [between?] at found
  split at found
  · cases found
  · cases found
    obtain ⟨front, frontEq⟩ : ∃ front, front = old.take (commonLength old new) := ⟨_, rfl⟩
    obtain ⟨oldRest, oldRestEq⟩ : ∃ rest, rest = old.drop (commonLength old new) := ⟨_, rfl⟩
    obtain ⟨newRest, newRestEq⟩ : ∃ rest, rest = new.drop (commonLength old new) := ⟨_, rfl⟩
    have oldParts : front ++ oldRest = old := by
      rw [frontEq, oldRestEq, List.take_append_drop]
    have newParts : front ++ newRest = new := by
      rw [frontEq, newRestEq, take_commonLength, List.take_append_drop]
    have startEq : commonLength old new = front.length := by
      rw [frontEq, List.length_take]
      exact (Nat.min_eq_left (commonLength_le_left old new)).symm
    obtain ⟨shared, kept, heldParts, freshParts⟩ := exists_common_end oldRest newRest
    rw [← oldRestEq, ← newRestEq, ← kept, startEq]
    have taken := takes_of_parts front (oldRest.take (oldRest.length - shared.length))
      (newRest.take (newRest.length - shared.length)) shared
    have stopEq : old.length - shared.length =
        front.length + (oldRest.take (oldRest.length - shared.length)).length := by
      have lengths := congrArg List.length heldParts
      rw [List.length_append] at lengths
      rw [← oldParts, List.length_append]
      omega
    rw [stopEq]
    rwa [List.append_assoc, List.append_assoc, ← heldParts, ← freshParts, oldParts,
      newParts] at taken

end ModalVi.Change
