import ModalVi.Surface

namespace ModalVi.Surface

/-! What becomes of an edit that the engine asks a host for. -/

/-- The field after one verdict was given. -/
def judged (surface : Surface) : Surface :=
  { surface with verdicts := fun index => surface.verdicts (index + 1) }

/-- The field after an edit that the host accepted. -/
def edited (start stop : Nat) (new : Text) (surface : Surface) : Surface :=
  { surface.judged with
    text := surface.text.splice start stop new
    selection := ⟨start, start + new.length, .forward⟩ }

@[simp] theorem text_edited (start stop : Nat) (new : Text) (surface : Surface) :
    (surface.edited start stop new).text = surface.text.splice start stop new := rfl

/-- The host accepts every edit to come. -/
def Accepts (surface : Surface) : Prop := ∀ index, surface.verdicts index = true

/-- The host refuses every edit to come. -/
def Refuses (surface : Surface) : Prop := ∀ index, surface.verdicts index = false

theorem Refuses.judged {surface : Surface} (refuses : surface.Refuses) : surface.judged.Refuses :=
  fun index => refuses (index + 1)

/-- The verdicts to come on `after` are those to come on `before`, apart from the first few. -/
def Follows (before after : Surface) : Prop :=
  ∃ given, ∀ index, after.verdicts index = before.verdicts (index + given)

theorem Follows.refl (surface : Surface) : surface.Follows surface := ⟨0, fun _ => rfl⟩

theorem Follows.trans {before middle after : Surface} (first : before.Follows middle)
    (second : middle.Follows after) : before.Follows after := by
  obtain ⟨earlier, first⟩ := first
  obtain ⟨later, second⟩ := second
  refine ⟨later + earlier, fun index => ?_⟩
  rw [second, first, Nat.add_assoc]

theorem Follows.edited (start stop : Nat) (new : Text) (surface : Surface) :
    surface.Follows (surface.edited start stop new) := ⟨1, fun _ => rfl⟩

theorem Accepts.follows {before after : Surface} (accepts : before.Accepts)
    (follows : before.Follows after) : after.Accepts := by
  obtain ⟨given, same⟩ := follows
  intro index
  rw [same]
  exact accepts _

section Edit

variable {start stop : Nat} {new : Text} {before after : Surface}

/-- An edit is made only within the text and only if the host accepts it. -/
theorem eq_edited_of_edit (made : before.edit start stop new = (true, after)) :
    start ≤ stop ∧ stop ≤ before.text.length ∧ before.verdicts 0 = true ∧
      after = before.edited start stop new := by
  simp only [edit] at made
  split at made
  · rename_i accepted
    split at made
    · rename_i found
      simp only [replace?] at found
      split at found
      · rename_i within
        cases found
        cases made
        exact ⟨within.1, within.2, accepted, rfl⟩
      · cases found
    · cases made
  · cases made

theorem eq_judged_of_edit (refused : before.edit start stop new = (false, after)) :
    after = before.judged := by
  simp only [edit] at refused
  split at refused
  · split at refused
    · cases refused
    · cases refused
      rfl
  · cases refused
    rfl

theorem edit_of_accepted (new : Text) (accepted : before.verdicts 0 = true)
    (ordered : start ≤ stop) (bounded : stop ≤ before.text.length) :
    before.edit start stop new = (true, before.edited start stop new) := by
  have within : start ≤ stop ∧ stop ≤ before.text.length := ⟨ordered, bounded⟩
  simp only [edit, accepted, replace?, if_pos within]
  rfl

/-- An edit on a host that accepts everything is made if it is within the text. -/
theorem edit_of_accepts (accepts : before.Accepts) (start stop : Nat) (new : Text) :
    before.edit start stop new =
      if start ≤ stop ∧ stop ≤ before.text.length then (true, before.edited start stop new)
      else (false, before.judged) := by
  split
  · rename_i within
    exact edit_of_accepted new (accepts 0) within.1 within.2
  · rename_i beyond
    simp only [edit, accepts 0, if_true, replace?, if_neg beyond]
    rfl

end Edit

end ModalVi.Surface
