import ModalVi.Proofs.Session.Dispatch
import ModalVi.Proofs.Session.Respect

namespace ModalVi.Session

/-! Commands that edit do not look at the keys that are held.

A command typed by a user is carried out while its own keys are held, and a repeated one while none
are.  Both come to the same. -/

variable {library : Library} {session : Session library} {α : Type}

/-- The same attempt, with other keys held after it. -/
def attempting (held : List Char) (attempt : Attempt library α) : Attempt library α :=
  (attempt.1, attempt.2.holding held)

section Steps

variable (held : List Char) (session : Session library)

theorem replace_holding (low high : Nat) (new : Text) (merging : Bool) :
    (session.holding held).replace low high new merging =
      ((session.replace low high new merging).1,
        (session.replace low high new merging).2.holding held) := by
  have text : (session.holding held).text = session.text := rfl
  have surface : (session.holding held).surface = session.surface := rfl
  simp only [replace, text, surface]
  split
  · rfl
  · split <;> rfl

theorem respected_holding :
    Respected (fun (first second : Session library) => second = first.holding held) where
  text related := by rw [related]; rfl
  cursor related := by rw [related]; rfl
  clipboard related := by rw [related]; rfl
  options related := by rw [related]; rfl
  charSearch related := by rw [related]; rfl
  setCursor offset related := by rw [related]; rfl
  toInsert related := by rw [related]; rfl
  access clipboard related := by rw [related]; rfl
  remember charSearch related := by rw [related]; rfl
  replace low high new related := by
    rw [related, replace_holding]
    exact ⟨rfl, rfl⟩

theorem act_holding {command : Command} (edits : command.edits = true) (count : Nat) :
    (session.holding held).act command count = attempting held (session.act command count) := by
  have same : session.holding held = session.holding held := rfl
  obtain ⟨answer, after⟩ := (respected_holding held).act edits count same
  exact Prod.ext answer after

theorem run_of_edits {command : Command} (edits : command.edits = true) (keys : List Char)
    (count : Nat) :
    session.run keys command count =
      match { session with changed := false }.act command count with
      | (.error error, session) => (.error error, session)
      | (.ok (), session) =>
          (.ok .done,
            if session.changed then
              { session with last := session.last.recordCommand keys (session.mode == .insert) }
            else session) := by
  apply run_of_acts
  all_goals
    rintro rfl
    cases edits

theorem run_holding {command : Command} (edits : command.edits = true) (keys : List Char)
    (count : Nat) :
    (session.holding held).run keys command count =
      attempting held (session.run keys command count) := by
  have acted :=
    act_holding held ({ session with changed := false } : Session library) edits count
  have fresh : ({ session.holding held with changed := false } : Session library) =
      ({ session with changed := false } : Session library).holding held := rfl
  rw [run_of_edits _ edits, run_of_edits _ edits, fresh, acted]
  generalize ({ session with changed := false } : Session library).act command count = attempt
  rcases attempt with ⟨error | done, next⟩
  · rfl
  · simp only [attempting]
    have mode : (next.holding held).mode = next.mode := rfl
    have changed : (next.holding held).changed = next.changed := rfl
    rw [changed, mode]
    split <;> rfl

end Steps

end ModalVi.Session
