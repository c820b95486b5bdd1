import ModalVi.Proofs.History.Chain
import ModalVi.Session.State

namespace ModalVi.Session

/-! Undoing and redoing on a host that accepts every edit. -/

variable {library : Library} {session : Session library} {change : Change}
  {changes rest : List Change}
  {origin before after latest : Text} {count : Nat}

/-- The session after the newest change was undone. -/
def undoing (change : Change) (rest : List Change) (session : Session library) : Session library :=
  { session with
    history := ⟨rest, change :: session.history.redoable, false⟩
    surface := session.surface.edited change.start (change.start + change.new.length)
      change.old }.setCursor change.undoCaret

/-- The session after the change undone last was made again. -/
def redoing (change : Change) (rest : List Change) (session : Session library) : Session library :=
  { session with
    history := ⟨change :: session.history.undoable, rest, false⟩
    surface := session.surface.edited change.start (change.start + change.old.length)
      change.new }.setCursor change.redoCaret

theorem text_undoing (rest : List Change) (taken : change.Takes before session.text) :
    (session.undoing change rest).text = before := taken.splice_old

theorem text_redoing (rest : List Change) (taken : change.Takes session.text after) :
    (session.redoing change rest).text = after := taken.splice_new

/-- Within the text, the caret goes where it is put. -/
theorem cursor_setCursor {offset : Nat} (session : Session library)
    (inside : offset ≤ session.text.length) :
    (session.setCursor offset).cursor = Cursor.collapsed offset ∧
      (session.setCursor offset).surface.selection = Selection.caret offset := by
  have least : min offset session.text.length = offset := Nat.min_eq_left inside
  have shown : (Selection.caret offset).clamped session.text.length = Selection.caret offset := by
    simp only [Selection.clamped, Selection.caret, least]
  simp only [setCursor, least]
  exact ⟨trivial, shown⟩

theorem cursor_undoing (rest : List Change) (taken : change.Takes before session.text)
    (inside : change.undoCaret ≤ before.length) :
    (session.undoing change rest).cursor = Cursor.collapsed change.undoCaret ∧
      (session.undoing change rest).surface.selection = Selection.caret change.undoCaret := by
  rw [← text_undoing rest taken] at inside
  exact cursor_setCursor _ inside

theorem cursor_redoing (rest : List Change) (taken : change.Takes session.text after)
    (inside : change.redoCaret ≤ after.length) :
    (session.redoing change rest).cursor = Cursor.collapsed change.redoCaret ∧
      (session.redoing change rest).surface.selection = Selection.caret change.redoCaret := by
  rw [← text_redoing rest taken] at inside
  exact cursor_setCursor _ inside

theorem accepts_undoing (accepts : session.surface.Accepts) :
    (session.undoing change rest).surface.Accepts := fun _ => accepts _

theorem accepts_redoing (accepts : session.surface.Accepts) :
    (session.redoing change rest).surface.Accepts := fun _ => accepts _

theorem undoTimes_of_takes (newest : session.history.undoable = change :: rest)
    (taken : change.Takes before session.text) (accepts : session.surface.Accepts) :
    session.undoTimes (count + 1) = (session.undoing change rest).undoTimes count := by
  simp only [undoTimes, History.undo_of_takes newest taken (accepts 0)]
  rfl

theorem redoTimes_of_takes (next : session.history.redoable = change :: rest)
    (taken : change.Takes session.text after) (accepts : session.surface.Accepts) :
    session.redoTimes (count + 1) = (session.redoing change rest).redoTimes count := by
  simp only [redoTimes, History.redo_of_takes next taken (accepts 0)]
  rfl

/-- Undoing until nothing is left leads back to the beginning. -/
theorem undoTimes_all (accepts : session.surface.Accepts)
    (chain : Leads origin session.history.undoable.reverse session.text)
    (enough : session.history.undoable.length ≤ count) :
    (session.undoTimes count).text = origin ∧ (session.undoTimes count).history.undoable = [] ∧
      (session.undoTimes count).history.redoable =
        session.history.undoable.reverse ++ session.history.redoable ∧
      (session.undoTimes count).surface.Accepts := by
  generalize held : session.history.undoable = changes at chain enough
  induction changes generalizing session count with
  | nil =>
      cases chain
      cases count with
      | zero => exact ⟨rfl, held, rfl, accepts⟩
      | succ count =>
          simp only [undoTimes, History.undo, held]
          exact ⟨rfl, held, rfl, accepts⟩
  | cons change rest ih =>
      obtain ⟨middle, earlier, taken⟩ := chain.last_of_reverse_cons
      cases count with
      | zero => cases enough
      | succ count =>
          rw [undoTimes_of_takes held taken accepts]
          rw [← text_undoing rest taken] at earlier
          obtain ⟨text, undoable, redoable, still⟩ :=
            ih (accepts_undoing accepts) rfl earlier (Nat.le_of_succ_le_succ enough)
          refine ⟨text, undoable, ?_, still⟩
          rw [redoable, List.reverse_cons, List.append_assoc]
          rfl

/-- Making the next few changes again leads along the chain. -/
theorem redoTimes_length (accepts : session.surface.Accepts)
    (chain : Leads session.text changes after)
    (next : session.history.redoable = changes ++ rest) :
    (session.redoTimes changes.length).text = after := by
  induction changes generalizing session with
  | nil =>
      cases chain
      rfl
  | cons change others ih =>
      cases chain with
      | step taken later =>
          rw [List.length_cons, redoTimes_of_takes next taken accepts]
          rw [← text_redoing (others ++ rest) taken] at later
          exact ih (accepts_redoing accepts) later rfl

/-- Making everything again leads to the end of the chain. -/
theorem redoTimes_all (accepts : session.surface.Accepts)
    (chain : Leads session.text session.history.redoable latest)
    (enough : session.history.redoable.length ≤ count) :
    (session.redoTimes count).text = latest := by
  generalize held : session.history.redoable = changes at chain enough
  induction changes generalizing session count with
  | nil =>
      cases chain
      cases count with
      | zero => rfl
      | succ count =>
          simp only [redoTimes, History.redo, held]
          rfl
  | cons change rest ih =>
      cases chain with
      | step taken later =>
          cases count with
          | zero => cases enough
          | succ count =>
              rw [redoTimes_of_takes held taken accepts]
              rw [← text_redoing rest taken] at later
              exact ih (accepts_redoing accepts) rfl later (Nat.le_of_succ_le_succ enough)

end ModalVi.Session
