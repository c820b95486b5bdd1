import ModalVi.Proofs.Session.Dot

namespace ModalVi.Session

/-! The key of a repetition.

It carries out the command of the last change, if there is one, as often as the count says, and notes
the caret once at the end. -/

variable {library : Library} {session : Session library} {count : Nat} {low high : Nat} {new : Text}

/-- The session that a command begins with: no keys are held, and no edit was made yet. -/
def begun (session : Session library) :
    Session library := ({ session with changed := false } : Session library).dropKeys

theorem key_again (mode : session.mode = .command)
    (read : Command.parse (session.keys ++ ['.']) = .ok (count, .repeatLast)) :
    session.key (.char '.') = session.begun.finish (.again count) := by
  have owned : session.mode ≠ .insert := by simp [mode]
  have held : (session.holding (session.keys ++ ['.'])).mode = .command := mode
  have asked : (session.holding (session.keys ++ ['.'])).runKeys (session.keys ++ ['.']) =
      (.ok (.again count), { session.holding (session.keys ++ ['.']) with changed := false }) := by
    rw [runKeys, read]
    rfl
  rw [key_char owned, carryOut_of_command held, asked]
  rfl

/-- Without a count, the last change is made once more. -/
theorem key_once (mode : session.mode = .command) (fresh : session.keys = [])
    (given : session.last.isEmpty = false) :
    session.key (.char '.') =
      match session.begun.repeatOnce session.last with
      | (.error error, next) => (.error error, { next with last := session.last }.notice)
      | (.ok (), next) => (.ok .handled, { next with last := session.last }.notice.settled) := by
  have read : Command.parse (session.keys ++ ['.']) = .ok (1, .repeatLast) := by
    rw [fresh]
    rfl
  have last : session.begun.last = session.last := rfl
  rw [key_again mode read]
  simp only [finish, repeatLast, last, given, Bool.false_eq_true, if_false, repeatTimes]
  generalize session.begun.repeatOnce session.last = attempt
  rcases attempt with ⟨error | done, next⟩ <;> rfl

/-- That is its command, and then the text typed after it. -/
theorem key_once_of_replay (mode : session.mode = .command) (fresh : session.keys = [])
    (given : session.last.isEmpty = false) :
    session.key (.char '.') =
      match session.begun.replay session.last with
      | (.error error, next) => (.error error, { next with last := session.last }.notice)
      | (.ok _, next) => (.ok .handled, (next.repeated session.last).settled) := by
  rw [key_once mode fresh given, repeatOnce_eq]
  generalize session.begun.replay session.last = attempt
  rcases attempt with ⟨error | flow, next⟩ <;> rfl

/-- A host that accepts everything leaves the text as it was asked for. -/
theorem text_put (accepts : session.surface.Accepts) (low high : Nat) (new : Text) :
    (session.put low high new).text =
      session.text.splice (min low (min high session.text.length))
        (min high session.text.length) new := by
  have bounded : min high session.text.length ≤ session.text.length := Nat.min_le_right _ _
  have ordered : min low (min high session.text.length) ≤ min high session.text.length :=
    Nat.min_le_right _ _
  simp only [put, replace]
  split
  · rename_i same
    rw [← same, Text.splice_slice _ ordered]
  · rw [Surface.edit_of_accepted new (accepts 0) ordered bounded]
    rfl

/-- A repetition puts what was typed where the caret is. -/
theorem text_retype (last : LastChange) (accepts : session.surface.Accepts) :
    (session.retype last).text = session.text.splice session.caret session.caret last.typed := by
  simp only [retype]
  split
  · rename_i nothing
    have same := Text.splice_slice session.text (Nat.le_refl session.caret)
    rw [Text.slice_self] at same
    rw [List.isEmpty_iff.mp nothing, same]
  · have put := text_put accepts session.cursor.caret session.cursor.caret last.typed
    rw [Nat.min_eq_right (Nat.min_le_left session.cursor.caret session.text.length)] at put
    exact put

end ModalVi.Session
