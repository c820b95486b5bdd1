import ModalVi.Proofs.Session.Replay

namespace ModalVi.Session

/-! Whose text is being typed.

Text that is typed belongs to the command that led to insert mode, and where the typing began is noted
then.  Outside insert mode nothing is being typed, so neither is set. -/

variable {library : Library} {session after : Session library} {keys : List Char} {control : Bool}

/-- Only while text is being typed can it belong to a command. -/
def Attributed (session : Session library) : Prop :=
  session.mode ≠ .insert → session.last.capturing = false ∧ session.last.mark = none

namespace Attributed

theorem idle (attributed : Attributed session) (owned : session.mode ≠ .insert) :
    session.last.capturing = false :=
  (attributed owned).1

theorem unmarked (attributed : Attributed session) (owned : session.mode ≠ .insert) :
    session.last.mark = none :=
  (attributed owned).2

theorem congr (attributed : Attributed session) (last : after.last = session.last)
    (mode : after.mode = session.mode) : Attributed after := by
  intro owned
  rw [mode] at owned
  rw [last]
  exact attributed owned

/-- Outside insert mode, nothing is being typed whatever mode comes next. -/
theorem of_owned (attributed : Attributed session) (owned : session.mode ≠ .insert)
    (last : after.last = session.last) : Attributed after := by
  intro _
  rw [last]
  exact attributed owned

theorem enter (session : Session library) : Attributed session.enter := by
  have finished (typed : Text) (last : LastChange) :
      (last.finishTyping typed).capturing = false ∧ (last.finishTyping typed).mark = none := by
    simp only [LastChange.finishTyping]
    split
    · exact ⟨rfl, rfl⟩
    · rename_i idle
      have idle : last.capturing = false := by simpa using idle
      split
      · exact ⟨idle, rfl⟩
      · exact ⟨idle, rfl⟩
  intro _
  exact finished _ _

/-- A command captures what is typed next only if it leads to insert mode. -/
theorem of_remembered (attributed : Attributed session) (owned : session.mode ≠ .insert)
    (remembered : Remembered keys session after) : Attributed after := by
  intro ownedAfter
  cases remembered with
  | same _ _ sameCapturing marked =>
      have mark := marked.resolve_left ownedAfter
      exact ⟨sameCapturing.trans (attributed.idle owned), mark.trans (attributed.unmarked owned)⟩
  | @recorded _ command _ _ _ _ _ capturing led marked =>
      have mark := marked.resolve_left ownedAfter
      refine ⟨?_, mark.trans (attributed.unmarked owned)⟩
      rw [capturing]
      cases inserts : command.inserts with
      | false => rfl
      | true => exact absurd (led inserts) ownedAfter

theorem conclude {attempt : Attempt library Flow} (attributed : Attributed session)
    (owned : session.mode ≠ .insert) (carried : Carried keys control session attempt) :
    Attributed (conclude attempt).2 := by
  have last := last_conclude carried
  cases carried with
  | waiting _ => exact attributed
  | failed _ untouched _ | left _ untouched _ _ _ =>
      exact attributed.of_owned owned (last.trans untouched.last)
  | kept once _ remembered | edited once _ _ _ remembered =>
      obtain ⟨outcome, _, finished⟩ := finish_of_once once (dropKeys _)
      rw [Session.conclude, finished]
      exact (attributed.of_remembered owned remembered).congr rfl rfl
  | undone _ _ _ => exact attributed.of_owned owned (aside_undoTimes _ _).last
  | redone _ _ => exact attributed.of_owned owned (aside_redoTimes _ _).last
  | again _ _ _ => exact attributed.of_owned owned last

theorem key (attributed : Attributed session) (pressed : Key) :
    Attributed (session.key pressed).2 := by
  have answered := pressed_key session pressed
  generalize session.key pressed = answer at answered
  cases answered with
  | typing mode handled =>
      rcases insertKey_cases handled with rfl | rfl | rfl
      · exact .enter session
      · have beside := beside_insertText ['\t'] session
        exact attributed.congr beside.last beside.mode
      · exact attributed
  | ignored owned => exact attributed
  | escaped owned _ | released owned _ _ | refused owned _ => exact attributed.of_owned owned rfl
  | @dispatched c _ _ _ owned _ carried concluded =>
      have held : Attributed (session.holding (session.keys ++ [c])) := attributed.congr rfl rfl
      rw [← concluded]
      exact held.conclude owned carried

theorem handle (attributed : Attributed session) (event : Event) :
    Attributed (session.handle event) := by
  cases event with
  | key pressed => exact attributed.key pressed
  | insertText new =>
      have beside := beside_insertText new session
      exact attributed.congr beside.last beside.mode
  | enter => exact .enter session
  | release | blur => exact fun owned => absurd rfl owned
  | mouseSelection =>
      simp only [Session.handle, mouseSelection]
      split
      · exact attributed
      · rename_i engine
        have owned : session.mode ≠ .insert := by simpa [Mode.isEngineOwned] using engine
        split
        · exact attributed.of_owned owned rfl
        · split <;> exact attributed.of_owned owned rfl
  | setDebug debug | field surface | clipboard clipboard | prompt prompt =>
      exact attributed.congr rfl rfl

end Attributed

theorem attributed_of_reaches {allowed : Session library → Event → Prop} {surface : Surface}
    {clipboard : Clipboard} {prompt : Prompt} {options : Options}
    (reached : Reaches allowed (Session.start library surface clipboard prompt options) session) :
    Attributed session :=
  reached.preserves (fun _ event attributed _ => attributed.handle event)
    (fun owned => absurd rfl owned)

end ModalVi.Session
