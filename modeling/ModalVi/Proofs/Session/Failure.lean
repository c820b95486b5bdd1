import ModalVi.Proofs.Session.Dispatch
import ModalVi.Regex.Engine
import ModalVi.Script

namespace ModalVi.Session

/-! Keys that fail.

Whatever a command needs to know is read, asked for and looked up before its first edit.  So a key that
fails has changed nothing that a user would miss, wherever in the command the failure came up. -/

variable {library : Library} {session after : Session library} {pressed : Key} {error : EditError}

/-- A key that fails leaves the text, the history, the last change and the clipboard as they were and
drops the keys typed so far.  Mode and selection stay as well, but for the command line of visual mode,
which ends visual mode whether it fails or not.  A repetition is another matter: it may fail after some
of its changes were made. -/
theorem untouched_of_key_error (failed : session.key pressed = (.error error, after))
    (once : ¬ session.Dispatches pressed .repeatLast) :
    after.text = session.text ∧ after.history = session.history ∧ after.last = session.last ∧
      after.clipboard.content = session.clipboard.content ∧ after.keys = [] ∧
      (¬ session.DispatchesVisual pressed .exPrompt →
        after.mode = session.mode ∧ after.surface.selection = session.surface.selection) ∧
      (session.DispatchesVisual pressed .exPrompt → after.mode = .command) := by
  have answered := pressed_key session pressed
  rw [failed] at answered
  cases answered with
  | refused owned chord =>
      refine ⟨rfl, rfl, rfl, rfl, rfl, fun _ => ⟨rfl, rfl⟩, fun asks => ?_⟩
      obtain ⟨c, _, other, _⟩ := asks
      rw [chord] at other
      cases other
  | dispatched owned chord carried concluded =>
      cases carried with
      | waiting => cases concluded
      | failed noPrefix untouched notLeft =>
          rw [conclude_error noPrefix] at concluded
          cases concluded
          refine ⟨untouched.text, untouched.history, untouched.last, untouched.content, rfl,
            fun _ => ⟨untouched.mode, congrArg Surface.selection untouched.surface⟩, fun asks => ?_⟩
          obtain ⟨c, count, typed, visual, read⟩ := asks
          rw [chord] at typed
          split at typed
          · cases typed
          · rename_i notControl
            cases typed
            exact absurd read (notLeft (by simpa using notControl) visual count)
      | left noPrefix untouched notControl visual asked =>
          rw [conclude_error noPrefix] at concluded
          cases concluded
          refine ⟨untouched.text, untouched.history, untouched.last, untouched.content, rfl,
            fun stays => absurd ?_ stays, fun _ => rfl⟩
          exact ⟨_, _, by rw [chord, notControl]; rfl, visual, asked⟩
      | kept once _ _ | edited once _ _ _ _ =>
          obtain ⟨outcome, _, finished⟩ := finish_of_once once (dropKeys _)
          rw [conclude, finished] at concluded
          cases concluded
      | again notControl mode asked =>
          exact absurd ⟨_, _, by rw [chord, notControl]; rfl, mode, asked⟩ once
      | undone | redone => cases concluded

theorem untouched_of_put_unavailable :
    let session : Session .standard :=
      { Script.begin .standard "ab".toList {} [] with clipboard := .failing .unavailable }
    let after := (session.key (.char 'p')).2
    session.key (.char 'p') = (.error (.clipboard .unavailable), after) ∧
      ¬ session.Dispatches (.char 'p') .repeatLast ∧ after.text = session.text ∧
      after.history = session.history ∧ after.mode = session.mode := by
  intro session after
  have failed : session.key (.char 'p') = (.error (.clipboard .unavailable), after) := rfl
  have once : ¬ session.Dispatches (.char 'p') .repeatLast := by
    rintro ⟨c, count, typed, _, read⟩
    cases typed
    cases read
  have notLeft : ¬ session.DispatchesVisual (.char 'p') .exPrompt := by
    rintro ⟨c, count, _, visual, _⟩
    cases visual
  obtain ⟨text, history, _, _, _, stays, _⟩ := untouched_of_key_error failed once
  exact ⟨failed, once, text, history, (stays notLeft).1⟩

end ModalVi.Session
