import ModalVi.Proofs.Session.Dispatch
import ModalVi.Proofs.Session.Run

namespace ModalVi

/-! What a session remembers of commands can be typed again.

Held keys are always the beginning of a command, in whatever order keys, calls and changes by the host
come.  So the keys of a command that was remembered are those of a command that edits, and nobody
would have taken fewer of them for one. -/

/-- No key but the last makes a command of these. -/
def Legible (mode : Mode) (keys : List Char) : Prop :=
  ∀ front, front ≠ [] → front <+: keys → Session.Unfinished mode front

theorem Legible.nil (mode : Mode) : Legible mode [] := by
  intro front given isPrefix
  exact absurd (List.prefix_nil.mp isPrefix) given

theorem Legible.snoc {mode : Mode} {keys : List Char} {c : Char} (legible : Legible mode keys)
    (unfinished : Session.Unfinished mode (keys ++ [c])) : Legible mode (keys ++ [c]) := by
  intro front given isPrefix
  rcases List.prefix_concat_iff.mp isPrefix with rfl | shorter
  · exact unfinished
  · exact legible front given shorter

/-- The keys of the last change, if it was made by a command, are those of one that edits. -/
def LastChange.Repeatable (last : LastChange) : Prop :=
  last.keys ≠ [] → ∃ held c count command, last.keys = held ++ [c] ∧ Legible .command held ∧
    Command.parse (held ++ [c]) = .ok (count, command) ∧ command.edits = true ∧
    (command.inserts = false → last.typed = [] ∧ last.capturing = false)

/-- What is typed later belongs to the command only if that led to insert mode. -/
theorem LastChange.Repeatable.finishTyping {last : LastChange} (repeatable : last.Repeatable)
    (typed : Text) : (last.finishTyping typed).Repeatable := by
  simp only [LastChange.finishTyping]
  split
  · rename_i capturing
    intro given
    obtain ⟨held, c, count, command, keys, legible, read, edits, stays⟩ := repeatable given
    refine ⟨held, c, count, command, keys, legible, read, edits, fun noTyping => ?_⟩
    exact absurd ((stays noTyping).2.symm.trans capturing) (by simp)
  · split
    · exact repeatable
    · intro given
      exact absurd rfl given

namespace Session

variable {library : Library} {session before after : Session library}

/-- Held keys are the beginning of a command, and the last change can be typed again. -/
structure Ready (session : Session library) : Prop where
  legible : Legible session.mode session.keys
  repeatable : session.last.Repeatable

theorem Ready.fresh (ready : Ready before) (keys : after.keys = [])
    (last : after.last = before.last) :
    Ready after :=
  ⟨keys ▸ .nil _, last ▸ ready.repeatable⟩

/-- Only a command that edits is remembered. -/
theorem Ready.remembered {c : Char} (ready : Ready before)
    (remembered : Remembered (before.keys ++ [c]) (before.holding (before.keys ++ [c])) after) :
    after.last.Repeatable := by
  cases remembered with
  | same sameKeys sameTyped sameCapturing _ =>
      intro given
      rw [sameKeys] at given
      obtain ⟨held, c, count, command, keys, rest⟩ := ready.repeatable given
      refine ⟨held, c, count, command, sameKeys.trans keys, ?_⟩
      rw [sameTyped, sameCapturing]
      exact rest
  | recorded mode read edits itself nothing capturing _ _ =>
      intro _
      have command : before.mode = .command := mode
      refine ⟨before.keys, c, _, _, itself, command ▸ ready.legible, read, edits, fun stays => ?_⟩
      exact ⟨nothing, capturing.trans stays⟩

theorem keys_of_carried {keys : List Char} {control : Bool} {result : Except EditError Flow}
    (carried : Carried keys control before (result, after)) : after.keys = before.keys := by
  cases carried with
  | waiting _ => rfl
  | failed _ untouched _ => exact untouched.keys
  | left _ untouched _ _ _ => exact untouched.keys
  | kept _ kept _ => exact kept.keys
  | edited _ edited _ _ _ => exact edited.keys
  | again _ _ _ => rfl
  | undone _ _ _ => exact (aside_undoTimes _ _).keys
  | redone _ _ => exact (aside_redoTimes _ _).keys

theorem keys_retype (last : LastChange) (session : Session library) :
    (session.retype last).keys = session.keys := by
  simp only [retype]
  split
  · rfl
  · exact (beside_put_setCursor _ _ _ _ session).keys

theorem keys_repeatOnce {last : LastChange} {result : Except EditError Unit}
    (mode : session.mode = .command) (repeated : session.repeatOnce last = (result, after)) :
    after.keys = session.keys := by
  have ran := carried_replay last mode
  rw [repeatOnce_eq] at repeated
  generalize session.replay last = attempt at ran repeated
  obtain ⟨outcome, middle⟩ := attempt
  have same := keys_of_carried ran
  cases outcome with
  | error error =>
      cases repeated
      exact same
  | ok flow =>
      obtain ⟨-, rfl⟩ := Prod.mk.inj repeated
      exact (keys_retype last middle).trans same

theorem keys_repeatTimes {last : LastChange} {count : Nat} {result : Except EditError Unit}
    (mode : session.mode = .command) (repeated : session.repeatTimes last count = (result, after)) :
    after.keys = session.keys := by
  induction count generalizing session with
  | zero =>
      cases repeated
      rfl
  | succ count ih =>
      simp only [repeatTimes] at repeated
      split at repeated
      · rename_i next once
        exact (ih (mode_repeatOnce once) repeated).trans (keys_repeatOnce mode once)
      · exact keys_repeatOnce mode repeated

/-- A repetition holds no keys and remembers nothing of its own. -/
theorem repeatLast_cases {count : Nat} {result : Except EditError Unit}
    (repeated : session.repeatLast count = (result, after)) (mode : session.mode = .command) :
    after.keys = session.keys ∧ after.last = session.last := by
  simp only [repeatLast] at repeated
  split at repeated
  · cases repeated
    exact ⟨rfl, rfl⟩
  · generalize made : session.repeatTimes session.last count = attempt at repeated
    obtain ⟨outcome, middle⟩ := attempt
    cases repeated
    have keys := keys_repeatTimes mode made
    exact ⟨keys, rfl⟩

/-- A repetition ends with the last change that it began with, and nothing else that becomes of a command
changes it. -/
theorem last_conclude {keys : List Char} {control : Bool} {attempt : Attempt library Flow}
    (carried : Carried keys control session attempt) :
    (conclude attempt).2.last = attempt.2.last := by
  cases carried with
  | waiting => rfl
  | failed noPrefix | left noPrefix =>
      rw [conclude_error noPrefix]
      rfl
  | kept once | edited once =>
      obtain ⟨outcome, _, finished⟩ := finish_of_once once (dropKeys _)
      rw [conclude, finished]
      rfl
  | undone | redone => rfl
  | again _ mode _ =>
      simp only [conclude, finish]
      split
      · rename_i next repeated
        exact (repeatLast_cases repeated mode).2
      · rename_i error next repeated
        exact (repeatLast_cases repeated mode).2

theorem Ready.conclude {c : Char} {control : Bool} {attempt : Attempt library Flow}
    (ready : Ready before)
    (carried : Carried (before.keys ++ [c]) control (before.holding (before.keys ++ [c])) attempt) :
    Ready (conclude attempt).2 := by
  cases carried with
  | waiting unfinished => exact ⟨ready.legible.snoc unfinished, ready.repeatable⟩
  | failed noPrefix untouched _ =>
      rw [conclude_error noPrefix]
      exact ready.fresh rfl untouched.last
  | left noPrefix untouched _ _ _ =>
      rw [conclude_error noPrefix]
      exact ready.fresh rfl untouched.last
  | kept once _ remembered | edited once _ _ _ remembered =>
      obtain ⟨outcome, _, finished⟩ := finish_of_once once (dropKeys _)
      rw [Session.conclude, finished]
      have last := ready.remembered remembered
      exact ⟨.nil _, last⟩
  | undone _ _ _ => exact ready.fresh rfl (aside_undoTimes _ _).last
  | redone _ _ => exact ready.fresh rfl (aside_redoTimes _ _).last
  | again notControl mode asked =>
      simp only [Session.conclude, finish]
      split
      · rename_i next repeated
        obtain ⟨keys, last⟩ := repeatLast_cases repeated mode
        exact ready.fresh keys last
      · rename_i error next repeated
        obtain ⟨keys, last⟩ := repeatLast_cases repeated mode
        exact ready.fresh keys last

theorem beside_reconcile (session : Session library) : Beside session session.reconcile := by
  simp only [reconcile]
  split <;> exact ⟨rfl, rfl, rfl⟩

theorem beside_insertText (new : Text) (session : Session library) :
    Beside session (session.insertText new).2 := by
  simp only [insertText]
  split
  · exact .refl session
  · have reconciled := beside_reconcile session
    have moved : Beside session
        { session.reconcile with
          cursor := Cursor.collapsed session.reconcile.surface.selection.start } :=
      ⟨reconciled.mode, reconciled.last, reconciled.keys⟩
    split
    · rename_i next refused
      exact moved.trans (beside_of_replace refused)
    · rename_i next made
      have replaced := moved.trans (beside_of_replace made)
      exact ⟨replaced.mode, replaced.last, replaced.keys⟩

theorem Ready.of_beside (ready : Ready before) (beside : Beside before after) : Ready after :=
  ⟨by rw [beside.mode, beside.keys]; exact ready.legible, beside.last ▸ ready.repeatable⟩

theorem Ready.enter (ready : Ready session) : Ready session.enter := by
  have last : session.reconcile.last.Repeatable :=
    (beside_reconcile session).last ▸ ready.repeatable
  exact ⟨.nil _, last.finishTyping _⟩

theorem Ready.key (ready : Ready session) (pressed : Key) : Ready (session.key pressed).2 := by
  have answered := pressed_key session pressed
  generalize session.key pressed = answer at answered
  cases answered with
  | typing mode handled =>
      rcases insertKey_cases handled with rfl | rfl | rfl
      · exact ready.enter
      · exact ready.of_beside (beside_insertText _ session)
      · exact ready
  | ignored owned => exact ready
  | escaped | released | refused => exact ready.fresh rfl rfl
  | dispatched owned chord carried concluded =>
      rw [← concluded]
      exact ready.conclude carried

theorem Ready.handle (ready : Ready session) (event : Event) : Ready (session.handle event) := by
  cases event with
  | key pressed => exact ready.key pressed
  | insertText new => exact ready.of_beside (beside_insertText new session)
  | enter => exact ready.enter
  | release | blur => exact ready.fresh rfl rfl
  | mouseSelection =>
      simp only [Session.handle, mouseSelection]
      split
      · exact ready
      · split
        · exact ready.fresh rfl rfl
        · split <;> exact ready.fresh rfl rfl
  | setDebug debug | field surface | clipboard clipboard | prompt prompt =>
      exact ⟨ready.legible, ready.repeatable⟩

/-- Whatever a host does, and in whatever order, its session stays ready. -/
theorem ready_of_reaches {allowed : Session library → Event → Prop} {surface : Surface}
    {clipboard : Clipboard} {prompt : Prompt} {options : Options}
    (reached : Reaches allowed (Session.start library surface clipboard prompt options) session) :
    Ready session :=
  reached.preserves (fun _ event ready _ => ready.handle event) ⟨.nil _, fun given => absurd rfl given⟩

end Session

end ModalVi
