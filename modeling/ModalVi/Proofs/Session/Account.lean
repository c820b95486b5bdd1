import ModalVi.Proofs.Session.Dispatch
import ModalVi.Proofs.Session.Run
import ModalVi.Proofs.Session.Undo
import ModalVi.Regex.Engine

namespace ModalVi.Session

/-! The history accounts for every text that a session has seen.

Between the keys of a user the history leads from the text at the beginning to the text that the
session knows (`Accounted`).  Outside insert mode that is the text of the field (`Settled`), and every
edit, undo, redo and repetition keeps it so, whether the host accepts what it is asked or not. -/

variable {library : Library} {origin : Text} {session before after : Session library}

/-- The history leads from the beginning to the text of the field, and the session knows that text. -/
structure Settled (origin : Text) (session : Session library) : Prop where
  consistent : session.history.Consistent origin session.text
  known : session.known = session.text

/-- The history leads from the beginning to the text that the session knows.  Only the text that a user
types while the host edits may be unknown. -/
structure Accounted (origin : Text) (session : Session library) : Prop where
  consistent : session.history.Consistent origin session.known
  known : session.mode ≠ .insert → session.known = session.text

theorem Settled.accounted (settled : Settled origin session) : Accounted origin session :=
  ⟨settled.known ▸ settled.consistent, fun _ => settled.known⟩

theorem Accounted.settled (accounted : Accounted origin session)
    (known : session.known = session.text) : Settled origin session :=
  ⟨known ▸ accounted.consistent, known⟩

namespace Settled

theorem of_kept (settled : Settled origin before) (kept : Kept before after) :
    Settled origin after where
  consistent := by
    refine ⟨?_, ?_⟩
    · rw [kept.undoable, kept.text]
      exact settled.consistent.undoable
    · rw [kept.redoable, kept.text]
      exact settled.consistent.redoable
  known := by
    rw [kept.text]
    rcases kept.known with same | noticed
    · exact same.trans settled.known
    · exact noticed

theorem of_edited {start stop : Nat} {new : Text} (settled : Settled origin before)
    (edited : Edited start stop new before after) : Settled origin after where
  consistent := by
    have taken : (⟨start, stop, before.text.slice start stop, new, some before.cursor.caret,
        none⟩ : Change).Takes before.text after.text :=
      ⟨edited.ordered, edited.bounded, rfl, edited.text.symm⟩
    refine ⟨?_, after.text, ?_⟩
    · rw [edited.undoable]
      exact settled.consistent.undoable.reverse_cons taken
    · rw [edited.redoable]
      exact .refl
  known := edited.known

theorem of_untouched (settled : Settled origin before) (untouched : Untouched before after) :
    Settled origin after :=
  settled.of_kept untouched.kept

theorem holding (settled : Settled origin session) (keys : List Char) :
    Settled origin (session.holding keys) :=
  ⟨settled.consistent, settled.known⟩

theorem setCursor (settled : Settled origin session) (offset : Nat) :
    Settled origin (session.setCursor offset) :=
  settled.of_kept (kept_setCursor offset session)

theorem settle (settled : Settled origin session) (caret : Nat) :
    Settled origin
      ({ session with history := session.history.settle caret } : Session library) :=
  ⟨settled.consistent.settle caret, settled.known⟩

/-- A replacement is remembered, whether it joins the newest change or not. -/
theorem replace {low high : Nat} {new : Text} {merging made : Bool}
    (settled : Settled origin session)
    (asked : session.replace low high new merging = (made, after)) : Settled origin after := by
  cases made with
  | false => exact settled.of_kept (kept_of_replace_eq_false asked)
  | true =>
      obtain ⟨start, stop, ordered, bounded, _, _, rfl⟩ := eq_replaced_of_replace asked
      exact ⟨settled.consistent.record new _ merging ordered bounded, rfl⟩

theorem undoTimes (count : Nat) (settled : session.history.Consistent origin session.text) :
    (session.undoTimes count).history.Consistent origin (session.undoTimes count).text := by
  induction count generalizing session with
  | zero => exact settled
  | succ count ih =>
      simp only [Session.undoTimes]
      generalize undone : session.history.undo session.surface = attempt
      obtain ⟨caret, history, surface⟩ := attempt
      have remaining : history.Consistent origin surface.text := settled.undo undone
      cases caret with
      | none => exact remaining
      | some caret => exact ih remaining

theorem redoTimes (count : Nat) (settled : session.history.Consistent origin session.text) :
    (session.redoTimes count).history.Consistent origin (session.redoTimes count).text := by
  induction count generalizing session with
  | zero => exact settled
  | succ count ih =>
      simp only [Session.redoTimes]
      generalize redone : session.history.redo session.surface = attempt
      obtain ⟨caret, history, surface⟩ := attempt
      have remaining : history.Consistent origin surface.text := settled.redo redone
      cases caret with
      | none => exact remaining
      | some caret => exact ih remaining

theorem undo (settled : Settled origin session) (count : Nat) :
    Settled origin (session.undo count) :=
  ⟨undoTimes count settled.consistent, rfl⟩

theorem redo (settled : Settled origin session) (count : Nat) :
    Settled origin (session.redo count) :=
  ⟨redoTimes count settled.consistent, rfl⟩

/-! ### Commands -/

theorem carried {keys : List Char} {control : Bool} {result : Except EditError Flow}
    (settled : Settled origin before) (carried : Carried keys control before (result, after)) :
    Settled origin after := by
  cases carried with
  | waiting _ => exact settled
  | failed _ untouched _ => exact settled.of_untouched untouched
  | left _ untouched _ _ _ =>
      exact (settled.of_untouched untouched).of_kept (kept_toCommand _)
  | kept _ kept _ => exact settled.of_kept kept
  | edited _ edited _ _ _ => exact settled.of_edited edited
  | again _ _ _ => exact settled.of_untouched (.memory ..)
  | undone _ _ _ => exact (settled.of_untouched (.memory ..)).undo _
  | redone _ _ => exact (settled.of_untouched (.memory ..)).redo _

theorem repeatOnce {last : LastChange} {result : Except EditError Unit}
    (settled : Settled origin session) (mode : session.mode = .command)
    (repeated : session.repeatOnce last = (result, after)) :
    Settled origin after ∧ (result = .ok () → after.mode = .command) := by
  have ran := carried_replay last mode
  rw [repeatOnce_eq] at repeated
  generalize session.replay last = attempt at ran repeated
  obtain ⟨outcome, middle⟩ := attempt
  have commanded := settled.carried ran
  cases outcome with
  | error error =>
      cases repeated
      exact ⟨commanded, by simp⟩
  | ok flow =>
      obtain ⟨-, rfl⟩ := Prod.mk.inj repeated
      have typed : Settled origin (middle.retype last) := by
        simp only [retype]
        split
        · exact commanded
        · exact (commanded.replace rfl).setCursor _
      exact ⟨⟨typed.consistent.close, typed.known⟩, fun _ => rfl⟩

theorem repeatTimes {last : LastChange} {count : Nat} {result : Except EditError Unit}
    (settled : Settled origin session) (mode : session.mode = .command)
    (repeated : session.repeatTimes last count = (result, after)) : Settled origin after := by
  induction count generalizing session with
  | zero =>
      cases repeated
      exact settled
  | succ count ih =>
      simp only [Session.repeatTimes] at repeated
      split at repeated
      · rename_i next once
        obtain ⟨next, still⟩ := settled.repeatOnce mode once
        exact ih next (still rfl) repeated
      · exact (settled.repeatOnce mode repeated).1

theorem repeatLast {count : Nat} {result : Except EditError Unit}
    (settled : Settled origin session) (mode : session.mode = .command)
    (repeated : session.repeatLast count = (result, after)) : Settled origin after := by
  simp only [Session.repeatLast] at repeated
  split at repeated
  · cases repeated
    exact settled
  · generalize made : session.repeatTimes session.last count = attempt at repeated
    obtain ⟨outcome, middle⟩ := attempt
    cases repeated
    exact ⟨(settled.repeatTimes mode made).consistent, rfl⟩

theorem conclude {keys : List Char} {control : Bool} {attempt : Attempt library Flow}
    (settled : Settled origin before) (carried : Carried keys control before attempt) :
    Settled origin (conclude attempt).2 := by
  obtain ⟨result, after⟩ := attempt
  have commanded := settled.carried carried
  have dropped : Settled origin after.dropKeys := ⟨commanded.consistent, commanded.known⟩
  cases carried with
  | waiting _ => exact settled
  | failed noPrefix _ _ | left noPrefix _ _ _ _ =>
      rw [conclude_error noPrefix]
      exact dropped
  | kept once _ _ | edited once _ _ _ _ =>
      obtain ⟨outcome, _, finished⟩ := finish_of_once once after.dropKeys
      simp only [Session.conclude, finished]
      exact dropped.settle _
  | undone _ _ _ | redone _ _ => exact dropped.settle _
  | again notControl mode asked =>
      simp only [Session.conclude, finish]
      split
      · rename_i next repeated
        exact (dropped.repeatLast mode repeated).settle _
      · rename_i error next repeated
        exact dropped.repeatLast mode repeated

end Settled

/-! ### Taking over from the host -/

/-- What the host did to the text becomes one change. -/
theorem Accounted.reconcile (accounted : Accounted origin session) :
    Settled origin session.reconcile := by
  simp only [Session.reconcile]
  split
  · rename_i change found
    exact ⟨accounted.consistent.push (Change.takes_of_between? found), rfl⟩
  · rename_i unchanged
    have same : session.known = session.text := Change.eq_of_between?_eq_none unchanged
    exact ⟨same ▸ accounted.consistent, rfl⟩

theorem Accounted.enter (accounted : Accounted origin session) : Settled origin session.enter :=
  ⟨accounted.reconcile.consistent.settle _, accounted.reconcile.known⟩

theorem Settled.release (settled : Settled origin session) : Settled origin session.release :=
  ⟨settled.consistent.close, rfl⟩

theorem Accounted.insertText (accounted : Accounted origin session) (new : Text) :
    Accounted origin (session.insertText new).2 := by
  simp only [Session.insertText]
  split
  · exact accounted
  · have reconciled := accounted.reconcile
    have moved : Settled origin
        ({ session.reconcile with
          cursor := Cursor.collapsed session.reconcile.surface.selection.start } :
            Session library) :=
      ⟨reconciled.consistent, reconciled.known⟩
    split
    · rename_i next refused
      exact (moved.replace refused).accounted
    · rename_i next made
      exact (((moved.replace made).setCursor _).settle _).accounted

/-! ### Runs -/

theorem Accounted.key (accounted : Accounted origin session) (pressed : Key) :
    Accounted origin (session.key pressed).2 := by
  have answered := pressed_key session pressed
  generalize session.key pressed = answer at answered
  cases answered with
  | typing mode handled =>
      rcases insertKey_cases handled with rfl | rfl | rfl
      · exact accounted.enter.accounted
      · exact accounted.insertText _
      · exact accounted
  | escaped owned escape =>
      have settled := accounted.settled (accounted.known owned)
      exact ((settled.holding []).of_kept (kept_toCommand _)).accounted
  | ignored owned => exact accounted
  | released owned tab fresh =>
      exact (accounted.settled (accounted.known owned)).release.accounted
  | refused owned chord => exact ⟨accounted.consistent, accounted.known⟩
  | dispatched owned chord carried concluded =>
      have settled := accounted.settled (accounted.known owned)
      rw [← concluded]
      exact ((settled.holding _).conclude carried).accounted

/-- What a considerate host does: it edits its field only in insert mode, and takes control away only
when the session knows the text. -/
def Considerate (session : Session library) : Event → Prop
  | .field surface => session.mode = .insert ∨ surface.text = session.text
  | .release | .blur => session.known = session.text
  | _ => True

theorem Accounted.handle {event : Event} (accounted : Accounted origin session)
    (considerate : session.Considerate event) : Accounted origin (session.handle event) := by
  cases event with
  | key pressed => exact accounted.key pressed
  | insertText new => exact accounted.insertText new
  | enter => exact accounted.enter.accounted
  | release => exact (accounted.settled considerate).release.accounted
  | blur =>
      have released := (accounted.settled considerate).release
      exact ⟨released.consistent, fun _ => rfl⟩
  | mouseSelection =>
      simp only [Session.handle, Session.mouseSelection]
      split
      · exact accounted
      · rename_i owned
        have settled := accounted.settled (accounted.known (by simpa [Mode.isEngineOwned] using owned))
        split
        · exact ⟨accounted.consistent, fun _ => settled.known⟩
        · split <;> exact ⟨accounted.consistent, fun _ => settled.known⟩
  | setDebug debug | clipboard clipboard | prompt prompt =>
      exact ⟨accounted.consistent, accounted.known⟩
  | field surface =>
      refine ⟨accounted.consistent, fun owned => ?_⟩
      rcases considerate with inserting | same
      · exact absurd inserting owned
      · exact (accounted.known owned).trans same.symm

/-- The history is a chain of changes in every state that a considerate host can lead a session to,
whatever it accepts and whatever keys are pressed: what can be undone leads from the first text to the
known one, and what can be redone leads on from there.  Undoing everything therefore restores the first
text, and making everything again restores the text from before. -/
theorem leads_of_reaches {surface : Surface} {clipboard : Clipboard} {prompt : Prompt}
    {options : Options}
    (reached : Reaches Considerate (Session.start library surface clipboard prompt options) session) :
    (session.mode ≠ .insert → session.known = session.text) ∧
      ∃ latest,
        Leads surface.text session.history.undoable.reverse session.known ∧
        Leads session.known session.history.redoable latest ∧
        (session.surface.Accepts → session.known = session.text →
          ∀ count, session.history.undoable.length ≤ count →
            (session.undo count).text = surface.text ∧
            (session.undo count).history.undoable = [] ∧
            ((session.undo count).redo session.history.undoable.length).text = session.text ∧
            ∀ more, session.history.undoable.length + session.history.redoable.length ≤ more →
              ((session.undo count).redo more).text = latest) := by
  have begun : Accounted surface.text (Session.start library surface clipboard prompt options) :=
    ⟨.empty surface.text, fun _ => rfl⟩
  have accounted : Accounted surface.text session :=
    reached.preserves (fun _ _ accounted considerate => accounted.handle considerate) begun
  obtain ⟨latest, later⟩ := accounted.consistent.redoable
  refine ⟨accounted.known, latest, accounted.consistent.undoable, later, ?_⟩
  intro accepts known count enough
  rw [known] at later
  have chain := (accounted.settled known).consistent.undoable
  obtain ⟨text, nothing, redoable, still⟩ := undoTimes_all accepts chain enough
  rw [← text] at chain
  refine ⟨text, nothing, ?_, fun more enough => ?_⟩
  · rw [← List.length_reverse]
    exact redoTimes_length still chain redoable
  · have remaining : (session.undo count).history.redoable =
        session.history.undoable.reverse ++ session.history.redoable := redoable
    have whole : Leads (session.undo count).text (session.undo count).history.redoable latest := by
      rw [remaining]
      exact chain.append later
    refine redoTimes_all still whole ?_
    rwa [remaining, List.length_append, List.length_reverse]

theorem leads_of_typing :
    let first := Session.start .standard (.ofText "ab".toList) (.ofText []) .silent {}
    let session := (first.handle (.insertText "c".toList)).handle .enter
    Reaches Considerate first session ∧ session.text = "cab".toList ∧
      (session.undo 1).text = "ab".toList ∧ ((session.undo 1).redo 1).text = "cab".toList := by
  intro first session
  have typed : Reaches Considerate first (first.handle (.insertText "c".toList)) :=
    .step .refl trivial
  have reached : Reaches Considerate first session := .step typed trivial
  have owned : session.mode ≠ .insert := by decide
  have text : session.text = "cab".toList := by decide
  have once : session.history.undoable.length = 1 := by decide
  have accepts : session.surface.Accepts := fun _ => rfl
  clear_value session
  obtain ⟨known, latest, _, _, restores⟩ := leads_of_reaches reached
  obtain ⟨begun, _, again, _⟩ := restores accepts (known owned) 1 (Nat.le_of_eq once)
  rw [once] at again
  exact ⟨reached, text, begun, again.trans text⟩

end ModalVi.Session
