import ModalVi.Proofs.Session.Effect
import ModalVi.Proofs.Session.Operand

namespace ModalVi

/-! Operators do the same to sessions that are alike.

What an operator does to a span depends on the text, on the host, on the clipboard and on the options,
and on nothing else.  So two sessions that agree in those still do after the operator was carried out
on the same span in both, wherever their carets were and whatever mode they were in. -/

/-- The change without the carets that are remembered with it. -/
def Change.bare (change : Change) : Change :=
  { change with caretBefore := none, caretAfter := none }

theorem History.bare_settle (caret : Nat) (history : History) :
    (history.settle caret).undoable.map Change.bare = history.undoable.map Change.bare := by
  obtain ⟨undoable, redoable, merging⟩ := history
  cases undoable with
  | nil => rfl
  | cons top rest =>
      simp only [History.settle]
      split <;> rfl

/-- An edit within the text is made if the host accepts it. -/
theorem Surface.edit_eq {start stop : Nat} (new : Text) {surface : Surface} (ordered : start ≤ stop)
    (bounded : stop ≤ surface.text.length) :
    surface.edit start stop new =
      if surface.verdicts 0 then (true, surface.edited start stop new)
      else (false, surface.judged) := by
  split
  · rename_i accepted
    exact Surface.edit_of_accepted new accepted ordered bounded
  · rename_i refused
    simp only [Surface.edit, if_neg refused]
    rfl

namespace Session

variable {library : Library} {first second third session after : Session library}
  {operator : Operator}

/-- Text, host, clipboard, options and edits are the same. -/
structure Alike (first second : Session library) : Prop where
  text : first.text = second.text
  verdicts : first.surface.verdicts = second.surface.verdicts
  clipboard : first.clipboard = second.clipboard
  options : first.options = second.options
  edits : first.history.undoable.map Change.bare = second.history.undoable.map Change.bare

namespace Alike

theorem refl (session : Session library) : Alike session session := ⟨rfl, rfl, rfl, rfl, rfl⟩

theorem symm (alike : Alike first second) : Alike second first :=
  ⟨alike.text.symm, alike.verdicts.symm, alike.clipboard.symm, alike.options.symm,
    alike.edits.symm⟩

theorem trans (alike : Alike first second) (next : Alike second third) : Alike first third :=
  ⟨alike.text.trans next.text, alike.verdicts.trans next.verdicts,
    alike.clipboard.trans next.clipboard, alike.options.trans next.options,
    alike.edits.trans next.edits⟩

/-! ### Steps after which a session is like before -/

theorem setCursor (offset : Nat) (session : Session library) :
    Alike session (session.setCursor offset) :=
  ⟨rfl, rfl, rfl, rfl, rfl⟩

theorem toInsert (session : Session library) : Alike session session.toInsert :=
  ⟨rfl, rfl, rfl, rfl, rfl⟩

theorem toCommand (session : Session library) : Alike session session.toCommand :=
  ⟨rfl, rfl, rfl, rfl, rfl⟩

theorem concluded (session : Session library) : Alike session session.dropKeys.settled :=
  ⟨rfl, rfl, rfl, rfl, (History.bare_settle _ _).symm⟩

/-! ### Steps that do the same to both -/

theorem put (alike : Alike first second) (low high : Nat) (new : Text) :
    Alike (first.put low high new) (second.put low high new) := by
  obtain ⟨text, verdicts, clipboard, options, edits⟩ := alike
  have stop : min high second.text.length ≤ second.text.length := Nat.min_le_right _ _
  have start : min low (min high second.text.length) ≤ min high second.text.length :=
    Nat.min_le_right _ _
  simp only [Session.put, replace, text]
  generalize min high second.text.length = high at start stop
  generalize min low high = low at start
  have stopFirst : high ≤ first.surface.text.length :=
    Nat.le_trans stop (Nat.le_of_eq (congrArg List.length text.symm))
  have askedFirst := Surface.edit_eq new start stopFirst
  have asked := Surface.edit_eq new start stop
  rw [← verdicts] at asked
  by_cases same : second.text.slice low high = new
  · rw [if_pos same, if_pos same]
    exact ⟨text, verdicts, clipboard, options, edits⟩
  · rw [if_neg same, if_neg same, askedFirst, asked]
    have judged := congrArg (fun verdicts index => verdicts (index + 1)) verdicts
    cases first.surface.verdicts 0 with
    | false => exact ⟨text, judged, clipboard, options, edits⟩
    | true =>
        refine ⟨congrArg (·.splice low high new) text, judged, clipboard, options, ?_⟩
        have recorded (session : Session library) :=
            congrArg (·.undoable) (History.record_of_apart low high
          (second.text.slice low high) new session.cursor.caret
          (.inr rfl : session.history.merging = false ∨ false = false))
        simp only [if_true, recorded, List.map_cons, edits]
        rfl

theorem copy (alike : Alike first second) (works : second.clipboard.faults 0 = none)
    (content : Text) :
    ∃ firstAfter secondAfter, first.copy content = (.ok (), firstAfter) ∧
      second.copy content = (.ok (), secondAfter) ∧ Alike firstAfter secondAfter ∧
      firstAfter.mode = first.mode ∧ secondAfter.mode = second.mode := by
  have same := alike.clipboard
  simp only [Session.copy, same, Clipboard.write, works]
  exact ⟨_, _, rfl, rfl, ⟨alike.text, alike.verdicts, rfl, alike.options, alike.edits⟩, rfl, rfl⟩

end Alike

/-- The sessions are alike, and so are their carets and what is selected. -/
structure SameCaret (first second : Session library) : Prop extends Alike first second where
  cursor : first.cursor = second.cursor
  selection : first.surface.selection = second.surface.selection

/-- Whoever looks at the sessions sees no difference. -/
structure SameView (first second : Session library) : Prop extends SameCaret first second where
  mode : first.mode = second.mode

theorem SameCaret.trans (same : SameCaret first second) (next : SameCaret second third) :
    SameCaret first third :=
  ⟨same.toAlike.trans next.toAlike, same.cursor.trans next.cursor,
    same.selection.trans next.selection⟩

theorem SameCaret.symm (same : SameCaret first second) : SameCaret second first :=
  ⟨same.toAlike.symm, same.cursor.symm, same.selection.symm⟩

theorem sameView_concluded (session : Session library) :
    SameView session session.dropKeys.settled :=
  ⟨⟨.concluded session, rfl, rfl⟩, rfl⟩

theorem Alike.setCursor_both (alike : Alike first second) (offset : Nat) :
    SameCaret (first.setCursor offset) (second.setCursor offset) where
  toAlike := ((Alike.setCursor offset first).symm.trans alike).trans (.setCursor offset second)
  cursor := by simp only [Session.setCursor, alike.text]
  selection := by
    have length : first.surface.text.length = second.surface.text.length :=
      congrArg List.length alike.text
    simp only [Session.setCursor, alike.text, Surface.select, length]

theorem Alike.erase (alike : Alike first second) (low high : Nat) :
    SameCaret (first.erase low high) (second.erase low high) :=
  (alike.put low high []).setCursor_both low

theorem Alike.reflow (alike : Alike first second) (start stop : Nat) :
    SameCaret (first.reflow start stop) (second.reflow start stop) := by
  simp only [Session.reflow, alike.text, alike.options]
  exact (alike.put start stop _).setCursor_both _

theorem sameCaret_toCommand (placed : Placed session) : SameCaret session session.toCommand where
  toAlike := .toCommand session
  cursor := by
    have caret : min session.cursor.caret session.text.length = session.cursor.caret :=
      Nat.min_eq_left placed.inside
    exact placed.collapsed.trans (congrArg Cursor.collapsed caret.symm)
  selection := by
    have again := placed_setCursor session.cursor.caret
      ({ session with mode := .command } : Session library)
    have caret : (toCommand session).cursor.caret = session.cursor.caret :=
      Nat.min_eq_left placed.inside
    exact placed.shown.trans ((congrArg Selection.caret caret.symm).trans again.shown.symm)

/-! ### Operators -/

/-- Carries an operator out on the span between the ends of a cursor, but for the mode that it leads
to. -/
def perform (operator : Operator) (cursor : Cursor) (session : Session library) :
    Attempt library Unit :=
  match operator with
  | .delete | .change => (.ok (), session.erase cursor.low cursor.high)
  | .yank =>
      match session.copy (session.text.slice cursor.low cursor.high) with
      | (.ok (), session) => (.ok (), session.setCursor cursor.low)
      | failed => failed
  | .reflow =>
      let (start, stop) := session.lineSpan cursor
      (.ok (), session.reflow start stop)

/-- An operator does the same to sessions that are alike, and leaves the caret alone in the text. -/
theorem sameCaret_of_perform (alike : Alike first second)
    (works : operator = .yank → second.clipboard.faults 0 = none) (cursor : Cursor) :
    ∃ firstAfter secondAfter, first.perform operator cursor = (.ok (), firstAfter) ∧
      second.perform operator cursor = (.ok (), secondAfter) ∧
      SameCaret firstAfter secondAfter ∧ Placed firstAfter ∧ Placed secondAfter ∧
      firstAfter.mode = first.mode ∧ secondAfter.mode = second.mode := by
  cases operator with
  | delete | change =>
      exact ⟨_, _, rfl, rfl, alike.erase _ _, placed_setCursor _ _, placed_setCursor _ _,
        (beside_erase _ _ first).mode, (beside_erase _ _ second).mode⟩
  | yank =>
      obtain ⟨firstCopied, secondCopied, copied, copiedAlso, same, mode, modeAlso⟩ :=
        alike.copy (works rfl) (second.text.slice cursor.low cursor.high)
      simp only [perform, alike.text, copied, copiedAlso]
      exact ⟨_, _, rfl, rfl, same.setCursor_both _, placed_setCursor _ _, placed_setCursor _ _,
        mode, modeAlso⟩
  | reflow =>
      have span : first.lineSpan cursor = second.lineSpan cursor := by
        simp only [lineSpan, alike.text]
      simp only [perform, span]
      exact ⟨_, _, rfl, rfl, alike.reflow _ _, placed_setCursor _ _, placed_setCursor _ _,
        (beside_reflow _ _ first).mode, (beside_reflow _ _ second).mode⟩

end Session

end ModalVi
