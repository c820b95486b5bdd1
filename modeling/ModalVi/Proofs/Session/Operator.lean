import ModalVi.Proofs.Motion.Bounds
import ModalVi.Proofs.Session.Alike
import ModalVi.Regex.Engine
import ModalVi.Script

namespace ModalVi

/-! An operator with a motion does what it does to a selection made by the motion.

Command mode and visual mode find the span of an operator in different ways: the one from the caret
to where the motion leads, the other from what is selected once the motion was carried out.  Both are
the same span, and then the operator does the same to it. -/

namespace Standpoint

variable {marks : Char → Bool} {text : Text} {caret count : Nat} {memory : Option CharSearch}
  {motion : Motion}

/-- Only the motion to the line end asks whether something is being selected. -/
theorem resolve_visual (notLineEnd : motion ≠ .lineEnd) :
    Standpoint.resolve ⟨text, Cursor.collapsed caret, true, false, marks⟩ memory count motion =
      (ofCaret marks text caret).resolve memory count motion := by
  cases motion with
  | lineEnd => exact absurd rfl notLineEnd
  | _ => rfl

/-- Only word motions ask whether something is being changed. -/
theorem resolve_change (change : Bool)
    (notWord : change = true → ∀ big, motion ≠ .wordForward big) :
    ({ ofCaret marks text caret with change } : Standpoint).resolve memory count motion =
      (ofCaret marks text caret).resolve memory count motion := by
  cases change with
  | false => rfl
  | true =>
      cases motion with
      | wordForward big => exact absurd rfl (notWord rfl big)
      | _ => rfl

end Standpoint

namespace Session

variable {library : Library} {session done next : Session library} {operator : Operator}
  {keys held : List Char} {c : Char}
  {count : Nat} {motion : Motion} {found : Cursor} {kind : VisualKind}

/-- The session is where the operator leads once its work is `done`: for typing after a change, and
for commands otherwise. -/
structure Ends (operator : Operator) (done after : Session library) :
    Prop extends SameCaret done after where
  mode : after.mode = if operator = .change then .insert else .command

theorem Ends.concluded {after : Session library} (ends : Ends operator done after) :
    Ends operator done after.dropKeys.settled :=
  ⟨ends.toSameCaret.trans (sameView_concluded after).toSameCaret, ends.mode⟩

theorem Ends.sameView {first second : Session library} (ends : Ends operator done first)
    (other : Ends operator done second) : SameView first second :=
  ⟨ends.toSameCaret.symm.trans other.toSameCaret, ends.mode.trans other.mode.symm⟩

/-! ### In command mode -/

theorem target_of_resolved (change : Bool)
    (notWord : change = true → ∀ big, motion ≠ .wordForward big)
    (resolved : (Standpoint.ofCaret library.isPunctuation session.text session.caret).resolve
      session.charSearch count motion = .ok found) :
    session.target change motion count =
      (.ok found, { session with charSearch := motion.remember session.charSearch }) := by
  simp only [target, Standpoint.resolve_change change notWord, resolved]

theorem act_of_performed (notWord : operator = .change → ∀ big, motion ≠ .wordForward big)
    (resolved : (Standpoint.ofCaret library.isPunctuation session.text session.caret).resolve
      session.charSearch count motion = .ok found)
    (performed : ({ session with charSearch := motion.remember session.charSearch } :
      Session library).perform operator found = (.ok (), done)) :
    session.act (operator.command motion) count =
      (.ok (), if operator = .change then done.toInsert else done) := by
  cases operator with
  | delete | reflow =>
      simp only [Operator.command, act, withTarget, target_of_resolved false (by simp) resolved]
      exact performed
  | change =>
      simp only [Operator.command, act, withTarget,
        target_of_resolved true (fun _ => notWord rfl) resolved]
      obtain ⟨-, rfl⟩ := Prod.mk.inj performed
      rfl
  | yank =>
      simp only [Operator.command, act, withTarget, target_of_resolved false (by simp) resolved]
      simp only [perform] at performed
      split at performed
      · rename_i next copied
        cases performed
        have wrote : ({ session with charSearch := motion.remember session.charSearch } :
            Session library).copy (session.text.slice found.low found.high) = (.ok (), next) := copied
        rw [wrote]
        rfl
      · rename_i failed unwritten
        exact (unwritten _ performed).elim

/-- Typing an operator with its motion in command mode. -/
theorem ends_of_command (mode : session.mode = .command) (fresh : session.keys = [])
    (legible : Legible .command held)
    (read : Command.parse (held ++ [c]) = .ok (count, operator.command motion))
    (notWord : operator = .change → ∀ big, motion ≠ .wordForward big)
    (resolved : (Standpoint.ofCaret library.isPunctuation session.text session.caret).resolve
      session.charSearch count motion = .ok found)
    (works : operator = .yank → session.clipboard.faults 0 = none)
    (performed : session.perform operator found = (.ok (), done)) :
    ∃ after, session.press ((held ++ [c]).map .char) = (.ok (), after) ∧
      Ends operator done after := by
  let asked : Session library := { session.holding (held ++ [c]) with changed := false }
  let begun : Session library := { asked with charSearch := motion.remember session.charSearch }
  have alike : Alike session begun := ⟨rfl, rfl, rfl, rfl, rfl⟩
  obtain ⟨first, second, did, didAlso, same, _, placed, _, kept⟩ :=
    sameCaret_of_perform alike works found
  obtain rfl : first = done := by
    rw [performed] at did
    exact (Prod.mk.inj did).2.symm
  have acted : asked.act (operator.command motion) count =
      (.ok (), if operator = .change then second.toInsert else second) :=
    act_of_performed notWord resolved didAlso
  obtain ⟨last, ran⟩ := run_of_acted (by cases operator <;> simp [Operator.command])
    (by cases operator <;> simp [Operator.command]) (held ++ [c]) acted
  have typed : (session.holding (held ++ [c])).runKeys (held ++ [c]) =
      (.ok .done, { if operator = .change then second.toInsert else second with last }) := by
    rw [runKeys, read]
    exact ran
  refine ⟨_, press_of_ran mode fresh legible typed, Ends.concluded ?_⟩
  by_cases changes : operator = .change
  · rw [if_pos changes]
    exact ⟨⟨same.toAlike.trans ⟨rfl, rfl, rfl, rfl, rfl⟩, same.cursor, same.selection⟩,
      (if_pos changes).symm⟩
  · rw [if_neg changes]
    exact ⟨⟨same.toAlike.trans ⟨rfl, rfl, rfl, rfl, rfl⟩, same.cursor, same.selection⟩,
      (kept.trans mode).trans (if_neg changes).symm⟩

/-! ### In visual mode -/

theorem runVisual_of_performed (count : Nat)
    (performed : session.perform operator session.selected = (.ok (), done)) :
    session.runVisual operator.visualCommand count =
      (.ok .done, if operator = .change then done.toInsert else done.toCommand) := by
  cases operator with
  | delete | reflow | change =>
      obtain ⟨-, rfl⟩ := Prod.mk.inj performed
      rfl
  | yank =>
      simp only [perform] at performed
      simp only [Operator.visualCommand, runVisual]
      split at performed
      · rename_i next copied
        cases performed
        rw [copied]
        rfl
      · rename_i failed unwritten
        exact (unwritten _ performed).elim

/-- Typing an operator once something is selected. -/
theorem ends_of_visual (visual : session.mode = .visual kind) (fresh : session.keys = [])
    (works : operator = .yank → session.clipboard.faults 0 = none)
    (performed : session.perform operator session.selected = (.ok (), done)) :
    ∃ after, session.press (operator.spelling.map .char) = (.ok (), after) ∧
      Ends operator done after := by
  obtain ⟨held, c, spelling, legible⟩ := operator.exists_last_visual kind
  have alike : Alike session (session.holding (held ++ [c])) := ⟨rfl, rfl, rfl, rfl, rfl⟩
  obtain ⟨first, second, did, didAlso, same, _, placed, _, _⟩ :=
    sameCaret_of_perform alike works session.selected
  obtain rfl : first = done := by
    rw [performed] at did
    exact (Prod.mk.inj did).2.symm
  have owned : session.mode ≠ .insert := by simp [visual]
  have isVisual : (session.holding (held ++ [c])).mode.isVisual = true := by
    simp [holding, visual, Mode.isVisual]
  have read : VisualCommand.parse (held ++ [c]) = .ok (1, operator.visualCommand) :=
    spelling ▸ operator.parse_visual
  have carried : (session.holding (held ++ [c])).carryOut (held ++ [c]) false =
      (.ok .done, if operator = .change then second.toInsert else second.toCommand) := by
    simp only [carryOut_of_visual isVisual, runVisualKeys, read]
    exact runVisual_of_performed 1 didAlso
  rw [spelling]
  refine ⟨_, press_of_done owned fresh (visual ▸ legible) carried, Ends.concluded ?_⟩
  by_cases changes : operator = .change
  · rw [if_pos changes]
    exact ⟨⟨same.toAlike.trans (.toInsert second), same.cursor, same.selection⟩,
      (if_pos changes).symm⟩
  · rw [if_neg changes]
    exact ⟨same.trans (sameCaret_toCommand placed), (if_neg changes).symm⟩

/-! ### Selecting -/

/-- The session is the same but for what it has selected in visual mode. -/
structure Selecting (kind : VisualKind) (cursor : Cursor) (session after : Session library) : Prop
    extends Alike session after where
  mode : after.mode = .visual kind
  keys : after.keys = []
  cursor : after.cursor = cursor

theorem Selecting.selected {cursor : Cursor} {after : Session library}
    (selecting : Selecting kind cursor session after) (within : cursor.Within session.text) :
    after.selected = cursor := by
  rw [Session.selected, selecting.cursor, ← selecting.text, within.clamped]

/-- The key that begins a selection. -/
def selectKey : VisualKind → Char
  | .characters => 'v'
  | .lines => 'V'

def firstSelection (kind : VisualKind) (session : Session library) : Cursor :=
  match kind with
  | .characters => Cursor.collapsed session.caret
  | .lines => ⟨session.text.nextLineStart session.caret, session.text.lineStart session.caret⟩

theorem selecting_of_selectKey (mode : session.mode = .command) (fresh : session.keys = [])
    (kind : VisualKind) :
    ∃ after, session.press [.char (selectKey kind)] = (.ok (), after) ∧
      Selecting kind (session.firstSelection kind) session after ∧
      after.charSearch = session.charSearch := by
  let begun : Session library :=
    ({ session.holding [selectKey kind] with changed := false } : Session library).beginVisual kind
  have typed : (session.holding [selectKey kind]).runKeys [selectKey kind] = (.ok .done, begun) := by
    cases kind <;> rfl
  have pressed : session.press [.char (selectKey kind)] = (.ok (), begun.dropKeys.settled) :=
    press_alone mode fresh typed
  have alike : Alike session begun := ⟨rfl, rfl, rfl, rfl, rfl⟩
  refine ⟨_, pressed, ⟨alike.trans (.concluded begun), rfl, rfl, ?_⟩, rfl⟩
  cases kind <;> rfl

/-- A motion moves the caret's end of the selection to where it leads. -/
theorem selecting_of_motion {cursor : Cursor} {before : Session library}
    (selecting : Selecting kind cursor session before)
    (spelled : Motion.Spelled keys count motion)
    (resolved : Standpoint.resolve
      ⟨before.text, before.visualBase, true, false, library.isPunctuation⟩ before.charSearch
      count motion = .ok found) :
    ∃ after, before.press (keys.map .char) = (.ok (), after) ∧
      Selecting kind (if kind = .lines then wholeLines session.text found else found) session
        after := by
  obtain ⟨held, c, rfl, unread⟩ := spelled.exists_last
  have owned : before.mode ≠ .insert := by simp [selecting.mode]
  have isVisual : (before.holding (held ++ [c])).mode.isVisual = true := by
    simp [holding, selecting.mode, Mode.isVisual]
  let moved : Session library :=
    { before.holding (held ++ [c]) with
      charSearch := motion.remember before.charSearch
      cursor := if kind = .lines then wholeLines session.text found else found }
  have extended : (before.holding (held ++ [c])).extend motion count =
      (.ok (), moved.showCursor) := by
    have standpoint : Standpoint.resolve ⟨(before.holding (held ++ [c])).text,
        (before.holding (held ++ [c])).visualBase, true, false, library.isPunctuation⟩
        (before.holding (held ++ [c])).charSearch count motion = .ok found := resolved
    have lines : (before.holding (held ++ [c])).mode.isVisualLine = decide (kind = .lines) := by
      have mode : (before.holding (held ++ [c])).mode = .visual kind := selecting.mode
      rw [mode]
      cases kind <;> rfl
    simp only [extend, standpoint, lines, decide_eq_true_eq]
    rw [show (before.holding (held ++ [c])).text = session.text from selecting.text.symm]
    rfl
  have carried : (before.holding (held ++ [c])).carryOut (held ++ [c]) false =
      (.ok .done, moved.showCursor) := by
    simp only [carryOut_of_visual isVisual, runVisualKeys, spelled.parse_visual, runVisual, extended]
  have pressed := press_of_done owned selecting.keys
    (selecting.mode ▸ legible_visual_of_unread kind unread) carried
  have alike : Alike before moved.showCursor := ⟨rfl, rfl, rfl, rfl, rfl⟩
  exact ⟨_, pressed, ⟨(selecting.toAlike.trans alike).trans (.concluded _), selecting.mode, rfl,
    rfl⟩⟩

theorem ends_of_selecting {cursor : Cursor} {before : Session library}
    (selecting : Selecting kind cursor session before) (within : cursor.Within session.text)
    (works : operator = .yank → session.clipboard.faults 0 = none)
    (performed : session.perform operator cursor = (.ok (), done)) :
    ∃ after, before.press (operator.spelling.map .char) = (.ok (), after) ∧
      Ends operator done after := by
  have worksBefore : operator = .yank → before.clipboard.faults 0 = none :=
    fun yanks => selecting.clipboard ▸ works yanks
  obtain ⟨first, second, did, didAlso, same, _, _, _, _⟩ :=
    sameCaret_of_perform selecting.toAlike worksBefore cursor
  obtain rfl : first = done := by
    rw [performed] at did
    exact (Prod.mk.inj did).2.symm
  rw [← selecting.selected within] at didAlso
  obtain ⟨after, pressed, ends⟩ := ends_of_visual selecting.mode selecting.keys worksBefore didAlso
  exact ⟨after, pressed, same.trans ends.toSameCaret, ends.mode⟩

/-! ### Both ways -/

/-- Typing an operator and a motion in command mode leads where `v`, the motion and the operator lead.
The motion is any that resolves from the caret, except `$`, and except a word motion after `c`.  Both
ways end with the same text, clipboard, caret, selection and mode, and all their changes, the newest
with the others, replaced the same spans by the same texts. -/
theorem sameView_of_motion (mode : session.mode = .command) (fresh : session.keys = [])
    (spelled : Motion.Spelled keys count motion) (notLineEnd : motion ≠ .lineEnd)
    (resolved : (Standpoint.ofCaret library.isPunctuation session.text session.caret).resolve
      session.charSearch count motion = .ok found)
    (notWord : operator = .change → ∀ big, motion ≠ .wordForward big)
    (works : operator = .yank → session.clipboard.faults 0 = none) :
    ∃ typed selected, session.press ((operator.spelling ++ keys).map .char) = (.ok (), typed) ∧
      session.press (('v' :: keys ++ operator.spelling).map .char) = (.ok (), selected) ∧
      SameView typed selected := by
  obtain ⟨done, _, performed, _⟩ := sameCaret_of_perform (Alike.refl session) works found
  have inside := session.caret_le_length
  have within : found.Within session.text :=
    Standpoint.within_of_resolve resolved (Standpoint.within_ofCaret inside)
  -- The way through command mode.
  obtain ⟨held, c, last, unread⟩ := spelled.exists_last
  have read := spelled.parse_command operator
  have whole : operator.spelling ++ keys = (operator.spelling ++ held) ++ [c] := by
    rw [last, List.append_assoc]
  rw [whole] at read
  obtain ⟨typed, pressed, ends⟩ := ends_of_command mode fresh (operator.legible_append unread) read
    notWord resolved works performed
  -- The way through visual mode.
  obtain ⟨begun, began, selecting, remembered⟩ :=
    selecting_of_selectKey mode fresh .characters
  have startsAtCaret : (session.firstSelection .characters).Within session.text := ⟨inside, inside⟩
  have base : begun.visualBase = Cursor.collapsed session.caret := by
    have selected := selecting.selected startsAtCaret
    simp only [visualBase, selecting.mode, Mode.isVisualLine, selected]
    rfl
  have resolvedBegun : Standpoint.resolve
      ⟨begun.text, begun.visualBase, true, false, library.isPunctuation⟩
      begun.charSearch count motion = .ok found := by
    rw [base, remembered, ← selecting.text, Standpoint.resolve_visual notLineEnd]
    exact resolved
  obtain ⟨extended, moved, selectingFound⟩ := selecting_of_motion selecting spelled resolvedBegun
  obtain ⟨selected, operated, endsAlso⟩ :=
    ends_of_selecting selectingFound within works performed
  refine ⟨typed, selected, whole ▸ pressed, ?_, ends.sameView endsAlso⟩
  have began' : session.press (['v'].map .char) = (.ok (), begun) := began
  have opened : session.press (('v' :: keys).map .char) = (.ok (), extended) := by
    rw [← List.singleton_append, List.map_append, press_append began']
    exact moved
  rw [List.map_append, press_append opened]
  exact operated

theorem sameView_of_motion_in_brackets :
    let session := (Script.begin .standard "f(ab).".toList {} []).setCursor 3
    session.mode = .command ∧ session.keys = [] ∧
      Motion.Spelled ['i', '('] 1 (.object false (.block '(' ')')) ∧
      ∃ typed selected, session.press (['c', 'i', '('].map .char) = (.ok (), typed) ∧
        session.press (['v', 'i', '(', 'c'].map .char) = (.ok (), selected) ∧
        SameView typed selected ∧ typed.text = "f().".toList := by
  intro session
  have mode : session.mode = .command := rfl
  have spelled : Motion.Spelled ['i', '('] 1 (.object false (.block '(' ')')) := by
    refine ⟨rfl, ?_⟩
    rintro (_ | _ | length) within
    · rfl
    · rfl
    · exact absurd within (by simp)
  have resolved : (Standpoint.ofCaret Unicode.isPunctuation session.text session.caret).resolve
      session.charSearch 1 (.object false (.block '(' ')')) = .ok ⟨4, 2⟩ := rfl
  obtain ⟨typed, selected, pressed, pressedAlso, same⟩ :=
    sameView_of_motion mode rfl spelled (by simp) resolved
      (by simp : Operator.change = .change → _) (by simp)
  have changed : (session.press (['c', 'i', '('].map .char)).2.text = "f().".toList := by decide
  have typing : session.press (['c', 'i', '('].map .char) = (.ok (), typed) := pressed
  rw [typing] at changed
  exact ⟨mode, rfl, spelled, typed, selected, pressed, pressedAlso, same, changed⟩

end Session

end ModalVi
