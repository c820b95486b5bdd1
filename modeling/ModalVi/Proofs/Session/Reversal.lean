import ModalVi.Proofs.Session.Dispatch
import ModalVi.Proofs.Session.Typing
import ModalVi.Proofs.Session.Undo
import ModalVi.Regex.Engine
import ModalVi.Script

namespace ModalVi.Session

/-! One command is one change: `u` takes it back and Ctrl-r makes it again, text and caret alike.

What makes this work is that a command replaces one span at most, that the caret it started from is
remembered with that, and that the caret it ended at is noted before the next key. -/

variable {library : Library} {session waiting before after : Session library} {pressed : Key}
  {change : Change} {start stop : Nat} {new : Text}

/-- Keys that are each answered with a call for more. -/
inductive Waits : Session library → List Key → Session library → Prop where
  | refl {session : Session library} : Waits session [] session
  | step {session next waiting : Session library} {pressed : Key} {others : List Key}
      (pending : session.key pressed = (.ok .pending, next)) (rest : Waits next others waiting) :
      Waits session (pressed :: others) waiting

/-- The session after a command, with typing ended by an escape if the command led to it. -/
def leaving (session : Session library) : Session library :=
  if session.mode = .insert then (session.key .escape).2 else session

theorem leaving_of_insert (mode : session.mode = .insert) : session.leaving = session.enter := by
  simp only [leaving, key, if_pos mode, insertKey, Key.isEscape, if_true]

theorem leaving_of_command (mode : session.mode = .command) : session.leaving = session := by
  simp [leaving, mode]

/-! ### The keys of undoing -/

theorem key_undo (mode : session.mode = .command) (fresh : session.keys = [])
    (undone :
      ({ session with keys := ['u'], changed := false } : Session library).undoTimes 1 = after) :
    session.key (.char 'u') = (.ok .handled, after.notice.dropKeys.settled) := by
  have owned : session.mode ≠ .insert := by simp [mode]
  have held : (session.holding ['u']).mode = .command := mode
  have read : Command.parse ['u'] = .ok (1, .undo) := rfl
  have ran : (session.holding ['u']).runKeys ['u'] = (.ok .done, after.notice) := by
    simp only [runKeys, read, run_undo, undo, ← undone]
    rfl
  rw [key_char owned, fresh, List.nil_append, carryOut_of_command held, ran]
  rfl

theorem key_redo (mode : session.mode = .command) (fresh : session.keys = [])
    (redone :
      ({ session with keys := ['r'], changed := false } : Session library).redoTimes 1 = after) :
    session.key (.ctrl 'r') = (.ok .handled, after.notice.dropKeys.settled) := by
  have owned : session.mode ≠ .insert := by simp [mode]
  have read : ControlCommand.parse true ['r'] = .ok (1, .redo) := rfl
  have command : (!(session.holding ['r']).mode.isVisual) = true := by
    simp [holding, mode, Mode.isVisual]
  have ran : (session.holding ['r']).carryOut ['r'] true = (.ok .done, after.notice) := by
    simp only [carryOut, if_true, runControl, command, read, redo, ← redone]
    rfl
  rw [key_ctrl owned rfl (by decide) (by rw [fresh]; rfl), fresh, List.nil_append, ran]
  rfl

/-- The newest change is taken back and made again, each time with the caret that it shows. -/
theorem undo_redo_of_takes {rest : List Change} {text : Text}
    (newest : session.history.undoable = change :: rest) (nothing : session.history.redoable = [])
    (taken : change.Takes text session.text) (accepts : session.surface.Accepts)
    (undoInside : change.undoCaret ≤ text.length)
    (redoInside : change.redoCaret ≤ session.text.length)
    (mode : session.mode = .command) (fresh : session.keys = []) :
    ∃ undone, session.key (.char 'u') = (.ok .handled, undone) ∧ undone.text = text ∧
      undone.cursor = Cursor.collapsed change.undoCaret ∧
      undone.surface.selection = Selection.caret change.undoCaret ∧
      ∃ redone, undone.key (.ctrl 'r') = (.ok .handled, redone) ∧ redone.text = session.text ∧
        redone.cursor = Cursor.collapsed change.redoCaret ∧
        redone.surface.selection = Selection.caret change.redoCaret := by
  let held : Session library := { session with keys := ['u'], changed := false }
  let undone : Session library := (held.undoing change rest).notice.dropKeys.settled
  have undoing : held.undoTimes 1 = held.undoing change rest :=
    undoTimes_of_takes newest taken accepts
  have undoneText : undone.text = text := text_undoing rest taken
  have undoneCursor := cursor_undoing rest taken undoInside
  refine ⟨undone, key_undo mode fresh undoing, undoneText, undoneCursor.1, undoneCursor.2, ?_⟩
  let again : Session library := { undone with keys := ['r'], changed := false }
  have next : again.history.redoable = [change] := by
    have kept : again.history.redoable = change :: session.history.redoable :=
      History.redoable_settle _ _
    rw [kept, nothing]
  have takenAgain : change.Takes again.text session.text := by
    have same : again.text = text := undoneText
    rw [same]
    exact taken
  have redoing : again.redoTimes 1 = again.redoing change [] :=
    redoTimes_of_takes next takenAgain (accepts_undoing accepts)
  have redoneCursor := cursor_redoing [] takenAgain redoInside
  exact ⟨_, key_redo mode rfl redoing, text_redoing [] takenAgain, redoneCursor.1, redoneCursor.2⟩

/-! ### One command -/

/-- The newest change leads from a text to that of the field, with the carets before and after it
noted. -/
structure Reversible (before : Text) (caret : Nat) (change : Change)
    (session : Session library) : Prop where
  accepts : session.surface.Accepts
  newest : ∃ rest, session.history.undoable = change :: rest
  redoable : session.history.redoable = []
  taken : change.Takes before session.text
  caretBefore : change.caretBefore = some caret
  caretAfter : change.caretAfter = some session.cursor.caret
  placed : Placed session
  known : session.known = session.text

theorem Reversible.undo_redo {text : Text} {caret : Nat}
    (reversible : Reversible text caret change session) (inside : caret ≤ text.length)
    (mode : session.mode = .command) (fresh : session.keys = []) :
    ∃ undone, session.key (.char 'u') = (.ok .handled, undone) ∧ undone.text = text ∧
      undone.cursor = Cursor.collapsed caret ∧
      undone.surface.selection = Selection.caret caret ∧
      ∃ redone, undone.key (.ctrl 'r') = (.ok .handled, redone) ∧ redone.text = session.text ∧
        redone.cursor = session.cursor ∧
        redone.surface.selection = session.surface.selection := by
  obtain ⟨rest, newest⟩ := reversible.newest
  have caretBefore : change.undoCaret = caret := by
    simp only [Change.undoCaret, reversible.caretBefore, Option.getD_some]
  have caretAfter : change.redoCaret = session.cursor.caret := by
    simp only [Change.redoCaret, reversible.caretAfter, Option.getD_some]
  rw [reversible.placed.shown, reversible.placed.collapsed, ← caretBefore, ← caretAfter]
  exact undo_redo_of_takes newest reversible.redoable reversible.taken reversible.accepts
    (caretBefore ▸ inside) (caretAfter ▸ reversible.placed.inside) mode fresh

/-- What a command replaced can be taken back once its caret is noted. -/
theorem reversible_of_edited (edited : Edited start stop new before after) (placed : Placed after)
    (accepts : before.surface.Accepts) :
    ∃ change, Reversible before.text before.cursor.caret change after.dropKeys.settled := by
  have newest : after.dropKeys.settled.history =
      ⟨⟨start, stop, before.text.slice start stop, new, some before.cursor.caret,
        some after.cursor.caret⟩ :: before.history.undoable, [], false⟩ := by
    have undoable : after.dropKeys.history.undoable = _ := edited.undoable
    have redoable : after.dropKeys.history.redoable = _ := edited.redoable
    have merging : after.dropKeys.history.merging = _ := edited.merging
    simp only [settled, History.settle, undoable, redoable, merging]
    rfl
  refine ⟨⟨start, stop, before.text.slice start stop, new, some before.cursor.caret,
    some after.cursor.caret⟩, ?_⟩
  exact
    { accepts := accepts.follows edited.host
      newest := ⟨_, by rw [newest]⟩
      redoable := by rw [newest]
      taken := ⟨edited.ordered, edited.bounded, rfl, edited.text.symm⟩
      caretBefore := rfl
      caretAfter := rfl
      placed := placed.congr rfl rfl
      known := edited.known }

/-- An escape right after a command that led to insert mode leaves all that as it is. -/
theorem Reversible.enter {text : Text} {caret : Nat}
    (reversible : Reversible text caret change session) :
    Reversible text caret change session.enter ∧ session.enter.mode = .command ∧
      session.enter.surface = session.surface ∧ session.enter.cursor = session.cursor := by
  obtain ⟨rest, newest⟩ := reversible.newest
  obtain ⟨last, entered⟩ := enter_of_known reversible.placed reversible.known
  rw [History.settle_of_noted newest reversible.caretAfter] at entered
  rw [entered]
  have same : Reversible text caret change
      { session with last, keys := [], tabArmed := true, mode := .command } :=
    ⟨reversible.accepts, reversible.newest, reversible.redoable, reversible.taken,
      reversible.caretBefore, reversible.caretAfter,
      reversible.placed.congr rfl rfl,
      reversible.known⟩
  exact ⟨same, rfl, rfl, rfl⟩

/-! ### Sequences of keys -/

theorem Waits.eq_holding {keys : List Key} (waits : Waits session keys waiting) :
    ∃ held, waiting = session.holding held := by
  induction waits with
  | refl => exact ⟨_, rfl⟩
  | step pending _ ih =>
      obtain ⟨kept, rfl⟩ := eq_holding_of_pending pending
      obtain ⟨held, rfl⟩ := ih
      exact ⟨held, rfl⟩

/-- A key outside insert mode changes the text by one edit, unless it undoes, redoes or repeats. -/
theorem edited_of_text_ne (owned : session.mode ≠ .insert)
    (typed : (session.key pressed).2 = after) (changed : after.text ≠ session.text)
    (notAgain : ¬ session.Dispatches pressed .repeatLast)
    (notUndo : ¬ session.Dispatches pressed .undo)
    (notRedo : ¬ session.DispatchesControl pressed .redo) :
    ∃ keys start stop new edited, Edited start stop new (session.holding keys) edited ∧
      Placed edited ∧ (edited.mode = .command ∨ edited.mode = .insert) ∧
      after = edited.dropKeys.settled := by
  have answered := pressed_key session pressed
  obtain ⟨result, answer⟩ : ∃ result, session.key pressed = (result, after) :=
    ⟨_, by rw [← typed]⟩
  rw [answer] at answered
  cases answered with
  | typing mode handled => exact absurd mode owned
  | escaped | ignored | released | refused => exact absurd rfl changed
  | dispatched owned chord carried concluded =>
      cases carried with
      | waiting =>
          cases concluded
          exact absurd rfl changed
      | failed noPrefix untouched notLeft =>
          rw [conclude_error noPrefix] at concluded
          cases concluded
          exact absurd untouched.text changed
      | left noPrefix untouched notControl visual asked =>
          rw [conclude_error noPrefix] at concluded
          cases concluded
          exact absurd untouched.text changed
      | kept once kept _ =>
          obtain ⟨outcome, _, finished⟩ := finish_of_once once (dropKeys _)
          rw [conclude, finished] at concluded
          cases concluded
          exact absurd kept.text changed
      | edited once edited placed mode _ =>
          obtain ⟨outcome, _, finished⟩ := finish_of_once once (dropKeys _)
          rw [conclude, finished] at concluded
          cases concluded
          exact ⟨_, _, _, _, _, edited, placed, mode, rfl⟩
      | again notControl mode asked =>
          exact absurd ⟨_, _, by rw [chord, notControl]; rfl, mode, asked⟩ notAgain
      | undone notControl mode asked =>
          exact absurd ⟨_, _, by rw [chord, notControl]; rfl, mode, asked⟩ notUndo
      | redone isControl asked =>
          exact absurd ⟨_, _, by rw [chord, isControl]; rfl, asked⟩ notRedo

/-- A command that changes the text can be taken back exactly, and then made again exactly.  It may
have been typed in any mode but insert mode; what it left to be typed is ended by an escape. -/
theorem undo_redo_of_command {keys : List Key}
    (owned : session.mode ≠ .insert) (accepts : session.surface.Accepts)
    (inside : session.cursor.caret ≤ session.text.length) (waits : Waits session keys waiting)
    (typed : (waiting.key pressed).2 = after) (changed : after.text ≠ session.text)
    (notAgain : ¬ waiting.Dispatches pressed .repeatLast)
    (notUndo : ¬ waiting.Dispatches pressed .undo)
    (notRedo : ¬ waiting.DispatchesControl pressed .redo) :
    ∃ undone, after.leaving.key (.char 'u') = (.ok .handled, undone) ∧
      undone.text = session.text ∧ undone.cursor = Cursor.collapsed session.cursor.caret ∧
      undone.surface.selection = Selection.caret session.cursor.caret ∧
      ∃ redone, undone.key (.ctrl 'r') = (.ok .handled, redone) ∧ redone.text = after.text ∧
        redone.cursor = after.cursor ∧ redone.surface.selection = after.surface.selection := by
  obtain ⟨held, rfl⟩ := waits.eq_holding
  have heldOwned : (session.holding held).mode ≠ .insert := owned
  obtain ⟨keys, start, stop, new, edited, edit, placed, mode, rfl⟩ :=
    edited_of_text_ne heldOwned typed changed notAgain notUndo notRedo
  obtain ⟨change, reversible⟩ := reversible_of_edited edit placed accepts
  rcases mode with command | insert
  · have settled : edited.dropKeys.settled.mode = .command := command
    rw [leaving_of_command settled]
    exact reversible.undo_redo inside settled rfl
  · have settled : edited.dropKeys.settled.mode = .insert := insert
    obtain ⟨entered, mode, surface, cursor⟩ := reversible.enter
    have text : edited.dropKeys.settled.enter.text = edited.dropKeys.settled.text :=
      congrArg Surface.text surface
    rw [leaving_of_insert settled, ← surface, ← cursor, ← text]
    exact entered.undo_redo inside mode rfl

theorem undo_redo_of_deletion :
    let session := Script.begin .standard "ab".toList {} []
    let waiting := (session.key (.char 'd')).2
    let after := (waiting.key (.char 'l')).2
    after.text = "b".toList ∧
      ∃ undone, after.leaving.key (.char 'u') = (.ok .handled, undone) ∧
        undone.text = "ab".toList ∧
        ∃ redone, undone.key (.ctrl 'r') = (.ok .handled, redone) ∧ redone.text = "b".toList := by
  intro session waiting after
  have owned : session.mode ≠ .insert := by decide
  have accepts : session.surface.Accepts := fun _ => rfl
  have inside : session.cursor.caret ≤ session.text.length := by decide
  have first : session.key (.char 'd') = (.ok .pending, waiting) := rfl
  have waits : Waits session [.char 'd'] waiting := .step first .refl
  have typed : (waiting.key (.char 'l')).2 = after := rfl
  have text : after.text = "b".toList := by decide
  have changed : after.text ≠ session.text := by decide
  have held : waiting.keys = ['d'] := rfl
  have plain : ∀ command, command = .repeatLast ∨ command = .undo →
      ¬ waiting.Dispatches (.char 'l') command := by
    rintro command which ⟨c, count, key, _, read⟩
    cases key
    rw [held] at read
    cases read
    simp at which
  have notRedo : ¬ waiting.DispatchesControl (.char 'l') .redo := by
    rintro ⟨c, count, key, _⟩
    cases key
  obtain ⟨undone, pressed, undoneText, _, _, redone, again, redoneText, _⟩ :=
    undo_redo_of_command owned accepts inside waits typed changed (plain _ (.inl rfl))
      (plain _ (.inr rfl)) notRedo
  exact ⟨text, undone, pressed, undoneText, redone, again, redoneText.trans text⟩

end ModalVi.Session
