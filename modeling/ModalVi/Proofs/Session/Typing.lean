import ModalVi.Proofs.Session.Effect

namespace ModalVi.Session

/-! Typing through the session.

A text typed one character after the other ends up in the field as if it had come at once, and as one
change: the first character makes a new change, and each later one joins it. -/

variable {library : Library} {session : Session library} {caret : Nat}

/-- Types a text one character after the other. -/
def typeText : Text → Session library → Session library
  | [], session => session
  | c :: rest, session => typeText rest (session.insertText [c]).2

/-! ### A host that did nothing meanwhile -/

theorem notice_of_known (known : session.known = session.text) : session.notice = session := by
  rw [notice, ← known]

theorem reconcile_of_known (known : session.known = session.text) :
    session.reconcile = session := by
  rw [reconcile, known, Change.between?_self]
  exact notice_of_known known

/-- Taking over where nothing happened and nothing is selected leads to command mode. -/
theorem enter_of_known (placed : Placed session) (known : session.known = session.text) :
    ∃ last, session.enter =
      { session with
        last
        history := session.history.settle session.cursor.caret
        keys := []
        tabArmed := true
        mode := .command } := by
  have cursor : session.surface.selection.toCursor = session.cursor := by
    rw [placed.shown, Selection.toCursor_caret, ← placed.collapsed]
  have empty : session.cursor.isEmpty = true := by
    rw [placed.collapsed]
    simp [Cursor.isEmpty, Cursor.collapsed]
  simp only [enter, reconcile_of_known known, cursor, empty, if_true]
  exact ⟨_, rfl⟩

/-! ### Typing a text -/

/-- The session after `new` was typed at the caret. -/
def typed (new : Text) (session : Session library) : Session library :=
  let caret := session.cursor.caret
  let session := (session.replaced caret caret new true).setCursor (caret + new.length)
  { session with history := session.history.settle session.cursor.caret }

theorem insertText_eq_typed {new : Text} (placed : Placed session)
    (known : session.known = session.text) (accepts : session.surface.Accepts) (given : new ≠ []) :
    session.insertText new = (true, session.typed new) := by
  have empty : new.isEmpty = false := by simpa using given
  have start : session.surface.selection.start = session.cursor.caret := by rw [placed.shown]; rfl
  have stop : session.surface.selection.stop = session.cursor.caret := by rw [placed.shown]; rfl
  have same : { session with cursor := Cursor.collapsed session.cursor.caret } = session := by
    rw [← placed.collapsed]
  have made : session.replace session.cursor.caret session.cursor.caret new true =
      (true, session.replaced session.cursor.caret session.cursor.caret new true) :=
    replace_of_accepted (accepts 0) (Nat.le_refl _) placed.inside (by simpa using given.symm)
  simp only [insertText, empty, Bool.false_eq_true, if_false, reconcile_of_known known, start, stop,
    same, made]
  rfl

/-- More typing joins the newest change. -/
structure Typing (session : Session library) : Prop where
  placed : Placed session
  known : session.known = session.text
  accepts : session.surface.Accepts
  merging : session.history.merging = true
  redoable : session.history.redoable = []
  newest : ∃ top rest, session.history.undoable = top :: rest ∧
    top.start + top.new.length = session.cursor.caret

theorem text_typed (new : Text) (session : Session library) :
    (session.typed new).text =
      session.text.splice session.cursor.caret session.cursor.caret new := rfl

theorem cursor_typed (new : Text) (inside : session.cursor.caret ≤ session.text.length) :
    (session.typed new).cursor = Cursor.collapsed (session.cursor.caret + new.length) := by
  have within := Text.start_add_length_le_splice new (Nat.le_refl session.cursor.caret) inside
  exact congrArg Cursor.collapsed (Nat.min_eq_left within)

/-- Whatever change the typing went to is the one that more typing joins. -/
theorem typing_typed {new : Text} {top : Change} {rest : List Change} (placed : Placed session)
    (accepts : session.surface.Accepts)
    (recorded : (session.history.record session.cursor.caret session.cursor.caret
      (session.text.slice session.cursor.caret session.cursor.caret) new session.cursor.caret
      true).2 = ⟨top :: rest, [], true⟩)
    (ends : top.start + top.new.length = session.cursor.caret + new.length) :
    Typing (session.typed new) ∧
      (session.typed new).history.undoable.length = rest.length + 1 := by
  obtain ⟨noted, settled⟩ := History.exists_settle (session.typed new).cursor.caret
    (⟨top :: rest, [], true⟩ : History) rfl
  have history : (session.typed new).history =
      ⟨{ top with caretAfter := noted } :: rest, [], true⟩ := by
    rw [← settled, ← recorded]
    rfl
  have cursor := cursor_typed new placed.inside
  have settledPlaced : Placed (session.typed new) := by
    have moved := placed_setCursor (session.cursor.caret + new.length)
      (session.replaced session.cursor.caret session.cursor.caret new true)
    exact moved.congr rfl rfl
  refine ⟨⟨settledPlaced, rfl, fun _ => accepts _, ?_, ?_, ?_⟩, ?_⟩
  · rw [history]
  · rw [history]
  · refine ⟨{ top with caretAfter := noted }, rest, by rw [history], ?_⟩
    rw [cursor]
    exact ends
  · rw [history]
    rfl

/-- Typing begins a change where none is being typed. -/
theorem typing_of_closed (new : Text) (placed : Placed session) (accepts : session.surface.Accepts)
    (closed : session.history.merging = false) :
    Typing (session.typed new) ∧
      (session.typed new).history.undoable.length = session.history.undoable.length + 1 :=
  typing_typed placed accepts (History.record_of_apart _ _ _ _ _ (.inl closed)) rfl

/-- Typing on belongs to the change that is being typed. -/
theorem Typing.typed (new : Text) (typing : Typing session) :
    Typing (session.typed new) ∧
      (session.typed new).history.undoable.length = session.history.undoable.length := by
  obtain ⟨top, rest, newest, ends⟩ := typing.newest
  have recorded := History.record_of_joining
    (session.text.slice session.cursor.caret session.cursor.caret) new session.cursor.caret
    typing.merging typing.redoable newest ends
  obtain ⟨still, length⟩ := typing_typed typing.placed typing.accepts recorded (by
    rw [← ends, List.length_append, Nat.add_assoc])
  exact ⟨still, by rw [length, newest]; rfl⟩

/-- The session is the one before with `new` at the caret and the caret after it, and it has `entries`
changes to undo. -/
structure Grown (before : Session library) (new : Text) (entries : Nat) (after : Session library) :
    Prop where
  typing : Typing after
  text : after.text = before.text.splice before.cursor.caret before.cursor.caret new
  caret : after.cursor.caret = before.cursor.caret + new.length
  entries : after.history.undoable.length = entries
  mode : after.mode = before.mode

theorem Grown.cons {c : Char} {rest : Text} {entries : Nat} {after : Session library}
    (inside : session.cursor.caret ≤ session.text.length)
    (grown : Grown (session.typed [c]) rest entries after) :
    Grown session (c :: rest) entries after where
  typing := grown.typing
  text := by
    rw [grown.text, cursor_typed [c] inside, text_typed]
    exact Text.splice_insert_after [c] rest (Nat.le_refl _) inside
  caret := by
    rw [grown.caret, cursor_typed [c] inside, List.length_cons]
    simp only [Cursor.collapsed, List.length_cons, List.length_nil]
    omega
  entries := grown.entries
  mode := grown.mode

/-- Each character joins the change that is being typed. -/
theorem Typing.typeText (typing : Typing session) (new : Text) :
    Grown session new session.history.undoable.length (typeText new session) := by
  induction new generalizing session with
  | nil =>
      have same := Text.splice_slice session.text (Nat.le_refl session.cursor.caret)
      rw [Text.slice_self] at same
      exact ⟨typing, same.symm, rfl, rfl, rfl⟩
  | cons c rest ih =>
      obtain ⟨next, entries⟩ := typing.typed [c]
      have grown := (ih next).cons typing.placed.inside
      rw [entries] at grown
      rwa [Session.typeText,
        insertText_eq_typed typing.placed typing.known typing.accepts (by simp)]

theorem typeText_of_closed {new : Text} (placed : Placed session)
    (known : session.known = session.text) (accepts : session.surface.Accepts)
    (closed : session.history.merging = false) (given : new ≠ []) :
    Grown session new (session.history.undoable.length + 1) (typeText new session) := by
  cases new with
  | nil => exact absurd rfl given
  | cons c rest =>
      obtain ⟨next, entries⟩ := typing_of_closed [c] placed accepts closed
      have grown := (next.typeText rest).cons placed.inside
      rw [entries] at grown
      rwa [typeText, insertText_eq_typed placed known accepts (by simp)]

end ModalVi.Session
