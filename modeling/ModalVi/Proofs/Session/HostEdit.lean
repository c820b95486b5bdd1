import ModalVi.Proofs.Session.HostTyping
import ModalVi.Proofs.Session.Reversal

namespace ModalVi.Session

/-! Taking back what the host did to the text.

The session finds a host's edit when it takes over, and no caret is known of what it finds.  So `u` shows
the caret after the old text.  But taking over also notes the caret with the newest change, and that is
the change just found.  So Ctrl-r shows the caret where the host had left it, wherever that was. -/

variable {library : Library} {session entered : Session library} {field : Surface} {change : Change}
  {caret : Nat}

/-- The change found when taking over becomes the newest one, with the caret of the field after it. -/
theorem history_enter (shown : session.surface.selection = Selection.caret caret)
    (found : Change.between? session.known session.text = some change) :
    session.enter.history =
      ⟨{ change with caretAfter := some caret } :: session.history.undoable, [], false⟩ := by
  have history : session.reconcile.history = session.history.push change := by
    rw [reconcile, found]
  have alone : session.reconcile.surface.selection.toCursor.caret = caret := by
    rw [surface_reconcile, shown]
    rfl
  have settled : session.enter.history = session.reconcile.history.settle
      session.reconcile.surface.selection.toCursor.caret := rfl
  have unnoted : change.caretAfter.isNone = true := by
    rw [(Change.carets_of_between? found).2]
    rfl
  rw [settled, history, alone]
  simp only [History.settle, History.push, unnoted, if_true]

/-- What the host did in insert mode, taken back and made again right after the session took over.  The
texts are those from before and after it.  The caret is after the old text, and then again where the
host left it, which need not be after the new text. -/
theorem undo_redo_of_hostEdit (inserting : session.mode = .insert)
    (accepts : field.Accepts) (shown : field.selection = Selection.caret caret)
    (inside : caret ≤ field.text.length)
    (found : Change.between? session.known field.text = some change)
    (taken : entered = (session.handle (.field field)).enter ∨ ∃ pressed : Key,
      pressed.isEscape = true ∧ entered = ((session.handle (.field field)).key pressed).2) :
    entered.mode = .command ∧ entered.text = field.text ∧
      ∃ undone, entered.key (.char 'u') = (.ok .handled, undone) ∧ undone.text = session.known ∧
        undone.cursor = Cursor.collapsed (change.start + change.old.length) ∧
        undone.surface.selection = Selection.caret (change.start + change.old.length) ∧
        ∃ redone, undone.key (.ctrl 'r') = (.ok .handled, redone) ∧ redone.text = field.text ∧
          redone.cursor = Cursor.collapsed caret ∧
          redone.surface.selection = Selection.caret caret ∧
          (redone.cursor = Cursor.collapsed (change.start + change.new.length) ↔
            caret = change.start + change.new.length) := by
  let absent : Session library := session.handle (.field field)
  have absentInserting : absent.mode = .insert := inserting
  have takesOver : entered = absent.enter := by
    rcases taken with same | ⟨pressed, escapes, same⟩
    · exact same
    · rw [same, key_of_escape absentInserting escapes]
  subst takesOver
  have foundThere : Change.between? absent.known absent.text = some change := found
  have shownThere : absent.surface.selection = Selection.caret caret := shown
  have history := history_enter shownThere foundThere
  obtain ⟨mode, text⟩ := mode_enter shownThere
  have takes := Change.takes_of_between? found
  have surface : absent.enter.surface = field := surface_reconcile absent
  let noted : Change := { change with caretAfter := some caret }
  have takesNoted : noted.Takes session.known absent.enter.text := by
    rw [text]
    exact takes.withCarets _ _
  have undoCaret : noted.undoCaret = change.start + change.old.length := by
    simp only [noted, Change.undoCaret, (Change.carets_of_between? found).1, Option.getD_none]
  have undoInside : noted.undoCaret ≤ session.known.length := by
    rw [undoCaret, takes.start_add_length_old]
    exact takes.bounded
  have redoInside : noted.redoCaret ≤ absent.enter.text.length := by
    rw [text]
    exact inside
  obtain ⟨undone, undoing, undoneText, undoneCursor, undoneShown, redone, redoing, redoneText,
    redoneCursor, redoneShown⟩ :=
    undo_redo_of_takes (congrArg History.undoable history) (congrArg History.redoable history)
      takesNoted (surface.symm ▸ accepts) undoInside redoInside mode rfl
  rw [undoCaret] at undoneCursor undoneShown
  have again : redone.cursor = Cursor.collapsed caret := redoneCursor
  refine ⟨mode, text, undone, undoing, undoneText, undoneCursor, undoneShown, redone, redoing,
    redoneText.trans text, again, redoneShown, ?_⟩
  rw [again]
  exact ⟨congrArg Cursor.caret, congrArg Cursor.collapsed⟩

/-- The host put two characters in and left the caret in front of them. -/
theorem undo_redo_of_caret_left_behind :
    let session := Session.start .standard (.ofText []) (.ofText []) .silent {}
    let entered := (session.handle (.field (.ofText ['a', 'b']))).enter
    ∃ undone, entered.key (.char 'u') = (.ok .handled, undone) ∧ undone.text = [] ∧
      undone.cursor = Cursor.collapsed 0 ∧
      ∃ redone, undone.key (.ctrl 'r') = (.ok .handled, redone) ∧ redone.text = ['a', 'b'] ∧
        redone.cursor = Cursor.collapsed 0 := by
  intro session entered
  have inserting : session.mode = .insert := rfl
  have found : Change.between? session.known ['a', 'b'] =
      some ⟨0, 0, [], ['a', 'b'], none, none⟩ := by decide
  have accepts : (Surface.ofText ['a', 'b']).Accepts := fun _ => rfl
  have shown : (Surface.ofText ['a', 'b']).selection = Selection.caret 0 := rfl
  obtain ⟨_, _, undone, undoing, undoneText, undoneCursor, _, redone, redoing, redoneText,
    redoneCursor, _, _⟩ :=
    undo_redo_of_hostEdit inserting accepts shown (Nat.zero_le _) found (.inl rfl)
  exact ⟨undone, undoing, undoneText, undoneCursor, redone, redoing, redoneText, redoneCursor⟩

/-- Made again, what the host put in is not followed by the caret if the host had left it elsewhere. -/
theorem cursor_not_after_hostEdit :
    let session := Session.start .standard (.ofText []) (.ofText []) .silent {}
    let entered := (session.handle (.field (.ofText ['a', 'b']))).enter
    let redone := ((entered.key (.char 'u')).2.key (.ctrl 'r')).2
    Change.between? session.known ['a', 'b'] = some ⟨0, 0, [], ['a', 'b'], none, none⟩ ∧
      redone.text = ['a', 'b'] ∧ redone.cursor = Cursor.collapsed 0 ∧
      redone.cursor ≠ Cursor.collapsed (0 + ['a', 'b'].length) := by
  decide

end ModalVi.Session
