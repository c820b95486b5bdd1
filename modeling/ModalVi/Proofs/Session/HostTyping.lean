import ModalVi.Proofs.History.Insertion
import ModalVi.Proofs.Session.Attribution
import ModalVi.Proofs.Session.Repetition

namespace ModalVi

/-! What a user types into the field is remembered for `.` when the session takes over again.

The session does not see the typing.  It finds it as the difference between the text it handed over and
the text it gets back, and that difference may lie further on than the typing did.  Text that went
through the session is remembered as it was typed. -/

namespace Surface

variable {surface : Surface} {caret : Nat}

/-- Typing puts the text at the caret, and the caret after it. -/
theorem type_at_caret (text : Text) (shown : surface.selection = Selection.caret caret)
    (inside : caret ≤ surface.text.length) :
    (surface.type text).text = surface.text.splice caret caret text ∧
      (surface.type text).selection = Selection.caret (caret + text.length) := by
  have within : caret ≤ caret ∧ caret ≤ surface.text.length := ⟨Nat.le_refl _, inside⟩
  simp only [type, shown, Selection.caret, replace?, if_pos within]
  exact ⟨trivial, trivial⟩

/-- Typing in pieces is typing all of them at once. -/
theorem foldl_type_at_caret (pieces : List Text) (shown : surface.selection = Selection.caret caret)
    (inside : caret ≤ surface.text.length) :
    (pieces.foldl (fun surface piece => surface.type piece) surface).text =
        surface.text.splice caret caret pieces.flatten ∧
      (pieces.foldl (fun surface piece => surface.type piece) surface).selection =
        Selection.caret (caret + pieces.flatten.length) := by
  induction pieces generalizing surface caret with
  | nil =>
      have same := Text.splice_slice surface.text (Nat.le_refl caret)
      rw [Text.slice_self] at same
      exact ⟨same.symm, shown⟩
  | cons piece rest ih =>
      obtain ⟨text, selection⟩ := type_at_caret piece shown inside
      have within := Text.start_add_length_le_splice piece (Nat.le_refl caret) inside
      rw [← text] at within
      obtain ⟨textAfter, selectionAfter⟩ := ih selection within
      rw [List.foldl_cons, textAfter, selectionAfter, text, List.flatten_cons, List.length_append,
        Nat.add_assoc]
      exact ⟨Text.splice_insert_after piece rest.flatten (Nat.le_refl caret) inside, rfl⟩

end Surface

namespace Session

variable {library : Library} {session middle after : Session library} {keys : List Char}
  {control : Bool} {caret : Nat}

/-! ### From the insert key to the escape -/

/-- The session after `i`. -/
def opened (session : Session library) : Session library := session.begun.toInsert.settled

theorem key_insert (mode : session.mode = .command) (fresh : session.keys = []) :
    session.key (.char 'i') = (.ok .handled, session.opened) := by
  have owned : session.mode ≠ .insert := by simp [mode]
  have held : (session.holding ['i']).mode = .command := mode
  have ran : (session.holding ['i']).runKeys ['i'] =
      (.ok .done, { session.holding ['i'] with changed := false }.toInsert) := rfl
  rw [key_char owned, fresh, List.nil_append, carryOut_of_command held, ran]
  rfl

/-- What is found to be new when taking over is what was typed. -/
theorem last_enter {change : Change} {prior : List Change} (idle : session.last.capturing = false)
    (mark : session.last.mark = some prior.length)
    (found : session.reconcile.history.undoable = change :: prior) (given : change.new ≠ []) :
    session.enter.last = ⟨[], change.new, false, none⟩ := by
  have last : session.reconcile.last = session.last := (beside_reconcile session).last
  have since := History.since_of_newest found
  have typed : change.new.isEmpty = false := by simpa using given
  have finished : session.enter.last = session.reconcile.last.finishTyping
      ((session.reconcile.history.since (session.last.mark.getD
        session.history.undoable.length)).flatMap (·.new)) := rfl
  rw [finished, mark, Option.getD_some, since, last]
  simp only [List.flatMap_cons, List.flatMap_nil, List.append_nil, LastChange.finishTyping, idle,
    typed, Bool.false_eq_true, if_false]

/-- The session after the user typed into the field. -/
def typeInField (session : Session library) (piece : Text) : Session library :=
  session.handle (.field (session.surface.type piece))

theorem foldl_typeInField (pieces : List Text) (session : Session library) :
    pieces.foldl typeInField session =
      { session with
        surface := pieces.foldl (fun surface piece => surface.type piece) session.surface } := by
  induction pieces generalizing session with
  | nil => rfl
  | cons piece rest ih =>
      rw [List.foldl_cons, ih]
      rfl

/-- Where the caret stands alone, taking over leads to command mode with the text of the field. -/
theorem mode_enter (shown : session.surface.selection = Selection.caret caret) :
    session.enter.mode = .command ∧ session.enter.text = session.text := by
  have surface := session.surface_reconcile
  have alone : session.reconcile.surface.selection.toCursor.isEmpty = true := by
    rw [surface, shown, Selection.toCursor_caret]
    simp [Cursor.isEmpty, Cursor.collapsed]
  have text : session.enter.text = session.reconcile.text := rfl
  refine ⟨?_, text.trans (congrArg Surface.text surface)⟩
  simp only [enter, alone, if_true]

/-- The host has put `new` at the caret, and the caret after it. -/
theorem enter_of_inserted {field : Surface} {new : Text} (idle : session.last.capturing = false)
    (inserted : field.text = session.text.splice caret caret new)
    (shown : field.selection = Selection.caret (caret + new.length)) (given : new ≠ []) :
    ({ session.opened with surface := field } : Session library).enter.mode = .command ∧
      ({ session.opened with surface := field } : Session library).enter.text =
        session.text.splice caret caret new ∧
      ({ session.opened with surface := field } : Session library).enter.last =
        ⟨[], new.rotate (Change.overlap new (session.text.drop caret)), false, none⟩ := by
  let typed : Session library := { session.opened with surface := field }
  have idleStill : typed.last.capturing = false := idle
  have shownStill : typed.surface.selection = Selection.caret (caret + new.length) := shown
  obtain ⟨mode, text⟩ := mode_enter shownStill
  have difference := Change.between?_insertion (session.text.take caret) (session.text.drop caret)
    given
  have parts : session.text.take caret ++ new ++ session.text.drop caret = typed.text :=
    inserted.symm
  rw [List.take_append_drop, parts] at difference
  obtain ⟨change, fresh, found⟩ : ∃ change : Change,
      change.new = new.rotate (Change.overlap new (session.text.drop caret)) ∧
        Change.between? typed.known typed.text = some change := ⟨_, rfl, difference⟩
  have entries : session.opened.history.undoable.length = session.history.undoable.length :=
    History.length_settle _ _
  have mark : typed.last.mark = some typed.history.undoable.length := congrArg some entries.symm
  have pushed : typed.reconcile.history.undoable = change :: typed.history.undoable := by
    rw [reconcile, found]
    rfl
  rw [← fresh]
  exact ⟨mode, text.trans inserted, last_enter idleStill mark pushed (by simpa [fresh] using given)⟩

theorem enter_of_field {pieces : List Text} (idle : session.last.capturing = false)
    (shown : session.surface.selection = Selection.caret caret)
    (inside : caret ≤ session.text.length) (given : pieces.flatten ≠ []) :
    (pieces.foldl typeInField session.opened).enter.mode = .command ∧
      (pieces.foldl typeInField session.opened).enter.text =
        session.text.splice caret caret pieces.flatten ∧
      (pieces.foldl typeInField session.opened).enter.last =
        ⟨[], pieces.flatten.rotate (Change.overlap pieces.flatten (session.text.drop caret)), false,
          none⟩ := by
  obtain ⟨text, selection⟩ := Surface.foldl_type_at_caret pieces shown inside
  rw [foldl_typeInField]
  exact enter_of_inserted idle text selection given

/-- Where the caret was does not matter to text that goes through the session. -/
theorem insertText_cursor {new : Text} (cursor : Cursor) (session : Session library)
    (given : new ≠ []) :
    ({ session with cursor } : Session library).insertText new = session.insertText new := by
  have reconciled : ({ session with cursor } : Session library).reconcile =
      { session.reconcile with cursor } := by
    have known : ({ session with cursor } : Session library).known = session.known := rfl
    have text : ({ session with cursor } : Session library).text = session.text := rfl
    rw [reconcile, reconcile, known, text]
    split <;> rfl
  have something : new.isEmpty = false := by simpa using given
  simp only [insertText, something, Bool.false_eq_true, if_false, reconciled]

/-- Text that went through the session is remembered as it was typed. -/
theorem enter_of_insertText {new : Text} (idle : session.last.capturing = false)
    (accepts : session.surface.Accepts)
    (shown : session.surface.selection = Selection.caret caret)
    (inside : caret ≤ session.text.length) (given : new ≠ []) :
    (session.opened.insertText new).2.enter.mode = .command ∧
      (session.opened.insertText new).2.enter.text = session.text.splice caret caret new ∧
      (session.opened.insertText new).2.enter.last = ⟨[], new, false, none⟩ := by
  let placed : Session library := { session.opened with cursor := Cursor.collapsed caret }
  have isPlaced : Placed placed := ⟨rfl, shown, inside⟩
  have same : session.opened.insertText new = placed.insertText new :=
    (insertText_cursor _ session.opened given).symm
  have inserted := insertText_eq_typed isPlaced rfl accepts given
  have closed : placed.history.merging = false := History.merging_settle _ _
  have record := History.record_of_apart caret caret (placed.text.slice caret caret) new caret
    (.inl closed : placed.history.merging = false ∨ true = false)
  obtain ⟨noted, settled⟩ := History.exists_settle (placed.typed new).cursor.caret
    (placed.history.record caret caret (placed.text.slice caret caret) new caret true).2
    (congrArg History.undoable record)
  have history : (placed.typed new).history.undoable =
      ⟨caret, caret, placed.text.slice caret caret, new, some caret, noted⟩ ::
        placed.history.undoable := congrArg History.undoable settled
  have entries : session.opened.history.undoable.length = session.history.undoable.length :=
    History.length_settle _ _
  have mark : (placed.typed new).last.mark = some placed.history.undoable.length :=
    congrArg some entries.symm
  have idleStill : (placed.typed new).last.capturing = false := idle
  have found : (placed.typed new).reconcile.history.undoable = _ :=
    (congrArg (fun session : Session library => session.history.undoable)
      (reconcile_of_known rfl)).trans history
  have shownAfter : (placed.typed new).surface.selection =
      Selection.caret (placed.typed new).cursor.caret :=
    (typing_of_closed new isPlaced accepts closed).1.placed.shown
  obtain ⟨mode, text⟩ := mode_enter shownAfter
  rw [same, inserted]
  exact ⟨mode, text, last_enter idleStill mark found given⟩

/-! ### Repeating what was typed -/

theorem key_dot_of_typed (mode : session.mode = .command) (fresh : session.keys = [])
    (accepts : session.surface.Accepts) (alone : session.last.keys = [])
    (given : session.last.typed ≠ []) :
    ∃ dotted, session.key (.char '.') = (.ok .handled, dotted) ∧
      dotted.text = session.text.splice session.caret session.caret session.last.typed ∧
      dotted.mode = .command ∧ dotted.last = session.last := by
  have something : session.last.isEmpty = false := by simp [LastChange.isEmpty, given]
  have replayed : session.begun.replay session.last = (.ok .done, session.begun) := by
    simp only [replay, alone, List.isEmpty_nil, if_true]
  rw [key_once_of_replay mode fresh something, replayed]
  have acceptsStill : session.begun.surface.Accepts := accepts
  exact ⟨_, rfl, text_retype session.last acceptsStill, rfl, rfl⟩

theorem key_escape (inserting : session.mode = .insert) :
    session.key .escape = (.ok .handled, session.enter) :=
  key_of_escape inserting rfl

/-- Between `i` and an escape, what a user types is remembered for `.`, rotated by as many characters
as it goes on after the caret.  That is what was typed if another character follows the caret.  Text that
goes through the session instead is always remembered as it is, and `.` puts at any caret what was
remembered. -/
theorem repeats_typing {allowed : Session library → Event → Prop} {surface : Surface}
    {clipboard : Clipboard} {prompt : Prompt} {options : Options} {pieces : List Text}
    (reached : Reaches allowed (Session.start library surface clipboard prompt options) session)
    (mode : session.mode = .command) (fresh : session.keys = [])
    (shown : session.surface.selection = Selection.caret caret)
    (inside : caret ≤ session.text.length) (given : pieces.flatten ≠ []) :
    session.key (.char 'i') = (.ok .handled, session.opened) ∧
      ∃ left, (pieces.foldl typeInField session.opened).key .escape = (.ok .handled, left) ∧
        left.mode = .command ∧ left.text = session.text.splice caret caret pieces.flatten ∧
        left.last =
          ⟨[], pieces.flatten.rotate (Change.overlap pieces.flatten (session.text.drop caret)), false,
            none⟩ ∧
        (pieces.flatten.head? ≠ session.text[caret]? → left.last.typed = pieces.flatten) ∧
        (session.surface.Accepts →
          ∃ inserted, (session.opened.insertText pieces.flatten).2.key .escape =
              (.ok .handled, inserted) ∧
            inserted.mode = .command ∧ inserted.text = left.text ∧
            inserted.last = ⟨[], pieces.flatten, false, none⟩) ∧
        ∀ later : Session library, later.mode = .command → later.keys = [] → later.surface.Accepts →
          later.last = left.last →
            ∃ dotted, later.key (.char '.') = (.ok .handled, dotted) ∧
              dotted.text = later.text.splice later.caret later.caret left.last.typed ∧
              dotted.mode = .command ∧ dotted.last = left.last := by
  have owned : session.mode ≠ .insert := by simp [mode]
  have idle := (attributed_of_reaches reached).idle owned
  have opening : (pieces.foldl typeInField session.opened).mode = .insert := by
    rw [foldl_typeInField]
    rfl
  obtain ⟨left, text, last⟩ := enter_of_field idle shown inside given
  refine ⟨key_insert mode fresh, _, key_escape opening, left, text, last, fun differs => ?_,
    fun accepts => ?_, fun later mode fresh accepts same => ?_⟩
  · have apart : pieces.flatten.head? ≠ (session.text.drop caret).head? := by
      rwa [List.head?_drop]
    rw [last, Change.overlap_eq_zero given apart, List.rotate_zero]
  · obtain ⟨inserted, textAlso, lastAlso⟩ := enter_of_insertText idle accepts shown inside given
    have inserting := (beside_insertText pieces.flatten session.opened).mode
    exact ⟨_, key_escape inserting, inserted, textAlso.trans text.symm, lastAlso⟩
  · have alone : later.last.keys = [] := by rw [same, last]
    have typed : later.last.typed ≠ [] := by
      rw [same, last]
      simpa using given
    obtain ⟨dotted, pressed, dottedText, dottedMode, kept⟩ :=
      key_dot_of_typed mode fresh accepts alone typed
    exact ⟨dotted, pressed, by rw [dottedText, same], dottedMode, kept.trans same⟩

/-- A user types in two pieces before another character. -/
theorem repeats_typing_in_pieces :
    let first := Session.start .standard (.ofText ['b']) (.ofText []) .silent {}
    let session := first.handle .enter
    Reaches (fun _ _ => True) first session ∧
      ∃ left, ([['a'], ['c']].foldl typeInField session.opened).key .escape = (.ok .handled, left) ∧
        left.text = ['a', 'c', 'b'] ∧ left.last.typed = ['a', 'c'] ∧
        ∃ dotted, left.key (.char '.') = (.ok .handled, dotted) ∧
          dotted.text = ['a', 'c', 'a', 'c', 'b'] := by
  intro first session
  have reached : Reaches (fun _ _ => True) first session := .step .refl trivial
  have shown : session.surface.selection = Selection.caret 0 := rfl
  obtain ⟨_, left, escaped, mode, text, last, verbatim, _, repeats⟩ :=
    repeats_typing reached rfl rfl shown (Nat.zero_le _)
      (by decide : [['a'], ['c']].flatten ≠ ([] : Text))
  have typed : left.last.typed = ['a', 'c'] := verbatim (by decide)
  have same : left = (([['a'], ['c']].foldl typeInField session.opened).key .escape).2 :=
    (congrArg Prod.snd escaped).symm
  have fresh : left.keys = [] := by rw [same]; rfl
  have accepts : left.surface.Accepts := by rw [same]; exact fun _ => rfl
  have caret : left.caret = 2 := by rw [same]; decide
  obtain ⟨dotted, pressed, dottedText, _⟩ := repeats left mode fresh accepts rfl
  refine ⟨reached, left, escaped, text, typed, dotted, pressed, ?_⟩
  rw [dottedText, caret, typed, text]
  rfl

/-- Where the text goes on with what is typed, the difference lies behind the typing. -/
theorem repeats_rotated :
    let session := (Session.start .standard (.ofText ['b']) (.ofText []) .silent {}).handle .enter
    let left := (([['b', 'a']].foldl typeInField session.opened).key .escape).2
    left.text = ['b', 'a', 'b'] ∧ left.last.typed = ['a', 'b'] ∧
      left.last.typed ≠ [['b', 'a']].flatten ∧
      (left.key (.char '.')).2.text = ['b', 'a', 'a', 'b', 'b'] := by
  decide

end Session

end ModalVi
