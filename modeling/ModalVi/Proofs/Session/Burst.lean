import ModalVi.Proofs.Session.HostTyping
import ModalVi.Proofs.Session.Reversal
import ModalVi.Proofs.Session.Steady
import ModalVi.Regex.Engine

namespace ModalVi

/-! A burst of typing is one change.

A command that hands the text over for typing closes the merge window, so the first text typed is a
new change, whatever changes there are already.  Every text after it stands where that change ends and
joins it, and the caret after it is noted each time.  An escape finds nothing to add. -/

namespace Session

variable {library : Library} {session begun after : Session library} {pressed final : Key}
  {keys : List Char}
  {command : Command} {count : Nat} {flow : Flow} {new piece : Text}

/-! ### The field of a host -/

/-- Whatever the host does to the field, the field selects some of its text. -/
def FitsField (_ : Session library) : Event → Prop
  | .field surface => surface.Fits
  | _ => True

theorem stepwise_fits :
    Stepwise (fun (before after : Session library) => before.surface.Fits → after.surface.Fits) where
  trans first second := second ∘ first
  apart apart fits := apart.surface ▸ fits
  placed _ _ _ := Surface.fits_select _ _
  shown _ _ _ := Surface.fits_select _ _
  judged _ fits := ⟨fits.start, fits.stop⟩
  replaced _ _ _ := Surface.fits_select _ _
  undone _ _ := Surface.fits_select _ _
  redone _ _ := Surface.fits_select _ _
  noticed _ fits := fits
  closed _ fits := fits
  settled _ fits := fits
  scrolled _ _ fits := ⟨fits.start, fits.stop⟩
  commanding _ fits := fits
  typing _ fits := fits
  released _ fits := fits
  recorded _ kept _ := kept
  resumed kept := kept

theorem admits_fits (mode : Mode) (keys : List Char) :
    Admits (fun (before after : Session library) => before.surface.Fits → after.surface.Fits)
      mode keys := by
  intro count direction _ session _
  exact stepwise_fits.searchWord direction count session id

theorem fits_enter (fits : session.surface.Fits) : session.enter.surface.Fits := by
  have same : session.enter.surface = session.surface := session.surface_reconcile
  rwa [same]

theorem fits_insertText (new : Text) (fits : session.surface.Fits) :
    (session.insertText new).2.surface.Fits := by
  simp only [insertText]
  split
  · exact fits
  · split
    · rename_i refused
      apply stepwise_fits.of_refused refused
      rwa [surface_reconcile]
    · exact Surface.fits_select _ _

theorem fits_handle {event : Event} (fits : session.surface.Fits)
    (fitting : FitsField session event) : (session.handle event).surface.Fits := by
  cases event with
  | key pressed =>
      by_cases typing : session.mode = .insert
      · rcases key_of_insert typing pressed with entered | tabbed | left
        · simp only [handle, entered]
          exact fits_enter fits
        · simp only [handle, tabbed]
          exact fits_insertText _ fits
        · simp only [handle, left]
          exact fits
      · exact stepwise_fits.key typing pressed (fun _ _ _ => admits_fits _ _) (admits_fits _ _) fits
  | insertText new => exact fits_insertText new fits
  | enter => exact fits_enter fits
  | mouseSelection =>
      simp only [handle, mouseSelection]
      split
      · exact fits
      · split
        · exact fits
        · split <;> exact fits
  | field surface => exact fitting
  | release | blur | setDebug debug | clipboard clipboard | prompt prompt => exact fits

theorem fits_of_reaches {first : Session library} (reached : Reaches FitsField first session)
    (fits : first.surface.Fits) : session.surface.Fits :=
  reached.preserves (fun _ _ => fits_handle) fits

/-! ### Handing over -/

/-- The text is handed over for typing at the caret that the field shows. -/
structure Awaiting (session : Session library) : Prop where
  mode : session.mode = .insert
  shown : session.surface.selection = Selection.caret session.cursor.caret
  inside : session.cursor.caret ≤ session.text.length
  known : session.known = session.text
  closed : session.history.merging = false
  mark : session.last.mark = some session.history.undoable.length

theorem awaiting_toInsert (shown : session.surface.selection = Selection.caret session.cursor.caret)
    (inside : session.cursor.caret ≤ session.text.length) : session.toInsert.Awaiting :=
  ⟨rfl, shown, inside, rfl, rfl, rfl⟩

theorem Awaiting.settled (awaiting : session.Awaiting) : session.dropKeys.settled.Awaiting where
  mode := awaiting.mode
  shown := awaiting.shown
  inside := awaiting.inside
  known := awaiting.known
  closed := (History.merging_settle _ _).trans awaiting.closed
  mark := awaiting.mark.trans (congrArg some (History.length_settle _ _).symm)

theorem awaiting_of_act (acted : session.act command count = (.ok (), after))
    (inserts : command.inserts = true)
    (shown : session.surface.selection = Selection.caret session.cursor.caret)
    (inside : session.cursor.caret ≤ session.text.length) : after.Awaiting := by
  have notVisual : ∀ kind, command ≠ .visual kind := by
    rintro kind rfl
    cases inserts
  by_cases edits : command.edits = true
  · obtain ⟨middle, _, _, ⟨_, rfl, placed⟩ | ⟨stays, _⟩⟩ := act_cases notVisual acted
    · exact awaiting_toInsert (placed edits).shown (placed edits).inside
    · exact absurd (inserts.symm.trans stays) (by simp)
  · -- The others only put the caret somewhere, or leave it where it is.
    cases command with
    | insert =>
        simp only [act, Prod.mk.injEq, true_and] at acted
        rw [← acted]
        exact awaiting_toInsert shown inside
    | insertAtIndent | append | appendAtLineEnd =>
        simp only [act, Prod.mk.injEq, true_and] at acted
        rw [← acted]
        exact awaiting_toInsert (placed_setCursor _ session).shown (placed_setCursor _ session).inside
    | _ => first | exact absurd rfl edits | cases inserts

theorem awaiting_of_run (ran : session.run keys command count = (.ok flow, after))
    (inserts : command.inserts = true)
    (shown : session.surface.selection = Selection.caret session.cursor.caret)
    (inside : session.cursor.caret ≤ session.text.length) :
    after.Awaiting ∧ flow = .done := by
  have notAsks : command ≠ .exPrompt := by
    rintro rfl
    cases inserts
  have notAgain : command ≠ .repeatLast := by
    rintro rfl
    cases inserts
  rw [run_of_acts notAsks notAgain] at ran
  split at ran
  · cases ran
  · rename_i next acted
    have awaiting : next.Awaiting := awaiting_of_act acted inserts shown inside
    cases ran
    refine ⟨?_, rfl⟩
    split
    · exact ⟨awaiting.mode, awaiting.shown, awaiting.inside, awaiting.known, awaiting.closed,
        awaiting.mark⟩
    · exact awaiting

theorem awaiting_of_key {outcome : Outcome} (accepts : session.surface.Accepts)
    (shown : session.surface.selection = Selection.caret session.cursor.caret)
    (inside : session.cursor.caret ≤ session.text.length)
    (asked : session.Dispatches pressed command) (inserts : command.inserts = true)
    (began : session.key pressed = (.ok outcome, begun)) :
    begun.Awaiting ∧ begun.surface.Accepts := by
  obtain ⟨c, count, rfl, mode, read⟩ := asked
  have owned : session.mode ≠ .insert := by simp [mode]
  have held : (session.holding (session.keys ++ [c])).mode = .command := mode
  have notUndo : command ≠ .undo := by
    rintro rfl
    cases inserts
  rw [key_char owned, carryOut_of_command held, runKeys, read] at began
  generalize session.keys ++ [c] = keys at began held
  have orderly := orderly_run notUndo keys count (session.holding keys)
  change conclude ((session.holding keys).run keys command count) = (.ok outcome, begun) at began
  generalize ran : (session.holding keys).run keys command count = attempt at began orderly
  obtain ⟨result, next⟩ := attempt
  cases result with
  | error error =>
      rw [conclude_error orderly.1] at began
      cases began
  | ok flow =>
      have commanded : Commanded (session.holding keys) next := orderly
      have acceptsStill : next.surface.Accepts := accepts.follows commanded.host
      obtain ⟨awaiting, rfl⟩ := awaiting_of_run ran inserts shown inside
      cases began
      exact ⟨awaiting.settled, acceptsStill⟩

/-! ### Typing -/

/-- The session after `new` was typed at the caret of `begun`, as one change. -/
structure Bursting (begun : Session library) (new : Text) (session : Session library) : Prop where
  mode : session.mode = .insert
  accepts : session.surface.Accepts
  placed : Placed session
  known : session.known = session.text
  text : session.text = begun.text.splice begun.cursor.caret begun.cursor.caret new
  caret : session.cursor.caret = begun.cursor.caret + new.length
  history : session.history =
    ⟨⟨begun.cursor.caret, begun.cursor.caret, [], new, some begun.cursor.caret,
      some (begun.cursor.caret + new.length)⟩ :: begun.history.undoable, [], true⟩
  mark : session.last.mark = some begun.history.undoable.length

theorem placed_typed (new : Text) (session : Session library) : Placed (session.typed new) :=
  (placed_setCursor _ _).congr rfl rfl

/-- The first text typed is a change of its own. -/
theorem Awaiting.insertText (awaiting : begun.Awaiting) (accepts : begun.surface.Accepts)
    (given : new ≠ []) : Bursting begun new (begun.insertText new).2 := by
  let placed : Session library := { begun with cursor := Cursor.collapsed begun.cursor.caret }
  have isPlaced : Placed placed := ⟨rfl, awaiting.shown, awaiting.inside⟩
  have inserted : begun.insertText new = (true, placed.typed new) := by
    rw [← insertText_cursor (Cursor.collapsed begun.cursor.caret) begun given]
    exact insertText_eq_typed isPlaced awaiting.known accepts given
  have cursor : (placed.typed new).cursor = _ := cursor_typed new awaiting.inside
  have recorded := History.record_of_apart begun.cursor.caret begun.cursor.caret
    (begun.text.slice begun.cursor.caret begun.cursor.caret) new begun.cursor.caret
    (.inl awaiting.closed : begun.history.merging = false ∨ true = false)
  have history : (placed.typed new).history = _ :=
    congrArg (History.settle (placed.typed new).cursor.caret) recorded
  rw [cursor, Text.slice_self] at history
  rw [inserted]
  exact
    { mode := awaiting.mode
      accepts := fun _ => accepts _
      placed := placed_typed new placed
      known := rfl
      text := rfl
      caret := congrArg Cursor.caret cursor
      history
      mark := awaiting.mark }

/-- Every further text joins that change. -/
theorem Bursting.insertText (bursting : Bursting begun new session)
    (inside : begun.cursor.caret ≤ begun.text.length) (given : piece ≠ []) :
    Bursting begun (new ++ piece) (session.insertText piece).2 := by
  have inserted :=
    insertText_eq_typed bursting.placed bursting.known bursting.accepts given
  have cursor := cursor_typed piece bursting.placed.inside
  rw [bursting.caret, Nat.add_assoc, ← List.length_append] at cursor
  have recorded := History.record_of_joining
    (session.text.slice session.cursor.caret session.cursor.caret) piece session.cursor.caret
    (congrArg History.merging bursting.history) (congrArg History.redoable bursting.history)
    (congrArg History.undoable bursting.history) bursting.caret.symm
  have history : (session.typed piece).history = _ :=
    congrArg (History.settle (session.typed piece).cursor.caret) recorded
  rw [bursting.caret, Nat.add_assoc, ← List.length_append] at history
  have noted : (session.typed piece).history =
      ⟨⟨begun.cursor.caret, begun.cursor.caret, [], new ++ piece, some begun.cursor.caret,
        some (begun.cursor.caret + (new ++ piece).length)⟩ :: begun.history.undoable, [], true⟩ :=
    history.trans (History.settle_of_noted rfl rfl)
  have text := Text.splice_insert_after new piece (Nat.le_refl begun.cursor.caret) inside
  rw [inserted]
  exact
    { mode := bursting.mode
      accepts := fun _ => bursting.accepts _
      placed := placed_typed piece session
      known := rfl
      text := by rw [text_typed, bursting.text, bursting.caret, text]
      caret := congrArg Cursor.caret cursor
      history := noted
      mark := bursting.mark }

/-- Types texts one after the other. -/
def typePieces (pieces : List Text) (session : Session library) : Session library :=
  pieces.foldl (fun session piece => (session.insertText piece).2) session

theorem Bursting.typePieces {pieces : List Text} (bursting : Bursting begun new session)
    (inside : begun.cursor.caret ≤ begun.text.length) (given : ∀ piece ∈ pieces, piece ≠ []) :
    Bursting begun (new ++ pieces.flatten) (session.typePieces pieces) := by
  induction pieces generalizing session new with
  | nil => rwa [List.flatten_nil, List.append_nil]
  | cons piece rest ih =>
      have next := bursting.insertText inside (given piece List.mem_cons_self)
      have all := ih next fun other among => given other (List.mem_cons_of_mem _ among)
      rwa [List.flatten_cons, ← List.append_assoc]

theorem Awaiting.typePieces {pieces : List Text} (awaiting : begun.Awaiting)
    (accepts : begun.surface.Accepts) (several : pieces ≠ [])
    (given : ∀ piece ∈ pieces, piece ≠ []) :
    Bursting begun pieces.flatten (begun.typePieces pieces) := by
  cases pieces with
  | nil => exact absurd rfl several
  | cons piece rest =>
      have first := awaiting.insertText accepts (given piece List.mem_cons_self)
      exact first.typePieces awaiting.inside fun other among =>
        given other (List.mem_cons_of_mem _ among)

/-! ### Leaving -/

theorem typed_finishTyping (last : LastChange) (given : new ≠ []) :
    (last.finishTyping new).typed = new := by
  have something : new.isEmpty = false := by simpa using given
  simp only [LastChange.finishTyping, something, Bool.false_eq_true, if_false]
  split <;> rfl

/-- What was typed is remembered for `.`, in whatever pieces it came. -/
theorem Bursting.typed_enter (bursting : Bursting begun new session) (given : new ≠ []) :
    session.enter.last.typed = new := by
  have finished : session.enter.last = session.reconcile.last.finishTyping
      ((session.reconcile.history.since (session.last.mark.getD
        session.history.undoable.length)).flatMap (·.new)) := rfl
  rw [finished, reconcile_of_known bursting.known, bursting.mark, Option.getD_some,
    History.since_of_newest (congrArg History.undoable bursting.history), List.flatMap_cons,
    List.flatMap_nil, List.append_nil]
  exact typed_finishTyping session.last given

theorem Bursting.reversible (bursting : Bursting begun new session)
    (inside : begun.cursor.caret ≤ begun.text.length) :
    Reversible begun.text begun.cursor.caret
      ⟨begun.cursor.caret, begun.cursor.caret, [], new, some begun.cursor.caret,
        some (begun.cursor.caret + new.length)⟩ session where
  accepts := bursting.accepts
  newest := ⟨_, congrArg History.undoable bursting.history⟩
  redoable := congrArg History.redoable bursting.history
  taken := ⟨Nat.le_refl _, inside, Text.slice_self _ _, bursting.text.symm⟩
  caretBefore := rfl
  caretAfter := congrArg some bursting.caret.symm
  placed := bursting.placed
  known := bursting.known

theorem Bursting.undoable_enter (bursting : Bursting begun new session) :
    session.enter.history.undoable = session.history.undoable := by
  obtain ⟨last, entered⟩ := enter_of_known bursting.placed bursting.known
  have newest := congrArg History.undoable bursting.history
  rw [entered]
  exact congrArg History.undoable (History.settle_of_noted newest rfl)

/-- Whatever is typed between a command that hands over for typing and an escape is one change of its
own: it is the newest one to undo, `.` repeats it, `u` takes it back and Ctrl-r makes it again. -/
theorem burst_of_reaches {surface : Surface} {clipboard : Clipboard} {prompt : Prompt}
    {options : Options} {outcome : Outcome} {pieces : List Text} (fits : surface.Fits)
    (reached : Reaches FitsField (Session.start library surface clipboard prompt options) session)
    (accepts : session.surface.Accepts)
    (shown : session.surface.selection = Selection.caret session.cursor.caret)
    (asked : session.Dispatches pressed command) (inserts : command.inserts = true)
    (began : session.key pressed = (.ok outcome, begun))
    (several : pieces ≠ []) (given : ∀ piece ∈ pieces, piece ≠ [])
    (escapes : final.isEscape = true) :
    let caret := begun.cursor.caret
    let new := pieces.flatten
    begun.mode = .insert ∧ begun.surface.selection = Selection.caret caret ∧
      ∃ left, (begun.typePieces pieces).key final = (.ok .handled, left) ∧
        left.mode = .command ∧ left.text = begun.text.splice caret caret new ∧
        (∃ change, left.history.undoable = change :: begun.history.undoable ∧ change.new = new) ∧
        left.last.typed = new ∧
        ∃ undone, left.key (.char 'u') = (.ok .handled, undone) ∧ undone.text = begun.text ∧
          undone.cursor = Cursor.collapsed caret ∧
          undone.surface.selection = Selection.caret caret ∧
          ∃ redone, undone.key (.ctrl 'r') = (.ok .handled, redone) ∧ redone.text = left.text ∧
            redone.cursor = Cursor.collapsed (caret + new.length) ∧
            redone.surface.selection = Selection.caret (caret + new.length) := by
  intro caret new
  have inside : session.cursor.caret ≤ session.text.length := by
    have start := (fits_of_reaches reached fits).start
    rwa [shown] at start
  obtain ⟨awaiting, acceptsStill⟩ := awaiting_of_key accepts shown inside asked inserts began
  have bursting := awaiting.typePieces acceptsStill several given
  have something : pieces.flatten ≠ [] := by
    obtain ⟨piece, rest, rfl⟩ := List.exists_cons_of_ne_nil several
    simp [given piece List.mem_cons_self]
  have entered := key_of_escape bursting.mode escapes
  obtain ⟨reversible, mode, surface, cursor⟩ := (bursting.reversible awaiting.inside).enter
  have text : (begun.typePieces pieces).enter.text = (begun.typePieces pieces).text :=
    congrArg Surface.text surface
  obtain ⟨undone, undoing, undoneText, undoneCursor, undoneShown, redone, redoing, redoneText,
    redoneCursor, redoneShown⟩ := reversible.undo_redo awaiting.inside mode rfl
  have placed := bursting.placed
  refine ⟨awaiting.mode, awaiting.shown, _, entered, mode, text.trans bursting.text,
    ⟨_, bursting.undoable_enter.trans (congrArg History.undoable bursting.history), rfl⟩,
    bursting.typed_enter something, undone, undoing, undoneText, undoneCursor, undoneShown, redone,
    redoing, redoneText, ?_, ?_⟩
  · rw [redoneCursor, cursor, placed.collapsed, bursting.caret]
  · rw [redoneShown, surface, placed.shown, bursting.caret]

/-- Two texts are typed in place of a character. -/
theorem burst_of_substitution :
    let first := Session.start .standard (.ofText ['a', 'b']) (.ofText []) .silent {}
    let session := first.handle .enter
    let begun := (session.key (.char 's')).2
    Reaches FitsField first session ∧ session.Dispatches (.char 's') (.deleteAhead true) ∧
      ∃ left, (begun.typePieces [['x'], ['y', 'z']]).key .escape = (.ok .handled, left) ∧
        left.text = ['x', 'y', 'z', 'b'] ∧ left.last.typed = ['x', 'y', 'z'] ∧
        ∃ undone, left.key (.char 'u') = (.ok .handled, undone) ∧ undone.text = ['b'] ∧
          ∃ redone, undone.key (.ctrl 'r') = (.ok .handled, redone) ∧
            redone.text = ['x', 'y', 'z', 'b'] ∧ redone.cursor = Cursor.collapsed 3 := by
  intro first session begun
  have fits : (Surface.ofText ['a', 'b']).Fits := ⟨by decide, by decide⟩
  have reached : Reaches FitsField first session := .step .refl trivial
  have accepts : session.surface.Accepts := fun _ => rfl
  have shown : session.surface.selection = Selection.caret session.cursor.caret := rfl
  have asked : session.Dispatches (.char 's') (.deleteAhead true) := ⟨'s', 1, rfl, rfl, rfl⟩
  have succeeds : (session.key (.char 's')).1.isOk = true := by decide
  obtain ⟨outcome, began⟩ : ∃ outcome, session.key (.char 's') = (.ok outcome, begun) := by
    change ∃ outcome, session.key (.char 's') = (.ok outcome, (session.key (.char 's')).2)
    generalize session.key (.char 's') = attempt at succeeds
    obtain ⟨error | outcome, after⟩ := attempt
    · cases succeeds
    · exact ⟨outcome, rfl⟩
  have caret : begun.cursor.caret = 0 := by decide
  have text : begun.text = ['b'] := by decide
  have several : [['x'], ['y', 'z']] ≠ ([] : List Text) := by decide
  have escapes : Key.escape.isEscape = true := rfl
  clear_value begun session
  obtain ⟨_, _, left, escaped, _, leftText, _, typed, undone, undoing, undoneText, _, _, redone,
    redoing, redoneText, redoneCursor, _⟩ :=
    burst_of_reaches fits reached accepts shown asked rfl began several (by decide) escapes
  rw [caret, text] at leftText
  rw [caret] at redoneCursor
  exact ⟨reached, asked, left, escaped, leftText, typed, undone, undoing, undoneText.trans text,
    redone, redoing, redoneText.trans leftText, redoneCursor⟩

end Session

end ModalVi
