import ModalVi.Proofs.Session.Effect
import ModalVi.Proofs.Strict.Change
import ModalVi.Proofs.Strict.Motion
import ModalVi.Proofs.Strict.Search
import ModalVi.Session.Run

namespace ModalVi.Strict

/-! Edits with every access checked.

Each step of a session that reads a span or a character of the text is stated here with its accesses
checked.  Steps that read with readers only are taken as they are. -/

variable {library : Library} {session : Session library} {low high start stop : Nat}

/-! ### Replacing spans -/

def replace (low high : Nat) (new : Text) (merging : Bool) (session : Session library) :
    Option (Bool × Session library) :=
  let high := min high session.text.length
  let low := min low high
  (slice session.text low high).map fun old =>
    if old = new then (false, session)
    else
      match session.surface.edit low high new with
      | (false, surface) => (false, { session with surface })
      | (true, surface) =>
          let (_, history) :=
            session.history.record low high old new session.cursor.caret merging
          (true, { session with surface, history, known := surface.text, changed := true })

def put (low high : Nat) (new : Text) (session : Session library) : Option (Session library) :=
  (replace low high new false session).map (·.2)

def erase (low high : Nat) (session : Session library) : Option (Session library) :=
  (put low high [] session).map (·.setCursor low)

theorem replace_eq (low high : Nat) (new : Text) (merging : Bool) (session : Session library) :
    replace low high new merging session = some (session.replace low high new merging) := by
  simp only [replace, slice_eq (Nat.min_le_right _ _) (Nat.min_le_right _ _), Option.map_some]
  rfl

theorem put_eq (low high : Nat) (new : Text) (session : Session library) :
    put low high new session = some (session.put low high new) := by
  simp only [put, replace_eq, Option.map_some, Session.put]

theorem erase_eq (low high : Nat) (session : Session library) :
    erase low high session = some (session.erase low high) := by
  simp only [erase, put_eq, Option.map_some, Session.erase]

/-! ### Taking over from the host, and typing -/

def reconcile (session : Session library) : Option (Session library) :=
  (between session.known session.text).map fun
    | some change => { session.notice with history := session.history.push change }
    | none => session.notice

def enter (session : Session library) : Option (Session library) := do
  let mark := session.last.mark.getD session.history.undoable.length
  let session ← reconcile session
  let typed := (session.history.since mark).flatMap (·.new)
  let cursor := session.surface.selection.toCursor
  some { session with
    last := session.last.finishTyping typed
    cursor
    history := session.history.settle cursor.caret
    keys := []
    tabArmed := true
    mode := if cursor.isEmpty then .command else .visual .characters }

def insertText (new : Text) (session : Session library) : Option (Bool × Session library) :=
  if new.isEmpty then some (false, session)
  else do
    let session ← reconcile session
    let selection := session.surface.selection
    let session := { session with cursor := Cursor.collapsed selection.start }
    (replace selection.start selection.stop new true session).map fun
      | (false, session) => (false, session)
      | (true, session) =>
          let session := session.setCursor (selection.start + new.length)
          (true, { session with history := session.history.settle session.cursor.caret })

theorem reconcile_eq (session : Session library) : reconcile session = some session.reconcile := by
  simp only [reconcile, between_eq, Option.map_some]
  rfl

theorem enter_eq (session : Session library) : enter session = some session.enter := by
  simp only [enter, reconcile_eq, Option.bind_eq_bind, Option.bind_some]
  rfl

theorem insertText_eq (new : Text) (session : Session library) :
    insertText new session = some (session.insertText new) := by
  simp only [insertText, Session.insertText]
  split
  · rfl
  · rw [reconcile_eq]
    exact congrArg (Option.map _) (replace_eq ..)

/-! ### Motions -/

def target (change : Bool) (motion : Motion) (count : Nat) (session : Session library) :
    Option (Attempt library Cursor) :=
  let point : Standpoint :=
    { Standpoint.ofCaret library.isPunctuation session.text session.caret with change }
  (resolve point session.charSearch count motion).map fun result =>
    let session := { session with charSearch := motion.remember session.charSearch }
    match result with
    | .ok cursor => (.ok cursor, session)
    | .error error => (.error (.parse error), session)

def withTarget (change : Bool) (motion : Motion) (count : Nat)
    (act : Cursor → Session library → Option (Attempt library Unit)) (session : Session library) :
    Option (Attempt library Unit) := do
  match ← target change motion count session with
  | (.ok cursor, session) => act cursor session
  | (.error error, session) => some (.error error, session)

theorem target_eq (change : Bool) (motion : Motion) (count : Nat) (session : Session library) :
    target change motion count session = some (session.target change motion count) := by
  simp only [target, resolve_eq, Option.map_some]
  rfl

/-- Only what is done with the place that a motion leads to is left to check, and that place is in the
text. -/
theorem withTarget_eq {change : Bool} {motion : Motion} {count : Nat}
    {checked : Cursor → Session library → Option (Attempt library Unit)}
    {act : Cursor → Session library → Attempt library Unit}
    (acts : ∀ cursor after, cursor.Within session.text → after.text = session.text →
      checked cursor after = some (act cursor after)) :
    withTarget change motion count checked session =
      some (session.withTarget change motion count act) := by
  simp only [withTarget, Session.withTarget, target_eq, Option.bind_eq_bind, Option.bind_some]
  generalize reached : session.target change motion count = attempt
  obtain ⟨result, after⟩ := attempt
  cases result with
  | error error => rfl
  | ok cursor =>
      simp only [Session.target] at reached
      split at reached
      · rename_i resolved
        cases reached
        have within : (Cursor.collapsed session.caret).Within session.text :=
          ⟨session.caret_le_length, session.caret_le_length⟩
        exact acts _ _ (Standpoint.within_of_resolve resolved within) rfl
      · cases reached

/-! ### Commands that edit -/

def changeLines (count : Nat) (session : Session library) : Option (Session library) :=
  let text := session.text
  let start := text.lineStart session.caret
  (erase start (text.nthLineEnd session.caret count) session).map (·.toInsert)

def openBelow (session : Session library) : Option (Session library) :=
  let reader := (Reader.forward session.text session.caret).toLineBreak
  let offset := (reader.advance 1).offset
  let opened := if reader.peek = some '\n' then offset else offset + 1
  (put offset offset ['\n'] session).map fun session => (session.setCursor opened).toInsert

def openAbove (session : Session library) : Option (Session library) :=
  let offset := session.text.lineStart session.caret
  (put offset offset ['\n'] session).map fun session => (session.setCursor offset).toInsert

def shifted (inward : Bool) (start stop : Nat) (session : Session library) : Option Text := do
  let lines ← slice session.text start stop
  let unit := session.options.indentUnit
  some (if inward then lines.indent unit else lines.unindent unit)

def shift (inward whole : Bool) (cursor : Cursor) (session : Session library) :
    Option (Session library) := do
  let text := session.text
  let start := text.lineStart cursor.low
  let stop := if whole then cursor.high else text.nextLineStart cursor.high
  let new ← shifted inward start stop session
  (replace start stop new false session).map fun
    | (true, session) => session.setCursor (session.text.indentEnd start)
    | (false, session) => session

def join (between : Text) (count : Nat) (session : Session library) : Option (Session library) := do
  let caret := session.caret
  let reader := (Reader.forward session.text caret).linesDown (max count 2 - 1)
  let stop := reader.pastLineBreak.offset
  let held ← slice session.text caret stop
  let (joined, place) := held.join between
  (replace caret stop joined false session).map fun
    | (true, session) => session.setCursor (caret + place)
    | (false, session) => session

def reflow (start stop : Nat) (session : Session library) : Option (Session library) := do
  let held ← slice session.text start stop
  let filled := held.reflow session.options.textWidth session.options.linePrefixes
  let session ← put start stop filled session
  some (session.setCursor (start + filled.length))

def putText (after : Bool) (text : Text) (session : Session library) : Option (Session library) :=
  let caret := session.caret
  if text.getLast? = some '\n' then
    if after then
      let reader := (Reader.forward session.text caret).toLineBreak
      let offset := (reader.advance 1).offset
      if reader.peek = some '\n' then (put offset offset text session).map (·.setCursor offset)
      else (put offset offset ('\n' :: text) session).map (·.setCursor (offset + 1))
    else
      let offset := session.text.lineStart caret
      (put offset offset text session).map (·.setCursor offset)
  else
    let beside := after && (session.text[caret]?).any (· != '\n')
    let offset := if beside then caret + 1 else caret
    (put offset offset text session).map (·.setCursor (offset + (text.length - 1)))

def putClipboard (after : Bool) (count : Nat) (session : Session library) :
    Option (Attempt library Unit) :=
  match session.paste with
  | (.error error, session) => some (.error error, session)
  | (.ok [], session) => some (.ok (), session)
  | (.ok text, session) =>
      (putText after (List.replicate count text).flatten session).map fun session =>
        (.ok (), session)

def swapCase (count : Nat) (session : Session library) : Option (Session library) := do
  let caret := session.caret
  let stop := ((Reader.forward session.text caret).advanceInLine count).offset
  let held ← slice session.text caret stop
  let session ← put caret stop held.swapCase session
  some (session.setCursor stop)

theorem changeLines_eq (count : Nat) (session : Session library) :
    changeLines count session = some (session.changeLines count) := by
  simp only [changeLines, erase_eq, Option.map_some, Session.changeLines]

theorem openBelow_eq (session : Session library) : openBelow session = some session.openBelow := by
  simp only [openBelow, put_eq, Option.map_some, Session.openBelow]

theorem openAbove_eq (session : Session library) : openAbove session = some session.openAbove := by
  simp only [openAbove, put_eq, Option.map_some, Session.openAbove]

theorem shifted_eq (inward : Bool) (ordered : start ≤ stop)
    (bounded : stop ≤ session.text.length) :
    shifted inward start stop session = some (session.shifted inward start stop) := by
  simp only [shifted, slice_eq ordered bounded, Option.bind_eq_bind, Option.bind_some,
    Session.shifted]

theorem shift_eq {cursor : Cursor} (inward whole : Bool) (within : cursor.Within session.text) :
    shift inward whole cursor session = some (session.shift inward whole cursor) := by
  have high := within.high_le
  have ordered := cursor.low_le_high
  have start := Text.lineStart_le (Nat.le_trans ordered high)
  have further := Text.le_nextLineStart high
  have bounded := Text.nextLineStart_le high
  obtain ⟨stop, stopEq⟩ :
      ∃ stop, stop = if whole then cursor.high else session.text.nextLineStart cursor.high :=
    ⟨_, rfl⟩
  have reaches : cursor.high ≤ stop ∧ stop ≤ session.text.length := by
    rw [stopEq]
    cases whole with
    | true => exact ⟨Nat.le_refl _, high⟩
    | false => exact ⟨further, bounded⟩
  have spans : session.text.lineStart cursor.low ≤ stop := by omega
  simp only [shift, Session.shift, ← stopEq, shifted_eq inward spans reaches.2,
    Option.bind_eq_bind, Option.bind_some]
  rw [replace_eq]
  generalize session.replace _ stop _ false = answer
  obtain ⟨_ | _, after⟩ := answer <;> rfl

theorem join_eq (between : Text) (count : Nat) (session : Session library) :
    join between count session = some (session.join between count) := by
  have reads : Reader.Reads session.text (Reader.forward session.text session.caret) :=
    .facing .forward _
  have begun : (Reader.forward session.text session.caret).offset = session.caret :=
    Reader.offset_facing .forward session.caret_le_length
  have below : (Reader.forward session.text session.caret).offset ≤ _ :=
    Text.le_offset_linesDown rfl (max count 2 - 1)
  have further := Reader.le_offset_advance
    (Text.direction_linesDown (max count 2 - 1) (Reader.forward session.text session.caret))
    ((Reader.linesDown (max count 2 - 1)
      (Reader.forward session.text session.caret)).lineAhead.length + 1)
  rw [begun] at below
  have held := slice_eq (Nat.le_trans below further)
    (reads.linesDown (max count 2 - 1)).pastLineBreak.offset_le
  rw [← Reader.pastLineBreak] at held
  simp only [join, held, replace_eq, Option.bind_eq_bind, Option.bind_some, Option.map_some]
  rfl

theorem reflow_eq (ordered : start ≤ stop) (bounded : stop ≤ session.text.length) :
    reflow start stop session = some (session.reflow start stop) := by
  simp only [reflow, slice_eq ordered bounded, put_eq, Option.bind_eq_bind, Option.bind_some,
    Session.reflow]

theorem reflow_lineSpan_eq {cursor : Cursor} (within : cursor.Within session.text) :
    reflow (session.lineSpan cursor).1 (session.lineSpan cursor).2 session =
      some (session.reflow (session.lineSpan cursor).1 (session.lineSpan cursor).2) := by
  have high := within.high_le
  have ordered := cursor.low_le_high
  have start := Text.lineStart_le (Nat.le_trans ordered high)
  have last : max (cursor.high - 1) cursor.low ≤ session.text.length := by omega
  have further := Text.le_nextLineStart last
  refine reflow_eq ?_ (Text.nextLineStart_le last)
  simp only [Session.lineSpan]
  omega

theorem putText_eq (after : Bool) (text : Text) (session : Session library) :
    putText after text session = some (session.putText after text) := by
  simp only [putText, put_eq, Option.map_some, Session.putText]
  split
  · split
    · split <;> rfl
    · rfl
  · rfl

theorem putClipboard_eq (after : Bool) (count : Nat) (session : Session library) :
    putClipboard after count session = some (session.putClipboard after count) := by
  simp only [putClipboard, putText_eq, Option.map_some, Session.putClipboard]
  generalize session.paste = attempt
  obtain ⟨_ | _ | _, _⟩ := attempt <;> rfl

theorem swapCase_eq (count : Nat) (session : Session library) :
    swapCase count session = some (session.swapCase count) := by
  have line := Text.sameLine_advanceInLine session.caret_le_length count
  simp only [swapCase, slice_eq line.ordered line.bounded, put_eq, Option.bind_eq_bind,
    Option.bind_some, Session.swapCase]

end ModalVi.Strict
