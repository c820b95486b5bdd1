import ModalVi.Proofs.Session.ControlKeys
import ModalVi.Proofs.Session.InStep
import ModalVi.Proofs.Text.Line

namespace ModalVi

/-! Selections of whole lines.

While whole lines are selected, the selection starts and ends where lines do.  The commands that lead
there and those that go on from there take it to the ends of lines, and every other command leaves it
alone or ends it. -/

variable {text : Text} {low high count : Nat}

/-! ### Whole lines -/

namespace Cursor

theorem low_spanning (ordered : low ≤ high) (direction : Direction) :
    (spanning low high direction).low = low := by
  cases direction with
  | forward => exact Nat.min_eq_right ordered
  | backward => exact Nat.min_eq_left ordered

theorem high_spanning (ordered : low ≤ high) (direction : Direction) :
    (spanning low high direction).high = high := by
  cases direction with
  | forward => exact Nat.max_eq_left ordered
  | backward => exact Nat.max_eq_right ordered

/-- The selection starts at the start of a line, and ends with the text or right after a break. -/
structure CoversLines (text : Text) (cursor : Cursor) : Prop where
  bounded : cursor.high ≤ text.length
  starts : cursor.low = 0 ∨ text[cursor.low - 1]? = some '\n'
  ends : cursor.high = text.length ∨ 0 < cursor.high ∧ text[cursor.high - 1]? = some '\n'

instance (text : Text) (cursor : Cursor) : Decidable (cursor.CoversLines text) :=
  decidable_of_iff
    (cursor.high ≤ text.length ∧ (cursor.low = 0 ∨ text[cursor.low - 1]? = some '\n') ∧
      (cursor.high = text.length ∨ 0 < cursor.high ∧ text[cursor.high - 1]? = some '\n'))
    ⟨fun ⟨bounded, starts, ends⟩ => ⟨bounded, starts, ends⟩,
      fun ⟨bounded, starts, ends⟩ => ⟨bounded, starts, ends⟩⟩

theorem CoversLines.within {cursor : Cursor} (covers : cursor.CoversLines text) :
    cursor.Within text :=
  ⟨Nat.le_trans (Nat.le_max_left ..) covers.bounded,
    Nat.le_trans (Nat.le_max_right ..) covers.bounded⟩

theorem CoversLines.swapped {cursor : Cursor} (covers : cursor.CoversLines text) :
    cursor.swapped.CoversLines text := by
  have low : cursor.swapped.low = cursor.low := Nat.min_comm ..
  have high : cursor.swapped.high = cursor.high := Nat.max_comm ..
  exact ⟨high ▸ covers.bounded, low ▸ covers.starts, high ▸ covers.ends⟩

end Cursor

/-- The lines from one place to another, with their breaks. -/
def linesBetween (text : Text) (low high : Nat) (direction : Direction) : Cursor :=
  .spanning (text.lineStart low) (text.nextLineStart high) direction

theorem coversLines_linesBetween (ordered : low ≤ high) (inside : high ≤ text.length)
    (direction : Direction) : (linesBetween text low high direction).CoversLines text := by
  have spanned := Text.lineStart_le_nextLineStart ordered inside
  have first : (linesBetween text low high direction).low = text.lineStart low :=
    Cursor.low_spanning spanned direction
  have last : (linesBetween text low high direction).high = text.nextLineStart high :=
    Cursor.high_spanning spanned direction
  refine ⟨last ▸ Text.nextLineStart_le inside,
    first ▸ Text.lineStart_eq_zero_or_break (Nat.le_trans ordered inside), ?_⟩
  rw [last]
  rcases Nat.eq_or_lt_of_le inside with atEnd | before
  · rw [atEnd]
    exact .inl (Text.nextLineStart_length text)
  · rcases Text.nextLineStart_eq_length_or_break before with ⟨whole, _⟩ | broken
    · exact .inl whole
    · have after := Text.lt_nextLineStart before
      exact .inr ⟨by omega, broken⟩

namespace Session

variable {library : Library} {session before after : Session library} {keys : List Char}

/-! ### Where the selection is kept in whole lines -/

/-- Where whole lines are selected, the selection is one of whole lines. -/
def OnLines (session : Session library) : Prop :=
  session.mode = .visual .lines → session.cursor.CoversLines session.text

/-- Mode, text, cursor and what the field selects are as they were. -/
structure SameSelection (before after : Session library) : Prop where
  mode : after.mode = before.mode
  text : after.text = before.text
  cursor : after.cursor = before.cursor
  selection : after.surface.selection = before.surface.selection

theorem OnLines.congr (onLines : before.OnLines) (mode : after.mode = before.mode)
    (text : after.text = before.text) (cursor : after.cursor = before.cursor) : after.OnLines := by
  rw [OnLines, mode, text, cursor]
  exact onLines

theorem OnLines.same (onLines : before.OnLines) (same : SameSelection before after) :
    after.OnLines :=
  onLines.congr same.mode same.text same.cursor

theorem onLines_of_mode_ne (elsewhere : session.mode ≠ .visual .lines) : session.OnLines :=
  fun lines => absurd lines elsewhere

theorem onLines_of_mode (other : Mode) (mode : session.mode = other)
    (elsewhere : other ≠ .visual .lines) : session.OnLines :=
  onLines_of_mode_ne (mode ▸ elsewhere)

/-- What a command ends in stays when its keys are dropped, unless it asks for a repetition. -/
theorem sameSelection_conclude {result : Except EditError Flow}
    (once : ∀ count, result ≠ .ok (.again count)) :
    SameSelection after (conclude (result, after)).2 := by
  cases result with
  | error error =>
      by_cases waits : error = .parse .incomplete
      · rw [waits]
        exact ⟨rfl, rfl, rfl, rfl⟩
      · rw [conclude_error waits]
        exact ⟨rfl, rfl, rfl, rfl⟩
  | ok flow =>
      obtain ⟨outcome, _, finished⟩ :=
        finish_of_once (fun count same => once count (congrArg Except.ok same)) after.dropKeys
      rw [conclude, finished]
      exact ⟨rfl, rfl, rfl, rfl⟩

theorem selected_of_covers (covers : session.cursor.CoversLines session.text) :
    session.selected = session.cursor :=
  covers.within.clamped

/-- Motions start from the last of the selected lines, before its break. -/
theorem visualBase_ends (lines : session.mode = .visual .lines)
    (within : session.cursor.Within session.text) :
    session.visualBase.low = session.cursor.low ∧
      session.visualBase.high = if session.cursor.low < session.cursor.high ∧
          session.text[session.cursor.high - 1]? = some '\n'
        then session.cursor.high - 1 else session.cursor.high := by
  have selected : session.selected = session.cursor := within.clamped
  have isLines : session.mode.isVisualLine = true := by simp [lines, Mode.isVisualLine]
  simp only [visualBase, selected, isLines, Bool.true_and, Bool.and_eq_true, decide_eq_true_eq,
    beq_iff_eq]
  split
  · rename_i stepped
    have given := stepped.1
    simp only [Cursor.isForward, decide_eq_true_eq]
    split <;> simp only [Cursor.low, Cursor.high] at given ⊢ <;> omega
  · exact ⟨rfl, rfl⟩

/-! ### Commands of visual mode -/

/-- A motion fails and is remembered, or the cursor is shown where it leads. -/
theorem extend_cases (motion : Motion) (count : Nat) (session : Session library) :
    (∃ error, session.extend motion count =
        (.error error, { session with charSearch := motion.remember session.charSearch })) ∨
      ∃ found, Standpoint.resolve ⟨session.text, session.visualBase, true, false, library.isPunctuation⟩
          session.charSearch count motion = .ok found ∧
        session.extend motion count = (.ok (), { session with
          charSearch := motion.remember session.charSearch
          cursor := if session.mode.isVisualLine then wholeLines session.text found
            else found }.showCursor) := by
  simp only [extend]
  split
  · exact .inl ⟨_, rfl⟩
  · rename_i found resolved
    exact .inr ⟨found, resolved, rfl⟩

theorem extend_of_lines (lines : session.mode = .visual .lines) (motion : Motion) (count : Nat) :
    (∃ error, session.extend motion count =
        (.error error, { session with charSearch := motion.remember session.charSearch })) ∨
      ∃ found, Standpoint.resolve ⟨session.text, session.visualBase, true, false, library.isPunctuation⟩
          session.charSearch count motion = .ok found ∧
        session.extend motion count = (.ok (), { session with
          charSearch := motion.remember session.charSearch
          cursor := linesBetween session.text found.low found.high found.direction }.showCursor) := by
  have isLines : session.mode.isVisualLine = true := by simp [lines, Mode.isVisualLine]
  have outcomes := extend_cases motion count session
  simp only [isLines, if_true] at outcomes
  exact outcomes

theorem onLines_extend (onLines : session.OnLines) (motion : Motion) (count : Nat) :
    (session.extend motion count).2.OnLines := by
  by_cases lines : session.mode = .visual .lines
  · rcases extend_of_lines lines motion count with ⟨error, failed⟩ | ⟨found, resolved, moved⟩
    · rw [failed]
      exact onLines.same ⟨rfl, rfl, rfl, rfl⟩
    · have within := Standpoint.within_of_resolve resolved session.within_visualBase
      rw [moved]
      exact fun _ => coversLines_linesBetween found.low_le_high within.high_le found.direction
  · apply onLines_of_mode_ne
    simp only [extend]
    split <;> exact lines

theorem runVisual_selectLines (count : Nat) (session : Session library) :
    session.runVisual .selectLines count = (.ok .done, { session with
      mode := .visual .lines
      cursor := linesBetween session.text session.selected.low
        (max (session.selected.high - 1) session.selected.low)
        session.selected.direction }.showCursor) :=
  rfl

theorem onLines_runVisual (onLines : session.OnLines) (command : VisualCommand) (count : Nat) :
    (session.runVisual command count).2.OnLines := by
  cases command with
  | selectCharacters => exact onLines_of_mode (.visual .characters) rfl (by decide)
  | selectLines =>
      have high := session.within_selected.high_le
      have low := Nat.le_trans session.selected.low_le_high high
      have last : max (session.selected.high - 1) session.selected.low ≤ session.text.length := by
        omega
      exact fun _ => coversLines_linesBetween (Nat.le_max_right ..) last _
  | swapEnds =>
      intro lines
      have covers := onLines lines
      rw [← selected_of_covers covers] at covers
      exact covers.swapped
  | change => exact onLines_of_mode .insert rfl (by decide)
  | delete | shift inward | join between | reflow | swapCase =>
      exact onLines_of_mode .command rfl (by decide)
  | yank =>
      simp only [runVisual, copy]
      split
      · exact onLines_of_mode .command rfl (by decide)
      · rename_i failed
        split at failed <;> cases failed
        exact onLines.same ⟨rfl, rfl, rfl, rfl⟩
  | put =>
      simp only [runVisual, paste]
      split
      · exact onLines_of_mode .command rfl (by decide)
      · rename_i failed
        split at failed <;> cases failed
        exact onLines.same ⟨rfl, rfl, rfl, rfl⟩
  | exPrompt =>
      simp only [runVisual, visualExPrompt]
      split
      · exact onLines_of_mode .command rfl (by decide)
      · rename_i notVisual
        intro lines
        rw [lines] at notVisual
        exact absurd rfl notVisual
  | extend motion =>
      have extended := onLines_extend onLines motion count
      simp only [runVisual]
      generalize session.extend motion count = attempt at extended ⊢
      obtain ⟨error | done, after⟩ := attempt
      · exact extended
      · exact extended

/-! ### Other commands -/

theorem run_visual_lines (keys : List Char) (count : Nat) (session : Session library) :
    session.run keys (.visual .lines) count = (.ok .done, { session with
      changed := false
      mode := .visual .lines
      cursor := linesBetween session.text session.caret session.caret .forward }.showCursor) :=
  rfl

theorem mode_run (mode : session.mode = .command) {command : Command}
    (notVisual : ∀ kind, command ≠ .visual kind)
    (read : Command.parse keys = .ok (count, command)) :
    (session.run keys command count).2.mode.isVisual = false := by
  have stays {stayed : Session library} (same : stayed.mode = session.mode) :
      stayed.mode.isVisual = false := by
    rw [same, mode]
    rfl
  by_cases undoes : command = .undo
  · rw [undoes, run_undo]
    exact stays (aside_undoTimes count { session with changed := false }).mode
  · by_cases repeats : command = .repeatLast
    · rw [repeats]
      exact stays rfl
    · have orderly := orderly_run undoes keys count session
      generalize done : session.run keys command count = attempt at orderly ⊢
      obtain ⟨error | flow, after⟩ := attempt
      · exact stays orderly.2.mode
      · rw [(run_cases mode notVisual repeats read done).1]
        split <;> rfl

theorem onLines_runKeys (mode : session.mode = .command) (keys : List Char) :
    (session.runKeys keys).2.OnLines := by
  have inside := session.caret_le_length
  simp only [runKeys]
  split
  · exact onLines_of_mode .command mode (by decide)
  · rename_i count command read
    -- No command of command mode leads to visual mode but those that begin it.
    by_cases selects : ∃ kind, command = .visual kind
    · obtain ⟨kind, rfl⟩ := selects
      cases kind with
      | characters => exact onLines_of_mode (.visual .characters) rfl (by decide)
      | lines =>
          rw [run_visual_lines]
          exact fun _ => coversLines_linesBetween (Nat.le_refl _) inside .forward
    · have stays := mode_run mode (fun kind same => selects ⟨kind, same⟩) read
      intro lines
      rw [lines] at stays
      cases stays

theorem onLines_runControl (onLines : session.OnLines) (keys : List Char) :
    (session.runControl keys).2.OnLines := by
  simp only [runControl]
  split
  · exact onLines
  · rename_i count read
    have notVisual : session.mode.isVisual = false := by
      simpa using (ControlCommand.redo_of_parse read).1
    have stays : (({ session with changed := false } : Session library).redo count).mode =
        session.mode := (aside_redoTimes count { session with changed := false }).mode
    apply onLines_of_mode_ne
    rintro lines
    rw [← stays, lines] at notVisual
    cases notVisual
  · exact onLines.same ⟨rfl, rfl, rfl, rfl⟩

theorem mode_repeatTimes (last : LastChange) (mode : session.mode = .command) (count : Nat) :
    (session.repeatTimes last count).2.mode = .command := by
  induction count generalizing session with
  | zero => exact mode
  | succ count ih =>
      simp only [repeatTimes]
      generalize repeated : session.repeatOnce last = attempt
      obtain ⟨error | done, after⟩ := attempt
      · have carried := carried_replay last mode
        rw [repeatOnce_eq] at repeated
        generalize session.replay last = replayed at carried repeated
        obtain ⟨fault | flow, middle⟩ := replayed
        · cases repeated
          cases carried with
          | waiting => exact mode
          | failed _ untouched _ => exact untouched.mode.trans mode
          | left _ _ _ visual _ =>
              rw [mode] at visual
              cases visual
        · cases repeated
      · exact ih (mode_repeatOnce repeated)

theorem mode_repeatLast (mode : session.mode = .command) (count : Nat) :
    (session.repeatLast count).2.mode = .command := by
  simp only [repeatLast]
  split
  · exact mode
  · exact mode_repeatTimes session.last mode count

/-! ### Keys and runs -/

theorem onLines_conclude {control : Bool} {attempt : Attempt library Flow}
    (carried : Carried keys control before attempt) (onLines : attempt.2.OnLines) :
    (conclude attempt).2.OnLines := by
  obtain ⟨result, after⟩ := attempt
  by_cases again : ∃ count, result = .ok (.again count)
  · obtain ⟨count, rfl⟩ := again
    cases carried with
    | kept once _ _ => exact absurd rfl (once count)
    | edited once _ _ _ _ => exact absurd rfl (once count)
    | again _ mode _ =>
        -- However far a repetition gets, it ends in command mode.
        have command : ({ before with changed := false } : Session library).dropKeys.mode =
            .command := mode
        have repeated := mode_repeatLast command count
        simp only [conclude, finish]
        generalize repeatLast count _ = attempt at repeated ⊢
        obtain ⟨error | done, later⟩ := attempt
        · exact onLines_of_mode .command repeated (by decide)
        · exact onLines_of_mode .command repeated (by decide)
  · exact onLines.same (sameSelection_conclude fun count same => again ⟨count, same⟩)

theorem onLines_dispatch (owned : session.mode ≠ .insert) (onLines : session.OnLines) (c : Char)
    (control : Bool) : (session.dispatch c control).2.OnLines := by
  rw [dispatch_eq]
  refine onLines_conclude (carried_carryOut _ _ owned) ?_
  have held : (session.holding (session.keys ++ [c])).OnLines := onLines
  simp only [carryOut]
  split
  · exact onLines_runControl held _
  · split
    · simp only [runVisualKeys]
      split
      · exact held
      · exact onLines_runVisual held _ _
    · rename_i notVisual
      have mode := Mode.command_or_insert (by simpa using notVisual)
      exact onLines_runKeys (mode.resolve_right owned) _

/-- A key that completes a motion takes the selection to the ends of lines where the motion leads. -/
theorem key_of_extend_lines {motion : Motion} {c : Char} {found : Cursor}
    (lines : session.mode = .visual .lines)
    (read : VisualCommand.parse (session.keys ++ [c]) = .ok (count, .extend motion))
    (resolved : Standpoint.resolve
      ⟨session.text, session.visualBase, true, false, library.isPunctuation⟩ session.charSearch
      count motion = .ok found) :
    (session.key (.char c)).1 = .ok .handled ∧ (session.key (.char c)).2.mode = .visual .lines ∧
      (session.key (.char c)).2.text = session.text ∧ (session.key (.char c)).2.Shown ∧
      (session.key (.char c)).2.cursor =
        linesBetween session.text found.low found.high found.direction := by
  have owned : session.mode ≠ .insert := by simp [lines]
  have visual : (session.holding (session.keys ++ [c])).mode.isVisual = true := by
    simp [holding, lines, Mode.isVisual]
  have held : (session.holding (session.keys ++ [c])).mode = .visual .lines := lines
  have within := Standpoint.within_of_resolve resolved session.within_visualBase
  have covers := coversLines_linesBetween found.low_le_high within.high_le found.direction
  rw [key_char owned, carryOut_of_visual visual]
  simp only [runVisualKeys, read, runVisual]
  rcases extend_of_lines held motion count with ⟨error, failed⟩ | ⟨other, again, moved⟩
  · simp only [extend] at failed
    split at failed
    · rename_i fault
      cases fault.symm.trans resolved
    · cases failed
  · cases again.symm.trans resolved
    have same (after : Session library) : SameSelection after (conclude (.ok .done, after)).2 :=
      sameSelection_conclude fun count again => by cases again
    rw [moved]
    refine ⟨rfl, (same _).mode.trans lines, (same _).text, ?_, (same _).cursor⟩
    rw [Shown, (same _).selection, (same _).cursor]
    exact shown_showCursor session.mode covers.within

theorem onLines_key (owned : session.mode ≠ .insert) (onLines : session.OnLines) (pressed : Key) :
    (session.key pressed).2.OnLines := by
  simp only [key, if_neg owned]
  split
  · exact onLines_of_mode .command rfl (by decide)
  · split
    · exact onLines_dispatch owned onLines _ _
    · split
      · exact onLines
      · split
        · exact onLines_dispatch owned onLines _ _
        · exact onLines.same ⟨rfl, rfl, rfl, rfl⟩
    · split
      · exact onLines_of_mode .insert rfl (by decide)
      · exact onLines
    · exact onLines
    · exact onLines

/-- The mouse selects other characters or what is selected already. -/
theorem onLines_mouseSelection (onLines : session.OnLines) : session.mouseSelection.OnLines := by
  simp only [mouseSelection]
  split
  · exact onLines
  · split
    · exact onLines_of_mode .command rfl (by decide)
    · split
      · exact onLines_of_mode (.visual .characters) rfl (by decide)
      · exact onLines.same ⟨rfl, rfl, rfl, rfl⟩

theorem onLines_enter (session : Session library) : session.enter.OnLines := by
  simp only [enter]
  split
  · exact onLines_of_mode .command rfl (by decide)
  · exact onLines_of_mode (.visual .characters) rfl (by decide)

variable {allowed : Session library → Event → Prop} {first : Session library}

theorem onLines_of_guided
    (attentive : ∀ session event, allowed session event → session.Attentive event)
    (typing : first.mode = .insert) (guided : Guided allowed first session) : session.OnLines := by
  have inserting {session : Session library} (mode : session.mode = .insert) : session.OnLines :=
    onLines_of_mode .insert mode (by decide)
  induction guided with
  | refl => exact inserting typing
  | @step session guided event permitted ih =>
      have reserved := attentive session event permitted
      cases event with
      | key pressed =>
          by_cases mode : session.mode = .insert
          · rw [handle]
            rcases key_of_insert mode pressed with same | same | same
            · rw [same]
              exact onLines_enter session
            · rw [same]
              exact inserting ((beside_insertText _ session).mode.trans mode)
            · rw [same]
              exact ih
          · exact onLines_key mode ih pressed
      | insertText new => exact inserting ((beside_insertText new session).mode.trans reserved)
      | enter => exact onLines_enter session
      | release => exact onLines_of_mode .insert rfl (by decide)
      | blur => exact onLines_of_mode .insert rfl (by decide)
      | mouseSelection => exact onLines_mouseSelection ih
      | field surface =>
          rcases reserved with mode | ⟨text, selection⟩
          · exact inserting mode
          · exact ih.same ⟨rfl, text, rfl, selection⟩
      | setDebug debug | clipboard clipboard | prompt prompt => exact ih.same ⟨rfl, rfl, rfl, rfl⟩
  | @pointed session guided surface reserved ih =>
      apply onLines_mouseSelection
      rcases reserved with mode | text
      · exact inserting mode
      · exact ih.congr rfl text rfl

end Session

end ModalVi
