import ModalVi.Proofs.Session.Mode

namespace ModalVi.Session

/-! What a key comes to outside insert mode.

A key adds to those before it, and all of them are read again by the reader of the mode.  Whatever
they ask for, only a few things can become of it (`Carried`), and every property of keys is argued
from these. -/

variable {library : Library} {session before after : Session library} {keys : List Char}
  {control : Bool} {pressed : Key}

/-- The key completes `command` in command mode. -/
def Dispatches (session : Session library) (pressed : Key) (command : Command) : Prop :=
  ∃ c count, pressed = .char c ∧ session.mode = .command ∧
    Command.parse (session.keys ++ [c]) = .ok (count, command)

/-- The key completes `command` in visual mode. -/
def DispatchesVisual (session : Session library) (pressed : Key) (command : VisualCommand) : Prop :=
  ∃ c count, pressed = .char c ∧ session.mode.isVisual = true ∧
    VisualCommand.parse (session.keys ++ [c]) = .ok (count, command)

/-- The key completes `command`, which a control key asks for. -/
def DispatchesControl (session : Session library) (pressed : Key) (command : ControlCommand) :
    Prop :=
  ∃ c count, pressed = .ctrl c ∧
    ControlCommand.parse (!session.mode.isVisual) (session.keys ++ [c]) = .ok (count, command)

/-- Reads the keys as the mode does and carries out what they ask for. -/
def carryOut (keys : List Char) (control : Bool) (session : Session library) :
    Attempt library Flow :=
  if control then session.runControl keys
  else if session.mode.isVisual then session.runVisualKeys keys
  else session.runKeys keys

/-- The session with `keys` typed so far. -/
def holding (keys : List Char) (session : Session library) :
    Session library := { session with keys }

/-- What is answered once keys were carried out, and what becomes of them. -/
def conclude : Attempt library Flow → Attempt library Outcome
  | (.ok flow, session) => session.dropKeys.finish flow
  | (.error (.parse .incomplete), session) => (.ok .pending, session)
  | (.error error, session) => (.error error, session.dropKeys)

theorem conclude_error {error : EditError} (noPrefix : error ≠ .parse .incomplete)
    (session : Session library) :
    conclude (.error error, session) = (.error error, session.dropKeys) := by
  rcases error with (_ | _ | _ | _ | _) | _ | _ | _
  · exact absurd rfl noPrefix
  all_goals rfl

theorem dispatch_eq (c : Char) (control : Bool) (session : Session library) :
    session.dispatch c control =
      conclude
        ((session.holding (session.keys ++ [c])).carryOut (session.keys ++ [c]) control) := by
  simp only [dispatch]
  rw [← carryOut, ← holding]
  generalize (session.holding (session.keys ++ [c])).carryOut (session.keys ++ [c]) control = attempt
  obtain ⟨result, after⟩ := attempt
  rcases result with ((_ | _ | _ | _ | _) | _ | _ | _) | flow <;> rfl

/-- The keys are the beginning of a command of the mode. -/
def Unfinished (mode : Mode) (keys : List Char) : Prop :=
  if mode.isVisual then VisualCommand.parse keys = .error .incomplete
  else Command.parse keys = .error .incomplete

/-- What carrying out keys can come to. -/
inductive Carried (keys : List Char) (control : Bool) (before : Session library) :
    Attempt library Flow → Prop where
  | waiting (unfinished : Unfinished before.mode keys) :
      Carried keys control before (.error (.parse .incomplete), before)
  | failed {error : EditError} {after : Session library} (noPrefix : error ≠ .parse .incomplete)
      (untouched : Untouched before after)
      (notLeft : control = false → before.mode.isVisual = true →
        ∀ count, VisualCommand.parse keys ≠ .ok (count, .exPrompt)) :
      Carried keys control before (.error error, after)
  /-- The command line of visual mode failed, but visual mode has ended. -/
  | left {error : EditError} {middle : Session library} {count : Nat}
      (noPrefix : error ≠ .parse .incomplete) (untouched : Untouched before middle)
      (notControl : control = false) (visual : before.mode.isVisual = true)
      (asked : VisualCommand.parse keys = .ok (count, .exPrompt)) :
      Carried keys control before (.error error, middle.toCommand)
  | kept {flow : Flow} {after : Session library} (once : ∀ count, flow ≠ .again count)
      (kept : Kept before after) (remembered : Remembered keys before after) :
      Carried keys control before (.ok flow, after)
  | edited {flow : Flow} {after : Session library} {start stop : Nat} {new : Text}
      (once : ∀ count, flow ≠ .again count) (edited : Edited start stop new before after)
      (placed : Placed after) (mode : after.mode = .command ∨ after.mode = .insert)
      (remembered : Remembered keys before after) :
      Carried keys control before (.ok flow, after)
  | again {count : Nat} (notControl : control = false) (mode : before.mode = .command)
      (asked : Command.parse keys = .ok (count, .repeatLast)) :
      Carried keys control before (.ok (.again count), { before with changed := false })
  | undone {count : Nat} (notControl : control = false) (mode : before.mode = .command)
      (asked : Command.parse keys = .ok (count, .undo)) :
      Carried keys control before
        (.ok .done, ({ before with changed := false } : Session library).undo count)
  | redone {count : Nat} (isControl : control = true)
      (asked : ControlCommand.parse (!before.mode.isVisual) keys = .ok (count, .redo)) :
      Carried keys control before
        (.ok .done, ({ before with changed := false } : Session library).redo count)

/-- A command that replaced at most one span and ended visual mode if it did. -/
theorem Commanded.carried {flow : Flow} (commanded : Commanded before after)
    (ended : Kept before after ∨ after.mode = .command ∨ after.mode = .insert)
    (once : ∀ count, flow ≠ .again count) (remembered : Remembered keys before after) :
    Carried keys control before (.ok flow, after) := by
  rcases commanded with kept | ⟨start, stop, new, edited, placed⟩
  · exact .kept once kept remembered
  · rcases ended with kept | mode
    · exact .kept once kept remembered
    · exact .edited once edited placed mode remembered

theorem run_undo (keys : List Char) (count : Nat) (session : Session library) :
    session.run keys .undo count =
      (.ok .done, ({ session with changed := false } : Session library).undo count) := by
  have undone : (({ session with changed := false } : Session library).undo count).changed = false :=
    (aside_undoTimes count { session with changed := false }).changed
  simp only [run, act, undone]
  rfl

theorem carried_runKeys (keys : List Char) (mode : before.mode = .command) :
    Carried keys false before (before.runKeys keys) := by
  have notVisual : before.mode.isVisual = false := by simp [mode, Mode.isVisual]
  simp only [runKeys]
  cases read : Command.parse keys with
  | error error =>
      by_cases needsMore : error = .incomplete
      · rw [needsMore] at read ⊢
        exact .waiting (by simpa [Unfinished, notVisual] using read)
      · exact .failed (by simpa using needsMore) (.refl before) (by simp [notVisual])
  | ok found =>
      obtain ⟨count, command⟩ := found
      by_cases undoes : command = .undo
      · rw [undoes] at read ⊢
        simp only [run_undo]
        exact .undone rfl mode read
      · by_cases repeats : command = .repeatLast
        · rw [repeats] at read ⊢
          exact .again rfl mode read
        · have orderly := orderly_run undoes keys count before
          show Carried keys false before (before.run keys command count)
          generalize done : before.run keys command count = attempt at orderly ⊢
          obtain ⟨result, after⟩ := attempt
          cases result with
          | error error => exact .failed orderly.1 orderly.2 (by simp [notVisual])
          | ok flow =>
              by_cases selects : ∃ kind, command = .visual kind
              · obtain ⟨kind, rfl⟩ := selects
                obtain ⟨kept, last, once⟩ := beside_run_visual done
                exact .kept once kept
                  (.same (by rw [last]) (by rw [last]) (by rw [last]) (.inr (by rw [last])))
              · have notSelects : ∀ kind, command ≠ .visual kind :=
                  fun kind same => selects ⟨kind, same⟩
                obtain ⟨ends, once, remembered⟩ := run_cases mode notSelects repeats read done
                refine orderly.carried (.inr ?_) once remembered
                rw [ends]
                split
                · exact .inr rfl
                · exact .inl rfl

theorem carried_runVisualKeys (keys : List Char) (visual : before.mode.isVisual = true) :
    Carried keys false before (before.runVisualKeys keys) := by
  simp only [runVisualKeys]
  cases read : VisualCommand.parse keys with
  | error error =>
      by_cases needsMore : error = .incomplete
      · rw [needsMore] at read ⊢
        exact .waiting (by simpa [Unfinished, visual] using read)
      · exact .failed (by simpa using needsMore) (.refl before) (by simp [read])
  | ok found =>
      obtain ⟨count, command⟩ := found
      show Carried keys false before (before.runVisual command count)
      generalize done : before.runVisual command count = attempt
      obtain ⟨result, after⟩ := attempt
      by_cases asks : command = .exPrompt
      · subst asks
        rcases visualExPrompt_cases done with
          ⟨flow, rfl, commanded⟩ | ⟨error, middle, rfl, noPrefix, untouched, rfl⟩
        · obtain ⟨ended, once, remembered⟩ := runVisual_cases keys done
          exact commanded.carried ended once remembered
        · rw [if_pos visual]
          exact .left noPrefix untouched rfl visual read
      · have orderly := orderly_runVisual asks count before
        rw [done] at orderly
        cases result with
        | error error => exact .failed orderly.1 orderly.2 (by simp [read, asks])
        | ok flow =>
            obtain ⟨ended, once, remembered⟩ := runVisual_cases keys done
            exact Commanded.carried orderly ended once remembered

/-- A control key that calls for more keys is a digit, and a count calls for more in every mode. -/
theorem unfinished_of_control {redoing : Bool}
    (waiting : ControlCommand.parse redoing keys = .error .incomplete) (mode : Mode) :
    Unfinished mode keys := by
  simp only [ControlCommand.parse, bind, Except.bind] at waiting
  simp only [Unfinished, Command.parse, VisualCommand.parse, bind, Except.bind]
  cases counted : (KeyBuffer.ofKeys keys).readCount with
  | error error =>
      rw [counted] at waiting
      cases waiting
      simp
  | ok buffer =>
      rw [counted] at waiting
      cases taken : buffer.next with
      | error error =>
          simp only [taken] at waiting ⊢
          cases waiting
          simp
      | ok next =>
          simp only [taken] at waiting
          split at waiting
          all_goals try cases waiting
          split at waiting <;> cases waiting

theorem carried_runControl (keys : List Char) (before : Session library) :
    Carried keys true before (before.runControl keys) := by
  simp only [runControl]
  split
  · rename_i error read
    by_cases needsMore : error = .incomplete
    · rw [needsMore] at read ⊢
      exact .waiting (unfinished_of_control read _)
    · exact .failed (by simpa using needsMore) (.refl before) (by simp)
  · rename_i count read
    exact .redone rfl read
  · rename_i count amount read
    exact .kept (by simp) ⟨⟨rfl, rfl, rfl, 0, fun _ => rfl⟩, rfl, rfl, rfl, .inl rfl, .inl rfl⟩
      (.same rfl rfl rfl (.inr rfl))

theorem carried_carryOut (keys : List Char) (control : Bool) (owned : before.mode ≠ .insert) :
    Carried keys control before (before.carryOut keys control) := by
  cases control with
  | true => exact carried_runControl keys before
  | false =>
      simp only [carryOut, Bool.false_eq_true, if_false]
      split
      · rename_i visual
        exact carried_runVisualKeys keys visual
      · rename_i notVisual
        have mode := Mode.command_or_insert (by simpa using notVisual)
        exact carried_runKeys keys (mode.resolve_right owned)

/-! ### Repetitions -/

def replay (last : LastChange) (session : Session library) : Attempt library Flow :=
  if last.keys.isEmpty then (.ok .done, session) else session.runKeys last.keys

def retype (last : LastChange) (session : Session library) : Session library :=
  if last.typed.isEmpty then session
  else
    let offset := session.cursor.caret
    (session.put offset offset last.typed).setCursor (offset + last.typed.length)

theorem repeatOnce_eq (last : LastChange) (session : Session library) :
    session.repeatOnce last =
      match session.replay last with
      | (.error error, session) => (.error error, session)
      | (.ok _, session) =>
          (.ok (), { session.retype last with
            history := (session.retype last).history.close
            mode := .command }) := by
  simp only [repeatOnce]
  rw [← replay]
  generalize session.replay last = attempt
  rcases attempt with ⟨error | flow, next⟩ <;> rfl

theorem mode_repeatOnce {last : LastChange}
    (repeated : session.repeatOnce last = (.ok (), after)) : after.mode = .command := by
  rw [repeatOnce_eq] at repeated
  split at repeated
  · cases repeated
  · cases repeated
    rfl

theorem carried_replay (last : LastChange) (mode : session.mode = .command) :
    Carried last.keys false session (session.replay last) := by
  simp only [replay]
  split
  · exact .kept (by simp) (.refl session) (.same rfl rfl rfl (.inr rfl))
  · exact carried_runKeys last.keys mode

/-! ### Keys -/

/-- What a key can come to. -/
inductive Pressed (session : Session library) (pressed : Key) : Attempt library Outcome → Prop where
  | typing {outcome : Outcome} {after : Session library} (mode : session.mode = .insert)
      (handled : session.insertKey pressed = (outcome, after)) :
      Pressed session pressed (.ok outcome, after)
  | escaped (owned : session.mode ≠ .insert) (escape : pressed.isEscape = true) :
      Pressed session pressed (.ok .handled, session.dropKeys.toCommand)
  | ignored {outcome : Outcome} (owned : session.mode ≠ .insert) :
      Pressed session pressed (.ok outcome, session)
  /-- A tab between commands leaves the field. -/
  | released (owned : session.mode ≠ .insert) (tab : pressed = .tab) (fresh : session.keys = []) :
      Pressed session pressed (.ok .passThrough, session.release)
  /-- No control key can follow the keys typed so far. -/
  | refused {c : Char} (owned : session.mode ≠ .insert) (chord : pressed = .ctrl c) :
      Pressed session pressed
        (.error (.parse (.invalidCommand .controlInsideCommand)), session.dropKeys)
  | dispatched {c : Char} {control : Bool} {attempt : Attempt library Flow}
      {answer : Attempt library Outcome}
      (owned : session.mode ≠ .insert) (chord : pressed = if control then .ctrl c else .char c)
      (carried : Carried (session.keys ++ [c]) control
        (session.holding (session.keys ++ [c])) attempt)
      (concluded : conclude attempt = answer) : Pressed session pressed answer

theorem pressed_key (session : Session library) (pressed : Key) :
    Pressed session pressed (session.key pressed) := by
  simp only [key]
  split
  · rename_i mode
    exact .typing mode rfl
  · rename_i owned
    split
    · rename_i escape
      exact .escaped owned escape
    · split
      · exact .dispatched owned rfl (carried_carryOut _ _ owned) (dispatch_eq ..).symm
      · split
        · exact .ignored owned
        · split
          · exact .dispatched owned rfl (carried_carryOut _ _ owned) (dispatch_eq ..).symm
          · exact .refused owned rfl
      · split
        · rename_i fresh
          exact .released owned rfl (List.isEmpty_iff.mp fresh)
        · exact .ignored owned
      · exact .ignored owned
      · exact .ignored owned

/-- In insert mode a key takes over from the host, types a tab or is left to the host. -/
theorem insertKey_cases {outcome : Outcome}
    (handled : session.insertKey pressed = (outcome, after)) :
    after = session.enter ∨ after = (session.insertText ['\t']).2 ∨ after = session := by
  simp only [insertKey] at handled
  split at handled
  · cases handled
    exact .inl rfl
  · split at handled
    · cases handled
      exact .inr (.inl rfl)
    · cases handled
      exact .inr (.inr rfl)

theorem key_of_insert (inserting : session.mode = .insert) (pressed : Key) :
    (session.key pressed).2 = session.enter ∨
      (session.key pressed).2 = (session.insertText ['\t']).2 ∨
      (session.key pressed).2 = session := by
  simp only [key, if_pos inserting]
  exact insertKey_cases rfl

theorem key_of_escape (inserting : session.mode = .insert) (escapes : pressed.isEscape = true) :
    session.key pressed = (.ok .handled, session.enter) := by
  simp only [key, if_pos inserting, insertKey, if_pos escapes]

theorem key_char (owned : session.mode ≠ .insert) (c : Char) :
    session.key (.char c) =
      conclude ((session.holding (session.keys ++ [c])).carryOut (session.keys ++ [c]) false) := by
  simp only [key, if_neg owned, Key.isEscape, Bool.false_eq_true, if_false]
  exact dispatch_eq c false session

theorem key_ctrl {c : Char} (owned : session.mode ≠ .insert)
    (chord : (Key.ctrl c).isEscape = false) (other : c ≠ 'h')
    (counting : session.keys.all Char.isDigit = true) :
    session.key (.ctrl c) =
      conclude ((session.holding (session.keys ++ [c])).carryOut (session.keys ++ [c]) true) := by
  simp only [key, if_neg owned, chord, Bool.false_eq_true, if_false, if_neg other, if_pos counting]
  exact dispatch_eq c true session

theorem carryOut_of_command (mode : session.mode = .command) (keys : List Char) :
    session.carryOut keys false = session.runKeys keys := by
  simp only [carryOut, mode, Mode.isVisual, Bool.false_eq_true, if_false]

theorem carryOut_of_visual (visual : session.mode.isVisual = true) (keys : List Char) :
    session.carryOut keys false = session.runVisualKeys keys := by
  simp only [carryOut, visual, Bool.false_eq_true, if_false, if_true]

/-- Only a repetition can still fail once a command was carried out, and nothing waits for keys. -/
theorem finish_of_once {flow : Flow} (once : ∀ count, flow ≠ .again count)
    (session : Session library) :
    ∃ outcome, outcome ≠ .pending ∧ session.finish flow = (.ok outcome, session.settled) := by
  cases flow with
  | done => exact ⟨.handled, by simp, rfl⟩
  | report message => exact ⟨.report message, by simp, rfl⟩
  | again count => exact absurd rfl (once count)

/-- Only the beginning of a command is waited on, and nothing has happened yet then. -/
theorem unfinished_of_conclude {attempt : Attempt library Flow}
    (carried : Carried keys control before attempt)
    (concluded : conclude attempt = (.ok .pending, after)) :
    after = before ∧ Unfinished before.mode keys := by
  cases carried with
  | waiting unfinished =>
      cases concluded
      exact ⟨rfl, unfinished⟩
  | failed noPrefix untouched notLeft =>
      rw [conclude_error noPrefix] at concluded
      cases concluded
  | left noPrefix untouched notControl visual asked =>
      rw [conclude_error noPrefix] at concluded
      cases concluded
  | kept once _ _ | edited once _ _ _ _ =>
      obtain ⟨outcome, waits, finished⟩ := finish_of_once once (dropKeys _)
      rw [conclude, finished] at concluded
      cases concluded
      exact absurd rfl waits
  | again notControl mode asked =>
      simp only [conclude, finish] at concluded
      split at concluded <;> cases concluded
  | undone | redone => cases concluded

theorem eq_holding_of_pending (pending : session.key pressed = (.ok .pending, after)) :
    ∃ keys, after = session.holding keys := by
  have answered := pressed_key session pressed
  rw [pending] at answered
  cases answered with
  | typing mode handled =>
      simp only [insertKey] at handled
      split at handled
      · cases handled
      · split at handled <;> cases handled
  | ignored owned => exact ⟨session.keys, rfl⟩
  | dispatched owned chord carried concluded =>
      exact ⟨_, (unfinished_of_conclude carried concluded).1⟩

end ModalVi.Session
