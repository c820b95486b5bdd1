import ModalVi.Proofs.Session.Holding
import ModalVi.Proofs.Session.Press
import ModalVi.Proofs.Session.Reversal
import ModalVi.Regex.Engine
import ModalVi.Script

namespace ModalVi.Session

/-! `.` does what typing the last change again would do.

A repetition takes another way than typing: it carries the command out with no keys held, and puts the
text that was typed after it into the text in one piece, without the host.  Both ways end in the same
place, and where the command fails, both fail alike. -/

variable {library : Library} {session middle : Session library} {keys : List Char}
  {command : Command} {count : Nat} {flow : Flow}

/-! ### Typing the keys of a command -/

theorem ne_undo_of_edits (edits : command.edits = true) : command ≠ .undo := by
  rintro rfl
  cases edits

theorem flow_of_edits (edits : command.edits = true)
    (ran : session.run keys command count = (.ok flow, middle)) : flow = .done := by
  rw [run_of_edits _ edits] at ran
  split at ran <;> cases ran
  rfl

theorem runKeys_holding (read : Command.parse keys = .ok (count, command))
    (edits : command.edits = true) (held : List Char) (session : Session library) :
    (session.holding held).runKeys keys = attempting held (session.run keys command count) := by
  rw [runKeys, read]
  exact run_holding held session edits keys count

/-- Typing the keys of a command that edits carries it out. -/
theorem press_command {held : List Char} {c : Char} (mode : session.mode = .command)
    (fresh : session.keys = []) (legible : Legible .command held)
    (read : Command.parse (held ++ [c]) = .ok (count, command)) (edits : command.edits = true) :
    session.press ((held ++ [c]).map .char) =
      match session.run (held ++ [c]) command count with
      | (.error error, next) => (.error error, next.dropKeys)
      | (.ok _, next) => (.ok (), next.dropKeys.settled) := by
  have still : (session.holding (held ++ [c])).mode = .command := mode
  have ran : (session.holding (held ++ [c])).runKeys (held ++ [c]) =
      attempting (held ++ [c]) (session.run (held ++ [c]) command count) :=
    runKeys_holding read edits (held ++ [c]) session
  have orderly := orderly_run (ne_undo_of_edits edits) (held ++ [c]) count session
  rw [press_typed (by simp [mode]) fresh (mode ▸ legible), carryOut_of_command still, ran]
  generalize done : session.run (held ++ [c]) command count = attempt at orderly
  obtain ⟨result, next⟩ := attempt
  cases result with
  | error error =>
      rw [attempting, conclude_error orderly.1]
      rfl
  | ok flow =>
      rw [flow_of_edits edits done]
      rfl

/-- Typing the keys of a command that edits leads where the command does. -/
theorem press_of_acted {held : List Char} {c : Char} {next : Session library}
    (mode : session.mode = .command) (fresh : session.keys = []) (legible : Legible .command held)
    (read : Command.parse (held ++ [c]) = .ok (count, command)) (edits : command.edits = true)
    (acted : ({ session with changed := false } : Session library).act command count = (.ok (), next)) :
    ∃ last, session.press ((held ++ [c]).map .char) =
      (.ok (), ({ next with last } : Session library).dropKeys.settled) := by
  obtain ⟨last, ran⟩ := run_of_acted (by rintro rfl; cases edits) (by rintro rfl; cases edits)
    (held ++ [c]) acted
  exact ⟨last, by rw [press_command mode fresh legible read edits, ran]⟩

/-- The key that completes a command that edits carries it out. -/
theorem key_of_edits {c : Char} (mode : session.mode = .command)
    (read : Command.parse (session.keys ++ [c]) = .ok (count, command))
    (edits : command.edits = true) :
    session.key (.char c) =
      match (session.holding (session.keys ++ [c])).run (session.keys ++ [c]) command count with
      | (.error error, next) => (.error error, next.dropKeys)
      | (.ok _, next) => (.ok .handled, next.dropKeys.settled) := by
  have still : (session.holding (session.keys ++ [c])).mode = .command := mode
  have orderly := orderly_run (ne_undo_of_edits edits) (session.keys ++ [c]) count
    (session.holding (session.keys ++ [c]))
  rw [key_char (by simp [mode]), carryOut_of_command still, runKeys, read]
  dsimp only
  generalize done : (session.holding (session.keys ++ [c])).run _ command count = attempt at orderly ⊢
  obtain ⟨error | flow, next⟩ := attempt
  · exact conclude_error orderly.1 next
  · rw [flow_of_edits edits done]
    rfl

theorem key_of_acted {c : Char} {next : Session library} (mode : session.mode = .command)
    (read : Command.parse (session.keys ++ [c]) = .ok (count, command))
    (edits : command.edits = true)
    (acted : ({ session.holding (session.keys ++ [c]) with changed := false } : Session library).act
      command count = (.ok (), next)) :
    ∃ last, session.key (.char c) =
      (.ok .handled, ({ next with last } : Session library).dropKeys.settled) := by
  obtain ⟨last, ran⟩ := run_of_acted (by rintro rfl; cases edits) (by rintro rfl; cases edits)
    (session.keys ++ [c]) acted
  exact ⟨last, by rw [key_of_edits mode read edits, ran]⟩

/-! ### Repeating a command -/

/-- What a repetition makes of the session that its command leads to. -/
def repeated (last : LastChange) (session : Session library) : Session library :=
  { session.retype last with
    history := (session.retype last).history.close
    mode := .command
    last }.notice

theorem replay_of_edits {last : LastChange} (recorded : last.keys ≠ [])
    (read : Command.parse last.keys = .ok (count, command)) (edits : command.edits = true) :
    ({ session with changed := false } : Session library).dropKeys.replay last =
      attempting [] (session.run last.keys command count) := by
  have keyed : last.keys.isEmpty = false := by simp [recorded]
  have unmarked : ({ session with changed := false } : Session library).run last.keys command count =
      session.run last.keys command count := by
    rw [run_of_edits _ edits, run_of_edits _ edits]
  have ran :=
    runKeys_holding read edits [] ({ session with changed := false } : Session library)
  rw [unmarked] at ran
  simp only [replay, keyed, Bool.false_eq_true, if_false]
  exact ran

theorem repeatLast_of_edits (recorded : session.last.keys ≠ [])
    (read : Command.parse session.last.keys = .ok (count, command)) (edits : command.edits = true) :
    ({ session with changed := false } : Session library).dropKeys.repeatLast 1 =
      match session.run session.last.keys command count with
      | (.error error, next) => (.error error, { next.dropKeys with last := session.last }.notice)
      | (.ok _, next) => (.ok (), next.dropKeys.repeated session.last) := by
  have last : ({ session with changed := false } : Session library).dropKeys.last = session.last := rfl
  have given : session.last.isEmpty = false := by simp [LastChange.isEmpty, recorded]
  simp only [repeatLast, last, given, Bool.false_eq_true, if_false, repeatTimes, repeatOnce_eq,
    replay_of_edits recorded read edits]
  generalize session.run session.last.keys command count = attempt
  rcases attempt with ⟨error | flow, next⟩ <;> rfl

/-- A repetition carries the command out with no keys held. -/
theorem key_dot (mode : session.mode = .command) (fresh : session.keys = [])
    (recorded : session.last.keys ≠ [])
    (read : Command.parse session.last.keys = .ok (count, command)) (edits : command.edits = true) :
    session.key (.char '.') =
      match session.run session.last.keys command count with
      | (.error error, next) => (.error error, { next.dropKeys with last := session.last }.notice)
      | (.ok _, next) => (.ok .handled, (next.dropKeys.repeated session.last).settled) := by
  have owned : session.mode ≠ .insert := by simp [mode]
  have held : (session.holding ['.']).mode = .command := mode
  have asked : (session.holding ['.']).runKeys ['.'] =
      (.ok (.again 1), { session.holding ['.'] with changed := false }) := rfl
  have dropped : ({ session.holding ['.'] with changed := false } : Session library).dropKeys =
      ({ session with changed := false } : Session library).dropKeys := rfl
  rw [key_char owned, fresh, List.nil_append, carryOut_of_command held, asked, conclude, dropped,
    finish, repeatLast_of_edits recorded read edits]
  generalize session.run session.last.keys command count = attempt
  rcases attempt with ⟨error | flow, next⟩ <;> rfl

/-! ### Where both ways end -/

/-- The text is handed over for typing at the caret. -/
structure HandedOver (session : Session library) : Prop where
  placed : Placed session
  known : session.known = session.text
  closed : session.history.merging = false
  mode : session.mode = .insert

theorem HandedOver.dropKeys (handed : HandedOver session) : HandedOver session.dropKeys :=
  ⟨handed.placed.congr rfl rfl, handed.known, handed.closed, handed.mode⟩

theorem ne_visual_of_edits (edits : command.edits = true) : ∀ kind, command ≠ .visual kind := by
  rintro kind rfl
  cases edits

/-- A command that edits hands the text over or stays in command mode, as its keys tell. -/
theorem handedOver_of_run (mode : session.mode = .command) (edits : command.edits = true)
    (ran : session.run keys command count = (.ok flow, middle)) :
    (command.inserts = true → HandedOver middle) ∧
      (command.inserts = false → middle.mode = .command) := by
  rw [run_of_edits _ edits] at ran
  split at ran
  · cases ran
  · rename_i next acted
    obtain ⟨typing, beside, _, result⟩ := act_cases (ne_visual_of_edits edits) acted
    obtain ⟨-, rfl⟩ := Prod.mk.inj ran
    rcases result with ⟨inserts, rfl, placed⟩ | ⟨stays, rfl⟩
    · have placed := (placed edits).toInsert
      refine ⟨fun _ => ?_, fun stays => absurd (inserts.symm.trans stays) (by simp)⟩
      split
      · exact ⟨placed.congr rfl rfl, rfl, rfl, rfl⟩
      · exact ⟨placed, rfl, rfl, rfl⟩
    · refine ⟨fun inserts => absurd (inserts.symm.trans stays) (by simp), fun _ => ?_⟩
      split <;> exact beside.mode.trans mode

theorem retype_of_placed {last : LastChange} (placed : Placed session)
    (accepts : session.surface.Accepts) (given : last.typed ≠ []) :
    (session.retype last).text =
        session.text.splice session.cursor.caret session.cursor.caret last.typed ∧
      (session.retype last).cursor =
        Cursor.collapsed (session.cursor.caret + last.typed.length) ∧
      (session.retype last).surface.selection =
        Selection.caret (session.cursor.caret + last.typed.length) ∧
      (session.retype last).history.undoable.length = session.history.undoable.length + 1 := by
  have typed : last.typed.isEmpty = false := by simpa using given
  have made : session.put session.cursor.caret session.cursor.caret last.typed =
      session.replaced session.cursor.caret session.cursor.caret last.typed false := by
    rw [put, replace_of_accepted (accepts 0) (Nat.le_refl _) placed.inside
      (by simpa using given.symm)]
  have within := Text.start_add_length_le_splice last.typed (Nat.le_refl session.cursor.caret)
    placed.inside
  have record := History.record_of_apart session.cursor.caret session.cursor.caret
    (session.text.slice session.cursor.caret session.cursor.caret) last.typed session.cursor.caret
    (.inr rfl : session.history.merging = false ∨ false = false)
  have moved : session.retype last =
      (session.replaced session.cursor.caret session.cursor.caret last.typed false).setCursor
        (session.cursor.caret + last.typed.length) := by
    simp only [retype, typed, Bool.false_eq_true, if_false, made]
  obtain ⟨cursor, selection⟩ := cursor_setCursor
    (session.replaced session.cursor.caret session.cursor.caret last.typed false) within
  rw [moved]
  refine ⟨rfl, cursor, selection, ?_⟩
  exact congrArg (fun history => history.undoable.length) record

/-- Text, cursor, selection and the number of changes to undo are the same. -/
structure SamePlace (first second : Session library) : Prop where
  text : first.text = second.text
  cursor : first.cursor = second.cursor
  selection : first.surface.selection = second.surface.selection
  entries : first.history.undoable.length = second.history.undoable.length

namespace SamePlace

variable {first second third : Session library}

theorem symm (same : SamePlace first second) : SamePlace second first :=
  ⟨same.text.symm, same.cursor.symm, same.selection.symm, same.entries.symm⟩

theorem trans (same : SamePlace first second) (next : SamePlace second third) :
    SamePlace first third :=
  ⟨same.text.trans next.text, same.cursor.trans next.cursor, same.selection.trans next.selection,
    same.entries.trans next.entries⟩

end SamePlace

theorem samePlace_settled (session : Session library) : SamePlace session.settled session :=
  ⟨rfl, rfl, rfl, History.length_settle _ _⟩

theorem samePlace_repeated (last : LastChange) (session : Session library) :
    SamePlace (session.repeated last).settled (session.retype last) :=
  ⟨rfl, rfl, rfl, History.length_settle _ _⟩

theorem samePlace_of_nothing {last : LastChange} (nothing : last.typed = [])
    (session : Session library) : SamePlace (session.repeated last).settled session.settled := by
  have retyped : session.retype last = session := by simp [retype, nothing]
  have same := samePlace_repeated last session
  rw [retyped] at same
  exact same.trans (samePlace_settled session).symm

theorem samePlace_enter (placed : Placed session) (known : session.known = session.text) :
    SamePlace session.enter session ∧ session.enter.mode = .command := by
  obtain ⟨last, entered⟩ := enter_of_known placed known
  rw [entered]
  exact ⟨⟨rfl, rfl, rfl, History.length_settle _ _⟩, rfl⟩

/-- Typing the text character by character and leaving, as against putting it in at once. -/
theorem samePlace_of_handedOver (last : LastChange) (handed : HandedOver session)
    (accepts : session.surface.Accepts) :
    SamePlace (session.repeated last).settled (typeText last.typed session.settled).leaving ∧
      (typeText last.typed session.settled).leaving.mode = .command := by
  have placed : Placed session.settled := handed.placed.congr rfl rfl
  have known : session.settled.known = session.settled.text := handed.known
  by_cases nothing : last.typed = []
  · have mode : session.settled.mode = .insert := handed.mode
    obtain ⟨same, left⟩ := samePlace_enter placed known
    rw [nothing, typeText, leaving_of_insert mode]
    exact ⟨(samePlace_of_nothing nothing session).trans same.symm, left⟩
  · have closed : session.settled.history.merging = false :=
      (History.merging_settle _ _).trans handed.closed
    have grown := typeText_of_closed placed known accepts closed nothing
    generalize typeText last.typed session.settled = typed at grown
    have mode : typed.mode = .insert := grown.mode.trans handed.mode
    obtain ⟨same, left⟩ := samePlace_enter grown.typing.placed grown.typing.known
    obtain ⟨text, cursor, selection, entries⟩ := retype_of_placed handed.placed accepts nothing
    have retyped : SamePlace (session.retype last) typed :=
      { text := text.trans grown.text.symm
        cursor := by
          rw [cursor, grown.typing.placed.collapsed, grown.caret]
          rfl
        selection := by
          rw [selection, grown.typing.placed.shown, grown.caret]
          rfl
        entries := by
          rw [entries, grown.entries]
          exact congrArg (· + 1) (History.length_settle _ _).symm }
    rw [leaving_of_insert mode]
    exact ⟨((samePlace_repeated last session).trans retyped).trans same.symm, left⟩

/-! ### The repetition and the typing -/

theorem samePlace_of_run {last : LastChange} {typed : Session library} (mode : session.mode = .command)
    (accepts : session.surface.Accepts) (edits : command.edits = true)
    (stays : command.inserts = false → last.typed = [])
    (ran : session.run keys command count = (.ok flow, typed)) :
    (typed.mode ≠ .insert → last.typed = []) ∧
      SamePlace (typed.dropKeys.repeated last).settled
        (typeText last.typed typed.dropKeys.settled).leaving ∧
      (typeText last.typed typed.dropKeys.settled).leaving.mode = .command := by
  have orderly := orderly_run (ne_undo_of_edits edits) keys count session
  rw [ran] at orderly
  have follows := accepts.follows (Commanded.host orderly)
  obtain ⟨hands, returns⟩ := handedOver_of_run mode edits ran
  cases inserts : command.inserts with
  | true =>
      have handed := hands inserts
      exact ⟨fun owned => absurd handed.mode owned,
        samePlace_of_handedOver last handed.dropKeys follows⟩
  | false =>
      have nothing := stays inserts
      have still : typed.dropKeys.settled.mode = .command := returns inserts
      rw [nothing, typeText, leaving_of_command still]
      exact ⟨fun _ => rfl, samePlace_of_nothing nothing _, still⟩

/-- Where the keys of the last change can be typed again, `.` leads to where they lead together with
what was typed after them, ended by an escape.  Where they fail, `.` fails alike.  It stays the last
change either way. -/
theorem key_dot_of_reaches {allowed : Session library → Event → Prop} {surface : Surface}
    {clipboard : Clipboard} {prompt : Prompt} {options : Options}
    (reached : Reaches allowed (Session.start library surface clipboard prompt options) session)
    (mode : session.mode = .command) (fresh : session.keys = [])
    (accepts : session.surface.Accepts) (recorded : session.last.keys ≠ []) :
    (∀ typed, session.press (session.last.keys.map .char) = (.ok (), typed) →
      (typed.mode ≠ .insert → session.last.typed = []) ∧
        ∃ dotted, session.key (.char '.') = (.ok .handled, dotted) ∧
          SamePlace dotted (typeText session.last.typed typed).leaving ∧
          dotted.mode = .command ∧
          (typeText session.last.typed typed).leaving.mode = .command ∧
          dotted.last = session.last) ∧
      ∀ error failed, session.press (session.last.keys.map .char) = (.error error, failed) →
        ∃ dotted, session.key (.char '.') = (.error error, dotted) ∧
          dotted.text = session.text ∧ dotted.history = session.history ∧
          dotted.last = session.last := by
  obtain ⟨held, c, count, command, keys, legible, read, edits, stays⟩ :=
    (ready_of_reaches reached).repeatable recorded
  have typing := press_command mode fresh legible read edits
  rw [← keys] at typing read
  have dotting := key_dot mode fresh recorded read edits
  have orderly := orderly_run (ne_undo_of_edits edits) session.last.keys count session
  rw [typing, dotting]
  generalize ran : session.run session.last.keys command count = attempt at orderly ⊢
  obtain ⟨result, next⟩ := attempt
  cases result with
  | error error =>
      refine ⟨fun typed succeeded => ?_, fun other failed same => ?_⟩
      · cases succeeded
      · cases same
        exact ⟨_, rfl, orderly.2.text, orderly.2.history, rfl⟩
  | ok flow =>
      refine ⟨fun typed succeeded => ?_, fun error failed same => ?_⟩
      · cases succeeded
        obtain ⟨typedNothing, same, left⟩ :=
          samePlace_of_run mode accepts edits (fun noTyping => (stays noTyping).1) ran
        exact ⟨typedNothing, _, rfl, same, rfl, left, rfl⟩
      · cases same

theorem key_dot_of_substitution :
    let first := Session.start .standard (.ofText "ab".toList) (.ofText []) .silent {}
    let command := (first.handle .enter).handle (.key (.char 's'))
    let session := (command.handle (.insertText "c".toList)).handle .enter
    Reaches (fun _ _ => True) first session ∧ session.text = "cb".toList ∧
      session.last = ⟨['s'], "c".toList, false, none⟩ ∧
      ∃ typed, session.press [.char 's'] = (.ok (), typed) ∧
        ∃ dotted, session.key (.char '.') = (.ok .handled, dotted) ∧ dotted.text = "cc".toList ∧
          SamePlace dotted (typeText "c".toList typed).leaving ∧ dotted.last = session.last := by
  have accepts : (((((Session.start .standard (.ofText "ab".toList) (.ofText []) .silent {}).handle
    .enter).handle (.key (.char 's'))).handle (.insertText "c".toList)).handle
    .enter).surface.Accepts := fun _ => rfl
  intro first command session
  have begun : Reaches (fun _ _ => True) first (first.handle .enter) := .step .refl trivial
  have commanded : Reaches (fun _ _ => True) first command := .step begun trivial
  have inserted : Reaches (fun _ _ => True) first (command.handle (.insertText "c".toList)) :=
    .step commanded trivial
  have reached : Reaches (fun _ _ => True) first session := .step inserted trivial
  have mode : session.mode = .command := by decide
  have fresh : session.keys = [] := by decide
  have text : session.text = "cb".toList := by decide
  have last : session.last = ⟨['s'], "c".toList, false, none⟩ := by decide
  have repeated : (session.key (.char '.')).2.text = "cc".toList := by decide
  have succeeds : (session.press [.char 's']).1.isOk = true := by decide
  change session.surface.Accepts at accepts
  clear_value session
  have recorded : session.last.keys ≠ [] := by simp [last]
  obtain ⟨typed, typing⟩ : ∃ typed, session.press [.char 's'] = (.ok (), typed) := by
    generalize session.press [.char 's'] = attempt at succeeds
    obtain ⟨error | answer, typed⟩ := attempt
    · cases succeeds
    · exact ⟨typed, rfl⟩
  have again : session.press (session.last.keys.map .char) = (.ok (), typed) := by
    rw [last]
    exact typing
  obtain ⟨_, dotted, pressed, same, _, _, kept⟩ :=
    (key_dot_of_reaches reached mode fresh accepts recorded).1 typed again
  rw [pressed] at repeated
  rw [last] at same
  exact ⟨reached, text, last, typed, typing, dotted, pressed, repeated, same, kept⟩

end ModalVi.Session
