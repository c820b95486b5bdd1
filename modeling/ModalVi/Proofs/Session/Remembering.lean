import ModalVi.Proofs.Session.Replay
import ModalVi.Proofs.Session.Stepwise
import ModalVi.Regex.Engine

namespace ModalVi

/-! Which keys change what `.` repeats.

A command sets a mark when it replaces text, and if the mark is set in the end, the keys of the command
are remembered.  The mark is cleared before each command, and a command replaces text at most once, and
never by itself.  So it is remembered exactly if the text is another one afterwards.  Visual mode, control
keys and the commands that undo, repeat or take a line leave what is remembered alone. -/

/-- What is repeated: a command, and the text typed after it. -/
def LastChange.content (last : LastChange) : List Char × Text := (last.keys, last.typed)

namespace Session

variable {library : Library} {session before middle after : Session library} {keys : List Char}
  {command : Command} {count : Nat}
  {pressed : Key} {pressedKeys : List Key}

/-! ### Commands -/

/-- Neither the text nor what is repeated is different, and no edit was made. -/
structure Silent (before after : Session library) : Prop where
  text : after.text = before.text
  changed : after.changed = before.changed
  content : after.last.content = before.last.content

/-- An edit was made exactly if the text is another one. -/
structure Told (before after : Session library) : Prop where
  content : after.last.content = before.last.content
  told : after.text = before.text ∧ after.changed = before.changed ∨
    after.text ≠ before.text ∧ after.changed = true

theorem Silent.trans (first : Silent before middle) (second : Silent middle after) :
    Silent before after :=
  ⟨second.text.trans first.text, second.changed.trans first.changed,
    second.content.trans first.content⟩

theorem Silent.told (silent : Silent before after) : Told before after :=
  ⟨silent.content, .inl ⟨silent.text, silent.changed⟩⟩

theorem Told.of_silent (told : Told middle after) (silent : Silent before middle) :
    Told before after where
  content := told.content.trans silent.content
  told := by
    rw [← silent.text, ← silent.changed]
    exact told.told

theorem Told.trans_silent (told : Told before middle) (silent : Silent middle after) :
    Told before after where
  content := silent.content.trans told.content
  told := by
    rw [silent.text, silent.changed]
    exact told.told

theorem silent_of_apart (apart : Apart before after) (aside : Aside before after) :
    Silent before after :=
  ⟨congrArg Surface.text apart.surface, aside.changed, congrArg LastChange.content aside.last⟩

theorem silent_setCursor (offset : Nat) (session : Session library) :
    Silent session (session.setCursor offset) := ⟨rfl, rfl, rfl⟩

theorem silent_toInsert (session : Session library) :
    Silent session session.toInsert := ⟨rfl, rfl, rfl⟩

theorem told_of_replace {low high : Nat} {new : Text} {made : Bool}
    (asked : session.replace low high new false = (made, after)) : Told session after := by
  cases made with
  | false =>
      rcases eq_of_replace_eq_false asked with rfl | rfl <;> exact Silent.told ⟨rfl, rfl, rfl⟩
  | true =>
      obtain ⟨start, stop, ordered, bounded, differs, accepted, rfl⟩ := eq_replaced_of_replace asked
      exact ⟨rfl, .inr ⟨(edited_replaced accepted ordered bounded differs).text_ne, rfl⟩⟩

theorem Replaces.told (replaces : Replaces before after) : Told before after := by
  cases replaces with
  | placed asked offset => exact (told_of_replace asked).trans_silent (silent_setCursor offset _)
  | refused asked => exact told_of_replace asked

theorem told_put_setCursor (low high : Nat) (new : Text) (offset : Nat)
    (session : Session library) :
    Told session ((session.put low high new).setCursor offset) :=
  (replaces_put low high new offset session).told

theorem told_erase (low high : Nat) (session : Session library) :
    Told session (session.erase low high) :=
  told_put_setCursor low high [] low session

theorem silent_copy (content : Text) (session : Session library) :
    Silent session (session.copy content).2 :=
  silent_of_apart (apart_copy content session) (aside_of_copy rfl)

theorem silent_copy_setCursor (content : Text) (offset : Nat) (session : Session library) :
    Silent session
      (match session.copy content with
        | (.ok (), session) => ((.ok (), session.setCursor offset) : Attempt library Unit)
        | failed => failed).2 := by
  have copying := silent_copy content session
  generalize session.copy content = answer at copying ⊢
  obtain ⟨error | _, copied⟩ := answer
  · exact copying
  · exact copying.trans (silent_setCursor offset copied)

theorem silent_searchMove (reversed : Bool) (count : Nat) (session : Session library) :
    Silent session (session.searchMove reversed count).2 := by
  obtain ⟨search, _, ⟨offset, moved⟩ | ⟨error, failed⟩⟩ := searchMove_cases reversed count session
  · rw [moved]
    exact ⟨rfl, rfl, rfl⟩
  · rw [failed]
    exact ⟨rfl, rfl, rfl⟩

theorem silent_searchWord (direction : Direction) (count : Nat) (session : Session library) :
    Silent session (session.searchWord direction count).2 := by
  rcases searchWord_cases direction count session with
    ⟨error, failed⟩ | ⟨search, _, ⟨offset, moved⟩ | ⟨error, failed⟩⟩
  · rw [failed]
    exact ⟨rfl, rfl, rfl⟩
  · rw [moved]
    exact ⟨rfl, rfl, rfl⟩
  · rw [failed]
    exact ⟨rfl, rfl, rfl⟩

theorem silent_searchPrompt (kind : PromptKind) (session : Session library) :
    Silent session (session.searchPrompt kind).2 := by
  have asking : Silent session (session.ask kind).2 :=
    silent_of_apart (apart_ask kind session) (aside_of_ask rfl)
  have searching (search : Search) (session : Session library) :
      Silent session { session with search } :=
    ⟨rfl, rfl, rfl⟩
  simp only [searchPrompt]
  generalize session.ask kind = answer at asking ⊢
  obtain ⟨_ | _ | ⟨c, rest⟩, after⟩ := answer
  · exact asking
  · dsimp only
    split
    · exact asking.trans ((searching _ _).trans (silent_searchMove false 1 _))
    · exact asking
  · exact asking.trans ((searching _ _).trans (silent_searchMove false 1 _))

theorem told_withTarget {change : Bool} {motion : Motion}
    {act : Cursor → Session library → Attempt library Unit}
    (acts : ∀ cursor session, Told session (act cursor session).2) :
    Told session (session.withTarget change motion count act).2 := by
  have remembering (charSearch : Option CharSearch) : Silent session { session with charSearch } :=
    ⟨rfl, rfl, rfl⟩
  simp only [withTarget, target]
  generalize Standpoint.resolve _ session.charSearch count motion = resolved
  cases resolved with
  | error error => exact (remembering _).told
  | ok cursor => exact (acts cursor _).of_silent (remembering _)

theorem told_putClipboard (next : Bool) (count : Nat) (session : Session library) :
    Told session (session.putClipboard next count).2 := by
  have pasting : Silent session session.paste.2 :=
    silent_of_apart (apart_paste session) (aside_of_paste rfl)
  simp only [putClipboard]
  generalize session.paste = answer at pasting ⊢
  obtain ⟨error | _ | ⟨c, rest⟩, after⟩ := answer
  · exact pasting.told
  · exact pasting.told
  · exact (replaces_putText next _ after).told.of_silent pasting

theorem told_act (notUndo : command ≠ .undo) (count : Nat) (session : Session library) :
    Told session (session.act command count).2 := by
  cases command with
  | insert => exact (silent_toInsert session).told
  | insertAtIndent | append | appendAtLineEnd =>
      exact ((silent_setCursor _ session).trans (silent_toInsert _)).told
  | openBelow | openAbove | changeLines =>
      exact (told_put_setCursor ..).trans_silent (silent_toInsert _)
  | deleteAhead inserting | deleteToLineEnd inserting =>
      cases inserting with
      | false => exact told_erase ..
      | true => exact (told_erase ..).trans_silent (silent_toInsert _)
  | deleteBehind | swapCase => exact told_put_setCursor ..
  | delete motion => exact told_withTarget fun _ _ => told_erase ..
  | change motion =>
      exact told_withTarget fun _ _ => (told_erase ..).trans_silent (silent_toInsert _)
  | yank motion => exact told_withTarget fun _ _ => (silent_copy_setCursor ..).told
  | yankLines => exact (silent_copy _ session).told
  | put next => exact told_putClipboard next count session
  | shift inward motion =>
      refine told_withTarget fun cursor after => ?_
      dsimp only
      exact (replaces_shift ..).told
  | join between => exact (replaces_join between count session).told
  | reflow motion => exact told_withTarget fun _ _ => told_put_setCursor ..
  | visual kind => exact Silent.told ⟨rfl, rfl, rfl⟩
  | searchWord direction => exact (silent_searchWord direction count session).told
  | searchNext reversed => exact (silent_searchMove reversed count session).told
  | searchPrompt kind => exact (silent_searchPrompt kind session).told
  | undo => exact absurd rfl notUndo
  | move motion => exact told_withTarget fun _ session => (silent_setCursor _ session).told
  | exPrompt | repeatLast => exact Silent.told ⟨rfl, rfl, rfl⟩

/-- The command with these keys is what is repeated if the text is another one, and otherwise what was
repeated before. -/
def Remembers (keys : List Char) (before after : Session library) : Prop :=
  after.text = before.text ∧ after.last.content = before.last.content ∨
    after.text ≠ before.text ∧ after.last.content = (keys, [])

/-- Commands are remembered by what they did to the text, except those that undo, repeat or ask for a
line. -/
theorem remembers_run (notUndo : command ≠ .undo) (notAgain : command ≠ .repeatLast)
    (notAsks : command ≠ .exPrompt) (keys : List Char) (count : Nat) (session : Session library) :
    Remembers keys session (session.run keys command count).2 := by
  have told := told_act notUndo count ({ session with changed := false } : Session library)
  have orderly := orderly_act notUndo count ({ session with changed := false } : Session library)
  rw [run_of_acts notAsks notAgain]
  generalize Session.act command count { session with changed := false } = attempt at told orderly ⊢
  obtain ⟨error | ⟨⟩, after⟩ := attempt
  · exact .inl ⟨orderly.2.text, told.content⟩
  · dsimp only
    rcases told.told with ⟨same, unmarked⟩ | ⟨differs, marked⟩
    · have unmarked : after.changed = false := unmarked
      rw [unmarked]
      exact .inl ⟨same, told.content⟩
    · have marked : after.changed = true := marked
      rw [marked]
      exact .inr ⟨differs, rfl⟩

theorem once_run (notAgain : command ≠ .repeatLast) (notAsks : command ≠ .exPrompt)
    (keys : List Char) (count : Nat) (session : Session library) (again : Nat) :
    (session.run keys command count).1 ≠ .ok (.again again) := by
  rw [run_of_acts notAsks notAgain]
  generalize Session.act command count { session with changed := false } = attempt
  obtain ⟨error | ⟨⟩, after⟩ := attempt <;> simp

/-! ### Keys -/

theorem text_conclude {attempt : Attempt library Flow}
    (once : ∀ count, attempt.1 ≠ .ok (.again count)) :
    (conclude attempt).2.text = attempt.2.text := by
  obtain ⟨error | flow, after⟩ := attempt
  · by_cases unfinished : error = .parse .incomplete
    · rw [unfinished]
      rfl
    · rw [conclude_error unfinished]
      rfl
  · obtain ⟨outcome, _, finished⟩ :=
      finish_of_once (fun count same => once count (congrArg Except.ok same)) after.dropKeys
    rw [conclude, finished]
    rfl

theorem last_runControl (keys : List Char) (session : Session library) :
    (session.runControl keys).2.last = session.last := by
  simp only [runControl]
  split
  · rfl
  · exact (aside_redoTimes _ _).last
  · rfl

/-- Visual mode remembers nothing. -/
theorem content_runVisualKeys (visual : session.mode.isVisual = true) (keys : List Char) :
    (session.runVisualKeys keys).2.last.content = session.last.content := by
  have carried := carried_runVisualKeys keys visual
  generalize session.runVisualKeys keys = attempt at carried
  have notCommand : session.mode ≠ .command := by
    intro mode
    rw [mode] at visual
    cases visual
  cases carried with
  | waiting => rfl
  | failed _ untouched _ => exact congrArg LastChange.content untouched.last
  | left _ untouched _ _ _ => exact congrArg LastChange.content untouched.last
  | kept _ _ remembered | edited _ _ _ _ remembered =>
      cases remembered with
      | same sameKeys sameTyped _ _ => exact Prod.ext sameKeys sameTyped
      | recorded mode => exact absurd mode notCommand
  | again _ mode _ | undone _ mode _ => exact absurd mode notCommand
  | redone isControl => cases isControl

/-- What undoes, repeats or asks for a line is not remembered. -/
theorem last_run (others : command = .undo ∨ command = .repeatLast ∨ command = .exPrompt)
    (keys : List Char) (count : Nat) (session : Session library) :
    (session.run keys command count).2.last = session.last := by
  rcases others with rfl | rfl | rfl
  · rw [run_undo]
    exact (aside_undoTimes _ _).last
  · rfl
  · have orderly := orderly_exPrompt none ({ session with changed := false } : Session library)
    show (Session.exPrompt none { session with changed := false }).2.last = session.last
    generalize asked : Session.exPrompt none { session with changed := false } = attempt at orderly ⊢
    obtain ⟨error | flow, after⟩ := attempt
    · exact orderly.2.last
    · exact (beside_of_exPrompt asked).1.last

/-- Only characters are keys of commands that are remembered. -/
theorem last_key_of_ne_char (owned : session.mode ≠ .insert) (notChar : ∀ c, pressed ≠ .char c) :
    (session.key pressed).2.last = session.last := by
  simp only [key, if_neg owned]
  split
  · rfl
  · cases pressed with
    | char c => exact absurd rfl (notChar c)
    | ctrl c =>
        dsimp only
        split
        · rfl
        · split
          · have carried := carried_runControl (session.keys ++ [c])
              (session.holding (session.keys ++ [c]))
            rw [dispatch_eq]
            exact (last_conclude carried).trans (last_runControl _ _)
          · rfl
    | tab =>
        dsimp only
        split <;> rfl
    | escape | other => rfl

/-- The key completes a command of command mode other than `u`, `.` and `:`, all the keys of which are
`typed`, and the text becomes another one. -/
def Alters (pressed : Key) (typed : List Char) (session : Session library) : Prop :=
  ∃ c command, pressed = .char c ∧ typed = session.keys ++ [c] ∧ session.Dispatches pressed command ∧
    command ≠ .undo ∧ command ≠ .repeatLast ∧ command ≠ .exPrompt ∧
    (session.key pressed).2.text ≠ session.text

theorem remembers_key {c : Char} (mode : session.mode = .command)
    (read : Command.parse (session.keys ++ [c]) = .ok (count, command)) (notUndo : command ≠ .undo)
    (notAgain : command ≠ .repeatLast) (notAsks : command ≠ .exPrompt) :
    Remembers (session.keys ++ [c]) session (session.key (.char c)).2 := by
  have owned : session.mode ≠ .insert := by simp [mode]
  have held : (session.holding (session.keys ++ [c])).mode = .command := mode
  have carried := carried_runKeys (session.keys ++ [c]) held
  have once := once_run notAgain notAsks (session.keys ++ [c]) count
    (session.holding (session.keys ++ [c]))
  have ran := remembers_run notUndo notAgain notAsks (session.keys ++ [c]) count
    (session.holding (session.keys ++ [c]))
  rw [Remembers, key_char owned, carryOut_of_command held, last_conclude carried]
  simp only [runKeys, read]
  rw [text_conclude once]
  exact ran

/-- Every other key leaves to be repeated what was there. -/
theorem content_key_of_others {c : Char} (owned : session.mode ≠ .insert)
    (others : ∀ command, session.Dispatches (.char c) command →
      command = .undo ∨ command = .repeatLast ∨ command = .exPrompt) :
    (session.key (.char c)).2.last.content = session.last.content := by
  have heldOwned : (session.holding (session.keys ++ [c])).mode ≠ .insert := owned
  rw [key_char owned, last_conclude (carried_carryOut (session.keys ++ [c]) false heldOwned)]
  by_cases visual : session.mode.isVisual = true
  · have held : (session.holding (session.keys ++ [c])).mode.isVisual = true := visual
    rw [carryOut_of_visual held, content_runVisualKeys held]
    rfl
  · have mode := (Mode.command_or_insert (by simpa using visual)).resolve_right owned
    have held : (session.holding (session.keys ++ [c])).mode = .command := mode
    rw [carryOut_of_command held]
    simp only [runKeys]
    split
    · rfl
    · rename_i count command read
      rw [last_run (others command ⟨c, count, rfl, mode, read⟩)]
      rfl

/-- A key that alters the text leaves the keys of its command to be repeated.  Every other key leaves to
be repeated what was there. -/
theorem content_key (owned : session.mode ≠ .insert) (pressed : Key) :
    (∃ typed, session.Alters pressed typed ∧
        (session.key pressed).2.last.content = (typed, [])) ∨
      (∀ typed, ¬ session.Alters pressed typed) ∧
        (session.key pressed).2.last.content = session.last.content := by
  by_cases completes : ∃ c command, pressed = .char c ∧ session.Dispatches pressed command ∧
      command ≠ .undo ∧ command ≠ .repeatLast ∧ command ≠ .exPrompt
  · obtain ⟨c, command, rfl, dispatches, notUndo, notAgain, notAsks⟩ := completes
    obtain ⟨_, count, same, mode, read⟩ := id dispatches
    cases same
    rcases remembers_key mode read notUndo notAgain notAsks with
      ⟨same, content⟩ | ⟨differs, content⟩
    · refine .inr ⟨fun typed altered => ?_, content⟩
      obtain ⟨_, _, _, _, _, _, _, _, differs⟩ := altered
      exact differs same
    · refine .inl ⟨session.keys ++ [c], ?_, content⟩
      exact ⟨c, command, rfl, rfl, dispatches, notUndo, notAgain, notAsks, differs⟩
  · refine .inr ⟨fun typed altered => ?_, ?_⟩
    · obtain ⟨c, command, same, _, dispatches, notUndo, notAgain, notAsks, _⟩ := altered
      exact completes ⟨c, command, same, dispatches, notUndo, notAgain, notAsks⟩
    · by_cases char : ∃ c, pressed = .char c
      · obtain ⟨c, rfl⟩ := char
        refine content_key_of_others owned fun command dispatches => ?_
        refine Decidable.byContradiction fun others => ?_
        simp only [not_or] at others
        exact completes ⟨c, command, rfl, dispatches, others⟩
      · rw [last_key_of_ne_char owned fun c same => char ⟨c, same⟩]

/-! ### Runs -/

/-- The session has control whenever one of the keys comes. -/
def Owned : List Key → Session library → Prop
  | [], _ => True
  | pressed :: rest, session => session.mode ≠ .insert ∧ Owned rest (session.key pressed).2

/-- None of the keys alters the text. -/
def Unaltering : List Key → Session library → Prop
  | [], _ => True
  | pressed :: rest, session =>
      (∀ typed, ¬ session.Alters pressed typed) ∧ Unaltering rest (session.key pressed).2

/-- The session after several keys, whatever becomes of each of them. -/
def keyAll (keys : List Key) (session : Session library) : Session library :=
  keys.foldl (fun session pressed => (session.key pressed).2) session

theorem Owned.notInsert {front rest : List Key} (owned : Owned (front ++ pressed :: rest) session) :
    (session.keyAll front).mode ≠ .insert := by
  induction front generalizing session with
  | nil => exact owned.1
  | cons first others ih => exact ih owned.2

/-- At the end of a run the newest key that altered the text tells what is repeated. -/
theorem content_keyAll_of_newest (owned : Owned pressedKeys session) :
    Unaltering pressedKeys session ∧
        (session.keyAll pressedKeys).last.content = session.last.content ∨
      ∃ front pressed rest typed, pressedKeys = front ++ pressed :: rest ∧
        (session.keyAll front).Alters pressed typed ∧
        Unaltering rest (session.keyAll (front ++ [pressed])) ∧
        (session.keyAll pressedKeys).last.content = (typed, []) := by
  induction pressedKeys generalizing session with
  | nil => exact .inl ⟨trivial, rfl⟩
  | cons pressed rest ih =>
      obtain ⟨notInsert, later⟩ := owned
      rcases ih later with ⟨unaltering, content⟩ | ⟨front, newest, others, typed, rfl, altered⟩
      · rcases content_key notInsert pressed with ⟨typed, altered, first⟩ | ⟨unaltered, first⟩
        · exact .inr ⟨[], pressed, rest, typed, rfl, altered, unaltering, content.trans first⟩
        · exact .inl ⟨⟨unaltered, unaltering⟩, content.trans first⟩
      · exact .inr ⟨pressed :: front, newest, others, typed, rfl, altered⟩

/-- Whatever keys come while the session has control, what is repeated changes only at a key that alters
the text, and then it is the command of that key with nothing typed after it.  So it is the command of the
newest such key in the end. -/
theorem content_keyAll (owned : Owned pressedKeys session) :
    (∀ front pressed rest, pressedKeys = front ++ pressed :: rest →
      let before := session.keyAll front
      let after := (before.key pressed).2
      (∃ typed, before.Alters pressed typed ∧ after.last.content = (typed, [])) ∨
        (∀ typed, ¬ before.Alters pressed typed) ∧ after.last.content = before.last.content) ∧
    (Unaltering pressedKeys session ∧
        (session.keyAll pressedKeys).last.content = session.last.content ∨
      ∃ front pressed rest typed, pressedKeys = front ++ pressed :: rest ∧
        (session.keyAll front).Alters pressed typed ∧
        Unaltering rest (session.keyAll (front ++ [pressed])) ∧
        (session.keyAll pressedKeys).last.content = (typed, [])) := by
  refine ⟨fun front pressed rest split => ?_, content_keyAll_of_newest owned⟩
  rw [split] at owned
  exact content_key owned.notInsert pressed

/-- Two characters are deleted and the deletion is undone: it is what is repeated. -/
theorem content_keyAll_of_undone_deletion :
    let session := (Session.start .standard (.ofText ['a', 'b', 'c']) (.ofText []) .silent {}).enter
    let pressedKeys : List Key := [.char '2', .char 'x', .char 'u']
    ∃ front pressed rest, pressedKeys = front ++ pressed :: rest ∧
      (session.keyAll front).Alters pressed ['2', 'x'] ∧
      Unaltering rest (session.keyAll (front ++ [pressed])) := by
  intro session pressedKeys
  have owned : Owned pressedKeys session := ⟨by decide, by decide, by decide, trivial⟩
  have repeated : (session.keyAll pressedKeys).last.content = (['2', 'x'], []) := by decide
  rcases (content_keyAll owned).2 with
    ⟨_, kept⟩ | ⟨front, pressed, rest, typed, split, altered, unaltering, content⟩
  · exact absurd (repeated.symm.trans kept) (by decide)
  · cases repeated.symm.trans content
    exact ⟨front, pressed, rest, split, altered, unaltering⟩

end Session

end ModalVi
