import ModalVi.Proofs.Session.Blind

namespace ModalVi

/-! Prompts that take their lines from the script that the keys come from.

A prompt may come up in the middle of a key, and what it takes from the script is gone from the keys to
come.  Everything that a key does goes as if the lines had been queued beforehand: what takes no line is
blind to the prompt, and what does is followed by the rest with the lines after it. -/

/-! ### Lines of a script -/

/-- What the key adds to a line: characters and tabs do. -/
def Key.typed : Key → Option Char
  | .char c => some c
  | .tab => some '\t'
  | .ctrl _ | .escape | .other => none

/-- The key neither enters a line nor cancels it. -/
def Key.Plain (key : Key) : Prop := key ≠ .char '\n' ∧ key.isEscape = false

/-- The keys that a prompt uses up, and the line that they come to, if it is not cancelled. -/
structure Entry where
  keys : List Key
  line : Option Text

/-- The entry is what a prompt takes from the front of a script that goes on with `after`. -/
inductive Entry.Taken : Entry → (after : List Key) → Prop where
  | entered {body after : List Key} (plain : ∀ key ∈ body, key.Plain) :
      Taken ⟨body ++ [.char '\n'], some (body.filterMap Key.typed)⟩ after
  | cancelled {body after : List Key} {key : Key} (plain : ∀ key ∈ body, key.Plain)
      (escapes : key.isEscape = true) : Taken ⟨body ++ [key], none⟩ after
  /-- The script ends inside the line. -/
  | cutOff {body : List Key} (plain : ∀ key ∈ body, key.Plain) :
      Taken ⟨body, some (body.filterMap Key.typed)⟩ []

/-- A key that neither enters nor cancels the line is one more key of it. -/
theorem Entry.Taken.cons {entry : Entry} {after : List Key} {key : Key} (plain : key.Plain)
    (taken : entry.Taken after) :
    Entry.Taken ⟨key :: entry.keys, entry.line.map (key.typed.toList ++ ·)⟩ after := by
  have longer {body : List Key} (others : ∀ key ∈ body, key.Plain) :
      ∀ member ∈ key :: body, member.Plain := by
    intro member among
    rcases List.mem_cons.mp among with rfl | among
    · exact plain
    · exact others member among
  have typed (body : List Key) :
      key.typed.toList ++ body.filterMap Key.typed = (key :: body).filterMap Key.typed := by
    cases same : key.typed <;> simp [same]
  cases taken with
  | entered others =>
      simp only [Option.map_some, typed]
      exact .entered (longer others)
  | cancelled others escapes => exact .cancelled (longer others) escapes
  | cutOff others =>
      simp only [Option.map_some, typed]
      exact .cutOff (longer others)

theorem Prompt.lineOfKeys_plain {key : Key} (plain : key.Plain) (line : Text) (rest : List Key) :
    Prompt.lineOfKeys line (key :: rest) = Prompt.lineOfKeys (line ++ key.typed.toList) rest := by
  obtain ⟨continues, remains⟩ := plain
  cases key with
  | char c =>
      have further : c ≠ '\n' := fun same => continues (congrArg Key.char same)
      simp [Prompt.lineOfKeys, Key.typed]
  | tab => rfl
  | ctrl c => simp [Prompt.lineOfKeys, remains, Key.typed]
  | escape => cases remains
  | other => simp [Prompt.lineOfKeys, Key.typed, Key.isEscape]

/-- A prompt takes such an entry from every script. -/
theorem Prompt.exists_taken (line : Text) (keys : List Key) :
    ∃ (entry : Entry) (after : List Key), keys = entry.keys ++ after ∧ entry.Taken after ∧
      Prompt.lineOfKeys line keys = (entry.line.map (line ++ ·), after) := by
  induction keys generalizing line with
  | nil => exact ⟨⟨[], some []⟩, [], rfl, .cutOff (by simp), by simp [lineOfKeys]⟩
  | cons key rest ih =>
      by_cases enters : key = .char '\n'
      · subst enters
        exact ⟨⟨[.char '\n'], some []⟩, rest, rfl, .entered (List.forall_mem_nil _),
          by simp [lineOfKeys]⟩
      · cases escapes : key.isEscape with
        | true =>
            refine ⟨⟨[key], none⟩, rest, rfl, .cancelled (List.forall_mem_nil _) escapes, ?_⟩
            cases key with
            | char | tab | other => cases escapes
            | ctrl | escape => simp [lineOfKeys, escapes]
        | false =>
            have plain : key.Plain := ⟨enters, escapes⟩
            obtain ⟨entry, after, rfl, taken, read⟩ := ih (line ++ key.typed.toList)
            refine ⟨_, after, rfl, taken.cons plain, ?_⟩
            rw [lineOfKeys_plain plain, read, Option.map_map]
            simp only [Function.comp_def, List.append_assoc]

/-- Prompts take the entries from the script one after the other and leave the rest of it. -/
inductive Draws : List Key → List Entry → (left : List Key) → Prop where
  | nil {keys : List Key} : Draws keys [] keys
  | cons {entry : Entry} {after left : List Key} {entries : List Entry} (taken : entry.Taken after)
      (rest : Draws after entries left) : Draws (entry.keys ++ after) (entry :: entries) left

theorem Draws.append {keys middle left : List Key} {first second : List Entry}
    (here : Draws keys first middle) (there : Draws middle second left) :
    Draws keys (first ++ second) left := by
  induction here with
  | nil => exact there
  | cons taken _ ih => exact .cons taken (ih there)

namespace Session

variable {library : Library} {α β : Type} {session : Session library}
  {step : Session library → α × Session library}

/-! ### Steps that go alike with a queue of the lines -/

/-- The step takes `entries` from a script of `keys`, leaves `left` of it, and goes the same way where
these lines are queued. -/
structure Splits (step : Session library → α × Session library) (keys : List Key)
    (session : Session library)
    (entries : List Entry) (left : List Key) : Prop where
  draws : Draws keys entries left
  leaves : (step (session.answering (.inline keys))).2.prompt = .inline left
  queued : ∀ later asked, ∃ askedThen,
    step (session.answering (.scripted (entries.map Entry.line ++ later) asked)) =
      ((step (session.answering (.inline keys))).1,
        (step (session.answering (.inline keys))).2.answering (.scripted later askedThen))

def Faithful (library : Library) (step : Session library → α × Session library) : Prop :=
  ∀ keys session, ∃ entries left, Splits step keys session entries left

theorem Blind.faithful (blind : Blind library step) : Faithful library step := by
  intro keys session
  refine ⟨[], keys, .nil, ?_, fun later asked => ⟨asked, ?_⟩⟩
  · rw [blind]
    rfl
  · rw [List.map_nil, List.nil_append, blind, blind]
    rfl

namespace Faithful

/-- What follows takes its lines from what is left of the script. -/
theorem bind {next : α → Session library → β × Session library} (first : Faithful library step)
    (later : ∀ answer, Faithful library (next answer)) :
    Faithful library fun session => next (step session).1 (step session).2 := by
  intro keys session
  obtain ⟨entries, middle, here⟩ := first keys session
  generalize ended : step (session.answering (.inline keys)) = attempt at here
  obtain ⟨answer, after⟩ := attempt
  obtain ⟨others, left, there⟩ := later answer middle after
  have prompt : after.prompt = .inline middle := by simpa only [ended] using here.leaves
  have same : after.answering (.inline middle) = after := answering_of_prompt prompt
  refine ⟨entries ++ others, left, here.draws.append there.draws, ?_, fun queue asked => ?_⟩
  · simpa only [ended, same] using there.leaves
  · obtain ⟨between, first⟩ := here.queued (others.map Entry.line ++ queue) asked
    obtain ⟨askedThen, second⟩ := there.queued queue between
    refine ⟨askedThen, ?_⟩
    rw [List.map_append, List.append_assoc, first]
    simpa only [ended, same] using second

theorem congr {other : Session library → α × Session library} (faithful : Faithful library step)
    (same : ∀ session, other session = step session) : Faithful library other := by
  have equal : other = step := funext same
  rwa [equal]

/-- A step may depend on anything in the session but the prompt. -/
theorem depending {γ : Type} (view : Session library → γ)
    (next : γ → Session library → β × Session library)
    (ignores : ∀ prompt session, view (session.answering prompt) = view session)
    (later : ∀ found, Faithful library (next found)) :
    Faithful library fun session => next (view session) session := by
  have looking : Blind library fun session : Session library => (view session, session) := by
    intro prompt session
    simp only [ignores]
  exact looking.faithful.bind later

/-- The step comes after one that cannot fail. -/
theorem after (change : Session library → Session library)
    (commutes : ∀ prompt session,
      change (session.answering prompt) = (change session).answering prompt)
    (faithful : Faithful library step) : Faithful library fun session => step (change session) := by
  have changing : Blind library fun session : Session library => ((), change session) := by
    intro prompt session
    simp only [commutes]
  exact changing.faithful.bind fun _ => faithful

end Faithful

/-- A step that cannot fail and does not ask is blind. -/
theorem blind_ending (answer : α) (change : Session library → Session library)
    (commutes : ∀ prompt session,
      change (session.answering prompt) = (change session).answering prompt) :
    Blind library fun session => (answer, change session) := by
  intro prompt session
  simp only [commutes]

theorem faithful_ending (answer : α) (change : Session library → Session library)
    (commutes : ∀ prompt session,
      change (session.answering prompt) = (change session).answering prompt) :
    Faithful library fun session => (answer, change session) :=
  (blind_ending answer change commutes).faithful

/-- What comes after a step, unless that fails. -/
def goingOn (next : α → Session library → Attempt library β) (result : Except EditError α)
    (session : Session library) :
    Attempt library β :=
  match result with
  | .error error => (.error error, session)
  | .ok answer => next answer session

theorem Faithful.goingOn {step : Session library → Attempt library α}
    {next : α → Session library → Attempt library β}
    (first : Faithful library step) (later : ∀ answer, Faithful library (next answer)) :
    Faithful library fun session => goingOn next (step session).1 (step session).2 := by
  refine first.bind fun result => ?_
  cases result with
  | error error => exact faithful_ending (Except.error error) id fun _ _ => rfl
  | ok answer => exact later answer

theorem faithful_ask (kind : PromptKind) : Faithful library (ask kind) := by
  intro keys session
  obtain ⟨entry, after, rfl, taken, read⟩ := Prompt.exists_taken [] keys
  have line : entry.line.map (([] : Text) ++ ·) = entry.line := by
    cases entry.line <;> rfl
  rw [line] at read
  refine ⟨[entry], after, .cons taken .nil, ?_, fun later asked =>
    ⟨(kind, session.prompts.list kind) :: asked, ?_⟩⟩
  · simp only [ask, answering, Prompt.ask, read]
    split <;> rfl
  · simp only [ask, answering, Prompt.ask, read, List.map_cons, List.map_nil, List.cons_append,
      List.nil_append, List.head?_cons, Option.join_some, List.tail_cons]
    cases entry.line <;> rfl

/-! ### Commands -/

/-- What becomes of the line that was asked for to search for it. -/
def searchLine (kind : PromptKind) (line : Option Text) (session : Session library) :
    Attempt library Unit :=
  match line with
  | none => (.ok (), session)
  | some [] =>
      if session.search.hasPattern then
        { session with
          search := session.search.setDirection (promptDirection kind) }.searchMove false 1
      else (.error (.parse (.invalidCommand .noPreviousSearch)), session)
  | some line =>
      { session with
        search := session.search.set (.entered line) (promptDirection kind) }.searchMove false 1

theorem blind_searchLine (kind : PromptKind) (line : Option Text) :
    Blind library (searchLine kind line) := by
  intro prompt session
  rcases line with _ | _ | ⟨c, rest⟩
  · rfl
  · have search : (session.answering prompt).search = session.search := rfl
    simp only [searchLine, search]
    split
    · exact blind_searchMove false 1 prompt
        { session with search := session.search.setDirection (promptDirection kind) }
    · rfl
  · exact blind_searchMove false 1 prompt
      { session with
        search := session.search.set (.entered (c :: rest)) (promptDirection kind) }

theorem faithful_searchPrompt (kind : PromptKind) : Faithful library (searchPrompt kind) := by
  refine ((faithful_ask kind).bind fun line => (blind_searchLine kind line).faithful).congr
    fun session => ?_
  simp only [searchPrompt]
  generalize session.ask kind = answer
  rcases answer with ⟨_ | _ | ⟨c, rest⟩, after⟩ <;> rfl

/-- What becomes of the ex line that was asked for. -/
def exLine (selection : Option Cursor) (line : Option Text) (session : Session library) :
    Attempt library Flow :=
  match line with
  | none => (.ok .done, session)
  | some line => session.runEx line selection

theorem blind_exLine (selection : Option Cursor) (line : Option Text) :
    Blind library (exLine selection line) := by
  cases line with
  | none => exact fun _ _ => rfl
  | some line => exact blind_runEx line selection

theorem faithful_exPrompt (selection : Option Cursor) : Faithful library (exPrompt selection) := by
  refine ((faithful_ask .ex).bind fun line => (blind_exLine selection line).faithful).congr
    fun session => ?_
  simp only [exPrompt]
  generalize session.ask .ex = answer
  rcases answer with ⟨_ | line, after⟩ <;> rfl

theorem faithful_act (command : Command) (count : Nat) : Faithful library (act command count) := by
  by_cases asks : ∃ kind, command = .searchPrompt kind
  · obtain ⟨kind, rfl⟩ := asks
    exact faithful_searchPrompt kind
  · exact (blind_act (fun kind same => asks ⟨kind, same⟩) count).faithful

/-- The keys of a command that changed the text are remembered. -/
def remembering (keys : List Char) (session : Session library) : Session library :=
  if session.changed then
    { session with last := session.last.recordCommand keys (session.mode == .insert) }
  else session

theorem remembering_answering (keys : List Char) (prompt : Prompt) (session : Session library) :
    (session.answering prompt).remembering keys = (session.remembering keys).answering prompt := by
  have changed : (session.answering prompt).changed = session.changed := rfl
  simp only [remembering, changed]
  split <;> rfl

theorem faithful_run (keys : List Char) (command : Command) (count : Nat) :
    Faithful library (run keys command count) := by
  by_cases asks : command = .exPrompt
  · subst asks
    have fresh := (faithful_exPrompt none).after
      (fun session => ({ session with changed := false } : Session library)) fun _ _ => rfl
    exact fresh.congr fun _ => rfl
  · by_cases repeats : command = .repeatLast
    · subst repeats
      exact faithful_ending (Except.ok (Flow.again count))
        (fun session => ({ session with changed := false } : Session library)) fun _ _ => rfl
    · have acting : Faithful library _ := (faithful_act command count).goingOn fun _ =>
        faithful_ending (Except.ok Flow.done) (remembering keys) (remembering_answering keys)
      have fresh := acting.after
        (fun session => ({ session with changed := false } : Session library)) fun _ _ => rfl
      refine fresh.congr fun session => ?_
      rw [run_of_acts asks repeats]
      generalize act command count { session with changed := false } = attempt
      rcases attempt with ⟨error | done, after⟩ <;> rfl

theorem faithful_runKeys (keys : List Char) : Faithful library (runKeys keys) := by
  cases read : Command.parse keys with
  | error error =>
      refine (faithful_ending (Except.error (.parse error)) id fun _ _ => rfl).congr fun session => ?_
      simp only [runKeys, read, id]
  | ok found =>
      obtain ⟨count, command⟩ := found
      exact (faithful_run keys command count).congr fun session => by simp only [runKeys, read]

theorem faithful_visualExPrompt : Faithful library visualExPrompt := by
  have prompted : Faithful library fun session => exPrompt (some session.selected) session :=
    .depending selected (fun cursor => exPrompt (some cursor)) (fun _ _ => rfl)
      fun cursor => faithful_exPrompt (some cursor)
  refine prompted.bind fun result => faithful_ending result
    (fun session => if session.mode.isVisual then session.toCommand else session) ?_
  intro prompt session
  have mode : (session.answering prompt).mode = session.mode := rfl
  simp only [mode]
  split <;> rfl

theorem faithful_runVisual (command : VisualCommand) (count : Nat) :
    Faithful library (runVisual command count) := by
  by_cases asks : command = .exPrompt
  · subst asks
    exact faithful_visualExPrompt
  · exact (blind_runVisual asks count).faithful

theorem faithful_runVisualKeys (keys : List Char) : Faithful library (runVisualKeys keys) := by
  cases read : VisualCommand.parse keys with
  | error error =>
      refine (faithful_ending (Except.error (.parse error)) id fun _ _ => rfl).congr fun session => ?_
      simp only [runVisualKeys, read, id]
  | ok found =>
      obtain ⟨count, command⟩ := found
      exact (faithful_runVisual command count).congr fun session => by
        simp only [runVisualKeys, read]

theorem faithful_carryOut (keys : List Char) (control : Bool) :
    Faithful library (carryOut keys control) := by
  cases control with
  | true => exact (blind_runControl keys).faithful
  | false =>
      apply Faithful.depending (fun session => session.mode.isVisual)
        (fun visual session => if visual then runVisualKeys keys session else runKeys keys session)
        fun _ _ => rfl
      intro visual
      cases visual with
      | true => exact faithful_runVisualKeys keys
      | false => exact faithful_runKeys keys

/-! ### Keys -/

theorem retype_answering (last : LastChange) (prompt : Prompt) (session : Session library) :
    (session.answering prompt).retype last = (session.retype last).answering prompt := by
  have cursor : (session.answering prompt).cursor = session.cursor := rfl
  simp only [retype, cursor, put_answering, setCursor_answering]
  split <;> rfl

theorem faithful_replay (last : LastChange) : Faithful library (replay last) := by
  cases nothing : last.keys.isEmpty with
  | true =>
      refine (faithful_ending (Except.ok .done) id fun _ _ => rfl).congr fun session => ?_
      simp only [replay, nothing, if_true, id]
  | false =>
      refine (faithful_runKeys last.keys).congr fun session => ?_
      simp only [replay, nothing, Bool.false_eq_true, if_false]

theorem faithful_repeatOnce (last : LastChange) : Faithful library (repeatOnce last) := by
  have retyped : Faithful library _ := (faithful_replay last).goingOn fun _ =>
    faithful_ending (Except.ok ())
      (fun session => { session.retype last with
        history := (session.retype last).history.close
        mode := .command })
      fun prompt session => by rw [retype_answering]; rfl
  refine retyped.congr fun session => ?_
  rw [repeatOnce_eq]
  generalize session.replay last = attempt
  rcases attempt with ⟨error | flow, after⟩ <;> rfl

theorem faithful_repeatTimes (last : LastChange) (count : Nat) :
    Faithful library (repeatTimes last count) := by
  induction count with
  | zero => exact faithful_ending (Except.ok ()) id fun _ _ => rfl
  | succ count ih =>
      refine ((faithful_repeatOnce last).goingOn fun _ => ih).congr fun session => ?_
      simp only [repeatTimes]
      generalize session.repeatOnce last = attempt
      rcases attempt with ⟨error | done, after⟩ <;> rfl

theorem faithful_repeatLast (count : Nat) : Faithful library (repeatLast count) := by
  refine Faithful.depending Session.last
    (fun last session =>
      if last.isEmpty then ((.ok (), session) : Attempt library Unit)
      else
        ((session.repeatTimes last count).1,
          ({ (session.repeatTimes last count).2 with last := last } : Session library).notice))
    (fun _ _ => rfl) fun last => ?_
  split
  · exact faithful_ending (Except.ok ()) id fun _ _ => rfl
  · exact (faithful_repeatTimes last count).bind fun result =>
      faithful_ending result
        (fun session => ({ session with last := last } : Session library).notice) fun _ _ => rfl

theorem faithful_finish (flow : Flow) : Faithful library (finish flow) := by
  cases flow with
  | done => exact faithful_ending (Except.ok Outcome.handled) settled fun _ _ => rfl
  | report message => exact faithful_ending (Except.ok (Outcome.report message)) settled fun _ _ => rfl
  | again count =>
      have settling : Faithful library _ := (faithful_repeatLast count).goingOn fun _ =>
        faithful_ending (Except.ok Outcome.handled) settled fun _ _ => rfl
      refine settling.congr fun session => ?_
      simp only [finish]
      generalize session.repeatLast count = attempt
      rcases attempt with ⟨error | done, after⟩ <;> rfl

theorem faithful_conclude (result : Except EditError Flow) :
    Faithful library fun session => conclude (result, session) := by
  cases result with
  | ok flow => exact (faithful_finish flow).after dropKeys fun _ _ => rfl
  | error error =>
      by_cases needsMore : error = .parse .incomplete
      · subst needsMore
        exact faithful_ending (Except.ok Outcome.pending) id fun _ _ => rfl
      · refine (faithful_ending (Except.error error) dropKeys fun _ _ => rfl).congr fun session => ?_
        exact conclude_error needsMore session

theorem faithful_dispatch (c : Char) (control : Bool) : Faithful library (dispatch c control) := by
  have carried (keys : List Char) : Faithful library _ :=
    ((faithful_carryOut keys control).bind faithful_conclude).after (holding keys) fun _ _ => rfl
  have held := Faithful.depending (fun session => session.keys ++ [c])
    (fun keys session => conclude ((session.holding keys).carryOut keys control))
    (fun _ _ => rfl) carried
  exact held.congr fun session => dispatch_eq c control session

/-- What a key comes to outside insert mode, after the given keys. -/
def commandKey (pressed : Key) (keys : List Char) (session : Session library) :
    Attempt library Outcome :=
  if pressed.isEscape then (.ok .handled, session.dropKeys.toCommand)
  else
    match pressed with
    | .char c => session.dispatch c false
    | .ctrl c =>
        if c = 'h' then (.ok .handled, session)
        else if keys.all Char.isDigit then session.dispatch c true
        else (.error (.parse (.invalidCommand .controlInsideCommand)), session.dropKeys)
    | .tab =>
        if keys.isEmpty then (.ok .passThrough, session.release) else (.ok .pending, session)
    | .escape | .other => (.ok .handled, session)

theorem faithful_commandKey (pressed : Key) (keys : List Char) :
    Faithful library (commandKey pressed keys) := by
  have kept : Faithful library fun session : Session library =>
      ((.ok .handled, session) : Attempt library Outcome) := faithful_ending _ id fun _ _ => rfl
  unfold commandKey
  split
  · exact faithful_ending (Except.ok Outcome.handled) (fun session => session.dropKeys.toCommand)
      fun _ _ => rfl
  · cases pressed with
    | char c => exact faithful_dispatch c false
    | ctrl c =>
        simp only
        split
        · exact kept
        · split
          · exact faithful_dispatch c true
          · exact faithful_ending _ dropKeys fun _ _ => rfl
    | tab =>
        simp only
        split
        · exact faithful_ending (Except.ok Outcome.passThrough) release fun _ _ => rfl
        · exact faithful_ending (Except.ok Outcome.pending) id fun _ _ => rfl
    | escape => exact kept
    | other => exact kept

/-- Whatever a key comes to, its prompts take their lines in turn. -/
theorem faithful_key (pressed : Key) : Faithful library (key pressed) := by
  have typing : Faithful library fun session : Session library =>
      ((.ok (session.insertKey pressed).1, (session.insertKey pressed).2) : Attempt library Outcome) :=
    (blind_insertKey pressed).faithful.bind fun outcome =>
      faithful_ending (Except.ok outcome) id fun _ _ => rfl
  refine (Faithful.depending (fun session => (decide (session.mode = .insert), session.keys))
    (fun view session =>
      if view.1 then
        ((.ok (session.insertKey pressed).1, (session.insertKey pressed).2) : Attempt library Outcome)
      else commandKey pressed view.2 session)
    (fun _ _ => rfl) ?_).congr ?_
  · rintro ⟨_ | _, keys⟩
    · exact faithful_commandKey pressed keys
    · exact typing
  · intro session
    simp only [key, decide_eq_true_eq]
    rfl

/-- What the host types after a key that was passed through. -/
def typePassed (pressed : Key) (result : Except EditError Outcome) (session : Session library) :
    Attempt library (Outcome × Option Bool) :=
  match result with
  | .error error => (.error error, session)
  | .ok outcome =>
      match outcome, pressed with
      | .passThrough, .char c =>
          if session.mode = .insert then
            (.ok (outcome, some (session.insertText [c]).1), (session.insertText [c]).2)
          else (.ok (outcome, none), session)
      | _, _ => (.ok (outcome, none), session)

theorem blind_typePassed (pressed : Key) (result : Except EditError Outcome) :
    Blind library (typePassed pressed result) := by
  intro prompt session
  have mode : (session.answering prompt).mode = session.mode := rfl
  simp only [typePassed, mode, blind_insertText _ prompt session]
  split
  · rfl
  · split
    · split <;> rfl
    · rfl

theorem faithful_typeKey (pressed : Key) : Faithful library (typeKey pressed) := by
  refine ((faithful_key pressed).bind fun result =>
    (blind_typePassed pressed result).faithful).congr fun session => ?_
  simp only [typeKey]
  generalize session.key pressed = attempt
  rcases attempt with ⟨error | outcome, after⟩
  · rfl
  · cases outcome <;> cases pressed <;> rfl

end Session

end ModalVi
