import ModalVi.Proofs.Strict.Command

namespace ModalVi.Strict

/-! Keys with every access checked.

A repetition plays the keys of a command again, so that what is asked of the matcher has to hold of
every session on the way. -/

variable {library : Library} {session : Session library}

/-- Reads the keys as the mode does and carries out what they ask for. -/
def carryOut (keys : List Char) (control : Bool) (session : Session library) :
    Option (Attempt library Flow) :=
  if control then some (session.runControl keys)
  else if session.mode.isVisual then runVisualKeys keys session
  else runKeys keys session

def replay (last : LastChange) (session : Session library) : Option (Attempt library Flow) :=
  if last.keys.isEmpty then some (.ok .done, session) else runKeys last.keys session

def retype (last : LastChange) (session : Session library) : Option (Session library) :=
  if last.typed.isEmpty then some session
  else
    let offset := session.cursor.caret
    (put offset offset last.typed session).map (·.setCursor (offset + last.typed.length))

def repeatOnce (last : LastChange) (session : Session library) : Option (Attempt library Unit) := do
  match ← replay last session with
  | (.error error, session) => some (.error error, session)
  | (.ok _, session) =>
      (retype last session).map fun session =>
        (.ok (), { session with history := session.history.close, mode := .command })

def repeatTimes (last : LastChange) :
    (count : Nat) → Session library → Option (Attempt library Unit)
  | 0, session => some (.ok (), session)
  | count + 1, session => do
      match ← repeatOnce last session with
      | (.ok (), session) => repeatTimes last count session
      | failed => some failed

def repeatLast (count : Nat) (session : Session library) : Option (Attempt library Unit) :=
  let last := session.last
  if last.isEmpty then some (.ok (), session)
  else
    (repeatTimes last count session).map fun (result, session) =>
      (result, { session with last }.notice)

def finish (flow : Flow) (session : Session library) : Option (Attempt library Outcome) :=
  match flow with
  | .done => some (.ok .handled, session.settled)
  | .report message => some (.ok (.report message), session.settled)
  | .again count =>
      (repeatLast count session).map fun
        | (.ok (), session) => (.ok .handled, session.settled)
        | (.error error, session) => (.error error, session)

def conclude : Attempt library Flow → Option (Attempt library Outcome)
  | (.ok flow, session) => finish flow session.dropKeys
  | (.error (.parse .incomplete), session) => some (.ok .pending, session)
  | (.error error, session) => some (.error error, session.dropKeys)

def dispatch (c : Char) (control : Bool) (session : Session library) :
    Option (Attempt library Outcome) := do
  let keys := session.keys ++ [c]
  let attempt ← carryOut keys control { session with keys }
  conclude attempt

def insertKey (key : Key) (session : Session library) : Option (Outcome × Session library) :=
  if key.isEscape then (enter session).map ((.handled, ·))
  else if key = .tab ∧ session.tabArmed ∧ session.surface.multiline then
    (insertText ['\t'] session).map fun (_, session) => (.handled, session)
  else some (.passThrough, session)

def key (key : Key) (session : Session library) : Option (Attempt library Outcome) :=
  if session.mode = .insert then
    (insertKey key session).map fun (outcome, session) => (.ok outcome, session)
  else if key.isEscape then some (.ok .handled, session.dropKeys.toCommand)
  else
    match key with
    | .char c => dispatch c false session
    | .ctrl c =>
        if c = 'h' then some (.ok .handled, session)
        else if session.keys.all Char.isDigit then dispatch c true session
        else some (.error (.parse (.invalidCommand .controlInsideCommand)), session.dropKeys)
    | .tab =>
        if session.keys.isEmpty then some (.ok .passThrough, session.release)
        else some (.ok .pending, session)
    | .escape | .other => some (.ok .handled, session)

theorem retype_eq (last : LastChange) (session : Session library) :
    retype last session = some (session.retype last) := by
  simp only [retype, Session.retype, put_eq, Option.map_some]
  split <;> rfl

theorem insertKey_eq (pressed : Key) (session : Session library) :
    insertKey pressed session = some (session.insertKey pressed) := by
  simp only [insertKey, Session.insertKey, enter_eq, insertText_eq, Option.map_some]
  split
  · rfl
  · split <;> rfl

/-! ### Repetitions -/

variable (spans : library.FindsSpans)
include spans

theorem carryOut_eq (genuine : session.search.Genuine library) (keys : List Char) (control : Bool) :
    carryOut keys control session = some (session.carryOut keys control) := by
  simp only [carryOut, Session.carryOut, runVisualKeys_eq, runKeys_eq spans genuine]
  split
  · rfl
  · split <;> rfl

theorem replay_eq (genuine : session.search.Genuine library) (last : LastChange) :
    replay last session = some (session.replay last) := by
  simp only [replay, Session.replay, runKeys_eq spans genuine]
  split <;> rfl

theorem repeatOnce_eq (genuine : session.search.Genuine library) (last : LastChange) :
    repeatOnce last session = some (session.repeatOnce last) := by
  simp only [repeatOnce, replay_eq spans genuine, retype_eq, Session.repeatOnce_eq, Option.bind_eq_bind,
    Option.bind_some, Option.map_some]
  generalize session.replay last = answer
  obtain ⟨error | flow, after⟩ := answer <;> rfl

theorem repeatTimes_eq (genuine : session.search.Genuine library) (last : LastChange) (count : Nat) :
    repeatTimes last count session = some (session.repeatTimes last count) := by
  induction count generalizing session with
  | zero => rfl
  | succ count ih =>
      have still := (Session.steady_repeatOnce last session).matcher genuine
      simp only [repeatTimes, Session.repeatTimes, repeatOnce_eq spans genuine, Option.bind_eq_bind,
        Option.bind_some]
      generalize session.repeatOnce last = answer at still ⊢
      obtain ⟨error | _, after⟩ := answer
      · rfl
      · exact ih still

theorem repeatLast_eq (genuine : session.search.Genuine library) (count : Nat) :
    repeatLast count session = some (session.repeatLast count) := by
  simp only [repeatLast, Session.repeatLast, repeatTimes_eq spans genuine, Option.map_some]
  split <;> rfl

/-! ### Keys -/

theorem finish_eq (genuine : session.search.Genuine library) (flow : Flow) :
    finish flow session = some (session.finish flow) := by
  cases flow with
  | done | report message => rfl
  | again count => exact congrArg (Option.map _) (repeatLast_eq spans genuine count)

theorem conclude_eq {attempt : Attempt library Flow}
    (genuine : attempt.2.search.Genuine library) :
    conclude attempt = some (Session.conclude attempt) := by
  obtain ⟨error | flow, after⟩ := attempt
  · rcases error with (_ | _ | _ | _ | _) | _ | _ | _ <;> rfl
  · have dropped : after.dropKeys.search.Genuine library := genuine
    exact finish_eq spans dropped flow

theorem dispatch_eq (genuine : session.search.Genuine library) (c : Char) (control : Bool) :
    dispatch c control session = some (session.dispatch c control) := by
  have held : (session.holding (session.keys ++ [c])).search.Genuine library := genuine
  have still := (Session.steady_carryOut (session.keys ++ [c]) control _).matcher held
  have carried := carryOut_eq spans held (session.keys ++ [c]) control
  rw [Session.dispatch_eq, ← conclude_eq spans still]
  simp only [dispatch]
  rw [← Session.holding, carried]
  rfl

/-- No key asks for more than there is. -/
theorem key_eq (genuine : session.search.Genuine library) (pressed : Key) :
    key pressed session = some (session.key pressed) := by
  simp only [key, Session.key, insertKey_eq, dispatch_eq spans genuine, Option.map_some]
  split
  · rfl
  · split
    · rfl
    · cases pressed with
      | char c => rfl
      | ctrl c =>
          dsimp only
          split
          · rfl
          · split <;> rfl
      | tab =>
          dsimp only
          split <;> rfl
      | escape | other => rfl

end ModalVi.Strict
