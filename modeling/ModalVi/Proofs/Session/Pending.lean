import ModalVi.Proofs.Session.Press
import ModalVi.Regex.Engine
import ModalVi.Script

namespace ModalVi.Session

/-! Waiting for more keys.

A key that is waited on has no effect but to be held, and the keys alone decide whether it is: neither
the text nor anything that the session remembers is looked at before the last key of a command. -/

variable {library : Library} {session first second : Session library}

/-- The position of the first of the characters that is not waited on, if there is one. -/
def settlesAt : List Char → Session library → Option Nat
  | [], _ => none
  | c :: rest, session =>
      match session.key (.char c) with
      | (.ok .pending, next) => (settlesAt rest next).map (· + 1)
      | _ => some 0

theorem unfinished_of_key {c : Char} {after : Session library} (owned : session.mode ≠ .insert)
    (pending : session.key (.char c) = (.ok .pending, after)) :
    Unfinished session.mode (session.keys ++ [c]) := by
  rw [key_char owned] at pending
  have held : (session.holding (session.keys ++ [c])).mode ≠ .insert := owned
  exact (unfinished_of_conclude (carried_carryOut _ _ held) pending).2

theorem settlesAt_of_unfinished {c : Char} (rest : List Char) (owned : session.mode ≠ .insert)
    (unfinished : Unfinished session.mode (session.keys ++ [c])) :
    session.settlesAt (c :: rest) =
      ((session.holding (session.keys ++ [c])).settlesAt rest).map (· + 1) := by
  rw [settlesAt, key_of_unfinished owned unfinished]

theorem settlesAt_of_finished {c : Char} (rest : List Char) (owned : session.mode ≠ .insert)
    (finished : ¬ Unfinished session.mode (session.keys ++ [c])) :
    session.settlesAt (c :: rest) = some 0 := by
  rw [settlesAt]
  split
  · rename_i next pending
    exact absurd (unfinished_of_key owned pending) finished
  · rfl

/-- The same keys are waited on by all sessions that read them alike and hold the same keys. -/
theorem settlesAt_congr (firstOwned : first.mode ≠ .insert) (secondOwned : second.mode ≠ .insert)
    (alike : first.mode.isVisual = second.mode.isVisual) (held : first.keys = second.keys)
    (keys : List Char) : first.settlesAt keys = second.settlesAt keys := by
  induction keys generalizing first second with
  | nil => rfl
  | cons c rest ih =>
      have same : Unfinished first.mode (first.keys ++ [c]) ↔
          Unfinished second.mode (second.keys ++ [c]) := by
        rw [Unfinished, Unfinished, alike, held]
      by_cases unfinished : Unfinished first.mode (first.keys ++ [c])
      · rw [settlesAt_of_unfinished rest firstOwned unfinished,
          settlesAt_of_unfinished rest secondOwned (same.mp unfinished)]
        have next : (first.holding (first.keys ++ [c])).settlesAt rest =
            (second.holding (second.keys ++ [c])).settlesAt rest :=
          ih firstOwned secondOwned alike (congrArg (· ++ [c]) held)
        rw [next]
      · rw [settlesAt_of_finished rest firstOwned unfinished,
          settlesAt_of_finished rest secondOwned (fun other => unfinished (same.mpr other))]

/-! ### Held keys in insert mode -/

/-- Keys are held only outside insert mode. -/
def Idle (session : Session library) : Prop := session.mode = .insert → session.keys = []

theorem Idle.fresh (keys : session.keys = []) : Idle session := fun _ => keys

theorem Idle.of_beside (idle : Idle first) (beside : Beside first second) : Idle second := by
  intro inserting
  rw [beside.keys]
  exact idle (beside.mode.symm.trans inserting)

theorem idle_conclude {keys : List Char} {control : Bool} {attempt : Attempt library Flow}
    (carried : Carried keys control session attempt) (owned : session.mode ≠ .insert) :
    Idle (conclude attempt).2 := by
  cases carried with
  | waiting unfinished => exact fun inserting => absurd inserting owned
  | failed noPrefix _ _ | left noPrefix _ _ _ _ =>
      rw [conclude_error noPrefix]
      exact .fresh rfl
  | kept once _ _ | edited once _ _ _ _ =>
      obtain ⟨outcome, _, finished⟩ := finish_of_once once (dropKeys _)
      rw [conclude, finished]
      exact .fresh rfl
  | undone _ _ _ | redone _ _ => exact .fresh rfl
  | again notControl mode asked =>
      simp only [conclude, finish]
      split
      · rename_i next repeated
        exact .fresh (repeatLast_cases repeated mode).1
      · rename_i error next repeated
        exact .fresh (repeatLast_cases repeated mode).1

theorem Idle.key (idle : Idle session) (pressed : Key) : Idle (session.key pressed).2 := by
  have answered := pressed_key session pressed
  generalize session.key pressed = answer at answered
  cases answered with
  | typing mode handled =>
      rcases insertKey_cases handled with rfl | rfl | rfl
      · exact .fresh rfl
      · exact idle.of_beside (beside_insertText _ session)
      · exact idle
  | ignored owned => exact idle
  | escaped | released | refused => exact .fresh rfl
  | dispatched owned chord carried concluded =>
      rw [← concluded]
      exact idle_conclude carried owned

theorem Idle.handle (idle : Idle session) (event : Event) : Idle (session.handle event) := by
  cases event with
  | key pressed => exact idle.key pressed
  | insertText new => exact idle.of_beside (beside_insertText new session)
  | enter | release | blur => exact .fresh rfl
  | mouseSelection =>
      simp only [Session.handle, mouseSelection]
      split
      · exact idle
      · split
        · exact .fresh rfl
        · split <;> exact .fresh rfl
  | setDebug debug | field surface | clipboard clipboard | prompt prompt => exact idle

/-! ### What a held key is -/

/-- A key that is waited on changes nothing but the held keys.  Which keys are waited on is the same in
any two sessions of command mode that hold no keys, and in any two of visual mode, whatever else is in
them.  And wherever a host leads a session, what it holds is the beginning of a command of its mode. -/
theorem pending_of_keys :
    (∀ (session after : Session library) (pressed : Key), session.mode ≠ .insert →
      session.key pressed = (.ok .pending, after) →
        ∃ keys, after = { session with keys }) ∧
      (∀ first second : Session library,
        (first.mode = .command ∧ second.mode = .command) ∨
          (first.mode.isVisual = true ∧ second.mode.isVisual = true) →
        first.keys = [] → second.keys = [] →
          ∀ keys, first.settlesAt keys = second.settlesAt keys) ∧
      ∀ (surface : Surface) (clipboard : Clipboard) (prompt : Prompt) (options : Options)
        (allowed : Session library → Event → Prop) (session : Session library),
        Reaches allowed (Session.start library surface clipboard prompt options) session →
        session.keys ≠ [] →
          (session.mode = .command ∧ Command.parse session.keys = .error .incomplete) ∨
            (session.mode.isVisual = true ∧
              VisualCommand.parse session.keys = .error .incomplete) := by
  refine ⟨?_, ?_, ?_⟩
  · intro session after pressed _ pending
    exact eq_holding_of_pending pending
  · intro first second modes firstFresh secondFresh keys
    have held : first.keys = second.keys := firstFresh.trans secondFresh.symm
    rcases modes with ⟨firstMode, secondMode⟩ | ⟨firstVisual, secondVisual⟩
    · apply settlesAt_congr _ _ _ held <;> simp [firstMode, secondMode]
    · apply settlesAt_congr _ _ (firstVisual.trans secondVisual.symm) held
      · intro inserting
        simp [inserting, Mode.isVisual] at firstVisual
      · intro inserting
        simp [inserting, Mode.isVisual] at secondVisual
  · intro surface clipboard prompt options allowed session reached given
    have idle : Idle session :=
      reached.preserves (fun _ event idle _ => idle.handle event) (.fresh rfl)
    have unfinished : Unfinished session.mode session.keys :=
      (ready_of_reaches reached).legible _ given List.prefix_rfl
    rw [Unfinished] at unfinished
    split at unfinished
    · rename_i visual
      exact .inr ⟨visual, unfinished⟩
    · rename_i notVisual
      have mode := (Mode.command_or_insert (by simpa using notVisual)).resolve_right
        (fun inserting => given (idle inserting))
      exact .inl ⟨mode, unfinished⟩

theorem pending_of_operator :
    let first := Session.start .standard (.ofText "ab".toList) (.ofText []) .silent {}
    let session := first.handle .enter
    let after := session.handle (.key (.char 'd'))
    let other := Script.begin .standard "(c)".toList {} []
    (session.mode ≠ .insert ∧ session.key (.char 'd') = (.ok .pending, after) ∧
        ∃ keys, after = { session with keys }) ∧
      (session.mode = .command ∧ other.mode = .command ∧ session.keys = [] ∧ other.keys = [] ∧
        session.settlesAt "d2fc".toList = some 3 ∧
        session.settlesAt "d2fc".toList = other.settlesAt "d2fc".toList) ∧
      Reaches (fun _ _ => True) first after ∧ after.keys ≠ [] ∧
        Command.parse after.keys = .error .incomplete := by
  intro first session after other
  have entered : Reaches (fun _ _ => True) first session := .step .refl trivial
  have reached : Reaches (fun _ _ => True) first after := .step entered trivial
  have owned : session.mode ≠ .insert := by decide
  have pending : session.key (.char 'd') = (.ok .pending, after) := rfl
  have modes : session.mode = .command ∧ other.mode = .command := ⟨rfl, rfl⟩
  have given : after.keys ≠ [] := by decide
  have waits : session.settlesAt "d2fc".toList = some 3 := by decide
  obtain ⟨untouched, alike, beginning⟩ := pending_of_keys
  have same := alike session other (.inl modes) rfl rfl "d2fc".toList
  have unfinished : Command.parse after.keys = .error .incomplete := by
    rcases beginning _ _ _ _ _ _ reached given with ⟨_, read⟩ | ⟨visual, _⟩
    · exact read
    · cases visual
  exact ⟨⟨owned, pending, untouched _ _ _ owned pending⟩,
    ⟨modes.1, modes.2, rfl, rfl, waits, same⟩, reached, given, unfinished⟩

end ModalVi.Session
