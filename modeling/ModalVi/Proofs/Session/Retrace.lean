import ModalVi.Proofs.Session.TakingBack

namespace ModalVi

/-! Going back and forth through the history.

A turn undoes or redoes as many changes as its count says and then notes the caret, like every key does.
Which caret is noted depends on where the turn began.  So sessions that differ in noted carets only agree
on the text after any turns, and they agree on the caret exactly where nobody can tell their changes
apart (`Interchangeable`). -/

/-- One turn: the digits of its count, if it has one, and then `u` or Ctrl-r. -/
structure Turn where
  back : Bool
  digits : List Char
  written : digits = [] ∨ Numeral digits

namespace Turn

def count (turn : Turn) : Nat := if turn.digits = [] then 1 else decimalValue turn.digits

def key (turn : Turn) : Key := if turn.back then .char 'u' else .ctrl 'r'

def keys (turn : Turn) : List Key := turn.digits.map .char ++ [turn.key]

theorem legible (turn : Turn) : Legible .command turn.digits := by
  rcases turn.written with nothing | numeral
  · rw [nothing]
    exact .nil _
  · exact numeral.legible

theorem counting (turn : Turn) : turn.digits.all Char.isDigit = true := by
  rcases turn.written with nothing | numeral
  · rw [nothing]
    rfl
  · exact List.all_eq_true.mpr numeral.decimal

theorem parse_undo (turn : Turn) :
    Command.parse (turn.digits ++ ['u']) = .ok (turn.count, .undo) := by
  obtain ⟨back, digits, nothing | numeral⟩ := turn
  · subst nothing
    rfl
  · rw [count, if_neg numeral.given, Command.parse, numeral.readCount (by rintro c ⟨⟩; rfl)]
    rfl

theorem parse_redo (turn : Turn) :
    ControlCommand.parse true (turn.digits ++ ['r']) = .ok (turn.count, .redo) := by
  obtain ⟨back, digits, nothing | numeral⟩ := turn
  · subst nothing
    rfl
  · rw [count, if_neg numeral.given, ControlCommand.parse,
      numeral.readCount (by rintro c ⟨⟩; rfl)]
    rfl

end Turn

namespace Session

variable {library : Library} {first second session : Session library} {change : Change}
  {rest : List Change} {count : Nat}
  {origin before after : Text}

/-! ### Pressing the keys of a turn -/

/-- Steps through the history, up to `count` of them. -/
def stepTimes (step : History → Surface → Option Nat × History × Surface) :
    (count : Nat) → Session library → Session library
  | 0, session => session
  | count + 1, session =>
      let (caret, history, surface) := step session.history session.surface
      let session := { session with history, surface }
      match caret with
      | some caret => stepTimes step count (session.setCursor caret)
      | none => session

theorem undoTimes_eq (count : Nat) (session : Session library) :
    session.undoTimes count = session.stepTimes History.undo count := by
  induction count generalizing session with
  | zero => rfl
  | succ count ih =>
      simp only [undoTimes, stepTimes]
      generalize session.history.undo session.surface = attempt
      obtain ⟨caret, history, surface⟩ := attempt
      cases caret with
      | none => rfl
      | some caret => exact ih _

theorem redoTimes_eq (count : Nat) (session : Session library) :
    session.redoTimes count = session.stepTimes History.redo count := by
  induction count generalizing session with
  | zero => rfl
  | succ count ih =>
      simp only [redoTimes, stepTimes]
      generalize session.history.redo session.surface = attempt
      obtain ⟨caret, history, surface⟩ := attempt
      cases caret with
      | none => rfl
      | some caret => exact ih _

/-- The keys that are held do not matter to a step. -/
theorem stepTimes_holding (step : History → Surface → Option Nat × History × Surface)
    (held : List Char) (count : Nat) (session : Session library) :
    (session.holding held).stepTimes step count = (session.stepTimes step count).holding held := by
  induction count generalizing session with
  | zero => rfl
  | succ count ih =>
      have history : (session.holding held).history = session.history := rfl
      have surface : (session.holding held).surface = session.surface := rfl
      simp only [stepTimes, history, surface]
      generalize step session.history session.surface = attempt
      obtain ⟨caret, history, surface⟩ := attempt
      cases caret with
      | none => rfl
      | some caret => exact ih ({ session with history, surface }.setCursor caret)

theorem stepTimes_begun (step : History → Surface → Option Nat × History × Surface)
    (held : List Char) (count : Nat) (session : Session library) :
    ((({ session with changed := false } : Session library).holding held).stepTimes step
        count).notice.dropKeys = (session.begun.stepTimes step count).notice := by
  have begun : session.begun = ({ session with changed := false } : Session library).holding [] := rfl
  rw [begun, stepTimes_holding, stepTimes_holding]
  rfl

/-- The session after a turn. -/
def retraced (session : Session library) (turn : Turn) : Session library :=
  (session.begun.stepTimes (if turn.back then History.undo else History.redo)
    turn.count).notice.settled

theorem key_back {turn : Turn} (back : turn.back = true) (mode : session.mode = .command) :
    (session.holding turn.digits).key (.char 'u') = (.ok .handled, session.retraced turn) := by
  let held : Session library := (session.holding turn.digits).holding (turn.digits ++ ['u'])
  have owned : (session.holding turn.digits).mode ≠ .insert := by simp [holding, mode]
  have still : held.mode = .command := mode
  have ran : held.runKeys (turn.digits ++ ['u']) =
      (.ok .done, ({ held with changed := false } : Session library).undo turn.count) := by
    rw [runKeys, turn.parse_undo]
    exact run_undo _ _ held
  have keys : (session.holding turn.digits).keys = turn.digits := rfl
  have steps := stepTimes_begun History.undo (turn.digits ++ ['u']) turn.count session
  rw [key_char owned, keys, carryOut_of_command still, ran, conclude, undo, undoTimes_eq, retraced,
    back, if_pos rfl, ← steps]
  rfl

theorem key_forth {turn : Turn} (forth : turn.back = false) (mode : session.mode = .command) :
    (session.holding turn.digits).key (.ctrl 'r') = (.ok .handled, session.retraced turn) := by
  let held : Session library := (session.holding turn.digits).holding (turn.digits ++ ['r'])
  have owned : (session.holding turn.digits).mode ≠ .insert := by simp [holding, mode]
  have command : (!held.mode.isVisual) = true := by simp [held, holding, mode, Mode.isVisual]
  have ran : held.carryOut (turn.digits ++ ['r']) true =
      (.ok .done, ({ held with changed := false } : Session library).redo turn.count) := by
    simp only [carryOut, if_true, runControl, command, turn.parse_redo]
  have keys : (session.holding turn.digits).keys = turn.digits := rfl
  have steps := stepTimes_begun History.redo (turn.digits ++ ['r']) turn.count session
  rw [key_ctrl owned rfl (by decide) turn.counting, keys, ran, conclude, redo, redoTimes_eq, retraced,
    forth, if_neg (by decide), ← steps]
  rfl

/-- The keys of a turn make the turn. -/
theorem press_turn (turn : Turn) (mode : session.mode = .command) (fresh : session.keys = []) :
    session.press turn.keys = (.ok (), session.retraced turn) := by
  have owned : session.mode ≠ .insert := by simp [mode]
  have pressed : (session.holding turn.digits).key turn.key =
      (.ok .handled, session.retraced turn) := by
    cases back : turn.back with
    | true =>
        rw [Turn.key, back, if_pos rfl]
        exact key_back back mode
    | false =>
        rw [Turn.key, back, if_neg (by decide)]
        exact key_forth back mode
  rw [Turn.keys, press_of_legible turn.key owned fresh (mode ▸ turn.legible), press, pressed]
  rfl

theorem mode_keys_stepTimes (step : History → Surface → Option Nat × History × Surface)
    (count : Nat) (session : Session library) :
    (session.stepTimes step count).mode = session.mode ∧
      (session.stepTimes step count).keys = session.keys := by
  induction count generalizing session with
  | zero => exact ⟨rfl, rfl⟩
  | succ count ih =>
      simp only [stepTimes]
      generalize step session.history session.surface = attempt
      obtain ⟨caret, history, surface⟩ := attempt
      cases caret with
      | none => exact ⟨rfl, rfl⟩
      | some caret => exact ih ({ session with history, surface }.setCursor caret)

/-- The session after several turns. -/
def walked (session : Session library) (turns : List Turn) :
    Session library := turns.foldl retraced session

theorem press_turns (turns : List Turn) (mode : session.mode = .command)
    (fresh : session.keys = []) :
    session.press (turns.flatMap Turn.keys) = (.ok (), session.walked turns) := by
  induction turns generalizing session with
  | nil => rfl
  | cons turn rest ih =>
      have first := press_turn turn mode fresh
      obtain ⟨sameMode, sameKeys⟩ := mode_keys_stepTimes
        (if turn.back then History.undo else History.redo) turn.count session.begun
      rw [List.flatMap_cons, press_append first]
      exact ih (sameMode.trans mode) sameKeys

end Session

end ModalVi
