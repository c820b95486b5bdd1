import ModalVi.Proofs.Count
import ModalVi.Proofs.Session.Replay

namespace ModalVi

/-! Pressing keys one after the other.

The keys of a command are held until the last of them, whatever else the session contains. -/

/-- A count makes no command yet. -/
theorem Numeral.legible {digits : List Char} (numeral : Numeral digits) :
    Legible .command digits := by
  intro front given isPrefix
  have unfinished : Command.parse front = .error .incomplete := by
    rw [Command.parse, (numeral.of_prefix isPrefix given).readCount_alone]
    rfl
  exact unfinished

namespace Session

variable {library : Library} {session middle : Session library} {keys : List Char}

/-- Presses keys one after the other, until one fails. -/
def press : List Key → Session library → Attempt library Unit
  | [], session => (.ok (), session)
  | pressed :: rest, session =>
      match session.key pressed with
      | (.ok _, session) => press rest session
      | (.error error, session) => (.error error, session)

theorem press_append {first : List Key} (pressed : session.press first = (.ok (), middle))
    (second : List Key) : session.press (first ++ second) = middle.press second := by
  induction first generalizing session with
  | nil =>
      cases pressed
      rfl
  | cons key rest ih =>
      rw [press] at pressed
      rw [List.cons_append, press]
      generalize session.key key = answer at pressed ⊢
      obtain ⟨error | outcome, next⟩ := answer
      · cases pressed
      · exact ih pressed

theorem press_append_of_error {first : List Key} {error : EditError}
    (failed : session.press first = (.error error, middle)) (second : List Key) :
    session.press (first ++ second) = (.error error, middle) := by
  induction first generalizing session with
  | nil => cases failed
  | cons key rest ih =>
      rw [press] at failed
      rw [List.cons_append, press]
      generalize session.key key = answer at failed ⊢
      obtain ⟨fault | outcome, next⟩ := answer
      · exact failed
      · exact ih failed

theorem carryOut_of_unfinished (unfinished : Unfinished session.mode keys) :
    session.carryOut keys false = (.error (.parse .incomplete), session) := by
  simp only [Unfinished] at unfinished
  simp only [carryOut, Bool.false_eq_true, if_false]
  split at unfinished
  · rename_i visual
    rw [if_pos visual, runVisualKeys, unfinished]
  · rename_i notVisual
    rw [if_neg notVisual, runKeys, unfinished]

theorem key_of_unfinished {c : Char} (owned : session.mode ≠ .insert)
    (unfinished : Unfinished session.mode (session.keys ++ [c])) :
    session.key (.char c) = (.ok .pending, session.holding (session.keys ++ [c])) := by
  have held : (session.holding (session.keys ++ [c])).mode = session.mode := rfl
  rw [key_char owned, carryOut_of_unfinished (held ▸ unfinished)]
  rfl

/-- Keys that make no command yet are held. -/
theorem press_held {held : List Char} (owned : session.mode ≠ .insert)
    (legible : Legible session.mode (keys ++ held)) :
    (session.holding keys).press (held.map .char) = (.ok (), session.holding (keys ++ held)) := by
  induction held generalizing keys with
  | nil =>
      rw [List.append_nil]
      rfl
  | cons d rest ih =>
      have whole : keys ++ d :: rest = (keys ++ [d]) ++ rest := by simp
      have unfinished : Unfinished session.mode (keys ++ [d]) :=
        legible _ (by simp) (whole ▸ List.prefix_append ..)
      have pending : (session.holding keys).key (.char d) =
          (.ok .pending, session.holding (keys ++ [d])) := key_of_unfinished owned unfinished
      rw [whole] at legible ⊢
      rw [List.map_cons, press, pending]
      exact ih legible

/-- All but the last key are held. -/
theorem press_of_legible {held : List Char} (last : Key) (owned : session.mode ≠ .insert)
    (fresh : session.keys = []) (legible : Legible session.mode held) :
    session.press (held.map .char ++ [last]) = (session.holding held).press [last] := by
  have begun : session.holding [] = session := by rw [holding, ← fresh]
  have pressed : (session.holding []).press (held.map .char) = (.ok (), session.holding held) :=
    press_held owned legible
  rw [begun] at pressed
  exact press_append pressed [last]

/-- Keys that no fewer of them make a command are carried out with the last of them. -/
theorem press_typed {held : List Char} {c : Char} (owned : session.mode ≠ .insert)
    (fresh : session.keys = []) (legible : Legible session.mode held) :
    session.press ((held ++ [c]).map .char) =
      match conclude ((session.holding (held ++ [c])).carryOut (held ++ [c]) false) with
      | (.error error, next) => (.error error, next)
      | (.ok _, next) => (.ok (), next) := by
  have still : (session.holding held).mode ≠ .insert := owned
  have last : (session.holding held).key (.char c) =
      conclude ((session.holding (held ++ [c])).carryOut (held ++ [c]) false) := key_char still c
  rw [List.map_append, List.map_singleton, press_of_legible (.char c) owned fresh legible, press,
    last]
  generalize conclude _ = attempt
  rcases attempt with ⟨error | outcome, next⟩ <;> rfl

theorem press_of_done {held : List Char} {c : Char} (owned : session.mode ≠ .insert)
    (fresh : session.keys = []) (legible : Legible session.mode held)
    (done : (session.holding (held ++ [c])).carryOut (held ++ [c]) false = (.ok .done, middle)) :
    session.press ((held ++ [c]).map .char) = (.ok (), middle.dropKeys.settled) := by
  rw [press_typed owned fresh legible, done]
  rfl

theorem press_of_ran {held : List Char} {c : Char} (mode : session.mode = .command)
    (fresh : session.keys = []) (legible : Legible .command held)
    (ran : (session.holding (held ++ [c])).runKeys (held ++ [c]) = (.ok .done, middle)) :
    session.press ((held ++ [c]).map .char) = (.ok (), middle.dropKeys.settled) := by
  have owned : session.mode ≠ .insert := by simp [mode]
  have still : (session.holding (held ++ [c])).mode = .command := mode
  exact press_of_done owned fresh (mode ▸ legible) ((carryOut_of_command still _).trans ran)

/-- One key that makes a command by itself. -/
theorem press_alone {c : Char} (mode : session.mode = .command) (fresh : session.keys = [])
    (ran : (session.holding [c]).runKeys [c] = (.ok .done, middle)) :
    session.press [.char c] = (.ok (), middle.dropKeys.settled) :=
  press_of_ran mode fresh (.nil _) ran

end Session

end ModalVi
