import ModalVi.Proofs.Session.Account
import ModalVi.Proofs.Session.Retrace

namespace ModalVi.Session

/-! Walking through two histories that differ in noted carets.

Such histories show the same texts on every walk (`Parallel`).  Where their changes are
interchangeable they show the same carets too (`Abreast`). -/

variable {library : Library} {first second session : Session library} {change : Change}
  {rest : List Change} {count : Nat}
  {origin before after : Text}

/-! ### The text -/

/-- The sessions are the same to whoever goes through the history and looks at the text. -/
structure Parallel (first second : Session library) : Prop where
  text : second.text = first.text
  accepts : first.surface.Accepts
  acceptsAlso : second.surface.Accepts
  undoable : second.history.undoable.map Change.unsettled =
    first.history.undoable.map Change.unsettled
  redoable : second.history.redoable.map Change.unsettled =
    first.history.redoable.map Change.unsettled

namespace Parallel

theorem settled (parallel : Parallel first second) : Parallel first.settled second.settled where
  text := parallel.text
  accepts := parallel.accepts
  acceptsAlso := parallel.acceptsAlso
  undoable := by
    have here := History.unsettled_settle first.cursor.caret first.history
    have there := History.unsettled_settle second.cursor.caret second.history
    exact there.trans (parallel.undoable.trans here.symm)
  redoable := by
    have here := History.redoable_settle first.cursor.caret first.history
    have there := History.redoable_settle second.cursor.caret second.history
    simp only [Session.settled, here, there]
    exact parallel.redoable

/-- The session with another history and another field. -/
def stepped (attempt : Option Nat × History × Surface) (session : Session library) :
    Session library :=
  { session with history := attempt.2.1, surface := attempt.2.2 }

/-- A step goes on in both or in neither, and they stay parallel. -/
def Keeps (library : Library) (step : History → Surface → Option Nat × History × Surface) : Prop :=
  ∀ {first second : Session library}, Parallel first second →
    (step second.history second.surface).1.isSome = (step first.history first.surface).1.isSome ∧
      Parallel (stepped (step first.history first.surface) first)
        (stepped (step second.history second.surface) second)

theorem keeps_undo : Keeps library History.undo := by
  intro first second parallel
  obtain ⟨text, accepts, acceptsAlso, undoable, redoable⟩ := parallel
  have length : second.surface.text = first.surface.text := text
  cases newest : first.history.undoable with
  | nil =>
      have newestAlso : second.history.undoable = [] := by
        rw [newest] at undoable
        simpa using undoable
      simp only [History.undo, newest, newestAlso]
      exact ⟨trivial, text, accepts, acceptsAlso, undoable, redoable⟩
  | cons change rest =>
      have undoableTop := undoable
      rw [newest, List.map_cons] at undoableTop
      obtain ⟨other, others, newestAlso, sameTop, sameRest⟩ := List.map_eq_cons_iff.mp undoableTop
      obtain ⟨start, old, new, _⟩ := Change.fields_of_unsettled sameTop
      rw [History.undo_cons newest accepts, History.undo_cons newestAlso acceptsAlso, start, old, new,
        length]
      by_cases within : change.start + change.new.length ≤ first.surface.text.length
      · rw [if_pos within, if_pos within]
        refine ⟨rfl, ?_, fun _ => accepts _, fun _ => acceptsAlso _, sameRest, ?_⟩
        · exact congrArg
            (fun text : Text => text.splice change.start (change.start + change.new.length) change.old)
            length
        · simp only [stepped, List.map_cons, sameTop, redoable]
      · rw [if_neg within, if_neg within]
        exact ⟨rfl, text, fun _ => accepts _, fun _ => acceptsAlso _, undoable, redoable⟩

theorem keeps_redo : Keeps library History.redo := by
  intro first second parallel
  obtain ⟨text, accepts, acceptsAlso, undoable, redoable⟩ := parallel
  have length : second.surface.text = first.surface.text := text
  cases next : first.history.redoable with
  | nil =>
      have nextAlso : second.history.redoable = [] := by
        rw [next] at redoable
        simpa using redoable
      simp only [History.redo, next, nextAlso]
      exact ⟨trivial, text, accepts, acceptsAlso, undoable, redoable⟩
  | cons change rest =>
      have redoableTop := redoable
      rw [next, List.map_cons] at redoableTop
      obtain ⟨other, others, nextAlso, sameTop, sameRest⟩ := List.map_eq_cons_iff.mp redoableTop
      obtain ⟨start, old, new, _⟩ := Change.fields_of_unsettled sameTop
      rw [History.redo_cons next accepts, History.redo_cons nextAlso acceptsAlso, start, old, new,
        length]
      by_cases within : change.start + change.old.length ≤ first.surface.text.length
      · rw [if_pos within, if_pos within]
        refine ⟨rfl, ?_, fun _ => accepts _, fun _ => acceptsAlso _, ?_, sameRest⟩
        · exact congrArg
            (fun text : Text => text.splice change.start (change.start + change.old.length) change.new)
            length
        · simp only [stepped, List.map_cons, sameTop, undoable]
      · rw [if_neg within, if_neg within]
        exact ⟨rfl, text, fun _ => accepts _, fun _ => acceptsAlso _, undoable, redoable⟩

theorem stepTimes {step : History → Surface → Option Nat × History × Surface}
    (keeps : Keeps library step)
    (count : Nat) (parallel : Parallel first second) :
    Parallel (first.stepTimes step count) (second.stepTimes step count) := by
  induction count generalizing first second with
  | zero => exact parallel
  | succ count ih =>
      obtain ⟨goesOn, next⟩ := keeps parallel
      simp only [Session.stepTimes]
      generalize step first.history first.surface = here at goesOn next
      generalize step second.history second.surface = there at goesOn next
      obtain ⟨caret, history, surface⟩ := here
      obtain ⟨caretAlso, historyAlso, surfaceAlso⟩ := there
      have moved (offset other : Nat) :
          Parallel ((stepped (caret, history, surface) first).setCursor offset)
            ((stepped (caretAlso, historyAlso, surfaceAlso) second).setCursor other) :=
        ⟨next.text, next.accepts, next.acceptsAlso, next.undoable, next.redoable⟩
      cases caret with
      | none =>
          cases caretAlso with
          | none => exact next
          | some other => cases goesOn
      | some offset =>
          cases caretAlso with
          | none => cases goesOn
          | some other => exact ih (moved offset other)

theorem retraced (turn : Turn) (parallel : Parallel first second) :
    Parallel (first.retraced turn) (second.retraced turn) := by
  have begun : Parallel first.begun second.begun := { parallel with }
  have keeps : Keeps library (if turn.back then History.undo else History.redo) := by
    split
    · exact keeps_undo
    · exact keeps_redo
  have stepped := begun.stepTimes keeps turn.count
  have noticed : Parallel
      (first.begun.stepTimes (if turn.back then History.undo else History.redo) turn.count).notice
      (second.begun.stepTimes (if turn.back then History.undo else History.redo) turn.count).notice :=
    { stepped with }
  exact noticed.settled

theorem walked (turns : List Turn) (parallel : Parallel first second) :
    Parallel (first.walked turns) (second.walked turns) := by
  induction turns generalizing first second with
  | nil => exact parallel
  | cons turn rest ih => exact ih (parallel.retraced turn)

end Parallel

/-! ### The caret -/

/-- The sessions show the same, and nobody can tell their changes apart.  Where one of the newest
changes has no caret noted, the caret is where it would be noted now. -/
structure Abreast (first second : Session library) : Prop extends Parallel first second where
  cursor : second.cursor = first.cursor
  consistent : ∃ origin, first.history.Consistent origin first.text
  behind : Interchangeable (nextPlace first.text first.history.redoable) first.text
    first.history.undoable second.history.undoable
  ahead : InterchangeableAhead first.text first.history.redoable second.history.redoable
  arrived {change other : Change} {rest others : List Change}
    (newest : first.history.undoable = change :: rest)
    (newestAlso : second.history.undoable = other :: others) :
    change.caretAfter.isSome = true ∧ other.caretAfter.isSome = true ∨
      nextPlace first.text first.history.redoable = some first.cursor.caret ∨
      first.cursor.caret = change.redoPlace first.text

namespace Abreast

variable {other : Change} {others : List Change}

theorem undoing (abreast : Abreast first second) (newest : first.history.undoable = change :: rest)
    (newestAlso : second.history.undoable = other :: others) :
    Abreast (first.undoing change rest) (second.undoing other others) := by
  obtain ⟨origin, consistent⟩ := abreast.consistent
  have chain := consistent.undoable
  rw [newest] at chain
  obtain ⟨middle, earlier, taken⟩ := chain.last_of_reverse_cons
  obtain ⟨latest, later⟩ := consistent.redoable
  have behind := abreast.behind
  rw [newest, newestAlso] at behind
  obtain ⟨indistinct, deeper⟩ := behind
  have tops := abreast.undoable
  rw [newest, newestAlso, List.map_cons, List.map_cons, List.cons.injEq] at tops
  obtain ⟨start, old, new, undoCaret⟩ := Change.fields_of_unsettled tops.1
  have text : (first.undoing change rest).text = middle := text_undoing rest taken
  have back : change.textAfter (first.undoing change rest).text = first.text := by
    rw [text, taken.textAfter]
  have textAlso : (second.undoing other others).text = (first.undoing change rest).text := by
    have same : second.surface.text = first.surface.text := abreast.text
    simp only [Session.undoing, setCursor, Session.text, Surface.select, Surface.text_edited, start,
      old, new, same]
  exact
    { text := textAlso
      accepts := accepts_undoing abreast.accepts
      acceptsAlso := accepts_undoing abreast.acceptsAlso
      undoable := tops.2
      redoable := by
        have redoable := abreast.redoable
        simp only [Session.undoing, setCursor, List.map_cons, tops.1, redoable]
      cursor := by
        have there : (second.undoing other others).cursor =
          Cursor.collapsed (other.undoPlace (second.undoing other others).text) := rfl
        rw [there, Change.undoPlace, undoCaret, textAlso]
        rfl
      consistent := ⟨origin, text ▸ earlier, latest, .step (text ▸ taken) later⟩
      behind := deeper
      ahead := ⟨by rw [back]; exact indistinct, by rw [back]; exact abreast.ahead⟩
      arrived := fun _ _ => .inr (.inl rfl) }

theorem redoing (abreast : Abreast first second) (next : first.history.redoable = change :: rest)
    (nextAlso : second.history.redoable = other :: others) :
    Abreast (first.redoing change rest) (second.redoing other others) := by
  obtain ⟨origin, consistent⟩ := abreast.consistent
  obtain ⟨latest, later⟩ := consistent.redoable
  rw [next] at later
  cases later with
  | @step _ _ _ middle _ taken later =>
      have ahead := abreast.ahead
      rw [next, nextAlso] at ahead
      obtain ⟨indistinct, further⟩ := ahead
      have tops := abreast.redoable
      rw [next, nextAlso, List.map_cons, List.map_cons, List.cons.injEq] at tops
      obtain ⟨start, old, new, _⟩ := Change.fields_of_unsettled tops.1
      have text : (first.redoing change rest).text = middle := text_redoing rest taken
      have back : change.textBefore (first.redoing change rest).text = first.text := by
        rw [text, taken.textBefore]
      have textAlso : (second.redoing other others).text = (first.redoing change rest).text := by
        have same : second.surface.text = first.surface.text := abreast.text
        simp only [Session.redoing, setCursor, Session.text, Surface.select, Surface.text_edited,
          start, old, new, same]
      exact
        { text := textAlso
          accepts := accepts_redoing abreast.accepts
          acceptsAlso := accepts_redoing abreast.acceptsAlso
          undoable := by
            have undoable := abreast.undoable
            simp only [Session.redoing, setCursor, List.map_cons, tops.1, undoable]
          redoable := tops.2
          cursor := by
            have there : (second.redoing other others).cursor =
              Cursor.collapsed (other.redoPlace (second.redoing other others).text) := rfl
            rw [there, textAlso]
            exact congrArg Cursor.collapsed indistinct.1.symm
          consistent := ⟨origin, consistent.undoable.reverse_cons (text ▸ taken), latest, text ▸ later⟩
          behind := by
            refine ⟨indistinct, ?_⟩
            rw [back]
            have behind := abreast.behind
            rw [next] at behind
            exact behind
          ahead := further
          arrived := by
            rintro _ _ _ _ ⟨⟩ ⟨⟩
            exact .inr (.inr rfl) }

theorem undoTimes (count : Nat) (abreast : Abreast first second) :
    Abreast (first.undoTimes count) (second.undoTimes count) := by
  induction count generalizing first second with
  | zero => exact abreast
  | succ count ih =>
      obtain ⟨origin, consistent⟩ := abreast.consistent
      have chain := consistent.undoable
      have undoable := abreast.undoable
      cases newest : first.history.undoable with
      | nil =>
          rw [newest] at undoable
          have newestAlso : second.history.undoable = [] := by simpa using undoable
          simp only [Session.undoTimes, History.undo, newest, newestAlso]
          exact { abreast with consistent := ⟨origin, consistent.close⟩ }
      | cons change rest =>
          rw [newest] at chain undoable
          obtain ⟨middle, _, taken⟩ := chain.last_of_reverse_cons
          obtain ⟨other, others, newestAlso, sameTop, _⟩ := List.map_eq_cons_iff.mp undoable
          have takenAlso : other.Takes middle second.text := by
            rw [abreast.text]
            exact taken.of_unsettled sameTop
          rw [undoTimes_of_takes newest taken abreast.accepts,
            undoTimes_of_takes newestAlso takenAlso abreast.acceptsAlso]
          exact ih (abreast.undoing newest newestAlso)

theorem redoTimes (count : Nat) (abreast : Abreast first second) :
    Abreast (first.redoTimes count) (second.redoTimes count) := by
  induction count generalizing first second with
  | zero => exact abreast
  | succ count ih =>
      obtain ⟨origin, consistent⟩ := abreast.consistent
      obtain ⟨latest, later⟩ := consistent.redoable
      have redoable := abreast.redoable
      cases next : first.history.redoable with
      | nil =>
          rw [next] at redoable
          have nextAlso : second.history.redoable = [] := by simpa using redoable
          simp only [Session.redoTimes, History.redo, next, nextAlso]
          exact { abreast with consistent := ⟨origin, consistent.close⟩ }
      | cons change rest =>
          rw [next] at later redoable
          obtain ⟨other, others, nextAlso, sameTop, _⟩ := List.map_eq_cons_iff.mp redoable
          cases later with
          | step taken later =>
              have takenAlso := taken.of_unsettled sameTop
              rw [← abreast.text] at takenAlso
              rw [redoTimes_of_takes next taken abreast.accepts,
                redoTimes_of_takes nextAlso takenAlso abreast.acceptsAlso]
              exact ih (abreast.redoing next nextAlso)

/-- Noting the caret after a turn keeps the sessions abreast. -/
theorem settled (abreast : Abreast first second) : Abreast first.settled second.settled := by
  obtain ⟨origin, consistent⟩ := abreast.consistent
  have redoable : first.settled.history.redoable = first.history.redoable :=
    History.redoable_settle _ _
  have redoableAlso : second.settled.history.redoable = second.history.redoable :=
    History.redoable_settle _ _
  have ahead : InterchangeableAhead first.settled.text first.settled.history.redoable
      second.settled.history.redoable := by
    rw [redoable, redoableAlso]
    exact abreast.ahead
  have undoable := abreast.undoable
  cases newest : first.history.undoable with
  | nil =>
      rw [newest] at undoable
      have newestAlso : second.history.undoable = [] := by simpa using undoable
      have here : first.settled = first := by
        rw [Session.settled, History.settle_of_nil _ newest]
      have there : second.settled = second := by
        rw [Session.settled, History.settle_of_nil _ newestAlso]
      rw [here, there]
      exact abreast
  | cons change rest =>
      rw [newest] at undoable
      obtain ⟨other, others, newestAlso, _, _⟩ := List.map_eq_cons_iff.mp undoable
      have here : first.settled.history.undoable = change.noted first.cursor.caret :: rest :=
        History.undoable_settle _ newest
      have there : second.settled.history.undoable = other.noted first.cursor.caret :: others := by
        rw [← abreast.cursor]
        exact History.undoable_settle _ newestAlso
      have behind := abreast.behind
      rw [newest, newestAlso] at behind
      obtain ⟨indistinct, deeper⟩ := behind
      exact
        { abreast.toParallel.settled with
          cursor := abreast.cursor
          consistent := ⟨origin, consistent.settle _⟩
          behind := by
            rw [here, there, redoable]
            refine ⟨indistinct.noted (abreast.arrived newest newestAlso), ?_⟩
            obtain ⟨_, textBefore⟩ :=
              Change.undoPlace_noted first.cursor.caret change first.settled.text
            obtain ⟨undoPlace, _⟩ := Change.undoPlace_noted first.cursor.caret change
              (change.textBefore first.settled.text)
            rw [textBefore, undoPlace]
            exact deeper
          ahead
          arrived := by
            intro top under rest others newest newestAlso
            rw [here] at newest
            rw [there] at newestAlso
            cases newest
            cases newestAlso
            exact .inl ⟨Change.isSome_noted _ _, Change.isSome_noted _ _⟩ }

theorem retraced (turn : Turn) (abreast : Abreast first second) :
    Abreast (first.retraced turn) (second.retraced turn) := by
  have begun : Abreast first.begun second.begun := { abreast with }
  have stepped : Abreast
      (first.begun.stepTimes (if turn.back then History.undo else History.redo) turn.count)
      (second.begun.stepTimes (if turn.back then History.undo else History.redo) turn.count) := by
    split
    · rw [← undoTimes_eq, ← undoTimes_eq]
      exact begun.undoTimes turn.count
    · rw [← redoTimes_eq, ← redoTimes_eq]
      exact begun.redoTimes turn.count
  have noticed : Abreast
      (first.begun.stepTimes (if turn.back then History.undo else History.redo) turn.count).notice
      (second.begun.stepTimes (if turn.back then History.undo else History.redo) turn.count).notice :=
    { stepped with }
  exact noticed.settled

theorem walked (turns : List Turn) (abreast : Abreast first second) :
    Abreast (first.walked turns) (second.walked turns) := by
  induction turns generalizing first second with
  | nil => exact abreast
  | cons turn rest ih => exact ih (abreast.retraced turn)

end Abreast

end ModalVi.Session
