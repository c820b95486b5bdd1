import ModalVi.Proofs.Session.Abreast

namespace ModalVi.Session

/-! Telling changes apart.

Where changes are not interchangeable, some walk through the history shows it.  As many `u` as it takes
lead to the newest changes that differ, and then Ctrl-r shows the caret of one of them.  Where `u` itself
noted a caret with them, `2u` comes to them from further back and does not. -/

variable {library : Library} {first second session : Session library} {change : Change}
  {rest : List Change}
  {origin before after : Text}

/-- `u` -/
def once : Turn := ⟨true, [], .inl rfl⟩

/-- `2u` -/
def twice : Turn := ⟨true, Nat.toDigits 10 2, .inr (numeral_toDigits (by decide) (by decide))⟩

/-- Ctrl-r -/
def forth : Turn := ⟨false, [], .inl rfl⟩

theorem retraced_back {turn : Turn} (back : turn.back = true) (session : Session library) :
    session.retraced turn = (session.begun.undoTimes turn.count).notice.settled := by
  rw [retraced, back, if_pos rfl, undoTimes_eq]

/-- The way back and forth shows the caret of the change that was undone last. -/
theorem cursor_back_forth {turn : Turn} {there : Session library} (back : turn.back = true)
    (stepped : session.begun.undoTimes turn.count = there)
    (next : there.history.redoable = change :: rest) (taken : change.Takes there.text after)
    (accepts : there.surface.Accepts) :
    (session.walked [turn, forth]).cursor = Cursor.collapsed (change.redoPlace after) := by
  let begun : Session library := there.notice.settled.begun
  have nextStill : begun.history.redoable = change :: rest :=
    (History.redoable_settle _ _).trans next
  have takenStill : change.Takes begun.text after := taken
  have acceptsStill : begun.surface.Accepts := accepts
  have redone : begun.redoTimes 1 = begun.redoing change rest :=
    redoTimes_of_takes nextStill takenStill acceptsStill
  have walked : session.walked [turn, forth] = (begun.redoTimes 1).notice.settled := by
    rw [redoTimes_eq]
    exact congrArg (retraced · forth) ((retraced_back back session).trans (by rw [stepped]))
  have cursor : (begun.redoing change rest).cursor =
      Cursor.collapsed (min change.redoCaret (begun.redoing change rest).text.length) := rfl
  rw [text_redoing rest takenStill] at cursor
  rw [walked, redone]
  exact cursor

/-- Every walk shows the same carets. -/
def Agree (first second : Session library) : Prop :=
  ∀ turns, (second.walked turns).cursor = (first.walked turns).cursor

theorem redoPlace_of_agree {other : Change} {others : List Change} {turn : Turn}
    {there thereAlso : Session library} (agree : Agree first second) (back : turn.back = true)
    (stepped : first.begun.undoTimes turn.count = there)
    (steppedAlso : second.begun.undoTimes turn.count = thereAlso)
    (next : there.history.redoable = change :: rest)
    (nextAlso : thereAlso.history.redoable = other :: others)
    (taken : change.Takes there.text after) (takenAlso : other.Takes thereAlso.text after)
    (accepts : there.surface.Accepts) (acceptsAlso : thereAlso.surface.Accepts) :
    change.redoPlace after = other.redoPlace after := by
  have same := agree [turn, forth]
  rw [cursor_back_forth back stepped next taken accepts,
    cursor_back_forth back steppedAlso nextAlso takenAlso acceptsAlso] at same
  exact (congrArg Cursor.caret same).symm

theorem undoTimes_two {under : Change} {middle : Text}
    (newest : session.history.undoable = change :: under :: rest)
    (taken : change.Takes middle session.text) (earlier : under.Takes before middle)
    (accepts : session.surface.Accepts) :
    session.undoTimes 2 = (session.undoing change (under :: rest)).undoing under rest := by
  rw [undoTimes_of_takes newest taken accepts]
  rw [← text_undoing (under :: rest) taken] at earlier
  have newestAfter : (session.undoing change (under :: rest)).history.undoable = under :: rest := rfl
  exact undoTimes_of_takes newestAfter earlier (accepts_undoing accepts)

/-- What `2u` and Ctrl-r show of the change before the newest one. -/
theorem redoPlace_of_twice {other under underAlso : Change} {others : List Change} {middle : Text}
    (parallel : Parallel first second) (agree : Agree first second)
    (newest : first.history.undoable = change :: under :: rest)
    (newestAlso : second.history.undoable = other :: underAlso :: others)
    (taken : change.Takes middle first.text) (takenAlso : other.Takes middle second.text)
    (earlier : under.Takes before middle) (earlierAlso : underAlso.Takes before middle) :
    under.redoPlace middle = underAlso.redoPlace middle := by
  let there := (first.begun.undoing change (under :: rest)).undoing under rest
  let thereAlso := (second.begun.undoing other (underAlso :: others)).undoing underAlso others
  have stepped : first.begun.undoTimes twice.count = there :=
    undoTimes_two newest taken earlier parallel.accepts
  have steppedAlso : second.begun.undoTimes twice.count = thereAlso :=
    undoTimes_two newestAlso takenAlso earlierAlso parallel.acceptsAlso
  have textOnce : (first.begun.undoing change (under :: rest)).text = middle :=
    text_undoing (under :: rest) taken
  have textOnceAlso : (second.begun.undoing other (underAlso :: others)).text = middle :=
    text_undoing (underAlso :: others) takenAlso
  have text : there.text = before := text_undoing rest (textOnce ▸ earlier)
  have textAlso : thereAlso.text = before := text_undoing others (textOnceAlso ▸ earlierAlso)
  exact redoPlace_of_agree agree rfl stepped steppedAlso rfl rfl (text ▸ earlier)
    (textAlso ▸ earlierAlso) (accepts_undoing (accepts_undoing parallel.accepts))
    (accepts_undoing (accepts_undoing parallel.acceptsAlso))

/-- What `u` leaves: the caret from before the newest change is noted with the one before it. -/
theorem retraced_once {under : Change} {middle : Text}
    (newest : session.history.undoable = change :: under :: rest)
    (taken : change.Takes middle session.text) (accepts : session.surface.Accepts) :
    (session.retraced once).text = middle ∧
      (session.retraced once).history.undoable = under.noted (change.undoPlace middle) :: rest := by
  let there := session.begun.undoing change (under :: rest)
  have text : there.text = middle := text_undoing (under :: rest) taken
  have cursor : there.cursor.caret = change.undoPlace there.text := rfl
  have stepped : session.begun.undoTimes once.count = there :=
    undoTimes_of_takes newest taken accepts
  have undoable : there.notice.history.undoable = under :: rest := rfl
  rw [retraced_back rfl, stepped]
  refine ⟨text, ?_⟩
  rw [← text, ← cursor]
  exact History.undoable_settle _ undoable

/-- Where every walk shows the same carets, nobody can tell the changes apart. -/
theorem interchangeable_of_agree (parallel : Parallel first second)
    (consistent : first.history.Consistent origin first.text) (noted : first.history.Noted)
    (notedAlso : second.history.Noted) (agree : Agree first second) :
    Interchangeable (nextPlace first.text first.history.redoable) first.text
      first.history.undoable second.history.undoable := by
  -- The induction is on what is left to undo: `u` leads to sessions that agree as well.
  generalize length : first.history.undoable.length = entries
  induction entries generalizing first second with
  | zero =>
      rw [List.eq_nil_of_length_eq_zero length]
      trivial
  | succ entries ih =>
      have chain := consistent.undoable
      have undoable := parallel.undoable
      obtain ⟨change, rest, newest⟩ := List.exists_cons_of_length_eq_add_one length
      rw [newest] at chain undoable length
      obtain ⟨middle, earlier, taken⟩ := chain.last_of_reverse_cons
      obtain ⟨other, others, newestAlso, sameTop, sameRest⟩ := List.map_eq_cons_iff.mp undoable
      have takenAlso := taken.of_unsettled sameTop
      rw [← parallel.text] at takenAlso
      have back : first.begun.undoTimes once.count = first.begun.undoing change rest :=
        undoTimes_of_takes newest taken parallel.accepts
      have backAlso : second.begun.undoTimes once.count = second.begun.undoing other others :=
        undoTimes_of_takes newestAlso takenAlso parallel.acceptsAlso
      have text : (first.begun.undoing change rest).text = middle := text_undoing rest taken
      have textAlso : (second.begun.undoing other others).text = middle :=
        text_undoing others takenAlso
      rw [newest, newestAlso]
      refine ⟨⟨?_, .inl ?_⟩, ?_⟩
      · exact redoPlace_of_agree agree rfl back backAlso rfl rfl (text ▸ taken)
          (by rw [textAlso, ← parallel.text]; exact takenAlso) (accepts_undoing parallel.accepts)
          (accepts_undoing parallel.acceptsAlso)
      · rw [noted _ _ newest, notedAlso _ _ newestAlso]
      · rw [taken.textBefore]
        cases rest with
        | nil => trivial
        | cons under deeper =>
            obtain ⟨underAlso, deeperAlso, rfl, sameUnder, _⟩ := List.map_eq_cons_iff.mp sameRest
            obtain ⟨before, _, below⟩ := earlier.last_of_reverse_cons
            have shown := redoPlace_of_twice parallel agree newest newestAlso taken takenAlso below
              (below.of_unsettled sameUnder)
            obtain ⟨textHere, undoableHere⟩ := retraced_once newest taken parallel.accepts
            obtain ⟨-, undoableThere⟩ := retraced_once newestAlso takenAlso parallel.acceptsAlso
            have samePlace : other.undoPlace middle = change.undoPlace middle := by
              rw [Change.undoPlace, (Change.fields_of_unsettled sameTop).2.2.2]
              rfl
            have consistentHere : (first.retraced once).history.Consistent origin
                (first.retraced once).text := by
              have begun : first.begun.history.Consistent origin first.begun.text := consistent
              rw [retraced_back rfl]
              exact (Settled.undoTimes once.count begun).settle _
            have further := ih (parallel.retraced once) consistentHere
              (History.noted_settle _ _) (History.noted_settle _ _)
              (fun turns => agree (once :: turns)) (by rw [undoableHere]; exact Nat.succ.inj length)
            rw [undoableHere, undoableThere, samePlace, textHere] at further
            exact further.of_noted shown (Nat.min_le_right _ _)

end ModalVi.Session
