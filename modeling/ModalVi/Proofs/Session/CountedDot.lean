import ModalVi.Proofs.Session.Peers
import ModalVi.Proofs.Session.TellingApart

namespace ModalVi.Session

/-! A counted repetition and as many single ones.

They make the same changes and show the same.  But single repetitions note the caret after each of them,
and a counted one only after the last.  So later walks through the history always show the same texts,
and they show the same carets exactly where nobody can tell the changes apart. -/

variable {library : Library} {session counted repeated : Session library} {count : Nat}
  {origin : Text}

/-- The keys of a counted repetition. -/
def countedDot (count : Nat) : List Key := (Nat.toDigits 10 count).map .char ++ [.char '.']

/-- A count makes the last change as often as it says, and the caret is noted once. -/
theorem press_countedDot (mode : session.mode = .command) (fresh : session.keys = [])
    (given : session.last.isEmpty = false) (positive : 0 < count) (possible : count < countLimit) :
    session.press (countedDot count) =
      match session.begun.repeatTimes session.last count with
      | (.error error, next) => (.error error, { next with last := session.last }.notice)
      | (.ok (), next) => (.ok (), { next with last := session.last }.notice.settled) := by
  have owned : session.mode ≠ .insert := by simp [mode]
  have numeral := numeral_toDigits positive possible
  have legible : Legible session.mode (Nat.toDigits 10 count) := mode ▸ numeral.legible
  have still : (session.holding (Nat.toDigits 10 count)).mode = .command := mode
  have begun : (session.holding (Nat.toDigits 10 count)).begun = session.begun := rfl
  have last : session.begun.last = session.last := rfl
  have read : Command.parse ((session.holding (Nat.toDigits 10 count)).keys ++ ['.']) =
      .ok (count, .repeatLast) := by
    have keys : (session.holding (Nat.toDigits 10 count)).keys = Nat.toDigits 10 count := rfl
    rw [keys, Command.parse, numeral.readCount (by rintro c ⟨⟩; rfl), decimalValue_toDigits]
    rfl
  rw [countedDot, press_of_legible (.char '.') owned fresh legible, press, key_again still read,
    begun]
  simp only [finish, repeatLast, last, given, Bool.false_eq_true, if_false]
  generalize session.begun.repeatTimes session.last count = attempt
  rcases attempt with ⟨error | done, next⟩ <;> rfl

/-- Peers are the same to whoever goes through the history and looks at the text. -/
theorem Peers.parallel (peers : Peers counted repeated) (accepts : repeated.surface.Accepts) :
    Parallel counted repeated where
  text := peers.text
  accepts := peers.surface ▸ accepts
  acceptsAlso := accepts
  undoable := peers.undoable
  redoable := congrArg (List.map Change.unsettled) peers.redoable

/-- Walks through the histories of peers show the same carets exactly where nobody can tell their
changes apart. -/
theorem Peers.agree_iff (peers : Peers counted repeated) (accepts : repeated.surface.Accepts)
    (consistent : counted.history.Consistent origin counted.text) (noted : counted.history.Noted)
    (notedAlso : repeated.history.Noted) :
    Agree counted repeated ↔
      Interchangeable (nextPlace counted.text counted.history.redoable) counted.text
        counted.history.undoable repeated.history.undoable := by
  have parallel := peers.parallel accepts
  refine ⟨interchangeable_of_agree parallel consistent noted notedAlso, fun behind turns => ?_⟩
  have abreast : Abreast counted repeated :=
    { parallel with
      cursor := peers.cursor
      consistent := ⟨origin, consistent⟩
      behind
      ahead := peers.redoable ▸ .refl _ _
      arrived := fun newest newestAlso => .inl ⟨noted _ _ newest, notedAlso _ _ newestAlso⟩ }
  exact (abreast.walked turns).cursor

/-- Where single repetitions all succeed, as many at once succeed too, and they show the same text, caret
and mode.  Later walks through the history show the same texts.  They show the same carets exactly where
nobody can tell the changes apart. -/
theorem press_countedDot_of_reaches {allowed : Session library → Event → Prop} {surface : Surface}
    {clipboard : Clipboard} {prompt : Prompt} {options : Options}
    (reached : Reaches allowed (Session.start library surface clipboard prompt options) session)
    (mode : session.mode = .command) (fresh : session.keys = [])
    (accepts : session.surface.Accepts) (given : session.last.isEmpty = false)
    (positive : 0 < count) (possible : count < countLimit)
    (pressed : session.press (List.replicate count (.char '.')) = (.ok (), repeated)) :
    ∃ counted, session.press (countedDot count) = (.ok (), counted) ∧
      repeated.text = counted.text ∧ repeated.cursor = counted.cursor ∧
      repeated.mode = counted.mode ∧
      (∀ turns : List Turn, ∃ here there,
        counted.press (turns.flatMap Turn.keys) = (.ok (), here) ∧
        repeated.press (turns.flatMap Turn.keys) = (.ok (), there) ∧ there.text = here.text) ∧
      ∀ origin, Settled origin session →
        ((∀ turns : List Turn,
          (repeated.press (turns.flatMap Turn.keys)).2.cursor =
            (counted.press (turns.flatMap Turn.keys)).2.cursor) ↔
          Interchangeable (nextPlace counted.text counted.history.redoable) counted.text
            counted.history.undoable repeated.history.undoable) := by
  have begun : Peers session.begun session := ⟨rfl, rfl, rfl, rfl, rfl, fresh, rfl, rfl, rfl⟩
  obtain ⟨next, made, peers, repeatedMode, repeatedKeys, repeatedAccepts, noted⟩ :=
    begun.repeatTimes (ready_of_reaches reached).repeatable given mode fresh accepts pressed
  let counted : Session library := { next with last := session.last }.notice.settled
  have alike : Peers counted repeated :=
    { peers with
      undoable := peers.undoable.trans (History.unsettled_settle _ _).symm
      redoable := peers.redoable.trans (History.redoable_settle _ _).symm }
  have countedMode : counted.mode = .command := alike.mode.symm.trans repeatedMode
  have countedKeys : counted.keys = [] := alike.keys.symm.trans repeatedKeys
  refine ⟨counted, ?_, alike.text, alike.cursor, alike.mode, fun turns => ?_, ?_⟩
  · rw [press_countedDot mode fresh given positive possible, made]
  · exact ⟨counted.walked turns, repeated.walked turns, press_turns turns countedMode countedKeys,
      press_turns turns repeatedMode repeatedKeys,
      ((alike.parallel repeatedAccepts).walked turns).text⟩
  · intro origin settled
    have atStart : Settled origin session.begun := ⟨settled.consistent, settled.known⟩
    have through : Settled origin next := atStart.repeatTimes mode made
    have consistent : counted.history.Consistent origin counted.text :=
      through.consistent.settle next.cursor.caret
    rw [← alike.agree_iff repeatedAccepts consistent (History.noted_settle _ _) (noted positive)]
    simp only [press_turns _ repeatedMode repeatedKeys, press_turns _ countedMode countedKeys]
    rfl

theorem press_countedDot_of_deletion :
    let first := Session.start .standard (.ofText "abcd".toList) (.ofText []) .silent {}
    let session := (first.handle .enter).handle (.key (.char 'x'))
    Reaches Considerate first session ∧ session.text = "bcd".toList ∧
      ∃ counted repeated, session.press [.char '2', .char '.'] = (.ok (), counted) ∧
        session.press [.char '.', .char '.'] = (.ok (), repeated) ∧
        counted.text = "d".toList ∧
        ∀ turns : List Turn, (repeated.press (turns.flatMap Turn.keys)).2.cursor =
          (counted.press (turns.flatMap Turn.keys)).2.cursor := by
  have accepts : (((Session.start .standard (.ofText "abcd".toList) (.ofText []) .silent {}).handle
    .enter).handle (.key (.char 'x'))).surface.Accepts := fun _ => rfl
  intro first session
  have begun : Reaches Considerate first (first.handle .enter) := .step .refl trivial
  have reached : Reaches Considerate first session := .step begun trivial
  have atStart : Accounted "abcd".toList first := ⟨.empty _, fun _ => rfl⟩
  have entered : Accounted "abcd".toList (first.handle .enter) := atStart.handle trivial
  have accounted : Accounted "abcd".toList session := entered.handle trivial
  have settled : Settled "abcd".toList session := accounted.settled (by decide)
  have mode : session.mode = .command := by decide
  have fresh : session.keys = [] := by decide
  have given : session.last.isEmpty = false := by decide
  have text : session.text = "bcd".toList := by decide
  have succeeds : (session.press [.char '.', .char '.']).1.isOk = true := by decide
  have shown : (session.press [.char '.', .char '.']).2.text = "d".toList := by decide
  have changes : (session.press (countedDot 2)).2.history.undoable =
      [⟨0, 1, "c".toList, [], some 0, some 0⟩, ⟨0, 1, "b".toList, [], some 0, none⟩,
        ⟨0, 1, "a".toList, [], some 0, some 0⟩] := by decide
  have changesAlso : (session.press [.char '.', .char '.']).2.history.undoable =
      [⟨0, 1, "c".toList, [], some 0, some 0⟩, ⟨0, 1, "b".toList, [], some 0, some 0⟩,
        ⟨0, 1, "a".toList, [], some 0, some 0⟩] := by decide
  have keys : countedDot 2 = [.char '2', .char '.'] := by decide
  change session.surface.Accepts at accepts
  clear_value session
  obtain ⟨repeated, pressed⟩ :
      ∃ repeated, session.press (List.replicate 2 (.char '.')) = (.ok (), repeated) := by
    change (session.press (List.replicate 2 (.char '.'))).1.isOk = true at succeeds
    generalize session.press (List.replicate 2 (.char '.')) = attempt at succeeds
    obtain ⟨error | done, repeated⟩ := attempt
    · cases succeeds
    · exact ⟨repeated, rfl⟩
  obtain ⟨counted, counting, sameText, _, _, _, walks⟩ :=
    press_countedDot_of_reaches reached mode fresh accepts given (by decide) (by decide) pressed
  have spelled : List.replicate 2 (Key.char '.') = [.char '.', .char '.'] := rfl
  rw [spelled] at pressed
  rw [pressed] at shown changesAlso
  rw [counting] at changes
  rw [keys] at counting
  have left : counted.text = "d".toList := sameText ▸ shown
  refine ⟨reached, text, counted, repeated, counting, pressed, left,
    (walks "abcd".toList settled).mpr ?_⟩
  rw [changes, changesAlso, left]
  -- The caret that only one of them noted is where the next deletion began.
  exact ⟨⟨rfl, .inl rfl⟩, ⟨rfl, .inr rfl⟩, ⟨rfl, .inl rfl⟩, trivial⟩

/-- The caret after the first of two counted repetitions was not noted. -/
theorem cursor_after_countedDot :
    let begun := Session.start .standard (.ofText "x".toList) (.ofText "ab".toList) .silent {}
    let session := (begun.handle .enter).handle (.key (.char 'p'))
    let counted := (session.press [.char '2', .char '.']).2
    let repeated := (session.press [.char '.', .char '.']).2
    let walk : List Key := [.char '2', .char 'u', .ctrl 'r']
    (session.press [.char '2', .char '.']).1.isOk = true ∧
      (session.press [.char '.', .char '.']).1.isOk = true ∧
      repeated.text = counted.text ∧ repeated.cursor = counted.cursor ∧
      (repeated.press walk).2.text = (counted.press walk).2.text ∧
      (repeated.press walk).2.cursor = Cursor.collapsed 4 ∧
      (counted.press walk).2.cursor = Cursor.collapsed 5 := by
  decide

end ModalVi.Session
