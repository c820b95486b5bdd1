import ModalVi.Proofs.Session.CountedDot

namespace ModalVi.Session

/-! Counted repetitions that break off.

A repetition that fails changes nothing.  But those before it stay made: what a counted repetition
leaves behind is what single ones leave behind, up to the first that fails. -/

variable {library : Library} {session first second after : Session library} {last : LastChange}
  {count : Nat} {error : EditError}

theorem cursor_of_withTarget_error {change : Bool} {motion : Motion}
    {act : Cursor → Session library → Session library}
    (failed : session.withTarget change motion count (fun cursor session =>
      (.ok (), act cursor session)) = (.error error, after)) : after.cursor = session.cursor := by
  simp only [withTarget, target] at failed
  split at failed
  · cases failed
  · rename_i unresolved
    split at unresolved <;> cases unresolved
    cases failed
    rfl

/-- A command that edits and fails has not moved the cursor. -/
theorem cursor_of_act_error {command : Command} (edits : command.edits = true)
    (failed : session.act command count = (.error error, after)) :
    after.cursor = session.cursor := by
  cases command with
  | openBelow | openAbove | deleteAhead | deleteBehind | deleteToLineEnd | changeLines | join
  | swapCase => cases failed
  | delete motion | change motion | shift inward motion | reflow motion =>
      exact cursor_of_withTarget_error failed
  | put next =>
      simp only [act, putClipboard] at failed
      split at failed
      · rename_i pasted
        cases failed
        exact (untouched_paste pasted).2.1
      · cases failed
      · cases failed
  | insert | insertAtIndent | append | appendAtLineEnd | yank | yankLines | visual | searchWord
  | searchNext | searchPrompt | exPrompt | repeatLast | undo | move => cases edits

/-- A repetition that fails has touched nothing and not moved the cursor. -/
theorem untouched_of_repeatOnce_error (repeatable : last.Repeatable)
    (failed : session.repeatOnce last = (.error error, after)) :
    Untouched session after ∧ after.cursor = session.cursor := by
  rw [repeatOnce_eq] at failed
  generalize replayed : session.replay last = attempt at failed
  obtain ⟨fault | flow, middle⟩ := attempt
  · cases failed
    rw [replay] at replayed
    split at replayed
    · cases replayed
    · rename_i keyed
      have recorded : last.keys ≠ [] := by simpa using keyed
      obtain ⟨held, c, times, command, keys, _, read, edits, _⟩ := repeatable recorded
      have notUndo : command ≠ .undo := by
        rintro rfl
        cases edits
      rw [← keys] at read
      simp only [runKeys, read] at replayed
      have orderly := orderly_run notUndo last.keys times session
      rw [replayed] at orderly
      refine ⟨orderly.2, ?_⟩
      rw [run_of_edits _ edits] at replayed
      split at replayed
      · rename_i acted
        cases replayed
        exact (cursor_of_act_error edits acted).trans rfl
      · cases replayed
  · cases failed

/-- What several repetitions leave behind when one fails: single ones before it all succeed, and the next
single one fails as well. -/
theorem Peers.repeatTimes_error (peers : Peers first second) (repeatable : second.last.Repeatable)
    (given : second.last.isEmpty = false) (mode : second.mode = .command)
    (fresh : second.keys = [])
    (failed : first.repeatTimes second.last count = (.error error, after)) :
    ∃ made middle repeated again, made < count ∧
      first.repeatTimes second.last made = (.ok (), middle) ∧
      middle.repeatOnce second.last = (.error error, after) ∧ middle.mode = .command ∧
      second.press (List.replicate made (.char '.')) = (.ok (), repeated) ∧
      repeated.key (.char '.') = (.error error, again) ∧ Peers middle repeated := by
  induction count generalizing first second with
  | zero => cases failed
  | succ count ih =>
      rw [Session.repeatTimes] at failed
      rcases peers.dot repeatable given mode fresh with
        ⟨fault, here, there, once, again, _⟩ |
        ⟨here, there, once, again, alike, command, keys, last, _, _⟩
      · rw [once] at failed
        cases failed
        exact ⟨0, first, second, there, Nat.succ_pos count, rfl, once, peers.mode.symm.trans mode,
          rfl, again, peers⟩
      · rw [once] at failed
        rw [← last] at repeatable given failed
        obtain ⟨made, middle, repeated, broken, fewer, some, fails, still, pressed, refused, left⟩ :=
          ih alike repeatable given command keys failed
        rw [last] at some fails
        refine ⟨made + 1, middle, repeated, broken, Nat.succ_lt_succ fewer, ?_, fails, still, ?_,
          refused, left⟩
        · rw [Session.repeatTimes, once]
          exact some
        · rw [List.replicate_succ, press, again]
          exact pressed

/-- A counted repetition that fails leaves the text, the changes and the cursor as the single ones do
that come before the first that fails.  Where that is the first of all, nothing is different. -/
theorem press_countedDot_error {allowed : Session library → Event → Prop} {surface : Surface}
    {clipboard : Clipboard} {prompt : Prompt} {options : Options}
    (reached : Reaches allowed (Session.start library surface clipboard prompt options) session)
    (mode : session.mode = .command) (fresh : session.keys = [])
    (given : session.last.isEmpty = false) (positive : 0 < count) (possible : count < countLimit)
    (failed : session.press (countedDot count) = (.error error, after)) :
    ∃ made repeated again, made < count ∧
      session.press (List.replicate made (.char '.')) = (.ok (), repeated) ∧
      repeated.key (.char '.') = (.error error, again) ∧
      after.text = repeated.text ∧ after.surface.selection = repeated.surface.selection ∧
      after.cursor = repeated.cursor ∧ after.mode = .command ∧ after.keys = [] ∧
      after.last = session.last ∧
      after.history.undoable.map Change.unsettled =
        repeated.history.undoable.map Change.unsettled ∧
      after.history.redoable = repeated.history.redoable ∧
      (made = 0 → after.surface = session.surface ∧ after.cursor = session.cursor ∧
        after.history = session.history) := by
  have repeatable := (ready_of_reaches reached).repeatable
  have begun : Peers session.begun session := ⟨rfl, rfl, rfl, rfl, rfl, fresh, rfl, rfl, rfl⟩
  rw [press_countedDot mode fresh given positive possible] at failed
  generalize several : session.begun.repeatTimes session.last count = attempt at failed
  obtain ⟨fault | done, next⟩ := attempt
  · obtain ⟨said, rfl⟩ := Prod.mk.inj failed
    cases said
    obtain ⟨made, middle, repeated, again, fewer, some, fails, command, pressed, refused, alike⟩ :=
      begun.repeatTimes_error repeatable given mode fresh several
    obtain ⟨untouched, cursor⟩ := untouched_of_repeatOnce_error repeatable fails
    have still : session.begun.mode = .command := mode
    have keys : middle.keys = [] := (keys_repeatTimes still some).trans rfl
    refine ⟨made, repeated, again, fewer, pressed, refused, ?_, ?_, ?_, ?_, ?_, rfl, ?_, ?_, ?_⟩
    · exact untouched.text.trans alike.text.symm
    · exact congrArg Surface.selection (untouched.surface.trans alike.surface.symm)
    · exact cursor.trans alike.cursor.symm
    · exact untouched.mode.trans command
    · exact untouched.keys.trans keys
    · exact (congrArg (fun history => history.undoable.map Change.unsettled)
        untouched.history).trans alike.undoable.symm
    · exact (congrArg History.redoable untouched.history).trans alike.redoable.symm
    · rintro rfl
      cases some
      exact ⟨untouched.surface, cursor, untouched.history⟩
  · cases failed

/-- The second of two deletions up to a comma finds none. -/
theorem press_countedDot_error_of_deletion :
    let first := Session.start .standard (.ofText "a,b,cd".toList) (.ofText []) .silent {}
    let typing := (first.handle .enter).handle (.key (.char 'd'))
    let session := (typing.handle (.key (.char 'f'))).handle (.key (.char ','))
    session.text = ",b,cd".toList ∧ ∃ made repeated again after error, made < 2 ∧
      session.press (countedDot 2) = (.error error, after) ∧
      session.press (List.replicate made (.char '.')) = (.ok (), repeated) ∧
      repeated.key (.char '.') = (.error error, again) ∧
      after.text = ",cd".toList ∧ repeated.text = ",cd".toList ∧ after.cursor = repeated.cursor := by
  intro first typing session
  have reached : Reaches (fun _ _ => True) first session :=
    .step (.step (.step (.step .refl trivial) trivial) trivial) trivial
  have mode : session.mode = .command := by decide
  have fresh : session.keys = [] := by decide
  have given : session.last.isEmpty = false := by decide
  have text : session.text = ",b,cd".toList := by decide
  have fails : (session.press (countedDot 2)).1.isOk = false := by decide
  have left : (session.press (countedDot 2)).2.text = ",cd".toList := by decide
  clear_value session
  generalize pressed : session.press (countedDot 2) = attempt at fails left
  obtain ⟨error | done, after⟩ := attempt
  · obtain ⟨made, repeated, again, fewer, before, refused, same, _, cursor, _⟩ :=
      press_countedDot_error reached mode fresh given (by decide) (by decide) pressed
    exact ⟨text, made, repeated, again, after, error, fewer, rfl, before, refused, left,
      same.symm.trans left, cursor⟩
  · cases fails

/-- The first deletion stays made where the second fails. -/
theorem text_after_failing_countedDot :
    let begun :=
      (Session.start .standard (.ofText "a,b,cd".toList) (.ofText []) .silent {}).handle .enter
    let session := (begun.press [.char 'd', .char 'f', .char ',']).2
    let counted := session.press [.char '2', .char '.']
    counted.1.isOk = false ∧ session.text = ",b,cd".toList ∧ counted.2.text = ",cd".toList ∧
      session.history.undoable.length = 1 ∧ counted.2.history.undoable.length = 2 := by
  decide

end ModalVi.Session
