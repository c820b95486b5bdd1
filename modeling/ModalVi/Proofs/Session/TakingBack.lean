import ModalVi.Proofs.History.Noting
import ModalVi.Proofs.Session.Repetition

namespace ModalVi

/-! Taking a repetition back.

A repetition makes one change with its command and another one with the text that was typed after it,
and `u` takes back one change.  So it takes as many of these keys as there were changes, and then the
text is the one from before. -/

namespace Session

variable {library : Library} {session next before middle after : Session library}
  {changes others rest : List Change}
  {start stop : Nat} {new origin : Text}

/-! ### Pressing `u` -/

/-- One `u` takes the newest change back, with the caret as far as the text reaches. -/
theorem key_undo_of_takes {change : Change} {older : List Change} (mode : session.mode = .command)
    (fresh : session.keys = []) (accepts : session.surface.Accepts)
    (taken : change.Takes origin session.text)
    (held : session.history.undoable.map Change.unsettled = change.unsettled :: older) :
    ∃ undone, session.key (.char 'u') = (.ok .handled, undone) ∧ undone.text = origin ∧
      undone.cursor = Cursor.collapsed (min change.undoCaret origin.length) ∧
      undone.mode = .command ∧ undone.keys = [] ∧ undone.surface.Accepts ∧
      undone.history.undoable.map Change.unsettled = older := by
  obtain ⟨top, rest, newest, sameTop, sameRest⟩ := List.map_eq_cons_iff.mp held
  have takenBack := taken.of_unsettled sameTop
  let holding : Session library := { session with keys := ['u'], changed := false }
  have undoing : holding.undoTimes 1 = holding.undoing top rest :=
    undoTimes_of_takes newest takenBack accepts
  have text : (holding.undoing top rest).text = origin := text_undoing rest takenBack
  have cursor : (holding.undoing top rest).cursor =
      Cursor.collapsed (min top.undoCaret (holding.undoing top rest).text.length) := rfl
  rw [text, (Change.fields_of_unsettled sameTop).2.2.2] at cursor
  refine ⟨_, key_undo mode fresh undoing, text, cursor, mode, rfl, accepts_undoing accepts, ?_⟩
  exact (History.unsettled_settle _ _).trans sameRest

/-- As many of these keys as there are changes in a chain lead back to its beginning. -/
theorem press_undo {older : List Change} (mode : session.mode = .command)
    (fresh : session.keys = []) (accepts : session.surface.Accepts)
    (chain : Leads origin changes.reverse session.text)
    (held : session.history.undoable.map Change.unsettled =
      changes.map Change.unsettled ++ older) :
    ∃ undone, session.press (List.replicate changes.length (.char 'u')) = (.ok (), undone) ∧
      undone.text = origin ∧
      ∀ first, changes.getLast? = some first →
        undone.cursor = Cursor.collapsed (min first.undoCaret origin.length) := by
  induction changes generalizing session with
  | nil =>
      cases chain
      exact ⟨session, rfl, rfl, by simp⟩
  | cons change others ih =>
      obtain ⟨middle, earlier, taken⟩ := chain.last_of_reverse_cons
      obtain ⟨undone, pressed, text, cursor, command, dropped, still, entries⟩ :=
        key_undo_of_takes mode fresh accepts taken held
      rw [← text] at earlier
      obtain ⟨last, again, restored, caret⟩ := ih command dropped still earlier entries
      refine ⟨last, ?_, restored, fun first oldest => ?_⟩
      · rw [List.length_cons, List.replicate_succ, press, pressed]
        exact again
      · cases others with
        | nil =>
            cases again
            cases oldest
            cases earlier
            rw [cursor, text]
            rfl
        | cons other more => exact caret first (by rwa [List.getLast?_cons_cons] at oldest)

/-! ### What a repetition adds -/

/-- The step made some changes, newest first, and nothing else was remembered. -/
structure Adds (before : Session library) (changes : List Change) (after : Session library) :
    Prop where
  chain : Leads before.text changes.reverse after.text
  undoable : after.history.undoable = changes ++ before.history.undoable
  host : before.surface.Follows after.surface
  keys : after.keys = before.keys

namespace Adds

theorem of_kept (kept : Kept before after) : Adds before [] after where
  chain := by
    rw [kept.text]
    exact .refl
  undoable := kept.undoable
  host := kept.host
  keys := kept.keys

theorem of_edited (edited : Edited start stop new before after) :
    Adds before [⟨start, stop, before.text.slice start stop, new, some before.cursor.caret, none⟩]
      after where
  chain := .step ⟨edited.ordered, edited.bounded, rfl, edited.text.symm⟩ .refl
  undoable := edited.undoable
  host := edited.host
  keys := edited.keys

theorem append (first : Adds before changes middle) (second : Adds middle others after) :
    Adds before (others ++ changes) after where
  chain := by
    rw [List.reverse_append]
    exact first.chain.append second.chain
  undoable := by rw [second.undoable, first.undoable, List.append_assoc]
  host := first.host.trans second.host
  keys := second.keys.trans first.keys

end Adds

/-- Text that was typed is put in as one change. -/
theorem edited_retype {last : LastChange} (accepts : session.surface.Accepts)
    (given : last.typed ≠ []) :
    ∃ start stop new, Edited start stop new session (session.retype last) := by
  have put : Commanded session (session.retype last) := by
    have something : last.typed.isEmpty = false := by simpa using given
    simp only [retype, something, Bool.false_eq_true, if_false]
    exact commanded_put ..
  rcases put with kept | ⟨start, stop, new, edited, _⟩
  · -- The text is longer than it was.
    have text := text_retype last accepts
    have inside := caret_le_length session
    rw [kept.text] at text
    have lengths := congrArg List.length text
    rw [Text.length_splice last.typed (Nat.le_refl _) inside] at lengths
    have positive := List.length_pos_iff.mpr given
    omega
  · exact ⟨start, stop, new, edited⟩

/-- The command of a change that was remembered edits or does nothing. -/
theorem commanded_replay {last : LastChange} {flow : Flow} (mode : session.mode = .command)
    (repeatable : last.Repeatable) (done : session.replay last = (.ok flow, next)) :
    Commanded session next := by
  by_cases alone : last.keys = []
  · simp only [replay, alone, List.isEmpty_nil, if_true] at done
    cases done
    exact .inl (.refl session)
  · obtain ⟨held, c, count, command, keys, _, read, edits, _⟩ := repeatable alone
    rw [← keys] at read
    have carried := carried_replay last mode
    rw [done] at carried
    cases carried with
    | kept _ kept _ => exact .inl kept
    | edited _ edited placed _ _ => exact .inr ⟨_, _, _, edited, placed⟩
    | again _ _ asked | undone _ _ asked =>
        rw [asked] at read
        cases read
        cases edits
    | redone isControl _ => cases isControl

/-- The command of the last change does the same when it is typed and when it is repeated. -/
theorem exists_press_of_replay {flow : Flow} (ready : Ready session)
    (mode : session.mode = .command)
    (fresh : session.keys = []) (done : session.begun.replay session.last = (.ok flow, next)) :
    ∃ commanded, session.press (session.last.keys.map .char) = (.ok (), commanded) ∧
      commanded.text = next.text ∧ commanded.cursor = next.cursor := by
  by_cases alone : session.last.keys = []
  · simp only [replay, alone, List.isEmpty_nil, if_true] at done
    cases done
    rw [alone]
    exact ⟨session, rfl, rfl, rfl⟩
  · obtain ⟨held, c, count, command, keys, legible, read, edits, _⟩ := ready.repeatable alone
    have typed := press_command mode fresh legible read edits
    rw [← keys] at read typed
    rw [begun, replay_of_edits alone read edits] at done
    rw [typed]
    generalize session.run session.last.keys command count = attempt at done
    rcases attempt with ⟨error | answer, raw⟩
    · cases done
    · cases done
      exact ⟨_, rfl, rfl, rfl⟩

/-- A command adds one change if it changes the text, with the caret from before it. -/
theorem adds_of_commanded (commanded : Commanded before after) :
    ∃ changes, Adds before changes after ∧
      changes.length = (if after.text = before.text then 0 else 1) ∧
      ∀ change ∈ changes, change.undoCaret = before.cursor.caret := by
  rcases commanded with kept | ⟨start, stop, new, edited, _⟩
  · exact ⟨[], .of_kept kept, by simp [kept.text], by simp⟩
  · refine ⟨_, .of_edited edited, by simp [edited.text_ne], fun change member => ?_⟩
    rw [List.mem_singleton.mp member]
    rfl

/-- Putting in what was typed adds one change if there is anything. -/
theorem adds_retype (last : LastChange) (accepts : session.surface.Accepts) :
    ∃ changes, Adds session changes (session.retype last) ∧
      changes.length = (if last.typed = [] then 0 else 1) ∧
      ∀ change ∈ changes, change.undoCaret = session.cursor.caret := by
  by_cases nothing : last.typed = []
  · have same : session.retype last = session := by simp [retype, nothing]
    rw [same]
    exact ⟨[], .of_kept (.refl session), by simp [nothing], by simp⟩
  · obtain ⟨start, stop, new, edited⟩ := edited_retype accepts nothing
    refine ⟨_, .of_edited edited, by simp [nothing], fun change member => ?_⟩
    rw [List.mem_singleton.mp member]
    rfl

/-! ### Taking it back -/

/-- What a repetition comes to: the changes of its command lead to where typing the command would have
led, and the changes that put in what was typed lead on from there. -/
structure Repeats (session commanded dotted : Session library) (own more : List Change) : Prop where
  ownChain : Leads session.text own.reverse commanded.text
  ownLength : own.length = if commanded.text = session.text then 0 else 1
  ownCaret : ∀ change ∈ own, change.undoCaret = session.cursor.caret
  moreChain : Leads commanded.text more.reverse dotted.text
  moreLength : more.length = if session.last.typed = [] then 0 else 1
  moreCaret : ∀ change ∈ more, change.undoCaret = commanded.cursor.caret
  entries : dotted.history.undoable.map Change.unsettled =
    (more ++ own).map Change.unsettled ++ session.history.undoable.map Change.unsettled
  mode : dotted.mode = .command
  keys : dotted.keys = []
  accepts : dotted.surface.Accepts

/-- Where there is nothing to repeat, the text stays. -/
theorem text_of_empty {outcome : Outcome} {dotted : Session library}
    (mode : session.mode = .command)
    (fresh : session.keys = []) (nothing : session.last.isEmpty = true)
    (pressed : session.key (.char '.') = (.ok outcome, dotted)) : dotted.text = session.text := by
  have read : Command.parse (session.keys ++ ['.']) = .ok (1, .repeatLast) := by
    rw [fresh]
    rfl
  have last : session.begun.last.isEmpty = true := nothing
  simp only [key_again mode read, finish, repeatLast, last, if_true] at pressed
  cases pressed
  rfl

theorem repeats_of_dot {outcome : Outcome} {dotted : Session library} (ready : Ready session)
    (mode : session.mode = .command) (fresh : session.keys = [])
    (accepts : session.surface.Accepts) (pressed : session.key (.char '.') = (.ok outcome, dotted))
    (changed : dotted.text ≠ session.text) :
    ∃ commanded own more, session.press (session.last.keys.map .char) = (.ok (), commanded) ∧
      Repeats session commanded dotted own more := by
  have given : session.last.isEmpty = false := by
    cases nothing : session.last.isEmpty with
    | false => rfl
    | true => exact absurd (text_of_empty mode fresh nothing pressed) changed
  rw [key_once_of_replay mode fresh given] at pressed
  generalize replayed : session.begun.replay session.last = attempt at pressed
  obtain ⟨error | flow, next⟩ := attempt
  · cases pressed
  obtain ⟨-, rfl⟩ := Prod.mk.inj pressed
  have begunMode : session.begun.mode = .command := mode
  have step : Commanded session.begun next := commanded_replay begunMode ready.repeatable replayed
  obtain ⟨commanded, typed, text, cursor⟩ := exists_press_of_replay ready mode fresh replayed
  obtain ⟨own, ownAdds, ownLength, ownCaret⟩ := adds_of_commanded step
  have acceptsStill : next.surface.Accepts := accepts.follows ownAdds.host
  obtain ⟨more, moreAdds, moreLength, moreCaret⟩ := adds_retype session.last acceptsStill
  have adds := ownAdds.append moreAdds
  refine ⟨commanded, own, more, typed, ?_⟩
  exact
    { ownChain := text ▸ ownAdds.chain
      ownLength := text ▸ ownLength
      ownCaret
      moreChain := text ▸ moreAdds.chain
      moreLength
      moreCaret := cursor ▸ moreCaret
      entries := by
        rw [← List.map_append]
        exact (History.unsettled_settle _ _).trans
          (congrArg (List.map Change.unsettled) adds.undoable)
      mode := rfl
      keys := adds.keys
      accepts := acceptsStill.follows moreAdds.host }

namespace Repeats

variable {commanded dotted : Session library} {own more : List Change}

theorem chain (repeats : Repeats session commanded dotted own more) :
    Leads session.text (more ++ own).reverse dotted.text := by
  rw [List.reverse_append]
  exact repeats.ownChain.append repeats.moreChain

theorem length (repeats : Repeats session commanded dotted own more) :
    (more ++ own).length = (if commanded.text = session.text then 0 else 1) +
      (if session.last.typed = [] then 0 else 1) := by
  rw [List.length_append, Nat.add_comm, repeats.ownLength, repeats.moreLength]

theorem length_undoable (repeats : Repeats session commanded dotted own more) :
    dotted.history.undoable.length = session.history.undoable.length + (more ++ own).length := by
  have lengths := congrArg List.length repeats.entries
  rw [List.length_append, List.length_map, List.length_map, List.length_map] at lengths
  rw [lengths, Nat.add_comm]

/-- The oldest change has the caret from before the repetition, unless the command moved the caret and
made no change. -/
theorem undoCaret_of_oldest {first : Change} (repeats : Repeats session commanded dotted own more)
    (stays : commanded.text ≠ session.text ∨ commanded.cursor.caret = session.cursor.caret)
    (oldest : (more ++ own).getLast? = some first) : first.undoCaret = session.cursor.caret := by
  by_cases nothing : own = []
  · have length := repeats.ownLength
    rw [nothing] at length
    have same : commanded.cursor.caret = session.cursor.caret := by
      rcases stays with differs | same
      · rw [if_neg differs] at length
        cases length
      · exact same
    rw [nothing, List.append_nil] at oldest
    rw [repeats.moreCaret first (List.mem_of_getLast? oldest), same]
  · rw [List.getLast?_append, List.getLast?_eq_some_getLast nothing, Option.some_or] at oldest
    cases oldest
    exact repeats.ownCaret _ (List.getLast_mem nothing)

theorem press_undo_all (repeats : Repeats session commanded dotted own more)
    (changed : dotted.text ≠ session.text) :
    ∃ undone, dotted.press (List.replicate (more ++ own).length (.char 'u')) = (.ok (), undone) ∧
      undone.text = session.text ∧
      (commanded.text ≠ session.text ∨ commanded.cursor.caret = session.cursor.caret →
        undone.cursor = Cursor.collapsed session.caret) := by
  obtain ⟨undone, undoing, restored, caret⟩ :=
    press_undo repeats.mode repeats.keys repeats.accepts repeats.chain repeats.entries
  have something : more ++ own ≠ [] := by
    intro nothing
    have chain := repeats.chain
    rw [nothing] at chain
    exact changed chain.eq_of_nil
  have oldest := List.getLast?_eq_some_getLast something
  refine ⟨undone, undoing, restored, fun stays => ?_⟩
  rw [caret _ oldest, repeats.undoCaret_of_oldest stays oldest]
  rfl

/-- The newest change leads from the text before the repetition only where it is the only one. -/
theorem exists_newest (repeats : Repeats session commanded dotted own more)
    (changed : dotted.text ≠ session.text) :
    ∃ top older earlier, more ++ own = top :: older ∧ top.Takes earlier dotted.text ∧
      (earlier = session.text ↔ (more ++ own).length = 1) := by
  have ownLength := repeats.ownLength
  have moreLength := repeats.moreLength
  have moreChain := repeats.moreChain
  cases more with
  | nil =>
      have still : dotted.text = commanded.text := moreChain.eq_of_nil
      rw [if_neg (still ▸ changed)] at ownLength
      obtain ⟨top, rfl⟩ := List.length_eq_one_iff.mp ownLength
      exact ⟨top, [], session.text, rfl, still ▸ repeats.ownChain.takes_of_single, by simp⟩
  | cons top rest =>
      have nothing : rest = [] := by
        split at moreLength
        · cases moreLength
        · exact List.eq_nil_of_length_eq_zero (Nat.succ.inj moreLength)
      subst nothing
      refine ⟨top, own, commanded.text, rfl, moreChain.takes_of_single, ?_⟩
      rw [List.singleton_append, List.length_cons, ownLength]
      split <;> simp [*]

theorem key_undo_once (repeats : Repeats session commanded dotted own more)
    (changed : dotted.text ≠ session.text) :
    ∃ once, dotted.key (.char 'u') = (.ok .handled, once) ∧
      (once.text = session.text ↔ (more ++ own).length = 1) := by
  obtain ⟨top, older, earlier, newest, taken, tells⟩ := repeats.exists_newest changed
  have entries := repeats.entries
  rw [newest, List.map_cons, List.cons_append] at entries
  obtain ⟨once, pressed, text, _⟩ :=
    key_undo_of_takes repeats.mode repeats.keys repeats.accepts taken entries
  exact ⟨once, pressed, by rw [text, tells]⟩

end Repeats

/-- A repetition that changes the text adds one change if its command changes it, and one more if text
was typed after the command.  As many `u` restore the text from before, and the caret too unless the
command left the text alone and moved the caret; a single one restores the text where there is one
change only. -/
theorem press_undo_of_dot {allowed : Session library → Event → Prop} {surface : Surface}
    {clipboard : Clipboard} {prompt : Prompt} {options : Options} {outcome : Outcome}
    {dotted : Session library}
    (reached : Reaches allowed (Session.start library surface clipboard prompt options) session)
    (mode : session.mode = .command) (fresh : session.keys = [])
    (accepts : session.surface.Accepts) (pressed : session.key (.char '.') = (.ok outcome, dotted))
    (changed : dotted.text ≠ session.text) :
    ∃ commanded added, session.press (session.last.keys.map .char) = (.ok (), commanded) ∧
      added = (if commanded.text = session.text then 0 else 1) +
        (if session.last.typed = [] then 0 else 1) ∧
      dotted.history.undoable.length = session.history.undoable.length + added ∧
      (∃ undone, dotted.press (List.replicate added (.char 'u')) = (.ok (), undone) ∧
        undone.text = session.text ∧
        (commanded.text ≠ session.text ∨ commanded.cursor.caret = session.cursor.caret →
          undone.cursor = Cursor.collapsed session.caret)) ∧
      ∃ once, dotted.key (.char 'u') = (.ok .handled, once) ∧
        (once.text = session.text ↔ added = 1) := by
  obtain ⟨commanded, own, more, typed, repeats⟩ :=
    repeats_of_dot (ready_of_reaches reached) mode fresh accepts pressed changed
  exact ⟨commanded, (more ++ own).length, typed, repeats.length, repeats.length_undoable,
    repeats.press_undo_all changed, repeats.key_undo_once changed⟩

theorem press_undo_of_substitution :
    let first := Session.start .standard (.ofText "ab".toList) (.ofText []) .silent {}
    let command := (first.handle .enter).handle (.key (.char 's'))
    let session := (command.handle (.insertText "c".toList)).handle .enter
    Reaches (fun _ _ => True) first session ∧ session.text = "cb".toList ∧
      ∃ outcome dotted, session.key (.char '.') = (.ok outcome, dotted) ∧
        dotted.text = "cc".toList ∧
        ∃ undone, dotted.press [.char 'u', .char 'u'] = (.ok (), undone) ∧
          undone.text = "cb".toList ∧ undone.cursor = Cursor.collapsed 1 := by
  have accepts : (((((Session.start .standard (.ofText "ab".toList) (.ofText []) .silent {}).handle
    .enter).handle (.key (.char 's'))).handle (.insertText "c".toList)).handle
    .enter).surface.Accepts := fun _ => rfl
  intro first command session
  have begun : Reaches (fun _ _ => True) first (first.handle .enter) := .step .refl trivial
  have commanded : Reaches (fun _ _ => True) first command := .step begun trivial
  have inserted : Reaches (fun _ _ => True) first (command.handle (.insertText "c".toList)) :=
    .step commanded trivial
  have reached : Reaches (fun _ _ => True) first session := .step inserted trivial
  have mode : session.mode = .command := by decide
  have fresh : session.keys = [] := by decide
  have text : session.text = "cb".toList := by decide
  have caret : session.caret = 1 := by decide
  have last : session.last = ⟨['s'], "c".toList, false, none⟩ := by decide
  have repeated : (session.key (.char '.')).2.text = "cc".toList := by decide
  have succeeds : (session.key (.char '.')).1.isOk = true := by decide
  have typed : (session.press [.char 's']).2.text = "c".toList := by decide
  change session.surface.Accepts at accepts
  clear_value session
  obtain ⟨outcome, dotted, pressed⟩ :
      ∃ outcome dotted, session.key (.char '.') = (.ok outcome, dotted) := by
    generalize session.key (.char '.') = attempt at succeeds
    obtain ⟨error | outcome, dotted⟩ := attempt
    · cases succeeds
    · exact ⟨outcome, dotted, rfl⟩
  rw [pressed] at repeated
  have changed : dotted.text ≠ session.text := by
    rw [repeated, text]
    decide
  obtain ⟨substituted, added, substituting, sum, _, ⟨undone, undoing, restored, cursor⟩, _⟩ :=
    press_undo_of_dot reached mode fresh accepts pressed changed
  rw [last] at substituting sum
  have shortened : substituted.text = "c".toList := by
    rw [← typed]
    exact congrArg (fun attempt : Attempt .standard Unit => attempt.2.text) substituting.symm
  have differs : substituted.text ≠ session.text := by
    rw [shortened, text]
    decide
  have two : added = 2 := by
    rw [sum, if_neg differs]
    rfl
  rw [two] at undoing
  exact ⟨reached, text, outcome, dotted, pressed, repeated, undone, undoing, restored.trans text,
    (cursor (.inl differs)).trans (congrArg Cursor.collapsed caret)⟩

/-- One `u` takes back what was typed and leaves what the command did. -/
theorem key_undo_after_substitution :
    let session := ((((Session.start .standard (.ofText "ab".toList) (.ofText []) .silent {}).handle
      .enter).handle (.key (.char 's'))).handle (.insertText "c".toList)).handle .enter
    let dotted := (session.key (.char '.')).2
    session.text = "cb".toList ∧ (session.key (.char '.')).1 = .ok .handled ∧
      dotted.text = "cc".toList ∧ (dotted.key (.char 'u')).2.text = "c".toList := by
  intro session dotted
  exact ⟨by decide, rfl, by decide, by decide⟩

end Session

end ModalVi
