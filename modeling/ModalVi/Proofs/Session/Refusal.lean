import ModalVi.Proofs.History.Noting
import ModalVi.Proofs.Session.Attribution
import ModalVi.Proofs.Session.Stepwise
import ModalVi.Proofs.Session.Typing
import ModalVi.Regex.Engine

namespace ModalVi

/-! A host that refuses every edit is left alone.

Whatever keys are pressed then, the text stays, no change is made, undone or remembered, and what `.`
repeats stays the same.  That takes a session that knows its text when the refusals begin, since text it
does not know would become a change. -/

namespace History

variable {history remaining : History} {surface after : Surface} {caret : Nat}

theorem accepted_of_undo (undone : history.undo surface = (some caret, remaining, after)) :
    surface.verdicts 0 = true := by
  simp only [undo] at undone
  split at undone
  · cases undone
  · split at undone
    · rename_i made
      exact (Surface.eq_edited_of_edit made).2.2.1
    · cases undone

theorem accepted_of_redo (redone : history.redo surface = (some caret, remaining, after)) :
    surface.verdicts 0 = true := by
  simp only [redo] at redone
  split at redone
  · cases redone
  · split at redone
    · rename_i made
      exact (Surface.eq_edited_of_edit made).2.2.1
    · cases redone

theorem since_length (history : History) : history.since history.undoable.length = [] := by
  rw [since, ← List.length_reverse, List.drop_length]

end History

namespace Session

variable {library : Library} {session before middle after : Session library}

/-! ### Before the refusals -/

/-- The host edits its field only while the user types. -/
def Reserved (session : Session library) : Event → Prop
  | .field surface => session.mode = .insert ∨ surface.text = session.text
  | _ => True

theorem stepwise_known :
    Stepwise fun (before after : Session library) => before.known = before.text →
      after.known = after.text where
  trans first second := second ∘ first
  apart apart known := by
    rw [apart.known, text, apart.surface]
    exact known
  placed _ _ known := known
  shown _ _ known := known
  judged _ known := known
  replaced offset asked _ := by
    obtain ⟨_, _, _, _, _, _, rfl⟩ := eq_replaced_of_replace asked
    rfl
  undone _ _ := rfl
  redone _ _ := rfl
  noticed _ _ := rfl
  closed _ known := known
  settled _ known := known
  scrolled _ _ known := known
  commanding _ known := known
  typing _ _ := rfl
  released _ _ := rfl
  recorded _ kept _ known := kept known
  resumed kept known := kept known

theorem known_reconcile (session : Session library) :
    session.reconcile.known = session.reconcile.text := by
  simp only [reconcile]
  split <;> rfl

/-- Where the host edits only while the user types, a session knows its text whenever the user does not
type. -/
theorem known_of_reaches {surface : Surface} {clipboard : Clipboard} {prompt : Prompt}
    {options : Options}
    (reached : Reaches Reserved (Session.start library surface clipboard prompt options) session) :
    session.mode ≠ .insert → session.known = session.text := by
  induction reached with
  | refl => exact fun owned => absurd rfl owned
  | @step session reached event reserved ih =>
      cases event with
      | key pressed =>
          intro owned
          by_cases inserting : session.mode = .insert
          · rw [handle] at owned ⊢
            rcases key_of_insert inserting pressed with same | same | same
            · rw [same]
              exact known_reconcile session
            · rw [same, (beside_insertText _ session).mode] at owned
              exact absurd inserting owned
            · rw [same] at owned
              exact absurd inserting owned
          · refine stepwise_known.key inserting pressed (fun c _ _ => ?_) ?_ (ih inserting)
            · exact fun _ _ _ _ _ => stepwise_known.searchWord _ _ _ id
            · exact fun _ _ _ _ _ => stepwise_known.searchWord _ _ _ id
      | insertText new =>
          intro owned
          have mode : session.mode ≠ .insert := by
            rw [← (beside_insertText new session).mode]
            exact owned
          simp only [handle, insertText]
          split
          · exact ih mode
          · split
            · rename_i refused
              rcases eq_of_replace_eq_false refused with rfl | rfl
              · exact known_reconcile session
              · exact known_reconcile session
            · rename_i made
              obtain ⟨_, _, _, _, _, _, rfl⟩ := eq_replaced_of_replace made
              rfl
      | enter => exact fun _ => known_reconcile session
      | release | blur => exact fun _ => rfl
      | mouseSelection =>
          intro owned
          simp only [handle, mouseSelection] at owned ⊢
          split
          · rename_i engine
            rw [if_pos engine] at owned
            exact ih owned
          · rename_i engine
            have known := ih (by simpa [Mode.isEngineOwned] using engine)
            split
            · exact known
            · split <;> exact known
      | field surface =>
          intro owned
          exact (ih owned).trans (reserved.resolve_left owned).symm
      | setDebug debug | clipboard clipboard | prompt prompt => exact ih

/-! ### While everything is refused -/

/-- The host refuses everything, the session knows the text, and nothing typed is waiting to be
remembered. -/
structure Barred (session : Session library) : Prop where
  refuses : session.surface.Refuses
  known : session.known = session.text
  idle : session.last.capturing = false
  marked : session.last.mark.getD session.history.undoable.length = session.history.undoable.length

/-- The text, the changes and what `.` repeats are the same; only carets after changes may have been
noted. -/
structure Unmoved (before after : Session library) : Prop where
  text : after.text = before.text
  undoable : after.history.undoable.map Change.unsettled =
    before.history.undoable.map Change.unsettled
  redoable : after.history.redoable = before.history.redoable
  keys : after.last.keys = before.last.keys
  typed : after.last.typed = before.last.typed

theorem Unmoved.trans (first : Unmoved before middle) (second : Unmoved middle after) :
    Unmoved before after where
  text := second.text.trans first.text
  undoable := second.undoable.trans first.undoable
  redoable := second.redoable.trans first.redoable
  keys := second.keys.trans first.keys
  typed := second.typed.trans first.typed

theorem Unmoved.length (unmoved : Unmoved before after) :
    after.history.undoable.length = before.history.undoable.length := by
  have lengths := congrArg List.length unmoved.undoable
  rwa [List.length_map, List.length_map] at lengths

/-- What a step does to a session whose host refuses everything. -/
structure Vain (before after : Session library) : Prop extends Unmoved before after where
  barred : after.Barred
  changed : after.changed = true → before.changed = true

theorem Vain.trans (first : Vain before middle) (second : Vain middle after) :
    Vain before after where
  toUnmoved := first.toUnmoved.trans second.toUnmoved
  barred := second.barred
  changed := first.changed ∘ second.changed

/-- What text, history and last change are, tells whether a step was in vain. -/
theorem Barred.vain (barred : before.Barred) (unmoved : Unmoved before after)
    (refuses : after.surface.Refuses)
    (known : after.known = before.known ∨ after.known = before.text)
    (idle : after.last.capturing = before.last.capturing)
    (marked : after.last.mark = before.last.mark ∨
      after.last.mark.getD after.history.undoable.length = after.history.undoable.length)
    (changed : after.changed = true → before.changed = true) : Vain before after where
  toUnmoved := unmoved
  barred := by
    refine ⟨refuses, ?_, idle.trans barred.idle, ?_⟩
    · rw [unmoved.text]
      rcases known with same | noticed
      · exact same.trans barred.known
      · exact noticed
    · rcases marked with same | whole
      · rw [same, unmoved.length]
        exact barred.marked
      · exact whole
  changed

/-- A step that leaves all of them alone. -/
theorem Barred.vain_of_same (barred : before.Barred) (text : after.text = before.text)
    (refuses : after.surface.Refuses) (undoable : after.history.undoable = before.history.undoable)
    (redoable : after.history.redoable = before.history.redoable) (last : after.last = before.last)
    (known : after.known = before.known ∨ after.known = before.text)
    (changed : after.changed = true → before.changed = true) : Vain before after :=
  barred.vain ⟨text, congrArg _ undoable, redoable, congrArg _ last, congrArg _ last⟩ refuses known
    (congrArg _ last) (.inl (congrArg _ last)) changed

theorem not_of_refuses {surface : Surface} {claim : Prop} (refuses : surface.Refuses)
    (accepted : surface.verdicts 0 = true) : claim :=
  absurd ((refuses 0).symm.trans accepted) (by decide)

theorem Barred.of_refused {low high : Nat} {new : Text} {merging made : Bool}
    (barred : session.Barred) (asked : session.replace low high new merging = (made, after)) :
    made = false ∧ Vain session after := by
  cases made with
  | false =>
      refine ⟨rfl, ?_⟩
      rcases eq_of_replace_eq_false asked with rfl | rfl
      · exact barred.vain_of_same rfl barred.refuses rfl rfl rfl (.inl rfl) id
      · exact barred.vain_of_same rfl barred.refuses.judged rfl rfl rfl (.inl rfl) id
  | true =>
      obtain ⟨_, _, _, _, _, accepted, _⟩ := eq_replaced_of_replace asked
      exact not_of_refuses barred.refuses accepted

theorem stepwise_vain :
    Stepwise fun (before after : Session library) => before.Barred → Vain before after where
  trans first second barred := (first barred).trans (second (first barred).barred)
  apart {before after} apart barred :=
    barred.vain_of_same (congrArg Surface.text apart.surface) (apart.surface ▸ barred.refuses)
      (congrArg _ apart.history) (congrArg _ apart.history) apart.last (.inl apart.known)
      fun changed => by
        rcases apart.changed with same | fresh
        · exact same ▸ changed
        · exact absurd (fresh.symm.trans changed) (by decide)
  placed _ _ barred := barred.vain_of_same rfl barred.refuses rfl rfl rfl (.inl rfl) id
  shown _ _ barred := barred.vain_of_same rfl barred.refuses rfl rfl rfl (.inl rfl) id
  judged _ barred := barred.vain_of_same rfl barred.refuses.judged rfl rfl rfl (.inl rfl) id
  replaced _ asked barred := absurd (barred.of_refused asked).1 (by decide)
  undone undone barred := not_of_refuses barred.refuses (History.accepted_of_undo undone)
  redone redone barred := not_of_refuses barred.refuses (History.accepted_of_redo redone)
  noticed _ barred := barred.vain_of_same rfl barred.refuses rfl rfl rfl (.inr rfl) id
  closed _ barred := barred.vain_of_same rfl barred.refuses rfl rfl rfl (.inl rfl) id
  settled session barred :=
    barred.vain
      ⟨rfl, History.unsettled_settle _ _, History.redoable_settle _ _, rfl, rfl⟩
      barred.refuses (.inl rfl) rfl (.inl rfl) id
  scrolled _ _ barred := barred.vain_of_same rfl barred.refuses rfl rfl rfl (.inl rfl) id
  commanding _ barred := barred.vain_of_same rfl barred.refuses rfl rfl rfl (.inl rfl) id
  typing _ barred :=
    barred.vain ⟨rfl, rfl, rfl, rfl, rfl⟩ barred.refuses (.inr rfl) rfl (.inr rfl) id
  released _ barred := barred.vain_of_same rfl barred.refuses rfl rfl rfl (.inr rfl) id
  recorded {before after} _ kept changed barred := by
    have fresh := kept ⟨barred.refuses, barred.known, barred.idle, barred.marked⟩
    cases fresh.changed changed
  resumed kept barred := by
    have vain := kept barred
    refine barred.vain ⟨vain.text, vain.undoable, vain.redoable, rfl, rfl⟩ vain.barred.refuses
      (.inr ?_) rfl (.inl rfl) vain.changed
    exact vain.barred.known.trans vain.text

/-- Nothing was typed that could be remembered. -/
theorem Barred.enter (barred : session.Barred) : Vain session session.enter := by
  have nothing : (session.history.since
      (session.last.mark.getD session.history.undoable.length)).flatMap (·.new) = [] := by
    rw [barred.marked, History.since_length]
    rfl
  have last : session.last.finishTyping [] = { session.last with mark := none } := by
    simp [LastChange.finishTyping, barred.idle]
  have entered : ∃ cursor mode, session.enter =
      { session with
        last := { session.last with mark := none }
        cursor
        history := session.history.settle cursor.caret
        keys := []
        tabArmed := true
        mode } := by
    simp only [Session.enter, reconcile_of_known barred.known, nothing, last]
    exact ⟨_, _, rfl⟩
  obtain ⟨cursor, mode, entered⟩ := entered
  rw [entered]
  exact barred.vain ⟨rfl, History.unsettled_settle _ _, History.redoable_settle _ _, rfl, rfl⟩
    barred.refuses (.inl rfl) rfl (.inr rfl) id

theorem Barred.insertText (barred : session.Barred) (new : Text) :
    Vain session (session.insertText new).2 := by
  have still : Vain session session := stepwise_vain.refl session barred
  simp only [Session.insertText, reconcile_of_known barred.known]
  split
  · exact still
  · have moved : Vain session
        { session with cursor := Cursor.collapsed session.surface.selection.start } :=
      barred.vain_of_same rfl barred.refuses rfl rfl rfl (.inl rfl) id
    split
    · rename_i refused
      exact moved.trans (moved.barred.of_refused refused).2
    · rename_i made
      exact absurd (moved.barred.of_refused made).1 (by decide)

theorem Barred.key (barred : session.Barred) (pressed : Key) :
    Vain session (session.key pressed).2 := by
  by_cases inserting : session.mode = .insert
  · rcases key_of_insert inserting pressed with same | same | same
    · rw [same]
      exact barred.enter
    · rw [same]
      exact barred.insertText _
    · rw [same]
      exact stepwise_vain.refl session barred
  · have admits (keys : List Char) :
        Admits (fun (before after : Session library) => before.Barred → Vain before after)
          .command keys := by
      intro count direction _ session _
      apply stepwise_vain.searchWord
      intro barred
      exact barred.vain_of_same rfl barred.refuses rfl rfl rfl (.inl rfl) id
    exact stepwise_vain.key inserting pressed (fun _ _ _ => admits _) (admits _) barred

/-- The host refuses every edit and makes none. -/
def Refusing (session : Session library) : Event → Prop
  | .field surface => surface.text = session.text ∧ surface.Refuses
  | _ => True

theorem Barred.handle {event : Event} (barred : session.Barred)
    (refusing : session.Refusing event) :
    Vain session (session.handle event) := by
  cases event with
  | key pressed => exact barred.key pressed
  | insertText new => exact barred.insertText new
  | enter => exact barred.enter
  | release | blur => exact barred.vain_of_same rfl barred.refuses rfl rfl rfl (.inr rfl) id
  | mouseSelection =>
      simp only [Session.handle, mouseSelection]
      split
      · exact stepwise_vain.refl session barred
      · split
        · exact barred.vain_of_same rfl barred.refuses rfl rfl rfl (.inl rfl) id
        · split <;> exact barred.vain_of_same rfl barred.refuses rfl rfl rfl (.inl rfl) id
  | field surface =>
      exact barred.vain_of_same refusing.1 refusing.2 rfl rfl rfl (.inl rfl) id
  | setDebug debug | clipboard clipboard | prompt prompt =>
      exact barred.vain_of_same rfl barred.refuses rfl rfl rfl (.inl rfl) id

theorem Barred.vain_of_reaches (barred : session.Barred)
    (reached : Reaches Refusing session after) :
    Vain session after := by
  induction reached with
  | refl => exact stepwise_vain.refl session barred
  | step _ refusing ih => exact ih.trans (ih.barred.handle refusing)

/-- From a command on, a host that refuses every edit and makes none keeps its text, and the session its
changes and what it repeats, whatever happens. -/
theorem unmoved_of_refusing {surface : Surface} {clipboard : Clipboard} {prompt : Prompt}
    {options : Options}
    (reached : Reaches Reserved (Session.start library surface clipboard prompt options) session)
    (mode : session.mode = .command) (refuses : session.surface.Refuses)
    (refused : Reaches Refusing session after) :
    after.text = session.text ∧
      after.history.undoable.map Change.unsettled =
        session.history.undoable.map Change.unsettled ∧
      after.history.redoable = session.history.redoable ∧
      after.last.keys = session.last.keys ∧ after.last.typed = session.last.typed := by
  have owned : session.mode ≠ .insert := by simp [mode]
  have attributed := attributed_of_reaches reached
  have barred : session.Barred := by
    refine ⟨refuses, known_of_reaches reached owned, attributed.idle owned, ?_⟩
    rw [attributed.unmarked owned]
    rfl
  have vain := barred.vain_of_reaches refused
  exact ⟨vain.text, vain.undoable, vain.redoable, vain.keys, vain.typed⟩

/-- After a deletion, an undo, a repetition and typing are all refused. -/
theorem unmoved_of_refusing_after_deletion :
    let first := Session.start .standard (.ofText "abc".toList) (.ofText []) .silent {}
    let deleted := (first.handle .enter).handle (.key (.char 'x'))
    let session := deleted.handle (.field (deleted.surface.withPolicy false))
    let tried := ((session.handle (.key (.char 'u'))).handle (.key (.char '.'))).handle
      (.key (.char 'i'))
    let after := (tried.handle (.insertText "d".toList)).handle (.key .escape)
    session.text = "bc".toList ∧ session.last.keys = ['x'] ∧ after.mode = .command ∧
      after.text = session.text ∧ after.history.undoable.map Change.unsettled =
        session.history.undoable.map Change.unsettled ∧ after.last.keys = session.last.keys := by
  intro first deleted session tried after
  have text : session.text = "bc".toList := by decide
  have keys : session.last.keys = ['x'] := by decide
  have command : session.mode = .command := by decide
  have mode : after.mode = .command := by decide
  have begun : Reaches Reserved first deleted := .step (.step .refl trivial) trivial
  have refuses : (deleted.surface.withPolicy false).Refuses := fun _ => rfl
  clear_value deleted
  have reached : Reaches Reserved first session := .step begun (.inr rfl)
  have refused : Reaches Refusing session after :=
    .step (.step (.step (.step (.step .refl trivial) trivial) trivial) trivial) trivial
  clear_value after
  obtain ⟨sameText, undoable, _, sameKeys, _⟩ :=
    unmoved_of_refusing reached command refuses refused
  exact ⟨text, keys, mode, sameText, undoable, sameKeys⟩

end Session

end ModalVi
