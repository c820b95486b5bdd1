import ModalVi.Proofs.Session.Visual

namespace ModalVi

/-! The mode that a command leads to, and what it leaves to be repeated.

A command of command mode hands over for typing or it does not, and its keys alone tell which.  Apart
from that it leaves mode, last change and keys alone, and `changed` as well if it is no command that
edits.  A command of visual mode that does more than select ends visual mode. -/

/-- Whether the command hands the text over for typing. -/
def Command.inserts : Command → Bool
  | .insert | .insertAtIndent | .append | .appendAtLineEnd | .openBelow | .openAbove | .changeLines
  | .change _ => true
  | .deleteAhead inserting | .deleteToLineEnd inserting => inserting
  | _ => false

/-- Whether the command can replace text by itself. -/
def Command.edits : Command → Bool
  | .openBelow | .openAbove | .deleteAhead _ | .deleteBehind | .deleteToLineEnd _ | .changeLines
  | .delete _ | .change _ | .put _ | .shift _ _ | .join _ | .reflow _ | .swapCase => true
  | _ => false

theorem Command.absurd_of_edits {command : Command} {claim : Prop} (edits : command.edits = true)
    (reads : command.edits = false) : claim :=
  absurd (edits.symm.trans reads) (by simp)

theorem Mode.command_or_insert {mode : Mode} (notVisual : mode.isVisual = false) :
    mode = .command ∨ mode = .insert := by
  cases mode with
  | insert => exact .inr rfl
  | command => exact .inl rfl
  | visual kind => cases notVisual

namespace Session

variable {library : Library} {session before middle after : Session library} {count : Nat}

/-- Mode, last change and keys are as they were. -/
structure Beside (before after : Session library) : Prop where
  mode : after.mode = before.mode
  last : after.last = before.last
  keys : after.keys = before.keys

/-- No edit was made either. -/
structure Aside (before after : Session library) : Prop extends Beside before after where
  changed : after.changed = before.changed

theorem Beside.refl (session : Session library) : Beside session session := ⟨rfl, rfl, rfl⟩

theorem Beside.trans (first : Beside before middle) (second : Beside middle after) :
    Beside before after :=
  ⟨second.mode.trans first.mode, second.last.trans first.last, second.keys.trans first.keys⟩

theorem Aside.trans (first : Aside before middle) (second : Aside middle after) :
    Aside before after :=
  ⟨first.toBeside.trans second.toBeside, second.changed.trans first.changed⟩

theorem beside_of_replace {low high : Nat} {new : Text} {merging made : Bool}
    (asked : session.replace low high new merging = (made, after)) : Beside session after := by
  cases made with
  | false => rcases eq_of_replace_eq_false asked with rfl | rfl <;> exact ⟨rfl, rfl, rfl⟩
  | true =>
      obtain ⟨_, _, _, _, _, _, rfl⟩ := eq_replaced_of_replace asked
      exact ⟨rfl, rfl, rfl⟩

theorem aside_setCursor (offset : Nat) (session : Session library) :
    Aside session (session.setCursor offset) := ⟨⟨rfl, rfl, rfl⟩, rfl⟩

theorem Replaces.beside (replaces : Replaces before after) : Beside before after := by
  cases replaces with
  | placed asked offset =>
      exact (beside_of_replace asked).trans (aside_setCursor offset _).toBeside
  | refused asked => exact beside_of_replace asked

theorem beside_put_setCursor (low high : Nat) (new : Text) (offset : Nat) (session : Session library) :
    Beside session ((session.put low high new).setCursor offset) :=
  (replaces_put low high new offset session).beside

theorem beside_erase (low high : Nat) (session : Session library) :
    Beside session (session.erase low high) :=
  beside_put_setCursor low high [] low session

theorem beside_reflow (start stop : Nat) (session : Session library) :
    Beside session (session.reflow start stop) :=
  beside_put_setCursor ..

theorem aside_of_copy {content : Text} {result : Except EditError Unit}
    (copied : session.copy content = (result, after)) : Aside session after := by
  simp only [copy] at copied
  split at copied <;> cases copied <;> exact ⟨⟨rfl, rfl, rfl⟩, rfl⟩

theorem aside_of_paste {result : Except EditError Text}
    (pasted : session.paste = (result, after)) : Aside session after := by
  simp only [paste] at pasted
  split at pasted <;> cases pasted <;> exact ⟨⟨rfl, rfl, rfl⟩, rfl⟩

theorem aside_of_ask {kind : PromptKind} {line : Option Text}
    (asked : session.ask kind = (line, after)) : Aside session after := by
  simp only [ask] at asked
  split at asked <;> cases asked <;> exact ⟨⟨rfl, rfl, rfl⟩, rfl⟩

theorem aside_of_searchMove {reversed : Bool} {result : Except EditError Unit}
    (moved : session.searchMove reversed count = (result, after)) : Aside session after := by
  simp only [searchMove] at moved
  split at moved <;> cases moved <;> exact ⟨⟨rfl, rfl, rfl⟩, rfl⟩

theorem aside_of_searchWord {direction : Direction} {result : Except EditError Unit}
    (moved : session.searchWord direction count = (result, after)) : Aside session after := by
  simp only [searchWord] at moved
  split at moved
  · cases moved
    exact ⟨⟨rfl, rfl, rfl⟩, rfl⟩
  · have searched := aside_of_searchMove moved
    exact ⟨⟨searched.mode, searched.last, searched.keys⟩, searched.changed⟩

theorem aside_of_searchPrompt {kind : PromptKind} {result : Except EditError Unit}
    (asked : session.searchPrompt kind = (result, after)) : Aside session after := by
  simp only [searchPrompt] at asked
  split at asked
  · rename_i next answered
    cases asked
    exact aside_of_ask answered
  · rename_i next answered
    have aside := aside_of_ask answered
    split at asked
    · have searched := aside_of_searchMove asked
      exact aside.trans ⟨⟨searched.mode, searched.last, searched.keys⟩, searched.changed⟩
    · cases asked
      exact aside
  · rename_i line next _ answered
    have searched := aside_of_searchMove asked
    exact (aside_of_ask answered).trans
      ⟨⟨searched.mode, searched.last, searched.keys⟩, searched.changed⟩

theorem aside_undoTimes (count : Nat) (session : Session library) :
    Aside session (session.undoTimes count) := by
  induction count generalizing session with
  | zero => exact ⟨.refl session, rfl⟩
  | succ count ih =>
      simp only [undoTimes]
      split
      · rename_i caret _
        have next := ih (setCursor caret
          { session with
            history := (session.history.undo session.surface).2.1
            surface := (session.history.undo session.surface).2.2 })
        exact ⟨⟨next.mode, next.last, next.keys⟩, next.changed⟩
      · exact ⟨⟨rfl, rfl, rfl⟩, rfl⟩

theorem aside_redoTimes (count : Nat) (session : Session library) :
    Aside session (session.redoTimes count) := by
  induction count generalizing session with
  | zero => exact ⟨.refl session, rfl⟩
  | succ count ih =>
      simp only [redoTimes]
      split
      · rename_i caret _
        have next := ih (setCursor caret
          { session with
            history := (session.history.redo session.surface).2.1
            surface := (session.history.redo session.surface).2.2 })
        exact ⟨⟨next.mode, next.last, next.keys⟩, next.changed⟩
      · exact ⟨⟨rfl, rfl, rfl⟩, rfl⟩

theorem beside_of_extend {motion : Motion}
    (done : session.extend motion count = (.ok (), after)) : Beside session after := by
  simp only [extend] at done
  split at done
  · cases done
  · obtain ⟨-, rfl⟩ := Prod.mk.inj done
    exact ⟨rfl, rfl, rfl⟩

/-- A motion that leads somewhere leaves the rest to what is done there. -/
theorem exists_of_withTarget_eq_ok {change : Bool} {motion : Motion}
    {act : Cursor → Session library → Attempt library Unit}
    (done : session.withTarget change motion count act = (.ok (), after)) :
    ∃ cursor moved, Aside session moved ∧ act cursor moved = (.ok (), after) := by
  simp only [withTarget, target] at done
  split at done
  · rename_i cursor remembering resolved
    split at resolved
    · cases resolved
      exact ⟨cursor, { session with charSearch := motion.remember session.charSearch },
        ⟨⟨rfl, rfl, rfl⟩, rfl⟩, done⟩
    · cases resolved
  · cases done

/-- What a command does to the mode is to hand over for typing or not.  Where it hands over after an
edit, the caret is placed for that. -/
theorem act_cases {command : Command} (notVisual : ∀ kind, command ≠ .visual kind)
    (done : session.act command count = (.ok (), after)) :
    ∃ middle, Beside session middle ∧
      (command.edits = false → middle.changed = session.changed) ∧
      ((command.inserts = true ∧ after = middle.toInsert ∧
          (command.edits = true → Placed middle)) ∨
        (command.inserts = false ∧ after = middle)) := by
  cases command with
  | insert =>
      simp only [act, Prod.mk.injEq, true_and] at done
      exact ⟨session, .refl session, fun _ => rfl,
        .inl ⟨rfl, done.symm, fun edits => Command.absurd_of_edits edits rfl⟩⟩
  | insertAtIndent | append | appendAtLineEnd =>
      simp only [act, Prod.mk.injEq, true_and] at done
      exact ⟨_, (aside_setCursor _ session).toBeside, fun _ => rfl,
        .inl ⟨rfl, done.symm, fun _ => placed_setCursor _ _⟩⟩
  | openBelow | openAbove | changeLines =>
      simp only [act, Prod.mk.injEq, true_and] at done
      exact ⟨_, beside_put_setCursor .., Command.absurd_of_edits rfl,
        .inl ⟨rfl, done.symm, fun _ => placed_setCursor _ _⟩⟩
  | deleteAhead inserting | deleteToLineEnd inserting =>
      simp only [act, Prod.mk.injEq, true_and] at done
      cases inserting with
      | false => exact ⟨_, beside_erase .., Command.absurd_of_edits rfl, .inr ⟨rfl, done.symm⟩⟩
      | true =>
          exact ⟨_, beside_erase .., Command.absurd_of_edits rfl,
            .inl ⟨rfl, done.symm, fun _ => placed_setCursor _ _⟩⟩
  | deleteBehind | swapCase =>
      simp only [act, Prod.mk.injEq, true_and] at done
      exact ⟨_, beside_put_setCursor .., Command.absurd_of_edits rfl, .inr ⟨rfl, done.symm⟩⟩
  | delete motion =>
      obtain ⟨cursor, moved, aside, acted⟩ := exists_of_withTarget_eq_ok done
      obtain ⟨-, rfl⟩ := Prod.mk.inj acted
      exact ⟨_, aside.toBeside.trans (beside_erase ..), Command.absurd_of_edits rfl,
        .inr ⟨rfl, rfl⟩⟩
  | change motion =>
      obtain ⟨cursor, moved, aside, acted⟩ := exists_of_withTarget_eq_ok done
      obtain ⟨-, rfl⟩ := Prod.mk.inj acted
      exact ⟨_, aside.toBeside.trans (beside_erase ..), Command.absurd_of_edits rfl,
        .inl ⟨rfl, rfl, fun _ => placed_setCursor _ _⟩⟩
  | yank motion =>
      obtain ⟨cursor, moved, aside, acted⟩ := exists_of_withTarget_eq_ok done
      split at acted
      · rename_i copied
        obtain ⟨-, rfl⟩ := Prod.mk.inj acted
        have yanked := aside.trans ((aside_of_copy copied).trans (aside_setCursor cursor.low _))
        exact ⟨_, yanked.toBeside, fun _ => yanked.changed, .inr ⟨rfl, rfl⟩⟩
      · have yanked := aside.trans (aside_of_copy acted)
        exact ⟨after, yanked.toBeside, fun _ => yanked.changed, .inr ⟨rfl, rfl⟩⟩
  | yankLines =>
      simp only [act] at done
      have aside := aside_of_copy done
      exact ⟨after, aside.toBeside, fun _ => aside.changed, .inr ⟨rfl, rfl⟩⟩
  | put next =>
      simp only [act, putClipboard] at done
      split at done
      · cases done
      · rename_i pasted
        cases done
        exact ⟨after, (aside_of_paste pasted).toBeside, Command.absurd_of_edits rfl,
          .inr ⟨rfl, rfl⟩⟩
      · rename_i pasted
        obtain ⟨-, rfl⟩ := Prod.mk.inj done
        exact ⟨_, (aside_of_paste pasted).toBeside.trans (replaces_putText ..).beside,
          Command.absurd_of_edits rfl, .inr ⟨rfl, rfl⟩⟩
  | shift inward motion =>
      obtain ⟨cursor, moved, aside, acted⟩ := exists_of_withTarget_eq_ok done
      obtain ⟨-, rfl⟩ := Prod.mk.inj acted
      exact ⟨moved.shift inward (motion == .wholeLines) cursor,
        aside.toBeside.trans (replaces_shift ..).beside, Command.absurd_of_edits rfl, .inr ⟨rfl, rfl⟩⟩
  | join between =>
      simp only [act, Prod.mk.injEq, true_and] at done
      exact ⟨session.join between count, (replaces_join ..).beside, Command.absurd_of_edits rfl,
        .inr ⟨rfl, done.symm⟩⟩
  | reflow motion =>
      obtain ⟨cursor, moved, aside, acted⟩ := exists_of_withTarget_eq_ok done
      obtain ⟨-, rfl⟩ := Prod.mk.inj acted
      exact ⟨moved.reflow (moved.lineSpan cursor).1 (moved.lineSpan cursor).2,
        aside.toBeside.trans (beside_reflow ..), Command.absurd_of_edits rfl, .inr ⟨rfl, rfl⟩⟩
  | visual kind => exact absurd rfl (notVisual kind)
  | searchWord direction =>
      simp only [act] at done
      have aside := aside_of_searchWord done
      exact ⟨after, aside.toBeside, fun _ => aside.changed, .inr ⟨rfl, rfl⟩⟩
  | searchNext reversed =>
      simp only [act] at done
      have aside := aside_of_searchMove done
      exact ⟨after, aside.toBeside, fun _ => aside.changed, .inr ⟨rfl, rfl⟩⟩
  | searchPrompt kind =>
      simp only [act] at done
      have aside := aside_of_searchPrompt done
      exact ⟨after, aside.toBeside, fun _ => aside.changed, .inr ⟨rfl, rfl⟩⟩
  | undo =>
      simp only [act, Prod.mk.injEq, true_and] at done
      have undone := aside_undoTimes count session
      exact ⟨session.undo count, ⟨undone.mode, undone.last, undone.keys⟩,
        fun _ => undone.changed, .inr ⟨rfl, done.symm⟩⟩
  | move motion =>
      obtain ⟨cursor, moved, aside, acted⟩ := exists_of_withTarget_eq_ok done
      obtain ⟨-, rfl⟩ := Prod.mk.inj acted
      exact ⟨_, (aside.trans (aside_setCursor _ _)).toBeside, fun _ => aside.changed,
        .inr ⟨rfl, rfl⟩⟩
  | exPrompt | repeatLast =>
      simp only [act, Prod.mk.injEq, true_and] at done
      exact ⟨session, .refl session, fun _ => rfl, .inr ⟨rfl, done.symm⟩⟩

theorem beside_of_runEx {line : Text} {selection : Option Cursor} {flow : Flow}
    (done : session.runEx line selection = (.ok flow, after)) :
    Beside session after ∧ ∀ count, flow ≠ .again count := by
  simp only [runEx] at done
  split at done
  · cases done
  · split at done
    · cases done
    · rename_i substitution chosen
      split at done
      · cases done
      · rename_i result executed
        split at done
        · cases done
        · split at done
          · cases done
            exact ⟨⟨rfl, rfl, rfl⟩, by simp⟩
          · let begun : Session library := { session with lastSubstitution := some substitution }
            have put : Beside begun (begun.put result.start result.stop result.text) :=
              beside_of_replace rfl
            obtain ⟨said, rfl⟩ := Prod.mk.inj done
            cases said
            refine ⟨?_, by simp⟩
            split <;> exact ⟨put.mode, put.last, put.keys⟩

theorem beside_of_exPrompt {selection : Option Cursor} {flow : Flow}
    (done : session.exPrompt selection = (.ok flow, after)) :
    Beside session after ∧ ∀ count, flow ≠ .again count := by
  simp only [exPrompt] at done
  split at done
  · rename_i next asked
    cases done
    exact ⟨(aside_of_ask asked).toBeside, by simp⟩
  · rename_i line next asked
    obtain ⟨beside, once⟩ := beside_of_runEx done
    exact ⟨(aside_of_ask asked).toBeside.trans beside, once⟩

/-- What a command leaves to be repeated: what was there before, or itself.  Only where it hands over for
typing, where that began is noted. -/
inductive Remembered (keys : List Char) (before after : Session library) : Prop where
  | same (sameKeys : after.last.keys = before.last.keys)
      (sameTyped : after.last.typed = before.last.typed)
      (sameCapturing : after.last.capturing = before.last.capturing)
      (marked : after.mode = .insert ∨ after.last.mark = before.last.mark) :
      Remembered keys before after
  | recorded {count : Nat} {command : Command} (mode : before.mode = .command)
      (read : Command.parse keys = .ok (count, command))
      (edits : command.edits = true) (itself : after.last.keys = keys)
      (nothing : after.last.typed = []) (capturing : after.last.capturing = command.inserts)
      (led : command.inserts = true → after.mode = .insert)
      (marked : after.mode = .insert ∨ after.last.mark = before.last.mark) :
      Remembered keys before after

theorem Beside.remembered (beside : Beside before after) (keys : List Char) :
    Remembered keys before after :=
  .same (by rw [beside.last]) (by rw [beside.last]) (by rw [beside.last]) (.inr (by rw [beside.last]))

theorem Beside.ended (beside : Beside before after) (keys : List Char) :
    (Kept before after.toCommand ∨ after.toCommand.mode = .command ∨
        after.toCommand.mode = .insert) ∧ Remembered keys before after.toCommand :=
  ⟨.inr (.inl rfl), .same (by rw [← beside.last]; rfl) (by rw [← beside.last]; rfl)
    (by rw [← beside.last]; rfl) (.inr (by rw [← beside.last]; rfl))⟩

/-- A command that neither asks for a line nor repeats is carried out and then remembered. -/
theorem run_of_acts {command : Command} (notAsks : command ≠ .exPrompt)
    (notAgain : command ≠ .repeatLast) (keys : List Char) (count : Nat) (session : Session library) :
    session.run keys command count =
      match { session with changed := false }.act command count with
      | (.error error, session) => (.error error, session)
      | (.ok (), session) =>
          (.ok .done,
            if session.changed then
              { session with last := session.last.recordCommand keys (session.mode == .insert) }
            else session) := by
  cases command with
  | exPrompt => exact absurd rfl notAsks
  | repeatLast => exact absurd rfl notAgain
  | _ => rfl

/-- A command that succeeds may become the last change, and nothing else is different. -/
theorem run_of_acted {command : Command} (notAsks : command ≠ .exPrompt)
    (notAgain : command ≠ .repeatLast) (keys : List Char)
    (acted : ({ session with changed := false } : Session library).act command count =
      (.ok (), after)) :
    ∃ last, session.run keys command count = (.ok .done, { after with last }) := by
  rw [run_of_acts notAsks notAgain, acted]
  dsimp only
  split
  · exact ⟨_, rfl⟩
  · exact ⟨after.last, rfl⟩

/-- Where a command leads, and what it leaves to be repeated. -/
theorem run_cases {keys : List Char} {command : Command} {flow : Flow}
    (mode : session.mode = .command) (notVisual : ∀ kind, command ≠ .visual kind)
    (notAgain : command ≠ .repeatLast) (read : Command.parse keys = .ok (count, command))
    (done : session.run keys command count = (.ok flow, after)) :
    after.mode = (if command.inserts then .insert else .command) ∧
      (∀ count, flow ≠ .again count) ∧ Remembered keys session after := by
  simp only [run] at done
  split at done
  · obtain ⟨beside, once⟩ := beside_of_exPrompt done
    have whole : Beside session after := ⟨beside.mode, beside.last, beside.keys⟩
    exact ⟨beside.mode.trans mode, once, whole.remembered keys⟩
  · exact absurd rfl notAgain
  · split at done
    · cases done
    · rename_i next acted
      obtain ⟨middle, beside, unchanged, result⟩ := act_cases notVisual acted
      have ends : next.mode = if command.inserts then .insert else .command := by
        rcases result with ⟨inserts, rfl, _⟩ | ⟨stays, rfl⟩
        · rw [inserts]
          rfl
        · rw [stays]
          exact beside.mode.trans mode
      have last : Remembered keys session next := by
        have whole : Beside session middle := ⟨beside.mode, beside.last, beside.keys⟩
        rcases result with ⟨_, rfl, _⟩ | ⟨_, rfl⟩
        · exact .same (by rw [← whole.last]; rfl) (by rw [← whole.last]; rfl)
            (by rw [← whole.last]; rfl) (.inl rfl)
        · exact whole.remembered keys
      obtain ⟨flowed, rfl⟩ := Prod.mk.inj done
      cases flowed
      split
      · rename_i changed
        have marked : next.mode = .insert ∨ next.last.mark = session.last.mark := by
          cases last with
          | same _ _ _ marked => exact marked
          | recorded _ _ _ _ _ _ _ marked => exact marked
        have led (inserts : command.inserts = true) : next.mode = .insert := by
          rw [ends, if_pos inserts]
        refine ⟨ends, by simp, .recorded mode read ?_ rfl rfl ?_ led marked⟩
        · -- Only a command that edits can have set the mark.
          cases edits : command.edits with
          | true => rfl
          | false =>
              have same : middle.changed = false := unchanged edits
              rcases result with ⟨_, rfl, _⟩ | ⟨_, rfl⟩
              · exact absurd (same.symm.trans changed) (by simp)
              · exact absurd (same.symm.trans changed) (by simp)
        · simp only [LastChange.recordCommand, ends]
          cases command.inserts <;> rfl
      · exact ⟨ends, by simp, last⟩

theorem beside_run_visual {keys : List Char} {kind : VisualKind} {flow : Flow}
    (done : session.run keys (.visual kind) count = (.ok flow, after)) :
    Kept session after ∧ after.last = session.last ∧ ∀ count, flow ≠ .again count := by
  have fresh : Untouched session { session with changed := false } := .memory ..
  obtain ⟨flowed, rfl⟩ := Prod.mk.inj done
  cases flowed
  exact ⟨fresh.kept.trans (kept_showCursor ..), rfl, by simp⟩

/-- A command of visual mode asks for no repetition and is none, and one that does more than select
ends visual mode. -/
theorem runVisual_cases {command : VisualCommand} {flow : Flow} (keys : List Char)
    (done : session.runVisual command count = (.ok flow, after)) :
    (Kept session after ∨ after.mode = .command ∨ after.mode = .insert) ∧
      (∀ count, flow ≠ .again count) ∧ Remembered keys session after := by
  cases command with
  | selectCharacters =>
      cases done
      exact ⟨.inl ⟨⟨rfl, rfl, rfl, .refl _⟩, rfl, rfl, rfl, .inl rfl, .inl rfl⟩, by simp,
        .same rfl rfl rfl (.inr rfl)⟩
  | selectLines | swapEnds =>
      simp only [runVisual, Prod.mk.injEq, Except.ok.injEq] at done
      rw [← done.1, ← done.2]
      exact ⟨.inl (kept_showCursor ..), by simp, .same rfl rfl rfl (.inr rfl)⟩
  | delete | swapCase | shift =>
      simp only [runVisual, Prod.mk.injEq, Except.ok.injEq] at done
      rw [← done.1, ← done.2]
      obtain ⟨ended, remembered⟩ := (beside_put_setCursor _ _ _ _ session).ended keys
      exact ⟨ended, by simp, remembered⟩
  | reflow =>
      simp only [runVisual, Prod.mk.injEq, Except.ok.injEq] at done
      rw [← done.1, ← done.2]
      obtain ⟨ended, remembered⟩ := (beside_reflow _ _ session).ended keys
      exact ⟨ended, by simp, remembered⟩
  | join between =>
      simp only [runVisual, Prod.mk.injEq, Except.ok.injEq] at done
      rw [← done.1, ← done.2]
      obtain ⟨ended, remembered⟩ := (replaces_joinSelection between _ _ session).beside.ended keys
      exact ⟨ended, by simp, remembered⟩
  | change =>
      simp only [runVisual, Prod.mk.injEq, Except.ok.injEq] at done
      rw [← done.1, ← done.2]
      have erased := beside_erase session.selected.low session.selected.high session
      exact ⟨.inr (.inr rfl), by simp, .same (by rw [← erased.last]; rfl)
        (by rw [← erased.last]; rfl) (by rw [← erased.last]; rfl) (.inl rfl)⟩
  | yank =>
      simp only [runVisual] at done
      split at done
      · rename_i copied
        simp only [Prod.mk.injEq, Except.ok.injEq] at done
        rw [← done.1, ← done.2]
        have beside := (aside_of_copy copied).trans (aside_setCursor session.selected.low _)
        obtain ⟨ended, remembered⟩ := beside.toBeside.ended keys
        exact ⟨ended, by simp, remembered⟩
      · cases done
  | put =>
      simp only [runVisual] at done
      split at done
      · rename_i pasted
        simp only [Prod.mk.injEq, Except.ok.injEq] at done
        rw [← done.1, ← done.2]
        obtain ⟨ended, remembered⟩ :=
          ((aside_of_paste pasted).toBeside.trans (beside_put_setCursor ..)).ended keys
        exact ⟨ended, by simp, remembered⟩
      · cases done
  | exPrompt =>
      simp only [runVisual, visualExPrompt] at done
      generalize asked : session.exPrompt (some session.selected) = attempt at done
      obtain ⟨result, next⟩ := attempt
      simp only [Prod.mk.injEq] at done
      obtain ⟨rfl, rfl⟩ := done
      obtain ⟨beside, once⟩ := beside_of_exPrompt asked
      split
      · obtain ⟨ended, remembered⟩ := beside.ended keys
        exact ⟨ended, once, remembered⟩
      · rename_i notVisual
        exact ⟨.inr (Mode.command_or_insert (by simpa using notVisual)), once,
          beside.remembered keys⟩
  | extend motion =>
      simp only [runVisual] at done
      split at done
      · rename_i extended
        cases done
        exact ⟨.inl (kept_of_extend extended), by simp, (beside_of_extend extended).remembered keys⟩
      · cases done

end Session

end ModalVi
