import ModalVi.Proofs.Motion.Bounds
import ModalVi.Proofs.Session.Dispatch
import ModalVi.Proofs.Strict.Search

namespace ModalVi

/-! The few kinds of steps that commands are made of.

Whatever a key asks for, it comes to some of these one after the other: to look something up, to put the
caret somewhere, to select, to replace a span and put the caret, to undo or redo one change, and to go
over to another mode.  So what each of them preserves, every key preserves. -/

/-! Where nothing is undone or made again, the host was not asked or refused. -/

theorem History.eq_or_judged_of_undo {history remaining : History} {surface after : Surface}
    (undone : history.undo surface = (none, remaining, after)) :
    remaining = history.close ∧ (after = surface ∨ after = surface.judged) := by
  simp only [History.undo] at undone
  split at undone
  · cases undone
    exact ⟨rfl, .inl rfl⟩
  · split at undone
    · cases undone
    · rename_i refused
      cases undone
      exact ⟨rfl, .inr (Surface.eq_judged_of_edit refused)⟩

theorem History.eq_or_judged_of_redo {history remaining : History} {surface after : Surface}
    (redone : history.redo surface = (none, remaining, after)) :
    remaining = history.close ∧ (after = surface ∨ after = surface.judged) := by
  simp only [History.redo] at redone
  split at redone
  · cases redone
    exact ⟨rfl, .inl rfl⟩
  · split at redone
    · cases redone
    · rename_i refused
      cases redone
      exact ⟨rfl, .inr (Surface.eq_judged_of_edit refused)⟩

namespace Session

variable {library : Library} {session before middle after : Session library}
  {R : Session library → Session library → Prop}

/-- Only what is remembered of searches, prompts, the clipboard and the keys may be different, and the
kind of a selection. -/
structure Apart (before after : Session library) : Prop where
  surface : after.surface = before.surface
  cursor : after.cursor = before.cursor
  history : after.history = before.history
  last : after.last = before.last
  known : after.known = before.known
  visual : after.mode.isVisual = true → before.mode.isVisual = true
  changed : after.changed = before.changed ∨ after.changed = false
  matcher : before.search.Genuine library → after.search.Genuine library

theorem Apart.refl (session : Session library) : Apart session session :=
  ⟨rfl, rfl, rfl, rfl, rfl, id, .inl rfl, id⟩

/-- What a relation between the sessions before and after a step has to allow so that it allows every
key. -/
structure Stepwise (R : Session library → Session library → Prop) : Prop where
  trans : ∀ {before middle after}, R before middle → R middle after → R before after
  apart : ∀ {before after}, Apart before after → R before after
  placed : ∀ offset session, R session (session.setCursor offset)
  shown : ∀ {cursor : Cursor} {session : Session library} (mode : Mode),
    cursor.Within session.text → R session ({ session with cursor, mode } : Session library).showCursor
  /-- The host was asked for an edit and refused. -/
  judged : ∀ session : Session library, R session { session with surface := session.surface.judged }
  replaced : ∀ {low high new} {session after : Session library} offset,
    session.replace low high new false = (true, after) → R session (after.setCursor offset)
  undone : ∀ {session : Session library} {caret history surface},
    session.history.undo session.surface = (some caret, history, surface) →
      R session (setCursor caret { session with history, surface }).notice
  redone : ∀ {session : Session library} {caret history surface},
    session.history.redo session.surface = (some caret, history, surface) →
      R session (setCursor caret { session with history, surface }).notice
  noticed : ∀ session : Session library, R session session.notice
  closed : ∀ session : Session library, R session { session with history := session.history.close }
  settled : ∀ session : Session library, R session session.settled
  scrolled : ∀ pixels (session : Session library),
    R session { session with surface := session.surface.scrollBy pixels }
  commanding : ∀ session : Session library, R session { session with mode := .command }
  typing : ∀ session : Session library, R session session.toInsert
  released : ∀ session : Session library, R session session.release
  /-- A command that changed the text is remembered. -/
  recorded : ∀ {before after : Session library} keys, R { before with changed := false } after →
    after.changed = true →
      R before { after with last := after.last.recordCommand keys (after.mode == .insert) }
  /-- A repetition is not remembered. -/
  resumed : ∀ {before after : Session library},
    R before after → R before { after with last := before.last }

/-- In this mode the keys ask for a search for the word at the caret only if `R` allows that search.  No
other command moves the cursor and then fails. -/
def Admits (R : Session library → Session library → Prop) (mode : Mode) (keys : List Char) : Prop :=
  ∀ count direction, Command.parse keys = .ok (count, .searchWord direction) →
    ∀ session : Session library, session.mode = mode → R session (session.searchWord direction count).2

namespace Stepwise

theorem refl (law : Stepwise R) (session : Session library) : R session session :=
  law.apart (.refl session)

/-! ### Edits -/

theorem of_refused (law : Stepwise R) {low high : Nat} {new : Text} {merging : Bool}
    (refused : session.replace low high new merging = (false, after)) : R session after := by
  rcases eq_of_replace_eq_false refused with rfl | rfl
  · exact law.refl _
  · exact law.judged session

theorem replaces (law : Stepwise R) (replaces : Replaces before after) : R before after := by
  cases replaces with
  | @placed _ _ _ made edited asked offset =>
      cases made with
      | true => exact law.replaced offset asked
      | false => exact law.trans (law.of_refused asked) (law.placed offset edited)
  | refused asked => exact law.of_refused asked

theorem put_setCursor (law : Stepwise R) (low high : Nat) (new : Text) (offset : Nat)
    (session : Session library) : R session ((session.put low high new).setCursor offset) :=
  law.replaces (replaces_put low high new offset session)

theorem erase (law : Stepwise R) (low high : Nat) (session : Session library) :
    R session (session.erase low high) :=
  law.put_setCursor low high [] low session

theorem toCommand (law : Stepwise R) (session : Session library) : R session session.toCommand :=
  law.trans (law.commanding session) (law.placed _ _)

end Stepwise

/-! ### Undoing

Undoing and redoing do not look at the text that the session knows. -/

theorem undoTimes_known (known : Text) (count : Nat) (session : Session library) :
    undoTimes count ({ session with known } : Session library) =
      { session.undoTimes count with known } := by
  induction count generalizing session with
  | zero => rfl
  | succ count ih =>
      simp only [undoTimes]
      generalize session.history.undo session.surface = answer
      obtain ⟨_ | caret, history, surface⟩ := answer
      · rfl
      · exact ih (setCursor caret { session with history, surface })

theorem redoTimes_known (known : Text) (count : Nat) (session : Session library) :
    redoTimes count ({ session with known } : Session library) =
      { session.redoTimes count with known } := by
  induction count generalizing session with
  | zero => rfl
  | succ count ih =>
      simp only [redoTimes]
      generalize session.history.redo session.surface = answer
      obtain ⟨_ | caret, history, surface⟩ := answer
      · rfl
      · exact ih (setCursor caret { session with history, surface })

theorem undo_notice (count : Nat) (session : Session library) :
    session.notice.undo count = session.undo count := by
  simp only [undo, notice, undoTimes_known]
  rfl

theorem redo_notice (count : Nat) (session : Session library) :
    session.notice.redo count = session.redo count := by
  simp only [redo, notice, redoTimes_known]
  rfl

namespace Stepwise

theorem undo (law : Stepwise R) (count : Nat) (session : Session library) :
    R session (session.undo count) := by
  induction count generalizing session with
  | zero => exact law.noticed session
  | succ count ih =>
      simp only [Session.undo, Session.undoTimes]
      generalize undone : session.history.undo session.surface = answer
      obtain ⟨_ | caret, history, surface⟩ := answer
      · obtain ⟨rfl, rfl | rfl⟩ := History.eq_or_judged_of_undo undone
        · exact law.trans (law.closed session) (law.noticed _)
        · exact law.trans (law.judged session) (law.trans (law.closed _) (law.noticed _))
      · have rest := ih (setCursor caret { session with history, surface }).notice
        rw [undo_notice] at rest
        exact law.trans (law.undone undone) rest

theorem redo (law : Stepwise R) (count : Nat) (session : Session library) :
    R session (session.redo count) := by
  induction count generalizing session with
  | zero => exact law.noticed session
  | succ count ih =>
      simp only [Session.redo, Session.redoTimes]
      generalize redone : session.history.redo session.surface = answer
      obtain ⟨_ | caret, history, surface⟩ := answer
      · obtain ⟨rfl, rfl | rfl⟩ := History.eq_or_judged_of_redo redone
        · exact law.trans (law.closed session) (law.noticed _)
        · exact law.trans (law.judged session) (law.trans (law.closed _) (law.noticed _))
      · have rest := ih (setCursor caret { session with history, surface }).notice
        rw [redo_notice] at rest
        exact law.trans (law.redone redone) rest

end Stepwise

/-! ### Searches, prompts and the clipboard -/

theorem apart_copy (content : Text) (session : Session library) :
    Apart session (session.copy content).2 := by
  simp only [copy]
  split <;> exact ⟨rfl, rfl, rfl, rfl, rfl, id, .inl rfl, id⟩

theorem apart_paste (session : Session library) : Apart session session.paste.2 := by
  simp only [paste]
  split <;> exact ⟨rfl, rfl, rfl, rfl, rfl, id, .inl rfl, id⟩

theorem apart_ask (kind : PromptKind) (session : Session library) :
    Apart session (session.ask kind).2 := by
  simp only [ask]
  split <;> exact ⟨rfl, rfl, rfl, rfl, rfl, id, .inl rfl, id⟩

/-- The next search need not be for the same pattern. -/
theorem apart_set (search : Search) (same : search.compiled = session.search.compiled) :
    Apart session { session with search } :=
  ⟨rfl, rfl, rfl, rfl, rfl, id, .inl rfl,
    fun genuine source find held => genuine source find (same ▸ held)⟩

theorem apart_remember (charSearch : Option CharSearch) (session : Session library) :
    Apart session { session with charSearch } :=
  ⟨rfl, rfl, rfl, rfl, rfl, id, .inl rfl, id⟩

theorem apart_fresh (session : Session library) : Apart session { session with changed := false } :=
  ⟨rfl, rfl, rfl, rfl, rfl, id, .inr rfl, id⟩

theorem apart_holding (keys : List Char) (session : Session library) :
    Apart session (session.holding keys) :=
  ⟨rfl, rfl, rfl, rfl, rfl, id, .inl rfl, id⟩

theorem genuine_findTimes {text : Text} {reversed : Bool} {count offset : Nat} {search : Search}
    (genuine : search.Genuine library) :
    (findTimes library text reversed count offset search).2.Genuine library := by
  induction count generalizing offset search with
  | zero => exact genuine
  | succ count ih =>
      simp only [findTimes]
      generalize found : search.find library text offset reversed = answer
      obtain ⟨error | _ | span, later⟩ := answer
      · exact Search.genuine_find genuine found
      · exact Search.genuine_find genuine found
      · dsimp only
        split
        · exact Search.genuine_find genuine found
        · exact ih (Search.genuine_find genuine found)

/-- A search has found nothing yet, or the caret is put where it found something. -/
theorem searchMove_cases (reversed : Bool) (count : Nat) (session : Session library) :
    ∃ search, (session.search.Genuine library → search.Genuine library) ∧
      ((∃ offset, session.searchMove reversed count =
          (.ok (), { session with search }.setCursor offset)) ∨
        ∃ error, session.searchMove reversed count = (.error error, { session with search })) := by
  have genuine : session.search.Genuine library →
      (findTimes library session.text reversed count session.cursor.caret
        session.search).2.Genuine library :=
    genuine_findTimes
  simp only [searchMove]
  generalize findTimes library session.text reversed count session.cursor.caret session.search = answer
    at genuine ⊢
  obtain ⟨error | offset, search⟩ := answer
  · exact ⟨search, genuine, .inr ⟨error, rfl⟩⟩
  · exact ⟨search, genuine, .inl ⟨offset, rfl⟩⟩

/-- A search for the word at the caret fails before the cursor has moved, or after it was put on the
start of that word. -/
theorem searchWord_cases (direction : Direction) (count : Nat) (session : Session library) :
    (∃ error, session.searchWord direction count = (.error error, session)) ∨
      ∃ search, (session.search.Genuine library → search.Genuine library) ∧
        ((∃ offset, session.searchWord direction count =
            (.ok (), { session with search }.setCursor offset)) ∨
          ∃ error, session.searchWord direction count = (.error error, { session with
            search
            cursor := Cursor.collapsed (session.text.wordAround library.isPunctuation session.caret).1 })) := by
  simp only [searchWord]
  split
  · exact .inl ⟨_, rfl⟩
  · refine .inr ?_
    obtain ⟨search, genuine, moved⟩ := searchMove_cases false count { session with
      search := session.search.set (.wholeWord library (session.text.slice
        (session.text.wordAround library.isPunctuation session.caret).1
        (session.text.wordAround library.isPunctuation session.caret).2)) direction
      cursor := Cursor.collapsed (session.text.wordAround library.isPunctuation session.caret).1 }
    exact ⟨search, genuine, moved⟩

namespace Stepwise

theorem searchMove (law : Stepwise R) (reversed : Bool) (count : Nat) (session : Session library) :
    R session (session.searchMove reversed count).2 := by
  obtain ⟨search, genuine, ⟨offset, moved⟩ | ⟨error, failed⟩⟩ := searchMove_cases reversed count session
  all_goals
    have searched : R session { session with search } :=
      law.apart ⟨rfl, rfl, rfl, rfl, rfl, id, .inl rfl, genuine⟩
  · rw [moved]
    exact law.trans searched (law.placed offset _)
  · rw [failed]
    exact searched

/-- A search for a word is allowed where putting the cursor on the start of the word is. -/
theorem searchWord (law : Stepwise R) (direction : Direction) (count : Nat) (session : Session library)
    (missed : R session
      { session with
        cursor := Cursor.collapsed (session.text.wordAround library.isPunctuation session.caret).1 }) :
    R session (session.searchWord direction count).2 := by
  rcases searchWord_cases direction count session with
    ⟨error, failed⟩ | ⟨search, genuine, ⟨offset, moved⟩ | ⟨error, failed⟩⟩
  · rw [failed]
    exact law.refl session
  · rw [moved]
    refine law.trans (law.apart ?_) (law.placed offset { session with search })
    exact ⟨rfl, rfl, rfl, rfl, rfl, id, .inl rfl, genuine⟩
  · rw [failed]
    refine law.trans missed (law.apart ?_)
    exact ⟨rfl, rfl, rfl, rfl, rfl, id, .inl rfl, genuine⟩

theorem searchPrompt (law : Stepwise R) (kind : PromptKind) (session : Session library) :
    R session (session.searchPrompt kind).2 := by
  have asking := law.apart (apart_ask kind session)
  simp only [Session.searchPrompt]
  generalize session.ask kind = answer at asking ⊢
  obtain ⟨_ | _ | ⟨c, rest⟩, after⟩ := answer
  · exact asking
  · dsimp only
    split
    · refine law.trans asking (law.trans (law.apart ?_) (law.searchMove false 1 _))
      exact apart_set _ rfl
    · exact asking
  · dsimp only
    refine law.trans asking (law.trans (law.apart ?_) (law.searchMove false 1 _))
    exact apart_set _ rfl

theorem runEx (law : Stepwise R) (line : Text) (selection : Option Cursor) (session : Session library) :
    R session (session.runEx line selection).2 := by
  have remembering (substitution : Substitution) :
      R session { session with lastSubstitution := some substitution } :=
    law.apart ⟨rfl, rfl, rfl, rfl, rfl, id, .inl rfl, id⟩
  simp only [Session.runEx]
  split
  · exact law.refl session
  · split
    · exact law.refl session
    · split
      · exact law.refl session
      · rename_i result executed
        split
        · exact remembering _
        · rename_i counted
          split
          · exact remembering _
          · rename_i rewriting
            -- The caret is put on the last line that was changed, and there is one.
            obtain ⟨offset, lastLine⟩ := Option.isSome_iff_exists.mp
              (Substitution.execute_lastLine_isSome executed counted (by simpa using rewriting))
            rw [lastLine]
            exact law.trans (remembering _) (law.put_setCursor ..)

theorem exPrompt (law : Stepwise R) (selection : Option Cursor) (session : Session library) :
    R session (session.exPrompt selection).2 := by
  have asking := law.apart (apart_ask .ex session)
  simp only [Session.exPrompt]
  generalize session.ask .ex = answer at asking ⊢
  obtain ⟨_ | line, after⟩ := answer
  · exact asking
  · exact law.trans asking (law.runEx line selection after)

/-! ### Commands of command mode -/

theorem withTarget (law : Stepwise R) {change : Bool} {motion : Motion} {count : Nat}
    {act : Cursor → Session library → Attempt library Unit}
    (acts : ∀ cursor session, R session (act cursor session).2) :
    R session (session.withTarget change motion count act).2 := by
  have remembering := law.apart (apart_remember (motion.remember session.charSearch) session)
  simp only [Session.withTarget, target]
  generalize Standpoint.resolve _ session.charSearch count motion = resolved
  cases resolved with
  | error error => exact remembering
  | ok cursor => exact law.trans remembering (acts cursor _)

theorem putClipboard (law : Stepwise R) (next : Bool) (count : Nat) (session : Session library) :
    R session (session.putClipboard next count).2 := by
  have pasting := law.apart (apart_paste session)
  simp only [Session.putClipboard]
  generalize session.paste = answer at pasting ⊢
  obtain ⟨error | _ | ⟨c, rest⟩, after⟩ := answer
  · exact pasting
  · exact pasting
  · exact law.trans pasting (law.replaces (replaces_putText next _ after))

theorem copy_setCursor (law : Stepwise R) (content : Text) (offset : Nat) (session : Session library) :
    R session
      (match session.copy content with
        | (.ok (), session) => ((.ok (), session.setCursor offset) : Attempt library Unit)
        | failed => failed).2 := by
  have copying := law.apart (apart_copy content session)
  generalize session.copy content = answer at copying ⊢
  obtain ⟨error | _, copied⟩ := answer
  · exact copying
  · exact law.trans copying (law.placed _ copied)

theorem beginVisual (law : Stepwise R) (kind : VisualKind) (session : Session library) :
    R session (session.beginVisual kind) := by
  have inside := session.caret_le_length
  cases kind with
  | characters => exact law.shown _ ⟨inside, inside⟩
  | lines =>
      exact law.shown _ ⟨Text.nextLineStart_le inside,
        Nat.le_trans (Text.lineStart_le inside) inside⟩

theorem act (law : Stepwise R) {command : Command} {count : Nat} {session : Session library}
    (words : ∀ direction, command = .searchWord direction →
      R session (session.searchWord direction count).2) :
    R session (session.act command count).2 := by
  cases command with
  | insert => exact law.typing session
  | insertAtIndent | append | appendAtLineEnd =>
      exact law.trans (law.placed _ session) (law.typing _)
  | openBelow | openAbove | changeLines =>
      exact law.trans (law.put_setCursor ..) (law.typing _)
  | deleteAhead inserting | deleteToLineEnd inserting =>
      cases inserting with
      | false => exact law.erase ..
      | true => exact law.trans (law.erase ..) (law.typing _)
  | deleteBehind | swapCase => exact law.put_setCursor ..
  | delete motion => exact law.withTarget fun _ _ => law.erase ..
  | change motion => exact law.withTarget fun _ _ => law.trans (law.erase ..) (law.typing _)
  | yank motion => exact law.withTarget fun _ _ => law.copy_setCursor ..
  | yankLines => exact law.apart (apart_copy _ session)
  | put next => exact law.putClipboard next count session
  | shift inward motion =>
      refine law.withTarget fun cursor after => ?_
      dsimp only
      exact law.replaces (replaces_shift ..)
  | join between => exact law.replaces (replaces_join between count session)
  | reflow motion => exact law.withTarget fun _ _ => law.put_setCursor ..
  | visual kind => exact law.beginVisual kind session
  | searchWord direction => exact words direction rfl
  | searchNext reversed => exact law.searchMove reversed count session
  | searchPrompt kind => exact law.searchPrompt kind session
  | undo => exact law.undo count session
  | move motion => exact law.withTarget fun _ session => law.placed _ session
  | exPrompt | repeatLast => exact law.refl session

theorem run (law : Stepwise R) (keys : List Char) {command : Command} {count : Nat}
    {session : Session library}
    (words : ∀ direction, command = .searchWord direction →
      R { session with changed := false }
        (Session.searchWord direction count { session with changed := false }).2) :
    R session (session.run keys command count).2 := by
  have fresh := law.apart (apart_fresh session)
  simp only [Session.run]
  split
  · exact law.trans fresh (law.exPrompt none _)
  · exact fresh
  · have acting : R { session with changed := false }
        (Session.act command count { session with changed := false }).2 :=
      law.act words
    generalize Session.act command count { session with changed := false } = answer at acting ⊢
    obtain ⟨error | _, after⟩ := answer
    · exact law.trans fresh acting
    · dsimp only
      split
      · rename_i changed
        exact law.recorded keys acting changed
      · exact law.trans fresh acting

theorem runKeys (law : Stepwise R) {keys : List Char} {session : Session library}
    (admits : Admits R session.mode keys) : R session (session.runKeys keys).2 := by
  simp only [Session.runKeys]
  split
  · exact law.refl session
  · rename_i count command read
    refine law.run keys fun direction same => ?_
    rw [same] at read
    exact admits count direction read _ rfl

end Stepwise

/-! ### Commands of visual mode -/

theorem within_selected (session : Session library) : session.selected.Within session.text :=
  ⟨Nat.min_le_right _ _, Nat.min_le_right _ _⟩

theorem within_visualBase (session : Session library) : session.visualBase.Within session.text := by
  have within := session.within_selected
  have high := within.high_le
  have shorter : session.selected.high - 1 ≤ session.text.length := by omega
  simp only [visualBase]
  split
  · split
    · exact ⟨shorter, within.anchor⟩
    · exact ⟨within.caret, shorter⟩
  · exact within

theorem within_spanning {text : Text} {low high : Nat} (direction : Direction)
    (first : low ≤ text.length) (second : high ≤ text.length) :
    (Cursor.spanning low high direction).Within text := by
  cases direction with
  | forward => exact ⟨second, first⟩
  | backward => exact ⟨first, second⟩

theorem within_wholeLines {text : Text} {cursor : Cursor} (within : cursor.Within text) :
    (wholeLines text cursor).Within text := by
  have high := within.high_le
  have low := Nat.le_trans cursor.low_le_high high
  exact within_spanning _ (Nat.le_trans (Text.lineStart_le low) low) (Text.nextLineStart_le high)

namespace Stepwise

theorem extend (law : Stepwise R) (motion : Motion) (count : Nat) (session : Session library) :
    R session (session.extend motion count).2 := by
  have remembering := law.apart (apart_remember (motion.remember session.charSearch) session)
  simp only [Session.extend]
  split
  · exact remembering
  · rename_i found resolved
    have within := Standpoint.within_of_resolve resolved session.within_visualBase
    refine law.trans remembering (law.shown session.mode ?_)
    show (if session.mode.isVisualLine then wholeLines session.text found else found).Within
      session.text
    split
    · exact within_wholeLines within
    · exact within

theorem selectLines (law : Stepwise R) (count : Nat) (session : Session library) :
    R session (session.runVisual .selectLines count).2 := by
  have high := session.within_selected.high_le
  have low := Nat.le_trans session.selected.low_le_high high
  have last : max (session.selected.high - 1) session.selected.low ≤ session.text.length := by
    omega
  exact law.shown _ (within_spanning _ (Nat.le_trans (Text.lineStart_le low) low)
    (Text.nextLineStart_le last))

theorem runVisual (law : Stepwise R) (visual : session.mode.isVisual = true)
    (command : VisualCommand) (count : Nat) : R session (session.runVisual command count).2 := by
  cases command with
  | selectCharacters =>
      exact law.apart ⟨rfl, rfl, rfl, rfl, rfl, fun _ => visual, .inl rfl, id⟩
  | selectLines => exact law.selectLines count session
  | swapEnds =>
      have within := session.within_selected
      exact law.shown session.mode ⟨within.anchor, within.caret⟩
  | delete | shift inward | reflow | swapCase =>
      exact law.trans (law.put_setCursor ..) (law.toCommand _)
  | change => exact law.trans (law.erase ..) (law.typing _)
  | yank =>
      have copying :=
        law.apart (apart_copy (session.text.slice session.selected.low session.selected.high) session)
      simp only [Session.runVisual]
      generalize session.copy _ = answer at copying ⊢
      obtain ⟨error | _, after⟩ := answer
      · exact copying
      · exact law.trans copying (law.trans (law.placed _ after) (law.toCommand _))
  | put =>
      have pasting := law.apart (apart_paste session)
      simp only [Session.runVisual]
      generalize session.paste = answer at pasting ⊢
      obtain ⟨error | content, after⟩ := answer
      · exact pasting
      · exact law.trans pasting (law.trans (law.put_setCursor ..) (law.toCommand _))
  | join between =>
      exact law.trans (law.replaces (replaces_joinSelection ..)) (law.toCommand _)
  | exPrompt =>
      have prompted := law.exPrompt (some session.selected) session
      simp only [Session.runVisual, visualExPrompt]
      split
      · exact law.trans prompted (law.toCommand _)
      · exact prompted
  | extend motion =>
      have extending := law.extend motion count session
      simp only [Session.runVisual]
      generalize session.extend motion count = answer at extending ⊢
      obtain ⟨error | _, after⟩ := answer
      · exact extending
      · exact extending

theorem carryOut (law : Stepwise R) {keys : List Char} {control : Bool}
    (admits : session.mode.isVisual = false → control = false → Admits R session.mode keys) :
    R session (session.carryOut keys control).2 := by
  simp only [Session.carryOut]
  split
  · simp only [runControl]
    split
    · exact law.refl session
    · exact law.trans (law.apart (apart_fresh session)) (law.redo _ _)
    · exact law.scrolled _ session
  · rename_i notControl
    split
    · rename_i visual
      simp only [runVisualKeys]
      split
      · exact law.refl session
      · exact law.runVisual visual ..
    · rename_i notVisual
      exact law.runKeys (admits (by simpa using notVisual) (by simpa using notControl))

end Stepwise

/-! ### Repetitions -/

namespace Stepwise

theorem repeatOnce (law : Stepwise R) {last : LastChange}
    (admits : Admits R session.mode last.keys) : R session (session.repeatOnce last).2 := by
  have replaying : R session (session.replay last).2 := by
    simp only [replay]
    split
    · exact law.refl session
    · exact law.runKeys admits
  rw [repeatOnce_eq]
  generalize session.replay last = answer at replaying ⊢
  obtain ⟨error | flow, after⟩ := answer
  · exact replaying
  · have retyping : R after (after.retype last) := by
      simp only [retype]
      split
      · exact law.refl after
      · exact law.put_setCursor ..
    exact law.trans (law.trans replaying retyping)
      (law.trans (law.closed (after.retype last)) (law.commanding _))

theorem repeatTimes (law : Stepwise R) {last : LastChange} (mode : session.mode = .command)
    (admits : Admits R .command last.keys) (count : Nat) :
    R session (session.repeatTimes last count).2 := by
  induction count generalizing session with
  | zero => exact law.refl session
  | succ count ih =>
      have once : R session (session.repeatOnce last).2 := law.repeatOnce (mode ▸ admits)
      simp only [Session.repeatTimes]
      generalize repeated : session.repeatOnce last = answer at once ⊢
      obtain ⟨error | _, after⟩ := answer
      · exact once
      · exact law.trans once (ih (mode_repeatOnce repeated))

theorem repeatLast (law : Stepwise R) (mode : session.mode = .command)
    (admits : Admits R .command session.last.keys) (count : Nat) :
    R session (session.repeatLast count).2 := by
  simp only [Session.repeatLast]
  split
  · exact law.refl session
  · have repeating := law.resumed (law.repeatTimes mode admits count)
    exact law.trans repeating (law.noticed _)

/-! ### Keys -/

theorem finish (law : Stepwise R) {flow : Flow}
    (again : ∀ count, flow = .again count →
      session.mode = .command ∧ Admits R .command session.last.keys) :
    R session (session.finish flow).2 := by
  cases flow with
  | done | report message => exact law.settled session
  | again count =>
      obtain ⟨mode, admits⟩ := again count rfl
      have repeating := law.repeatLast mode admits count
      simp only [Session.finish]
      generalize session.repeatLast count = answer at repeating ⊢
      obtain ⟨error | _, after⟩ := answer
      · exact repeating
      · exact law.trans repeating (law.settled after)

/-- What is repeated is the last change from before the key. -/
theorem conclude (law : Stepwise R) {keys : List Char} {control : Bool} {attempt : Attempt library Flow}
    (carried : Carried keys control before attempt) (allowed : R before attempt.2)
    (again : Admits R .command before.last.keys) : R before (conclude attempt).2 := by
  obtain ⟨error | flow, after⟩ := attempt
  · by_cases waits : error = .parse .incomplete
    · rw [waits]
      exact allowed
    · rw [conclude_error waits]
      exact law.trans allowed (law.apart (apart_holding [] after))
  · have dropped : R before after.dropKeys := law.trans allowed (law.apart (apart_holding [] after))
    refine law.trans dropped (law.finish fun count repeats => ?_)
    subst repeats
    cases carried with
    | kept once _ _ => exact absurd rfl (once count)
    | edited once _ _ _ _ => exact absurd rfl (once count)
    | again _ mode _ => exact ⟨mode, again⟩

theorem dispatch (law : Stepwise R) (owned : session.mode ≠ .insert) {c : Char} {control : Bool}
    (admits : session.mode = .command → control = false → Admits R .command (session.keys ++ [c]))
    (again : Admits R .command session.last.keys) : R session (session.dispatch c control).2 := by
  have holding := law.apart (apart_holding (session.keys ++ [c]) session)
  have carried : Carried (session.keys ++ [c]) control (session.holding (session.keys ++ [c]))
      ((session.holding (session.keys ++ [c])).carryOut (session.keys ++ [c]) control) :=
    carried_carryOut _ _ owned
  rw [dispatch_eq]
  refine law.trans holding (law.conclude carried (law.carryOut fun notVisual typed => ?_) again)
  have mode : session.mode = .command := (Mode.command_or_insert notVisual).resolve_right owned
  have held : (session.holding (session.keys ++ [c])).mode = .command := mode
  rw [held]
  exact admits mode typed

/-- Whatever a key asks for outside insert mode, it is allowed. -/
theorem key (law : Stepwise R) (owned : session.mode ≠ .insert) (pressed : Key)
    (admits : ∀ c, pressed = .char c → session.mode = .command →
      Admits R .command (session.keys ++ [c]))
    (again : Admits R .command session.last.keys) : R session (session.key pressed).2 := by
  have dropped := law.apart (apart_holding [] session)
  simp only [Session.key, if_neg owned]
  split
  · exact law.trans dropped (law.toCommand _)
  · split
    · rename_i c _
      exact law.dispatch owned (fun mode _ => admits c rfl mode) again
    · split
      · exact law.refl session
      · split
        · exact law.dispatch owned (fun _ typed => by cases typed) again
        · exact dropped
    · split
      · exact law.released session
      · exact law.refl session
    · exact law.refl session
    · exact law.refl session

end Stepwise

end Session

end ModalVi
