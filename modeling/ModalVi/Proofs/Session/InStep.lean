import ModalVi.Proofs.Session.Replay
import ModalVi.Proofs.Session.Stepwise
import ModalVi.Regex.Engine

namespace ModalVi

/-! The cursor, and what the field selects.

Commands that move the cursor or edit show the new cursor in the field, so the two agree outside insert
mode.  The search for the word at the caret is the exception: it first puts the cursor on the start of
the word and shows nothing before it has found another, so where it finds none, the cursor stays on the
start of the word and the field's caret where it was. -/

namespace Text

variable (marks : Char → Bool) (text : Text) (offset : Nat)

theorem start_wordAround :
    (text.wordAround marks offset).1 =
      min offset text.length - ((text.take offset).reverse.takeWhile (isWordPart marks)).length := by
  have within := (List.takeWhile_sublist (isWordPart marks) (l := (text.take offset).reverse)).length_le
  simp only [wordAround, Reader.skipWordParts, Reader.skipWhile, Reader.advance, Reader.offset,
    Reader.backward, Reader.facing, List.length_take, Nat.zero_add]
  omega

theorem start_wordAround_min :
    (text.wordAround marks (min offset text.length)).1 = (text.wordAround marks offset).1 := by
  rw [wordAround, wordAround, Reader.backward, Reader.facing_min, Reader.backward]

/-- The start of a word touches that word and starts it. -/
theorem start_wordAround_start :
    (text.wordAround marks (text.wordAround marks offset).1).1 = (text.wordAround marks offset).1 := by
  have whole :=
    List.takeWhile_append_dropWhile (p := isWordPart marks) (l := (text.take offset).reverse)
  have refused := List.head?_dropWhile_not (isWordPart marks) (text.take offset).reverse
  have start := start_wordAround marks text offset
  rw [start_wordAround marks text (text.wordAround marks offset).1]
  generalize (text.take offset).reverse.takeWhile (isWordPart marks) = word at whole start
  generalize (text.take offset).reverse.dropWhile (isWordPart marks) = rest at whole refused
  have length := congrArg List.length whole
  rw [List.length_append, List.length_reverse, List.length_take] at length
  have before : (text.take (text.wordAround marks offset).1).reverse = rest := by
    have cut : text.take (text.wordAround marks offset).1 =
        (text.take offset).take (text.wordAround marks offset).1 := by
      rw [List.take_take]
      congr 1
      omega
    have reversed : text.take offset = rest.reverse ++ word.reverse := by
      rw [← List.reverse_append, whole, List.reverse_reverse]
    have short : (text.wordAround marks offset).1 = rest.reverse.length := by
      rw [List.length_reverse]
      omega
    rw [cut, reversed, short, List.take_left, List.reverse_reverse]
  rw [before]
  cases rest with
  | nil =>
      rw [List.takeWhile_nil, List.length_nil]
      omega
  | cons c rest =>
      have other : isWordPart marks c = false := by simpa using refused
      rw [List.takeWhile_cons, other]
      simp only [Bool.false_eq_true, if_false, List.length_nil]
      omega

end Text

namespace Session

variable {library : Library} {session before after : Session library}
  {Holds : Session library → Prop}

/-- The field selects what the cursor does. -/
def Shown (session : Session library) : Prop := session.surface.selection.toCursor = session.cursor

instance (session : Session library) : Decidable session.Shown :=
  inferInstanceAs (Decidable (session.surface.selection.toCursor = session.cursor))

/-- The cursor is at the start of the word that the field's caret touches. -/
def Strayed (session : Session library) : Prop :=
  session.cursor =
    Cursor.collapsed (session.text.wordAround library.isPunctuation
      session.surface.selection.toCursor.caret).1

/-- The cursor is shown, or it is that of a failed search for a word. -/
def InStep (session : Session library) : Prop :=
  session.Shown ∨ session.mode.isVisual = false ∧ session.Strayed

theorem Placed.isShown (placed : Placed session) : session.Shown := by
  rw [Shown, placed.shown, Selection.toCursor_caret]
  exact placed.collapsed.symm

theorem shown_setCursor (offset : Nat) (session : Session library) :
    (session.setCursor offset).Shown :=
  (placed_setCursor offset session).isShown

theorem shown_showCursor {cursor : Cursor} (mode : Mode) (within : cursor.Within session.text) :
    ({ session with cursor, mode } : Session library).showCursor.Shown := by
  have high : cursor.high ≤ session.surface.text.length := within.high_le
  have low := Nat.le_trans cursor.low_le_high high
  have whole : (Selection.ofCursor cursor).clamped session.surface.text.length =
      Selection.ofCursor cursor := by
    simp only [Selection.clamped, Selection.ofCursor, Nat.min_eq_left high, Nat.min_eq_left low]
  simp only [Shown, showCursor, Surface.select, whole, Selection.toCursor_ofCursor]

/-- Neither the text, nor the cursor, nor what the field selects is different. -/
structure Still (before after : Session library) : Prop where
  text : after.text = before.text
  cursor : after.cursor = before.cursor
  selection : after.surface.selection = before.surface.selection
  visual : after.mode.isVisual = true → before.mode.isVisual = true

theorem Shown.still (shown : before.Shown) (still : Still before after) : after.Shown := by
  rw [Shown, still.selection, still.cursor]
  exact shown

theorem InStep.still (inStep : before.InStep) (still : Still before after) : after.InStep := by
  rcases inStep with shown | ⟨notVisual, strayed⟩
  · exact .inl (shown.still still)
  · refine .inr ⟨?_, ?_⟩
    · cases visual : after.mode.isVisual with
      | false => rfl
      | true => exact absurd (still.visual visual) (by simp [notVisual])
    · rw [Strayed, still.cursor, still.text, still.selection]
      exact strayed

/-- What holds wherever the cursor is shown, and depends on text, cursor and selection alone, is
preserved by every step. -/
theorem stepwise_of_shown (ofShown : ∀ session : Session library, session.Shown → Holds session)
    (ofStill : ∀ before after, Holds before → Still before after → Holds after) :
    Stepwise fun (before after : Session library) => Holds before → Holds after where
  trans first second := second ∘ first
  apart apart given :=
    ofStill _ _ given ⟨congrArg Surface.text apart.surface, apart.cursor,
      congrArg Surface.selection apart.surface, apart.visual⟩
  placed offset session _ := ofShown _ (shown_setCursor offset session)
  shown mode within _ := ofShown _ (shown_showCursor mode within)
  judged _ given := ofStill _ _ given ⟨rfl, rfl, rfl, id⟩
  replaced offset _ _ := ofShown _ (shown_setCursor offset _)
  undone _ _ := ofShown _ (shown_setCursor _ _)
  redone _ _ := ofShown _ (shown_setCursor _ _)
  noticed _ given := ofStill _ _ given ⟨rfl, rfl, rfl, id⟩
  closed _ given := ofStill _ _ given ⟨rfl, rfl, rfl, id⟩
  settled _ given := ofStill _ _ given ⟨rfl, rfl, rfl, id⟩
  scrolled _ _ given := ofStill _ _ given ⟨rfl, rfl, rfl, id⟩
  commanding _ given := ofStill _ _ given ⟨rfl, rfl, rfl, nofun⟩
  typing _ given := ofStill _ _ given ⟨rfl, rfl, rfl, nofun⟩
  released _ given := ofStill _ _ given ⟨rfl, rfl, rfl, nofun⟩
  recorded _ kept _ given :=
    ofStill _ _ (kept (ofStill _ _ given ⟨rfl, rfl, rfl, id⟩)) ⟨rfl, rfl, rfl, id⟩
  resumed kept given := ofStill _ _ (kept given) ⟨rfl, rfl, rfl, id⟩

theorem stepwise_shown :
    Stepwise fun (before after : Session library) => before.Shown → after.Shown :=
  stepwise_of_shown (fun _ shown => shown) fun _ _ shown still => shown.still still

theorem stepwise_inStep :
    Stepwise fun (before after : Session library) => before.InStep → after.InStep :=
  stepwise_of_shown (fun _ shown => .inl shown) fun _ _ inStep still => inStep.still still

/-! ### Searches for the word at the caret -/

/-- The start of the word at the cursor is that of the word at the field's caret, even after a search for
it has failed before. -/
theorem strayed_of_inStep (inStep : session.InStep) :
    ({ session with
      cursor := Cursor.collapsed
        (session.text.wordAround library.isPunctuation session.caret).1 } : Session library).Strayed := by
  have start : (session.text.wordAround library.isPunctuation session.caret).1 =
      (session.text.wordAround library.isPunctuation session.cursor.caret).1 :=
    Text.start_wordAround_min library.isPunctuation session.text session.cursor.caret
  have same : (session.text.wordAround library.isPunctuation session.cursor.caret).1 =
      (session.text.wordAround library.isPunctuation session.surface.selection.toCursor.caret).1 := by
    rcases inStep with shown | ⟨_, strayed⟩
    · rw [← shown]
    · have caret : session.cursor.caret =
          (session.text.wordAround library.isPunctuation session.surface.selection.toCursor.caret).1 :=
        congrArg Cursor.caret strayed
      rw [caret, Text.start_wordAround_start]
  exact congrArg Cursor.collapsed (start.trans same)

theorem admits_inStep (keys : List Char) :
    Admits (fun (before after : Session library) => before.InStep → after.InStep) .command keys := by
  intro count direction _ session mode
  apply stepwise_inStep.searchWord
  intro inStep
  exact .inr ⟨by simp [mode, Mode.isVisual], strayed_of_inStep inStep⟩

/-- What is repeated is a command that edits. -/
theorem admits_of_repeatable {R : Session library → Session library → Prop} {last : LastChange}
    (repeatable : last.Repeatable) (mode : Mode) : Admits R mode last.keys := by
  intro count direction read
  by_cases given : last.keys = []
  · rw [given] at read
    cases read
  · obtain ⟨held, c, times, command, keys, _, readAgain, edits, _⟩ := repeatable given
    rw [keys, readAgain] at read
    cases read
    cases edits

theorem key_searchWord {c : Char} {count : Nat} {direction : Direction}
    (mode : session.mode = .command)
    (read : Command.parse (session.keys ++ [c]) = .ok (count, .searchWord direction)) :
    session.key (.char c) =
      match
        ({ session.holding (session.keys ++ [c]) with changed := false } : Session library).searchWord
        direction count with
      | (.error error, after) => (.error error, after.dropKeys)
      | (.ok (), after) => (.ok .handled, after.dropKeys.settled) := by
  have owned : session.mode ≠ .insert := by simp [mode]
  have held : (session.holding (session.keys ++ [c])).mode = .command := mode
  rw [key_char owned, carryOut_of_command held]
  simp only [runKeys, read, run, act]
  have orderly := orderly_searchWord direction count
    ({ session.holding (session.keys ++ [c]) with changed := false } : Session library)
  generalize searched : Session.searchWord direction count _ = attempt at orderly ⊢
  obtain ⟨error | done, after⟩ := attempt
  · exact conclude_error orderly.1 after
  · have unchanged : after.changed = false := (aside_of_searchWord searched).changed
    simp only [unchanged, Bool.false_eq_true, if_false]
    rfl

/-- A search for a word that succeeds has shown the cursor. -/
theorem shown_of_searchWord {pressed : Key} {direction : Direction}
    (dispatches : session.Dispatches pressed (.searchWord direction))
    (succeeds : (session.key pressed).1.isOk = true) : (session.key pressed).2.Shown := by
  obtain ⟨c, count, rfl, mode, read⟩ := dispatches
  rw [key_searchWord mode read] at succeeds ⊢
  rcases searchWord_cases direction count
      { session.holding (session.keys ++ [c]) with changed := false } with
    ⟨error, failed⟩ | ⟨search, _, ⟨offset, moved⟩ | ⟨error, failed⟩⟩
  · rw [failed] at succeeds
    cases succeeds
  · rw [moved]
    exact (shown_setCursor offset _).still ⟨rfl, rfl, rfl, id⟩
  · rw [failed] at succeeds
    cases succeeds

theorem shown_key {pressed : Key} (owned : session.mode ≠ .insert) (ready : Ready session)
    (succeeds : ∀ direction, session.Dispatches pressed (.searchWord direction) →
      (session.key pressed).1.isOk = true)
    (shown : session.Shown) : (session.key pressed).2.Shown := by
  by_cases searches : ∃ direction, session.Dispatches pressed (.searchWord direction)
  · obtain ⟨direction, dispatches⟩ := searches
    exact shown_of_searchWord dispatches (succeeds direction dispatches)
  · refine stepwise_shown.key owned pressed ?_ (admits_of_repeatable ready.repeatable _) shown
    rintro c rfl mode count direction read
    exact absurd ⟨direction, c, count, rfl, mode, read⟩ searches

/-! ### Runs -/

/-- What an attentive host does: it edits and selects in its field, and has text inserted, only in
insert mode. -/
def Attentive (session : Session library) : Event → Prop
  | .field surface => session.mode = .insert ∨
      surface.text = session.text ∧ surface.selection = session.surface.selection
  | .insertText _ => session.mode = .insert
  | _ => True

/-- Runs in which the user may also select with the mouse at any time, of which the session is told at
once. -/
inductive Guided (allowed : Session library → Event → Prop) (first : Session library) :
    Session library → Prop where
  | refl : Guided allowed first first
  | step {session : Session library} (guided : Guided allowed first session) {event : Event}
      (permitted : allowed session event) : Guided allowed first (session.handle event)
  | pointed {session : Session library} (guided : Guided allowed first session) {surface : Surface}
      (reserved : session.mode = .insert ∨ surface.text = session.text) :
      Guided allowed first ((session.handle (.field surface)).handle .mouseSelection)

variable {allowed : Session library → Event → Prop} {first : Session library}

theorem Guided.reaches (guided : Guided allowed first session) :
    Reaches (fun _ _ => True) first session := by
  induction guided with
  | refl => exact .refl
  | step _ _ ih => exact .step ih trivial
  | pointed _ _ ih => exact .step (.step ih trivial) trivial

theorem shown_enter (session : Session library) : session.enter.Shown := rfl

theorem shown_mouseSelection (owned : session.mode ≠ .insert) : session.mouseSelection.Shown := by
  have engine : session.mode.isEngineOwned = true := by
    simpa [Mode.isEngineOwned] using owned
  simp only [mouseSelection, engine, Bool.not_true, Bool.false_eq_true, if_false]
  split
  · rfl
  · split
    · rfl
    · rename_i same
      exact not_not.mp same

/-- What every key preserves outside insert mode, and what holds wherever the cursor is shown, holds in
every run. -/
theorem holds_of_guided (ofShown : ∀ session : Session library, session.Shown → Holds session)
    (ofStill : ∀ before after, Holds before → Still before after → Holds after)
    (attentive : ∀ session event, allowed session event → session.Attentive event)
    (keys : ∀ session pressed, Guided allowed first session → session.mode ≠ .insert →
      allowed session (.key pressed) → Holds session → Holds (session.key pressed).2)
    (typing : first.mode = .insert) (guided : Guided allowed first session) :
    session.mode ≠ .insert → Holds session := by
  induction guided with
  | refl => exact fun owned => absurd typing owned
  | @step session guided event permitted ih =>
      have reserved := attentive session event permitted
      cases event with
      | key pressed =>
          intro owned
          by_cases inserting : session.mode = .insert
          · rw [handle] at owned ⊢
            rcases key_of_insert inserting pressed with same | same | same
            · rw [same]
              exact ofShown _ (shown_enter session)
            · rw [same, (beside_insertText _ session).mode] at owned
              exact absurd inserting owned
            · rw [same] at owned
              exact absurd inserting owned
          · exact keys session pressed guided inserting permitted (ih inserting)
      | insertText new =>
          intro owned
          exact absurd ((beside_insertText new session).mode.trans reserved) owned
      | enter => exact fun _ => ofShown _ (shown_enter session)
      | release | blur => exact fun owned => absurd rfl owned
      | mouseSelection =>
          intro owned
          by_cases inserting : session.mode = .insert
          · refine absurd ?_ owned
            simp [handle, mouseSelection, inserting, Mode.isEngineOwned]
          · exact ofShown _ (shown_mouseSelection inserting)
      | field surface =>
          intro owned
          have same := reserved.resolve_left owned
          exact ofStill _ _ (ih owned) ⟨same.1, rfl, same.2, id⟩
      | setDebug debug | clipboard clipboard | prompt prompt =>
          intro owned
          exact ofStill _ _ (ih owned) ⟨rfl, rfl, rfl, id⟩
  | @pointed session guided surface reserved ih =>
      intro owned
      by_cases inserting : session.mode = .insert
      · refine absurd ?_ owned
        simp [handle, mouseSelection, inserting, Mode.isEngineOwned]
      · exact ofShown _ (shown_mouseSelection inserting)

theorem inStep_of_guided
    (attentive : ∀ session event, allowed session event → session.Attentive event)
    (typing : first.mode = .insert) (guided : Guided allowed first session)
    (owned : session.mode ≠ .insert) : session.InStep := by
  refine holds_of_guided (fun _ shown => .inl shown) (fun _ _ inStep still => inStep.still still)
    attentive ?_ typing guided owned
  intro session pressed _ owned _ inStep
  exact stepwise_inStep.key owned pressed (fun _ _ _ => admits_inStep _) (admits_inStep _) inStep

/-- Between the keys of a user the field selects what the cursor does, or the cursor is on the start of
the word at the field's caret and nothing is selected.  The latter takes a search for that word that
failed: where none has, the two never differ. -/
theorem shown_of_guided {surface : Surface} {clipboard : Clipboard} {prompt : Prompt}
    {options : Options}
    (attentive : ∀ session event, allowed session event → session.Attentive event)
    (guided : Guided allowed (Session.start library surface clipboard prompt options) session)
    (owned : session.mode ≠ .insert) :
    (session.Shown ∨ session.mode = .command ∧ session.Strayed) ∧
      ((∀ session pressed direction, allowed session (.key pressed) →
        session.Dispatches pressed (.searchWord direction) →
          (session.key pressed).1.isOk = true) → session.Shown) := by
  constructor
  · rcases inStep_of_guided attentive rfl guided owned with shown | ⟨notVisual, strayed⟩
    · exact .inl shown
    · exact .inr ⟨(Mode.command_or_insert notVisual).resolve_right owned, strayed⟩
  · intro succeeds
    refine holds_of_guided (fun _ shown => shown) (fun _ _ shown still => shown.still still) attentive
      ?_ rfl guided owned
    intro session pressed guided owned permitted shown
    exact shown_key owned (ready_of_reaches guided.reaches)
      (fun direction => succeeds session pressed direction permitted) shown

theorem shown_of_found_word :
    let first := Session.start .standard (.ofText "ab ab".toList) (.ofText []) .silent {}
    let session := (first.handle .enter).handle (.key (.char '*'))
    session.cursor = Cursor.collapsed 3 ∧ session.Shown := by
  intro first session
  let allowed (session : Session .standard) (event : Event) : Prop :=
    session.Attentive event ∧ ∀ pressed direction, event = .key pressed →
      session.Dispatches pressed (.searchWord direction) → (session.key pressed).1.isOk = true
  have found : ((first.handle .enter).key (.char '*')).1.isOk = true := by decide +kernel
  have begun : Guided allowed first (first.handle .enter) := .step .refl ⟨trivial, nofun⟩
  have guided : Guided allowed first session := by
    refine .step begun ⟨trivial, fun pressed direction same _ => ?_⟩
    cases same
    exact found
  have owned : session.mode ≠ .insert := by decide +kernel
  have cursor : session.cursor = Cursor.collapsed 3 := by decide +kernel
  clear_value session
  obtain ⟨_, shown⟩ := shown_of_guided (fun _ _ permitted => permitted.1) guided owned
  exact ⟨cursor, shown fun _ pressed direction permitted => permitted.2 pressed direction rfl⟩

/-- The word `++` is never found, since no word boundary is beside it. -/
theorem not_shown_of_missed_word :
    let first := Session.start .standard ((Surface.ofText "++".toList).withCaret 1)
      (.ofText []) .silent {}
    let session := (first.handle .enter).handle (.key (.char '*'))
    session.mode = .command ∧ session.surface.selection = Selection.caret 1 ∧
      session.cursor = Cursor.collapsed 0 ∧ ¬ session.Shown := by
  decide +kernel

end Session

end ModalVi
