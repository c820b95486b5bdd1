import ModalVi.Proofs.Session.Dispatch
import ModalVi.Proofs.Session.Respect

namespace ModalVi.Session

/-! Steps that do not look at the host's prompt.

Only a command that asks for a line ever turns to the prompt.  Everything else does with any prompt what
it does with any other, and leaves it to the steps after it. -/

variable {library : Library} {α : Type} {session : Session library} {prompt : Prompt}

/-- The session with another prompt. -/
def answering (prompt : Prompt) (session : Session library) :
    Session library := { session with prompt }

theorem answering_of_prompt (same : session.prompt = prompt) :
    session.answering prompt = session := by
  rw [answering, ← same]

/-- The step goes the same way with every prompt, and keeps it. -/
def Blind (library : Library) (step : Session library → α × Session library) : Prop :=
  ∀ (prompt : Prompt) (session : Session library),
    step (session.answering prompt) = ((step session).1, (step session).2.answering prompt)

namespace Blind

theorem of_alongside {step : Session library → Attempt library α}
    (alongside : ∀ prompt session,
      Alongside (fun (first second : Session library) => second = first.answering prompt)
      (step session) (step (session.answering prompt))) : Blind library step := by
  intro prompt session
  obtain ⟨answer, after⟩ := alongside prompt session
  exact Prod.ext answer after

theorem alongside {step : Session library → Attempt library α} (blind : Blind library step)
    (prompt : Prompt)
    (session : Session library) :
    Alongside (fun (first second : Session library) => second = first.answering prompt) (step session)
      (step (session.answering prompt)) := by
  rw [blind prompt session]
  exact ⟨rfl, rfl⟩

end Blind

theorem setCursor_answering (offset : Nat) (prompt : Prompt) (session : Session library) :
    (session.answering prompt).setCursor offset = (session.setCursor offset).answering prompt := rfl

theorem toInsert_answering (prompt : Prompt) (session : Session library) :
    (session.answering prompt).toInsert = session.toInsert.answering prompt := rfl

theorem toCommand_answering (prompt : Prompt) (session : Session library) :
    (session.answering prompt).toCommand = session.toCommand.answering prompt := rfl

theorem replace_answering (low high : Nat) (new : Text) (merging : Bool) :
    Blind library (replace low high new merging) := by
  intro prompt session
  have text : (session.answering prompt).text = session.text := rfl
  have surface : (session.answering prompt).surface = session.surface := rfl
  simp only [replace, text, surface]
  split
  · rfl
  · split <;> rfl

theorem respected_answering (prompt : Prompt) :
    Respected (fun (first second : Session library) => second = first.answering prompt) where
  text related := by rw [related]; rfl
  cursor related := by rw [related]; rfl
  clipboard related := by rw [related]; rfl
  options related := by rw [related]; rfl
  charSearch related := by rw [related]; rfl
  setCursor offset related := by rw [related]; rfl
  toInsert related := by rw [related]; rfl
  access clipboard related := by rw [related]; rfl
  remember charSearch related := by rw [related]; rfl
  replace low high new related := by
    rw [related, replace_answering]
    exact ⟨rfl, rfl⟩

/-! ### Commands -/

theorem blind_copy (content : Text) : Blind library (copy content) := by
  intro prompt session
  have clipboard : (session.answering prompt).clipboard = session.clipboard := rfl
  simp only [copy, clipboard]
  split <;> rfl

theorem blind_paste : Blind library paste := by
  intro prompt session
  have clipboard : (session.answering prompt).clipboard = session.clipboard := rfl
  simp only [paste, clipboard]
  split <;> rfl

theorem undoTimes_answering (count : Nat) (prompt : Prompt) (session : Session library) :
    (session.answering prompt).undoTimes count = (session.undoTimes count).answering prompt := by
  induction count generalizing session with
  | zero => rfl
  | succ count ih =>
      have history : (session.answering prompt).history = session.history := rfl
      have surface : (session.answering prompt).surface = session.surface := rfl
      simp only [undoTimes, history, surface]
      split
      · rename_i caret _
        exact ih (setCursor caret
          { session with
            history := (session.history.undo session.surface).2.1
            surface := (session.history.undo session.surface).2.2 })
      · rfl

theorem redoTimes_answering (count : Nat) (prompt : Prompt) (session : Session library) :
    (session.answering prompt).redoTimes count = (session.redoTimes count).answering prompt := by
  induction count generalizing session with
  | zero => rfl
  | succ count ih =>
      have history : (session.answering prompt).history = session.history := rfl
      have surface : (session.answering prompt).surface = session.surface := rfl
      simp only [redoTimes, history, surface]
      split
      · rename_i caret _
        exact ih (setCursor caret
          { session with
            history := (session.history.redo session.surface).2.1
            surface := (session.history.redo session.surface).2.2 })
      · rfl

theorem blind_searchMove (reversed : Bool) (count : Nat) :
    Blind library (searchMove reversed count) := by
  intro prompt session
  have text : (session.answering prompt).text = session.text := rfl
  have cursor : (session.answering prompt).cursor = session.cursor := rfl
  have search : (session.answering prompt).search = session.search := rfl
  simp only [searchMove, text, cursor, search]
  split <;> rfl

theorem blind_searchWord (direction : Direction) (count : Nat) :
    Blind library (searchWord direction count) := by
  intro prompt session
  have text : (session.answering prompt).text = session.text := rfl
  have caret : (session.answering prompt).caret = session.caret := rfl
  have search : (session.answering prompt).search = session.search := rfl
  simp only [searchWord, text, caret, search]
  generalize session.text.wordAround library.isPunctuation session.caret = word
  split
  · rfl
  · exact blind_searchMove false count prompt
      { session with
        search := session.search.set (.wholeWord library (session.text.slice word.1 word.2)) direction
        cursor := Cursor.collapsed word.1 }

/-- Only a command that asks for a line looks at the prompt. -/
theorem blind_act {command : Command} (asks : ∀ kind, command ≠ .searchPrompt kind) (count : Nat) :
    Blind library (act command count) := by
  apply Blind.of_alongside
  intro prompt session
  have respected :
      Respected (fun (first second : Session library) => second = first.answering prompt) :=
    respected_answering prompt
  have text : (session.answering prompt).text = session.text := rfl
  have caret : (session.answering prompt).caret = session.caret := rfl
  by_cases edits : command.edits = true
  · exact respected.act edits count rfl
  · cases command with
    | insert => exact ⟨rfl, rfl⟩
    | insertAtIndent | append | appendAtLineEnd =>
        simp only [act, text, caret]
        exact .done (respected.toInsert (respected.setCursor _ rfl))
    | yank motion =>
        simp only [act, text]
        refine respected.withTarget _ _ _ (fun cursor first second related => ?_) rfl
        subst related
        rcases ((blind_copy (session.text.slice cursor.low cursor.high)).alongside prompt
            first).cases with
          ⟨error, here, there, failed, failedAlso, after⟩ |
            ⟨done, here, there, copied, copiedAlso, after⟩
        · rw [failed, failedAlso]
          exact ⟨rfl, after⟩
        · rw [copied, copiedAlso]
          exact .done (respected.setCursor _ after)
    | yankLines =>
        simp only [act, text, caret]
        exact (blind_copy _).alongside prompt session
    | visual kind =>
        simp only [act, beginVisual, text, caret]
        cases kind <;> exact ⟨rfl, rfl⟩
    | searchWord direction => exact (blind_searchWord direction count).alongside prompt session
    | searchNext reversed => exact (blind_searchMove reversed count).alongside prompt session
    | searchPrompt kind => exact absurd rfl (asks kind)
    | undo =>
        simp only [act, undo, undoTimes_answering]
        exact ⟨rfl, rfl⟩
    | move motion =>
        exact respected.withTarget _ _ _
          (fun cursor _ _ related => .done (respected.setCursor cursor.caret related)) rfl
    | exPrompt | repeatLast => exact ⟨rfl, rfl⟩
    | _ => exact absurd rfl edits

theorem put_answering (low high : Nat) (new : Text) (prompt : Prompt) (session : Session library) :
    (session.answering prompt).put low high new = (session.put low high new).answering prompt :=
  congrArg Prod.snd (replace_answering low high new false prompt session)

theorem blind_runEx (line : Text) (selection : Option Cursor) :
    Blind library (runEx line selection) := by
  intro prompt session
  have text : (session.answering prompt).text = session.text := rfl
  have chosen (command : ExCommand) :
      (session.answering prompt).substitutionOf command = session.substitutionOf command := rfl
  have lines (range : LineRange) :
      (session.answering prompt).linesOf range selection = session.linesOf range selection := rfl
  simp only [runEx, text, chosen, lines]
  split
  · rfl
  · split
    · rfl
    · rename_i substitution _
      split
      · rfl
      · rename_i result _
        have put := put_answering result.start result.stop result.text prompt
          ({ session with lastSubstitution := some substitution } : Session library)
        split
        · rfl
        · split
          · rfl
          · cases result.lastLine with
            | none => exact Prod.ext rfl put
            | some offset => exact Prod.ext rfl (congrArg (setCursor offset) put)

/-! ### Commands of visual mode -/

theorem blind_extend (motion : Motion) (count : Nat) : Blind library (extend motion count) := by
  intro prompt session
  have text : (session.answering prompt).text = session.text := rfl
  have base : (session.answering prompt).visualBase = session.visualBase := rfl
  have charSearch : (session.answering prompt).charSearch = session.charSearch := rfl
  have mode : (session.answering prompt).mode = session.mode := rfl
  simp only [extend, text, base, charSearch, mode]
  split <;> rfl

theorem joinSelection_answering (between : Text) (low high : Nat) (prompt : Prompt)
    (session : Session library) :
    (session.answering prompt).joinSelection between low high =
      (session.joinSelection between low high).answering prompt := by
  have text : (session.answering prompt).text = session.text := rfl
  simp only [joinSelection, text]
  rw [replace_answering]
  generalize session.replace low high _ false = answer
  obtain ⟨_ | _, after⟩ := answer <;> rfl

theorem shiftSelection_answering (inward : Bool) (low high : Nat) (prompt : Prompt)
    (session : Session library) :
    (session.answering prompt).shiftSelection inward low high =
      (session.shiftSelection inward low high).answering prompt := by
  have text (session : Session library) : (session.answering prompt).text = session.text := rfl
  have shifted (start : Nat) :
      (session.answering prompt).shifted inward start high = session.shifted inward start high := rfl
  simp only [shiftSelection, text, shifted, put_answering, setCursor_answering]

theorem blind_runVisual {command : VisualCommand} (asks : command ≠ .exPrompt) (count : Nat) :
    Blind library (runVisual command count) := by
  intro prompt session
  have text : (session.answering prompt).text = session.text := rfl
  have selected : (session.answering prompt).selected = session.selected := rfl
  cases command with
  | selectCharacters | selectLines | swapEnds => rfl
  | delete | change | swapCase =>
      simp only [runVisual, erase, text, selected, put_answering, setCursor_answering,
        toInsert_answering, toCommand_answering]
  | yank =>
      simp only [runVisual, text, selected, blind_copy _ prompt session]
      generalize session.copy _ = attempt
      obtain ⟨error | done, after⟩ := attempt <;> rfl
  | put =>
      simp only [runVisual, selected, blind_paste prompt session]
      generalize session.paste = attempt
      obtain ⟨error | new, after⟩ := attempt
      · rfl
      · simp only [put_answering, setCursor_answering, toCommand_answering]
  | shift inward =>
      simp only [runVisual, selected, shiftSelection_answering, toCommand_answering]
  | join between =>
      simp only [runVisual, selected, joinSelection_answering, toCommand_answering]
  | reflow =>
      have spans : (session.answering prompt).lineSpan session.selected =
        session.lineSpan session.selected := rfl
      have options : (session.answering prompt).options = session.options := rfl
      simp only [runVisual, selected, spans, reflow, text, options, put_answering,
        setCursor_answering, toCommand_answering]
  | exPrompt => exact absurd rfl asks
  | extend motion =>
      simp only [runVisual, blind_extend motion count prompt session]
      generalize session.extend motion count = attempt
      obtain ⟨error | done, after⟩ := attempt <;> rfl

/-! ### Taking over and typing -/

theorem blind_runControl (keys : List Char) : Blind library (runControl keys) := by
  intro prompt session
  have mode : (session.answering prompt).mode = session.mode := rfl
  simp only [runControl, mode]
  split
  · rfl
  · rename_i count _
    have redone := redoTimes_answering count prompt
      ({ session with changed := false } : Session library)
    exact Prod.ext rfl (congrArg notice redone)
  · rfl

theorem reconcile_answering (prompt : Prompt) (session : Session library) :
    (session.answering prompt).reconcile = session.reconcile.answering prompt := by
  have known : (session.answering prompt).known = session.known := rfl
  have text : (session.answering prompt).text = session.text := rfl
  simp only [reconcile, known, text]
  split <;> rfl

theorem enter_answering (prompt : Prompt) (session : Session library) :
    (session.answering prompt).enter = session.enter.answering prompt := by
  simp only [enter, reconcile_answering]
  rfl

theorem blind_insertText (new : Text) : Blind library (insertText new) := by
  intro prompt session
  simp only [insertText, reconcile_answering]
  split
  · rfl
  · have made := replace_answering session.reconcile.surface.selection.start
      session.reconcile.surface.selection.stop new true prompt
      ({ session.reconcile with
        cursor := Cursor.collapsed session.reconcile.surface.selection.start } : Session library)
    simp only [answering] at made ⊢
    rw [made]
    generalize replace _ _ new true _ = answer
    obtain ⟨_ | _, after⟩ := answer <;> rfl

theorem blind_insertKey (pressed : Key) : Blind library (insertKey pressed) := by
  intro prompt session
  have armed : (session.answering prompt).tabArmed = session.tabArmed := rfl
  have surface : (session.answering prompt).surface = session.surface := rfl
  simp only [insertKey, armed, surface, enter_answering, blind_insertText _ prompt session]
  split
  · rfl
  · split <;> rfl

end ModalVi.Session
