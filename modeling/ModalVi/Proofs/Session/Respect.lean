import ModalVi.Proofs.Session.Mode

namespace ModalVi.Session

/-! Commands that edit respect what they do not look at.

A command reads the text, the caret, the clipboard, the options and the last search for a character, and
what it does it does by few steps.  So two sessions that agree in those, and that are related in a way
that the steps keep, are still related after the command was carried out in both. -/

variable {library : Library} {Related : Session library → Session library → Prop}
  {first second : Session library} {α : Type}

/-- Related sessions look alike to a command, and its steps keep them related. -/
structure Respected (Related : Session library → Session library → Prop) : Prop where
  text {first second : Session library} (related : Related first second) : second.text = first.text
  cursor {first second : Session library} (related : Related first second) :
    second.cursor = first.cursor
  clipboard {first second : Session library} (related : Related first second) :
    second.clipboard = first.clipboard
  options {first second : Session library} (related : Related first second) :
    second.options = first.options
  charSearch {first second : Session library} (related : Related first second) :
    second.charSearch = first.charSearch
  setCursor {first second : Session library} (offset : Nat) (related : Related first second) :
    Related (first.setCursor offset) (second.setCursor offset)
  toInsert {first second : Session library} (related : Related first second) :
    Related first.toInsert second.toInsert
  access {first second : Session library} (clipboard : Clipboard) (related : Related first second) :
    Related { first with clipboard } { second with clipboard }
  remember {first second : Session library} (charSearch : Option CharSearch)
    (related : Related first second) :
    Related { first with charSearch } { second with charSearch }
  replace {first second : Session library} (low high : Nat) (new : Text)
    (related : Related first second) :
    (second.replace low high new false).1 = (first.replace low high new false).1 ∧
      Related (first.replace low high new false).2 (second.replace low high new false).2

/-- Both attempts end alike, and the sessions that they leave behind are related. -/
def Alongside (Related : Session library → Session library → Prop)
    (first second : Attempt library α) : Prop :=
  second.1 = first.1 ∧ Related first.2 second.2

theorem Alongside.cases {here there : Attempt library α}
    (alongside : Alongside Related here there) :
    (∃ error firstAfter secondAfter, here = (.error error, firstAfter) ∧
        there = (.error error, secondAfter) ∧ Related firstAfter secondAfter) ∨
      ∃ answer firstAfter secondAfter, here = (.ok answer, firstAfter) ∧
        there = (.ok answer, secondAfter) ∧ Related firstAfter secondAfter := by
  obtain ⟨_, firstAfter⟩ := here
  obtain ⟨result, secondAfter⟩ := there
  obtain ⟨rfl, related⟩ := alongside
  cases result with
  | error error => exact .inl ⟨error, firstAfter, secondAfter, rfl, rfl, related⟩
  | ok answer => exact .inr ⟨answer, firstAfter, secondAfter, rfl, rfl, related⟩

theorem Alongside.done (related : Related first second) :
    Alongside Related (.ok (), first) (.ok (), second) := ⟨rfl, related⟩

namespace Respected

theorem caret (respected : Respected Related) (related : Related first second) :
    second.caret = first.caret := by
  rw [Session.caret, Session.caret, respected.text related, respected.cursor related]

theorem put (respected : Respected Related) (low high : Nat) (new : Text)
    (related : Related first second) :
    Related (first.put low high new) (second.put low high new) :=
  (respected.replace low high new related).2

theorem erase (respected : Respected Related) (low high : Nat) (related : Related first second) :
    Related (first.erase low high) (second.erase low high) :=
  respected.setCursor low (respected.put low high [] related)

theorem putText (respected : Respected Related) (after : Bool) (content : Text)
    (related : Related first second) :
    Related (first.putText after content) (second.putText after content) := by
  simp only [Session.putText, respected.text related, respected.caret related]
  split
  · split
    · split <;> exact respected.setCursor _ (respected.put _ _ _ related)
    · exact respected.setCursor _ (respected.put _ _ _ related)
  · exact respected.setCursor _ (respected.put _ _ _ related)

/-- Where a replacement was made in both, the caret is put somewhere that the text tells. -/
theorem replaceMoving (respected : Respected Related) (low high : Nat) (new : Text)
    (place : Text → Nat) (related : Related first second) :
    Related
      (match first.replace low high new false with
        | (true, session) => session.setCursor (place session.text)
        | (false, session) => session)
      (match second.replace low high new false with
        | (true, session) => session.setCursor (place session.text)
        | (false, session) => session) := by
  obtain ⟨same, after⟩ := respected.replace low high new related
  generalize first.replace low high new false = here at same after
  generalize second.replace low high new false = there at same after
  obtain ⟨made, firstAfter⟩ := here
  obtain ⟨madeAlso, secondAfter⟩ := there
  simp only at same after
  subst same
  cases madeAlso with
  | true =>
      have text : secondAfter.text = firstAfter.text := respected.text after
      simp only [text]
      exact respected.setCursor _ after
  | false => exact after

theorem shift (respected : Respected Related) (inward whole : Bool) (cursor : Cursor)
    (related : Related first second) :
    Related (first.shift inward whole cursor) (second.shift inward whole cursor) := by
  have shifted (start stop : Nat) :
      second.shifted inward start stop = first.shifted inward start stop := by
    simp only [Session.shifted, respected.text related, respected.options related]
  simp only [Session.shift, shifted, respected.text related]
  -- Otherwise the unifier evaluates the lines that are shifted.
  generalize first.text.lineStart cursor.low = start
  generalize first.shifted inward start _ = new
  exact respected.replaceMoving start _ new (fun text => text.indentEnd start) related

theorem join (respected : Respected Related) (between : Text) (count : Nat)
    (related : Related first second) :
    Related (first.join between count) (second.join between count) := by
  simp only [Session.join, respected.text related, respected.caret related]
  exact respected.replaceMoving _ _ _ (fun _ => _) related

theorem reflow (respected : Respected Related) (start stop : Nat) (related : Related first second) :
    Related (first.reflow start stop) (second.reflow start stop) := by
  simp only [Session.reflow, respected.text related, respected.options related]
  exact respected.setCursor _ (respected.put _ _ _ related)

theorem putClipboard (respected : Respected Related) (after : Bool) (count : Nat)
    (related : Related first second) :
    Alongside Related (first.putClipboard after count) (second.putClipboard after count) := by
  simp only [Session.putClipboard, paste, respected.clipboard related]
  generalize first.clipboard.read = answer
  obtain ⟨result, clipboard⟩ := answer
  have accessed := respected.access clipboard related
  cases result with
  | error error => exact ⟨rfl, accessed⟩
  | ok content =>
      cases content with
      | nil => exact ⟨rfl, accessed⟩
      | cons c rest => exact ⟨rfl, respected.putText after _ accessed⟩

/-- A command with a motion respects what the rest of it respects. -/
theorem withTarget (respected : Respected Related)
    {act : Cursor → Session library → Attempt library Unit}
    (change : Bool) (motion : Motion) (count : Nat)
    (acts : ∀ cursor {first second}, Related first second →
      Alongside Related (act cursor first) (act cursor second))
    (related : Related first second) :
    Alongside Related (first.withTarget change motion count act)
      (second.withTarget change motion count act) := by
  simp only [Session.withTarget, target, respected.text related, respected.caret related,
    respected.charSearch related]
  have remembered := respected.remember (motion.remember first.charSearch) related
  generalize Standpoint.resolve _ _ _ _ = result
  cases result with
  | error error => exact ⟨rfl, remembered⟩
  | ok cursor => exact acts cursor remembered

theorem copy (respected : Respected Related) (text : Text) (related : Related first second) :
    Alongside Related (first.copy text) (second.copy text) := by
  simp only [Session.copy, respected.clipboard related]
  generalize first.clipboard.write text = answer
  obtain ⟨result, clipboard⟩ := answer
  have accessed := respected.access clipboard related
  cases result <;> exact ⟨rfl, accessed⟩

/-- Commands that edit respect every such relation. -/
theorem act (respected : Respected Related) {command : Command} (edits : command.edits = true)
    (count : Nat) (related : Related first second) :
    Alongside Related (first.act command count) (second.act command count) := by
  have text := respected.text related
  have caret := respected.caret related
  cases command with
  | openBelow =>
      simp only [Session.act, Session.openBelow, text, caret]
      exact .done (respected.toInsert (respected.setCursor _ (respected.put _ _ _ related)))
  | openAbove =>
      simp only [Session.act, Session.openAbove, text, caret]
      exact .done (respected.toInsert (respected.setCursor _ (respected.put _ _ _ related)))
  | deleteAhead inserting | deleteToLineEnd inserting =>
      simp only [Session.act, text, caret]
      cases inserting with
      | false => exact .done (respected.erase _ _ related)
      | true => exact .done (respected.toInsert (respected.erase _ _ related))
  | deleteBehind =>
      simp only [Session.act, text, caret]
      exact .done (respected.erase _ _ related)
  | changeLines =>
      simp only [Session.act, Session.changeLines, text, caret]
      exact .done (respected.toInsert (respected.erase _ _ related))
  | delete motion =>
      simp only [Session.act]
      exact respected.withTarget _ _ _ (fun _ _ _ still => .done (respected.erase _ _ still)) related
  | change motion =>
      simp only [Session.act]
      exact respected.withTarget _ _ _
        (fun _ _ _ still => .done (respected.toInsert (respected.erase _ _ still))) related
  | put after =>
      simp only [Session.act]
      exact respected.putClipboard after count related
  | shift inward motion =>
      simp only [Session.act]
      exact respected.withTarget _ _ _ (fun _ _ _ still => .done (respected.shift _ _ _ still))
        related
  | join between =>
      simp only [Session.act]
      exact .done (respected.join between count related)
  | reflow motion =>
      simp only [Session.act]
      refine respected.withTarget _ _ _ (fun cursor _ _ still => ?_) related
      simp only [lineSpan, respected.text still]
      exact .done (respected.reflow _ _ still)
  | swapCase =>
      simp only [Session.act, Session.swapCase, text, caret]
      exact .done (respected.setCursor _ (respected.put _ _ _ related))
  | insert | insertAtIndent | append | appendAtLineEnd | yank | yankLines | visual | searchWord
    | searchNext | searchPrompt | exPrompt | repeatLast | undo | move => cases edits

/-- So does a command that copies what a motion covers. -/
theorem act_yank (respected : Respected Related) (motion : Motion) (count : Nat)
    (related : Related first second) :
    Alongside Related (first.act (.yank motion) count) (second.act (.yank motion) count) := by
  simp only [Session.act, respected.text related]
  refine respected.withTarget _ _ _ (fun cursor before after still => ?_) related
  rcases (respected.copy (first.text.slice cursor.low cursor.high) still).cases with
    ⟨error, here, there, failed, alsoFailed, copied⟩ | ⟨_, here, there, done, alsoDone, copied⟩
  · rw [failed, alsoFailed]
    exact ⟨rfl, copied⟩
  · rw [done, alsoDone]
    exact .done (respected.setCursor _ copied)

end Respected

end ModalVi.Session
