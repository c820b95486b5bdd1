import ModalVi.Proofs.History.Chain
import ModalVi.Session.Keys

namespace ModalVi.Session

/-! What steps of a session do to its text and its history.

A step leaves the session `Untouched` where it fails, and a command that does not undo, redo or repeat
either leaves the text and the changes as they were (`Kept`) or replaces one span and remembers that
as one change (`Edited`).  Later modules argue from these two cases alone and never look into a
command again. -/

variable {library : Library} {session before middle after : Session library}
  {low high start stop : Nat} {new : Text}
  {merging : Bool}

theorem caret_le_length (session : Session library) : session.caret ≤ session.text.length :=
  Nat.min_le_right _ _

theorem caret_setCursor {offset : Nat} (inside : offset ≤ session.text.length) :
    (session.setCursor offset).caret = offset := by
  have least : min offset session.text.length = offset := Nat.min_eq_left inside
  change min (min offset session.text.length) session.text.length = offset
  rw [least, least]

/-- What the host did is noticed, not changed. -/
theorem surface_reconcile (session : Session library) :
    session.reconcile.surface = session.surface := by
  simp only [reconcile]
  split <;> rfl

/-! ### Replacing a span -/

/-- The session after a span within the text was replaced. -/
def replaced (start stop : Nat) (new : Text) (merging : Bool) (session : Session library) :
    Session library :=
  { session with
    surface := session.surface.edited start stop new
    history := (session.history.record start stop (session.text.slice start stop) new
      session.cursor.caret merging).2
    known := session.text.splice start stop new
    changed := true }

/-- Where nothing is replaced, the host was not asked or refused. -/
theorem eq_of_replace_eq_false (refused : session.replace low high new merging = (false, after)) :
    after = session ∨ after = { session with surface := session.surface.judged } := by
  simp only [replace] at refused
  split at refused
  · cases refused
    exact .inl rfl
  · split at refused
    · rename_i judged kept
      cases refused
      rw [Surface.eq_judged_of_edit kept]
      exact .inr rfl
    · cases refused

theorem eq_replaced_of_replace (made : session.replace low high new merging = (true, after)) :
    ∃ start stop, start ≤ stop ∧ stop ≤ session.text.length ∧ session.text.slice start stop ≠ new ∧
      session.surface.verdicts 0 = true ∧ after = session.replaced start stop new merging := by
  simp only [replace] at made
  split at made
  · cases made
  · rename_i differs
    split at made
    · cases made
    · rename_i edited asked
      obtain ⟨ordered, bounded, accepted, rfl⟩ := Surface.eq_edited_of_edit asked
      cases made
      exact ⟨_, _, ordered, bounded, differs, accepted, rfl⟩

theorem replace_of_accepted (accepted : session.surface.verdicts 0 = true) (ordered : start ≤ stop)
    (bounded : stop ≤ session.text.length) (differs : session.text.slice start stop ≠ new) :
    session.replace start stop new merging = (true, session.replaced start stop new merging) := by
  have made := Surface.edit_of_accepted new accepted ordered bounded
  simp only [replace, Nat.min_eq_left bounded, Nat.min_eq_left ordered, if_neg differs, made]
  rfl

/-- The text is what was asked for if the host accepts that, and stays as it was if not. -/
theorem text_replace (ordered : start ≤ stop) (bounded : stop ≤ session.text.length) (new : Text)
    (merging : Bool) :
    (session.replace start stop new merging).2.text =
      if session.surface.verdicts 0 then session.text.splice start stop new else session.text := by
  by_cases same : session.text.slice start stop = new
  · rw [← same, Text.splice_slice _ ordered, ite_self]
    simp only [replace, Nat.min_eq_left bounded, Nat.min_eq_left ordered, if_true]
  · cases accepted : session.surface.verdicts 0 with
    | true =>
        rw [replace_of_accepted accepted ordered bounded same]
        rfl
    | false =>
        simp only [replace, Nat.min_eq_left bounded, Nat.min_eq_left ordered, if_neg same,
          Surface.edit, accepted]
        rfl

/-- What is accepted is in the text, and the caret goes anywhere up to its end. -/
theorem setCursor_put_of_accepted {offset : Nat} (accepted : session.surface.verdicts 0 = true)
    (ordered : start ≤ stop) (bounded : stop ≤ session.text.length)
    (within : offset ≤ start + new.length) :
    let after := (session.put start stop new).setCursor offset
    after.text = session.text.splice start stop new ∧
      after.cursor = Cursor.collapsed offset ∧ after.caret = offset := by
  have text : (session.put start stop new).text = _ := text_replace ordered bounded new false
  rw [if_pos accepted] at text
  have inside : offset ≤ (session.put start stop new).text.length := by
    rw [text]
    exact Nat.le_trans within (Text.start_add_length_le_splice new ordered bounded)
  exact ⟨text, congrArg Cursor.collapsed (Nat.min_eq_left inside), caret_setCursor inside⟩

/-! ### Steps that leave text and changes alone -/

/-- Nothing that a user would miss is different: neither the field nor the history, the last change,
the clipboard's text, the mode or the keys.  Searches and prompts may be remembered, and the cursor
may have moved. -/
structure Untouched (before after : Session library) : Prop where
  surface : after.surface = before.surface
  history : after.history = before.history
  last : after.last = before.last
  content : after.clipboard.content = before.clipboard.content
  mode : after.mode = before.mode
  keys : after.keys = before.keys
  known : after.known = before.known
  options : after.options = before.options
  tabArmed : after.tabArmed = before.tabArmed

namespace Untouched

theorem refl (session : Session library) : Untouched session session :=
  ⟨rfl, rfl, rfl, rfl, rfl, rfl, rfl, rfl, rfl⟩

theorem trans (first : Untouched before middle) (second : Untouched middle after) :
    Untouched before after where
  surface := second.surface.trans first.surface
  history := second.history.trans first.history
  last := second.last.trans first.last
  content := second.content.trans first.content
  mode := second.mode.trans first.mode
  keys := second.keys.trans first.keys
  known := second.known.trans first.known
  options := second.options.trans first.options
  tabArmed := second.tabArmed.trans first.tabArmed

theorem text (untouched : Untouched before after) : after.text = before.text :=
  congrArg Surface.text untouched.surface

/-- Where the cursor is and what is remembered of searches and prompts does not count. -/
theorem memory (cursor : Cursor) (search : Search) (charSearch : Option CharSearch)
    (prompt : Prompt) (prompts : PromptHistory) (lastSubstitution : Option Substitution)
    (changed : Bool) (session : Session library) :
    Untouched session
      { session with cursor, search, charSearch, prompt, prompts, lastSubstitution, changed } :=
  ⟨rfl, rfl, rfl, rfl, rfl, rfl, rfl, rfl, rfl⟩

end Untouched

/-- What every step of a command leaves alone. -/
structure Framed (before after : Session library) : Prop where
  keys : after.keys = before.keys
  options : after.options = before.options
  tabArmed : after.tabArmed = before.tabArmed
  host : before.surface.Follows after.surface

namespace Framed

theorem refl (session : Session library) : Framed session session :=
  ⟨rfl, rfl, rfl, .refl session.surface⟩

theorem trans (first : Framed before middle) (second : Framed middle after) :
    Framed before after where
  keys := second.keys.trans first.keys
  options := second.options.trans first.options
  tabArmed := second.tabArmed.trans first.tabArmed
  host := first.host.trans second.host

end Framed

/-- The text and the changes are as they were. -/
structure Kept (before after : Session library) : Prop extends Framed before after where
  text : after.text = before.text
  undoable : after.history.undoable = before.history.undoable
  redoable : after.history.redoable = before.history.redoable
  merging : after.history.merging = before.history.merging ∨ after.history.merging = false
  known : after.known = before.known ∨ after.known = before.text

namespace Kept

theorem refl (session : Session library) : Kept session session :=
  ⟨.refl session, rfl, rfl, rfl, .inl rfl, .inl rfl⟩

theorem trans (first : Kept before middle) (second : Kept middle after) : Kept before after where
  toFramed := first.toFramed.trans second.toFramed
  text := second.text.trans first.text
  undoable := second.undoable.trans first.undoable
  redoable := second.redoable.trans first.redoable
  merging := by
    rcases second.merging with same | closed
    · rw [same]
      exact first.merging
    · exact .inr closed
  known := by
    rcases second.known with same | noticed
    · rw [same]
      exact first.known
    · exact .inr (noticed.trans first.text)

end Kept

theorem Untouched.framed (untouched : Untouched before after) : Framed before after where
  keys := untouched.keys
  options := untouched.options
  tabArmed := untouched.tabArmed
  host := untouched.surface ▸ .refl before.surface

theorem Untouched.kept (untouched : Untouched before after) : Kept before after where
  toFramed := untouched.framed
  text := untouched.text
  undoable := congrArg History.undoable untouched.history
  redoable := congrArg History.redoable untouched.history
  merging := .inl (congrArg History.merging untouched.history)
  known := .inl untouched.known

theorem kept_setCursor (offset : Nat) (session : Session library) :
    Kept session (session.setCursor offset) :=
  ⟨⟨rfl, rfl, rfl, 0, fun _ => rfl⟩, rfl, rfl, rfl, .inl rfl, .inl rfl⟩

theorem kept_toInsert (session : Session library) : Kept session session.toInsert :=
  ⟨⟨rfl, rfl, rfl, 0, fun _ => rfl⟩, rfl, rfl, rfl, .inr rfl, .inr rfl⟩

theorem kept_toCommand (session : Session library) : Kept session session.toCommand :=
  ⟨⟨rfl, rfl, rfl, 0, fun _ => rfl⟩, rfl, rfl, rfl, .inl rfl, .inl rfl⟩

theorem kept_showCursor (cursor : Cursor) (mode : Mode) (session : Session library) :
    Kept session ({ session with cursor, mode } : Session library).showCursor :=
  ⟨⟨rfl, rfl, rfl, 0, fun _ => rfl⟩, rfl, rfl, rfl, .inl rfl, .inl rfl⟩

/-! ### Steps that make one change -/

/-- One span was replaced, and that was remembered as the newest change together with the caret from
before the step. -/
structure Edited (start stop : Nat) (new : Text) (before after : Session library) : Prop
    extends Framed before after where
  ordered : start ≤ stop
  bounded : stop ≤ before.text.length
  differs : before.text.slice start stop ≠ new
  accepted : before.surface.verdicts 0 = true
  text : after.text = before.text.splice start stop new
  undoable : after.history.undoable =
    ⟨start, stop, before.text.slice start stop, new, some before.cursor.caret, none⟩ ::
      before.history.undoable
  redoable : after.history.redoable = []
  merging : after.history.merging = false
  known : after.known = after.text

/-- The caret is within the text, nothing is selected, and the field shows that. -/
structure Placed (session : Session library) : Prop where
  collapsed : session.cursor = Cursor.collapsed session.cursor.caret
  shown : session.surface.selection = Selection.caret session.cursor.caret
  inside : session.cursor.caret ≤ session.text.length

theorem placed_setCursor (offset : Nat) (session : Session library) :
    Placed (session.setCursor offset) where
  collapsed := rfl
  shown := by
    simp only [setCursor, Surface.select, Selection.clamped, Selection.caret, text,
      Cursor.collapsed]
    simp
  inside := Nat.min_le_right _ _

/-- Only the cursor and the field matter. -/
theorem Placed.congr (placed : Placed before) (cursor : after.cursor = before.cursor)
    (surface : after.surface = before.surface) : Placed after where
  collapsed := by
    rw [cursor]
    exact placed.collapsed
  shown := by
    rw [cursor, surface]
    exact placed.shown
  inside := by
    rw [cursor, text, surface]
    exact placed.inside

theorem Placed.toInsert (placed : Placed session) : Placed session.toInsert :=
  placed.congr rfl rfl

/-- The step replaced at most one span. -/
def AtMostOneEdit (before after : Session library) : Prop :=
  Kept before after ∨ ∃ start stop new, Edited start stop new before after

/-- The step replaced at most one span, and if it did, it left the caret alone in the text. -/
def Commanded (before after : Session library) : Prop :=
  Kept before after ∨ ∃ start stop new, Edited start stop new before after ∧ Placed after

namespace Edited

/-- An edit changes the text. -/
theorem text_ne (edited : Edited start stop new before after) : after.text ≠ before.text := by
  intro same
  have ordered := edited.ordered
  have taken : (⟨start, stop, before.text.slice start stop, new, none, none⟩ : Change).Takes
      before.text after.text := ⟨ordered, edited.bounded, rfl, edited.text.symm⟩
  have held := taken.slice_new
  have lengths := congrArg List.length same
  rw [edited.text, Text.length_splice new ordered edited.bounded] at lengths
  have bounded := edited.bounded
  have stopEq : start + new.length = stop := by omega
  rw [same] at held
  exact edited.differs (stopEq ▸ held)

theorem trans_kept (edited : Edited start stop new before middle) (kept : Kept middle after) :
    Edited start stop new before after where
  toFramed := edited.toFramed.trans kept.toFramed
  ordered := edited.ordered
  bounded := edited.bounded
  differs := edited.differs
  accepted := edited.accepted
  text := kept.text.trans edited.text
  undoable := kept.undoable.trans edited.undoable
  redoable := kept.redoable.trans edited.redoable
  merging := by
    rcases kept.merging with same | closed
    · rw [same, edited.merging]
    · exact closed
  known := by
    rw [kept.text]
    rcases kept.known with same | noticed
    · rw [same, edited.known]
    · exact noticed

theorem of_untouched (edited : Edited start stop new middle after)
    (untouched : Untouched before middle) (cursor : middle.cursor = before.cursor) :
    Edited start stop new before after where
  toFramed := untouched.framed.trans edited.toFramed
  ordered := edited.ordered
  bounded := untouched.text ▸ edited.bounded
  differs := untouched.text ▸ edited.differs
  accepted := untouched.surface ▸ edited.accepted
  text := untouched.text ▸ edited.text
  undoable := by
    rw [edited.undoable, untouched.text, untouched.history, cursor]
  redoable := edited.redoable
  merging := edited.merging
  known := edited.known

end Edited

theorem AtMostOneEdit.setCursor (step : AtMostOneEdit before after) (offset : Nat) :
    Commanded before (after.setCursor offset) := by
  rcases step with kept | ⟨start, stop, new, edited⟩
  · exact .inl (kept.trans (kept_setCursor offset after))
  · exact .inr ⟨start, stop, new, edited.trans_kept (kept_setCursor offset after),
      placed_setCursor offset after⟩

namespace Commanded

theorem atMostOneEdit (step : Commanded before after) : AtMostOneEdit before after := by
  rcases step with kept | ⟨start, stop, new, edited, _⟩
  · exact .inl kept
  · exact .inr ⟨start, stop, new, edited⟩

theorem host (step : Commanded before after) :
    before.surface.Follows after.surface := by
  rcases step with kept | ⟨_, _, _, edited, _⟩
  · exact kept.host
  · exact edited.host

theorem setCursor (step : Commanded before after) (offset : Nat) :
    Commanded before (after.setCursor offset) :=
  step.atMostOneEdit.setCursor offset

theorem toInsert (step : Commanded before after) : Commanded before after.toInsert := by
  rcases step with kept | ⟨start, stop, new, edited, placed⟩
  · exact .inl (kept.trans (kept_toInsert after))
  · exact .inr ⟨start, stop, new, edited.trans_kept (kept_toInsert after), placed.toInsert⟩

theorem recorded (step : Commanded before after) (last : LastChange) :
    Commanded before { after with last } := by
  have kept : Kept after { after with last } :=
    ⟨⟨rfl, rfl, rfl, .refl _⟩, rfl, rfl, rfl, .inl rfl, .inl rfl⟩
  rcases step with same | ⟨start, stop, new, edited, placed⟩
  · exact .inl (same.trans kept)
  · exact .inr ⟨start, stop, new, edited.trans_kept kept, placed.congr rfl rfl⟩

theorem toCommand (step : Commanded before after) : Commanded before after.toCommand := by
  rcases step with kept | ⟨start, stop, new, edited, _⟩
  · exact .inl (kept.trans (kept_toCommand after))
  · exact .inr ⟨start, stop, new, edited.trans_kept (kept_toCommand after),
      placed_setCursor _ _⟩

theorem of_untouched (step : Commanded middle after) (untouched : Untouched before middle)
    (cursor : middle.cursor = before.cursor) : Commanded before after := by
  rcases step with kept | ⟨start, stop, new, edited, placed⟩
  · exact .inl (untouched.kept.trans kept)
  · exact .inr ⟨start, stop, new, edited.of_untouched untouched cursor, placed⟩

end Commanded

/-! ### The steps that replace -/

/-- A replacement that does not merge is one change of its own. -/
theorem edited_replaced (accepted : session.surface.verdicts 0 = true) (ordered : start ≤ stop)
    (bounded : stop ≤ session.text.length) (differs : session.text.slice start stop ≠ new) :
    Edited start stop new session (session.replaced start stop new false) := by
  have record := History.record_of_apart start stop (session.text.slice start stop) new
    session.cursor.caret (.inr rfl : session.history.merging = false ∨ false = false)
  exact
    { keys := rfl, options := rfl, tabArmed := rfl
      host := .edited start stop new session.surface
      ordered, bounded, differs, accepted
      text := rfl
      undoable := congrArg History.undoable record
      redoable := congrArg History.redoable record
      merging := congrArg History.merging record
      known := rfl }

theorem kept_of_replace_eq_false (refused : session.replace low high new merging = (false, after)) :
    Kept session after := by
  rcases eq_of_replace_eq_false refused with rfl | rfl
  · exact .refl _
  · exact ⟨⟨rfl, rfl, rfl, 1, fun _ => rfl⟩, rfl, rfl, rfl, .inl rfl, .inl rfl⟩

theorem atMostOneEdit_of_replace {made : Bool}
    (asked : session.replace low high new false = (made, after)) : AtMostOneEdit session after := by
  cases made with
  | false => exact .inl (kept_of_replace_eq_false asked)
  | true =>
      obtain ⟨start, stop, ordered, bounded, differs, accepted, rfl⟩ := eq_replaced_of_replace asked
      exact .inr ⟨start, stop, new, edited_replaced accepted ordered bounded differs⟩

/-- What a command that edits comes to: the host was asked for one edit, and then the caret was put
somewhere.  Only after a refusal may it have stayed. -/
inductive Replaces (before : Session library) : Session library → Prop where
  | placed {low high : Nat} {new : Text} {made : Bool} {after : Session library}
      (asked : before.replace low high new false = (made, after)) (offset : Nat) :
      Replaces before (after.setCursor offset)
  | refused {low high : Nat} {new : Text} {after : Session library}
      (asked : before.replace low high new false = (false, after)) : Replaces before after

theorem Replaces.commanded (replaces : Replaces before after) : Commanded before after := by
  cases replaces with
  | placed asked offset => exact (atMostOneEdit_of_replace asked).setCursor offset
  | refused asked => exact .inl (kept_of_replace_eq_false asked)

theorem replaces_put (low high : Nat) (new : Text) (offset : Nat) (session : Session library) :
    Replaces session ((session.put low high new).setCursor offset) :=
  .placed rfl offset

theorem commanded_put (low high : Nat) (new : Text) (offset : Nat) (session : Session library) :
    Commanded session ((session.put low high new).setCursor offset) :=
  (replaces_put low high new offset session).commanded

theorem commanded_erase (low high : Nat) (session : Session library) :
    Commanded session (session.erase low high) :=
  commanded_put low high [] low session

end ModalVi.Session
