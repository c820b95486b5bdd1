import ModalVi.Proofs.History.Difference
import ModalVi.Proofs.Surface

namespace ModalVi

/-! The chain of texts behind a history.

The changes that can be undone lead, oldest first, from the text the history began with to the current
one, and the changes that can be redone lead on from there.  Every operation on a history keeps such a
chain, as long as it is told truthfully what happened to the text. -/

/-- The changes lead one after the other from the first text to the last. -/
inductive Leads : (before : Text) → List Change → (after : Text) → Prop where
  | refl {text : Text} : Leads text [] text
  | step {change : Change} {changes : List Change} {before middle after : Text}
      (first : change.Takes before middle) (rest : Leads middle changes after) :
      Leads before (change :: changes) after

namespace Leads

variable {before middle after : Text} {change : Change} {changes others : List Change}

theorem append (first : Leads before changes middle) (rest : Leads middle others after) :
    Leads before (changes ++ others) after := by
  induction first with
  | refl => exact rest
  | step taken _ ih => exact .step taken (ih rest)

/-- The last of several changes leads from the text that the others lead to. -/
theorem last_of_reverse_cons (chain : Leads before (change :: changes).reverse after) :
    ∃ middle, Leads before changes.reverse middle ∧ change.Takes middle after := by
  rw [List.reverse_cons] at chain
  generalize changes.reverse = earlier at chain
  induction earlier generalizing before with
  | nil =>
      cases chain with
      | step taken rest =>
          cases rest
          exact ⟨before, .refl, taken⟩
  | cons first earlier ih =>
      cases chain with
      | step taken rest =>
          obtain ⟨middle, chained, last⟩ := ih rest
          exact ⟨middle, .step taken chained, last⟩

theorem eq_of_nil (chain : Leads before [] after) : after = before := by
  cases chain
  rfl

theorem takes_of_single (chain : Leads before [change] after) : change.Takes before after := by
  cases chain with
  | step taken rest =>
      cases rest
      exact taken

theorem reverse_cons (chain : Leads before changes.reverse middle)
    (taken : change.Takes middle after) : Leads before (change :: changes).reverse after := by
  rw [List.reverse_cons]
  exact chain.append (.step taken .refl)

end Leads

namespace History

/-- A new edit is a change of its own, or it is an insertion right after the newest change's text
while the window is open and nothing can be redone, and makes that change longer. -/
theorem record_cases (history : History) (start stop : Nat) (old new : Text) (caret : Nat)
    (merging : Bool) :
    history.record start stop old new caret merging =
        (false, ⟨⟨start, stop, old, new, some caret, none⟩ :: history.undoable, [], merging⟩) ∨
      ∃ top rest, history.undoable = top :: rest ∧ start = stop ∧ history.merging = true ∧
        merging = true ∧ history.redoable = [] ∧ top.start + top.new.length = start ∧
        history.record start stop old new caret merging =
          (true, ⟨{ top with
            new := top.new ++ new, caretAfter := some (start + new.length) } :: rest, [], merging⟩) := by
  unfold History.record
  split
  · rename_i nothing
    left
    rw [nothing]
  · rename_i top rest newest
    split
    · rename_i joining
      simp only [joins, Bool.and_eq_true, beq_iff_eq, List.isEmpty_iff] at joining
      obtain ⟨⟨⟨⟨opened, merges⟩, nothing⟩, inserts⟩, ends⟩ := joining
      exact .inr ⟨top, rest, newest, inserts, opened, merges, nothing, ends, rfl⟩
    · left
      rw [newest]

theorem record_of_apart {history : History} {merging : Bool} (start stop : Nat) (old new : Text)
    (caret : Nat) (apart : history.merging = false ∨ merging = false) :
    (history.record start stop old new caret merging).2 =
      ⟨⟨start, stop, old, new, some caret, none⟩ :: history.undoable, [], merging⟩ := by
  rcases history.record_cases start stop old new caret merging with
    recorded | ⟨top, rest, newest, _, opened, merges, _⟩
  · rw [recorded]
  · simp [opened, merges] at apart

/-- Typing on where the newest change ends makes that change longer. -/
theorem record_of_joining {history : History} {top : Change} {rest : List Change} {offset : Nat}
    (old new : Text) (caret : Nat) (merging : history.merging = true)
    (redoable : history.redoable = []) (newest : history.undoable = top :: rest)
    (ends : top.start + top.new.length = offset) :
    (history.record offset offset old new caret true).2 =
      ⟨{ top with new := top.new ++ new, caretAfter := some (offset + new.length) } :: rest, [],
        true⟩ := by
  have joining : history.joins offset offset true top = true := by
    simp [joins, merging, redoable, ends]
  simp only [History.record, newest, joining, if_true]

/-- Only the newest change was made since there were the others. -/
theorem since_of_newest {history : History} {change : Change} {prior : List Change}
    (newest : history.undoable = change :: prior) : history.since prior.length = [change] := by
  rw [since, newest, List.reverse_cons, ← List.length_reverse, List.drop_left]

/-! ### Noting a caret -/

section Settle

variable {history : History} {top : Change} {rest : List Change}

/-- Noting a caret touches nothing but the newest change. -/
theorem exists_settle (caret : Nat) (history : History) (newest : history.undoable = top :: rest) :
    ∃ noted, history.settle caret =
      { history with undoable := { top with caretAfter := noted } :: rest } := by
  simp only [settle, newest]
  split
  · exact ⟨some caret, rfl⟩
  · exact ⟨top.caretAfter, by rw [← newest]⟩

theorem settle_of_noted {caret noted : Nat} (newest : history.undoable = top :: rest)
    (caretAfter : top.caretAfter = some noted) : history.settle caret = history := by
  simp only [settle, newest, caretAfter, Option.isNone_some, Bool.false_eq_true, if_false]

theorem redoable_settle (caret : Nat) (history : History) :
    (history.settle caret).redoable = history.redoable := by
  unfold settle
  split
  · rfl
  · split <;> rfl

theorem merging_settle (caret : Nat) (history : History) :
    (history.settle caret).merging = history.merging := by
  unfold settle
  split
  · rfl
  · split <;> rfl

theorem length_settle (caret : Nat) (history : History) :
    (history.settle caret).undoable.length = history.undoable.length := by
  cases newest : history.undoable with
  | nil => simp only [settle, newest, List.length_nil]
  | cons top rest =>
      obtain ⟨noted, settled⟩ := exists_settle caret history newest
      rw [settled]
      rfl

end Settle

/-- The history accounts for `text`: its changes lead there from `origin`, and on from there. -/
structure Consistent (origin : Text) (history : History) (text : Text) : Prop where
  undoable : Leads origin history.undoable.reverse text
  redoable : ∃ latest, Leads text history.redoable latest

theorem Consistent.empty (origin : Text) : History.empty.Consistent origin origin :=
  ⟨.refl, origin, .refl⟩

namespace Consistent

variable {origin text : Text} {history : History}

/-- A new change takes the place of everything that could be redone. -/
theorem fresh {change : Change} {after : Text} (merging : Bool)
    (consistent : history.Consistent origin text) (taken : change.Takes text after) :
    Consistent origin ⟨change :: history.undoable, [], merging⟩ after :=
  ⟨consistent.undoable.reverse_cons taken, after, .refl⟩

theorem push {change : Change} {after : Text} (consistent : history.Consistent origin text)
    (taken : change.Takes text after) : (history.push change).Consistent origin after :=
  consistent.fresh false taken

theorem close (consistent : history.Consistent origin text) :
    history.close.Consistent origin text :=
  ⟨consistent.undoable, consistent.redoable⟩

theorem settle (caret : Nat) (consistent : history.Consistent origin text) :
    (history.settle caret).Consistent origin text := by
  unfold History.settle
  split
  · exact consistent
  · rename_i top rest newest
    split
    · have chain := consistent.undoable
      rw [newest] at chain
      obtain ⟨middle, earlier, taken⟩ := chain.last_of_reverse_cons
      exact ⟨earlier.reverse_cons (taken.withCarets top.caretBefore (some caret)),
        consistent.redoable⟩
    · exact consistent

/-- Remembering an edit keeps the chain, whether the edit joins the newest change or not. -/
theorem record {start stop : Nat} (new : Text) (caret : Nat) (merging : Bool)
    (consistent : history.Consistent origin text) (ordered : start ≤ stop)
    (bounded : stop ≤ text.length) :
    (history.record start stop (text.slice start stop) new caret merging).2.Consistent origin
      (text.splice start stop new) := by
  have taken : (⟨start, stop, text.slice start stop, new, some caret, none⟩ : Change).Takes text
      (text.splice start stop new) := ⟨ordered, bounded, rfl, rfl⟩
  rcases history.record_cases start stop (text.slice start stop) new caret merging with
    apart | ⟨top, rest, newest, rfl, _, _, _, rfl, joined⟩
  · rw [apart]
    exact consistent.fresh merging taken
  · rw [joined]
    have chain := consistent.undoable
    rw [newest] at chain
    obtain ⟨middle, earlier, last⟩ := chain.last_of_reverse_cons
    exact ⟨earlier.reverse_cons (last.grown new _), _, .refl⟩

theorem undo {surface after : Surface} {caret : Option Nat} {remaining : History}
    (consistent : history.Consistent origin surface.text)
    (undone : history.undo surface = (caret, remaining, after)) :
    remaining.Consistent origin after.text := by
  unfold History.undo at undone
  split at undone
  · cases undone
    exact consistent.close
  · rename_i change rest newest
    have chain := consistent.undoable
    rw [newest] at chain
    obtain ⟨middle, earlier, last⟩ := chain.last_of_reverse_cons
    obtain ⟨latest, later⟩ := consistent.redoable
    split at undone
    · rename_i edited made
      cases undone
      obtain ⟨_, _, _, rfl⟩ := Surface.eq_edited_of_edit made
      simp only [Surface.text_edited, last.splice_old]
      exact ⟨earlier, latest, .step last later⟩
    · rename_i judged refused
      cases undone
      rw [Surface.eq_judged_of_edit refused]
      exact consistent.close

theorem redo {surface after : Surface} {caret : Option Nat} {remaining : History}
    (consistent : history.Consistent origin surface.text)
    (redone : history.redo surface = (caret, remaining, after)) :
    remaining.Consistent origin after.text := by
  unfold History.redo at redone
  split at redone
  · cases redone
    exact consistent.close
  · rename_i change rest next
    obtain ⟨latest, later⟩ := consistent.redoable
    rw [next] at later
    cases later with
    | step first later =>
        split at redone
        · rename_i edited made
          cases redone
          obtain ⟨_, _, _, rfl⟩ := Surface.eq_edited_of_edit made
          simp only [Surface.text_edited, first.splice_new]
          exact ⟨consistent.undoable.reverse_cons first, latest, later⟩
        · rename_i judged refused
          cases redone
          rw [Surface.eq_judged_of_edit refused]
          exact consistent.close

end Consistent

/-! ### Undoing and redoing on an accepting host -/

section Accepting

variable {history : History} {surface : Surface} {change : Change} {rest : List Change}
  {before : Text}

theorem undo_of_takes (newest : history.undoable = change :: rest)
    (taken : change.Takes before surface.text) (accepted : surface.verdicts 0 = true) :
    history.undo surface =
      (some change.undoCaret, ⟨rest, change :: history.redoable, false⟩,
        surface.edited change.start (change.start + change.new.length) change.old) := by
  have made := Surface.edit_of_accepted change.old accepted
    (Nat.le_add_right change.start change.new.length) taken.start_add_length_new_le
  simp only [undo, newest, made]

theorem redo_of_takes {after : Text} (next : history.redoable = change :: rest)
    (taken : change.Takes surface.text after) (accepted : surface.verdicts 0 = true) :
    history.redo surface =
      (some change.redoCaret, ⟨change :: history.undoable, rest, false⟩,
        surface.edited change.start (change.start + change.old.length) change.new) := by
  have within : change.start + change.old.length ≤ surface.text.length := by
    rw [taken.start_add_length_old]
    exact taken.bounded
  have made := Surface.edit_of_accepted change.new accepted
    (Nat.le_add_right change.start change.old.length) within
  simp only [redo, next, made]

/-- On a host that accepts everything, a step back is made if the change is within the text. -/
theorem undo_cons (newest : history.undoable = change :: rest) (accepts : surface.Accepts) :
    history.undo surface =
      if change.start + change.new.length ≤ surface.text.length then
        (some change.undoCaret, ⟨rest, change :: history.redoable, false⟩,
          surface.edited change.start (change.start + change.new.length) change.old)
      else (none, history.close, surface.judged) := by
  have ordered : change.start ≤ change.start + change.new.length := Nat.le_add_right _ _
  simp only [undo, newest, Surface.edit_of_accepts accepts, ordered, true_and]
  by_cases within : change.start + change.new.length ≤ surface.text.length
  · rw [if_pos within, if_pos within]
  · rw [if_neg within, if_neg within]

/-- A step forth, likewise. -/
theorem redo_cons (next : history.redoable = change :: rest) (accepts : surface.Accepts) :
    history.redo surface =
      if change.start + change.old.length ≤ surface.text.length then
        (some change.redoCaret, ⟨change :: history.undoable, rest, false⟩,
          surface.edited change.start (change.start + change.old.length) change.new)
      else (none, history.close, surface.judged) := by
  have ordered : change.start ≤ change.start + change.old.length := Nat.le_add_right _ _
  simp only [redo, next, Surface.edit_of_accepts accepts, ordered, true_and]
  by_cases within : change.start + change.old.length ≤ surface.text.length
  · rw [if_pos within, if_pos within]
  · rw [if_neg within, if_neg within]

end Accepting

end History

end ModalVi
