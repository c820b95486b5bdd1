import ModalVi.Proofs.History.Chain

namespace ModalVi

/-! Carets that are noted after changes.

A change whose caret was never noted shows its caret after its new text once it is made again, but a
single step back onto it notes the caret from before the change after it.  So two histories of the same
changes may show the same carets on one way and different ones on another.  They never do where their
changes are interchangeable. -/

namespace Change

variable {first second : Change} {next : Option Nat} {text : Text} {caret : Nat}

/-- The change without the caret that is noted after it. -/
def unsettled (change : Change) : Change := { change with caretAfter := none }

theorem fields_of_unsettled (same : second.unsettled = first.unsettled) :
    second.start = first.start ∧ second.old = first.old ∧ second.new = first.new ∧
      second.undoCaret = first.undoCaret := by
  cases first
  cases second
  cases same
  exact ⟨rfl, rfl, rfl, rfl⟩

theorem Takes.of_unsettled {before after : Text} (taken : first.Takes before after)
    (same : second.unsettled = first.unsettled) : second.Takes before after := by
  have restored : second = { first with caretAfter := second.caretAfter } := by
    cases first
    cases second
    cases same
    rfl
  rw [restored]
  exact taken.withCarets first.caretBefore second.caretAfter

/-- The text before the change, from the text after it. -/
def textBefore (change : Change) (text : Text) : Text :=
  text.splice change.start (change.start + change.new.length) change.old

/-- The text after the change, from the text before it. -/
def textAfter (change : Change) (text : Text) : Text :=
  text.splice change.start (change.start + change.old.length) change.new

/-- Where the caret is shown in `text` once the change is undone. -/
def undoPlace (change : Change) (text : Text) : Nat := min change.undoCaret text.length

/-- Where the caret is shown in `text` once the change is made again. -/
def redoPlace (change : Change) (text : Text) : Nat := min change.redoCaret text.length

theorem Takes.textBefore {change : Change} {before after : Text}
    (taken : change.Takes before after) : change.textBefore after = before := taken.splice_old

theorem Takes.textAfter {change : Change} {before after : Text}
    (taken : change.Takes before after) : change.textAfter before = after := taken.splice_new

/-- The change once a caret is noted after it. -/
def noted (caret : Nat) (change : Change) : Change :=
  if change.caretAfter.isNone then { change with caretAfter := some caret } else change

theorem isSome_noted (caret : Nat) (change : Change) :
    (change.noted caret).caretAfter.isSome = true := by
  simp only [noted]
  split
  · rfl
  · rename_i known
    simpa [Option.isSome_iff_ne_none] using known

theorem noted_of_isSome (known : first.caretAfter.isSome = true) : first.noted caret = first := by
  simp only [noted]
  split
  · rename_i unknown
    rw [Option.isNone_iff_eq_none] at unknown
    rw [unknown] at known
    cases known
  · rfl

theorem redoPlace_noted (unknown : first.caretAfter = none) :
    (first.noted caret).redoPlace text = min caret text.length := by
  simp only [noted, unknown, Option.isNone_none, if_true, redoPlace, redoCaret, Option.getD_some]

theorem undoPlace_noted (caret : Nat) (change : Change) (text : Text) :
    (change.noted caret).undoPlace text = change.undoPlace text ∧
      (change.noted caret).textBefore text = change.textBefore text := by
  simp only [noted]
  split <;> exact ⟨rfl, rfl⟩

/-! ### Changes that nobody can tell apart -/

/-- Two changes that lead to `text` show the same caret.  If it is noted with one of them only, it is
also the one that is noted on the way back over the change after them. -/
def Indistinct (next : Option Nat) (text : Text) (first second : Change) : Prop :=
  first.redoPlace text = second.redoPlace text ∧
    (first.caretAfter.isSome = second.caretAfter.isSome ∨ next = some (first.redoPlace text))

theorem Indistinct.refl (next : Option Nat) (text : Text) (change : Change) :
    change.Indistinct next text change := ⟨rfl, .inl rfl⟩

/-- Noting a caret that would be shown anyway keeps two changes indistinct. -/
theorem Indistinct.noted (indistinct : first.Indistinct next text second)
    (fits : first.caretAfter.isSome = true ∧ second.caretAfter.isSome = true ∨ next = some caret ∨
      caret = first.redoPlace text) :
    (first.noted caret).Indistinct next text (second.noted caret) := by
  obtain ⟨place, known⟩ := indistinct
  refine ⟨?_, .inl (by rw [isSome_noted, isSome_noted])⟩
  -- Where only one caret is noted, it is the one that the other change shows.
  have shown (apart : first.caretAfter.isSome ≠ second.caretAfter.isSome) :
      min caret text.length = first.redoPlace text := by
    have inside : min (first.redoPlace text) text.length = first.redoPlace text :=
      Nat.min_eq_left (Nat.min_le_right _ _)
    rcases fits with ⟨here, there⟩ | expected | same
    · exact absurd (here.trans there.symm) apart
    · have same := expected.symm.trans (known.resolve_left apart)
      rw [Option.some.inj same, inside]
    · rw [same, inside]
  cases here : first.caretAfter with
  | none =>
      rw [redoPlace_noted here]
      cases there : second.caretAfter with
      | none => rw [redoPlace_noted there]
      | some _ =>
          rw [noted_of_isSome (by rw [there]; rfl), shown (by simp [here, there]), place]
  | some _ =>
      rw [noted_of_isSome (by rw [here]; rfl)]
      cases there : second.caretAfter with
      | none => rw [redoPlace_noted there, shown (by simp [here, there])]
      | some _ => rw [noted_of_isSome (by rw [there]; rfl), place]

/-- Where two changes show the same caret, and still do once another one is noted, nobody can tell them
apart. -/
theorem Indistinct.of_noted (place : first.redoPlace text = second.redoPlace text)
    (still : (first.noted caret).redoPlace text = (second.noted caret).redoPlace text)
    (inside : caret ≤ text.length) : first.Indistinct (some caret) text second := by
  refine ⟨place, ?_⟩
  cases here : first.caretAfter with
  | none =>
      cases there : second.caretAfter with
      | none => exact .inl rfl
      | some _ =>
          rw [redoPlace_noted here, noted_of_isSome (by rw [there]; rfl), ← place,
            Nat.min_eq_left inside] at still
          exact .inr (congrArg some still)
  | some _ =>
      cases there : second.caretAfter with
      | none =>
          rw [redoPlace_noted there, noted_of_isSome (by rw [here]; rfl),
            Nat.min_eq_left inside] at still
          exact .inr (congrArg some still.symm)
      | some _ => exact .inl rfl

end Change

namespace History

variable {history : History} {top : Change} {rest : List Change}

theorem undoable_settle (caret : Nat) (newest : history.undoable = top :: rest) :
    (history.settle caret).undoable = top.noted caret :: rest := by
  simp only [settle, newest, Change.noted]
  split
  · rfl
  · exact newest

theorem settle_of_nil (caret : Nat) (nothing : history.undoable = []) :
    history.settle caret = history := by
  simp only [settle, nothing]

theorem unsettled_settle (caret : Nat) (history : History) :
    (history.settle caret).undoable.map Change.unsettled =
      history.undoable.map Change.unsettled := by
  cases newest : history.undoable with
  | nil => rw [settle_of_nil caret newest, newest, List.map_nil]
  | cons top rest =>
      obtain ⟨noted, settled⟩ := exists_settle caret history newest
      rw [settled]
      rfl

/-- A caret is noted with the newest change. -/
def Noted (history : History) : Prop :=
  ∀ change rest, history.undoable = change :: rest → change.caretAfter.isSome = true

theorem noted_settle (caret : Nat) (history : History) : (history.settle caret).Noted := by
  intro change rest newest
  cases held : history.undoable with
  | nil =>
      rw [settle_of_nil caret held, held] at newest
      cases newest
  | cons top under =>
      rw [undoable_settle caret held] at newest
      cases newest
      exact Change.isSome_noted caret top

end History

/-- Nobody can tell apart the changes that lead to `text`, newest first.  The caret is shown at `next`
once the change after them is undone. -/
def Interchangeable : (next : Option Nat) → Text → List Change → List Change → Prop
  | next, text, first :: firsts, second :: seconds =>
      first.Indistinct next text second ∧
        Interchangeable (some (first.undoPlace (first.textBefore text))) (first.textBefore text)
          firsts seconds
  | _, _, _, _ => True

/-- Where nobody can tell changes apart once a caret is noted with the newest ones, and these show the
same caret before that too, nobody could before. -/
theorem Interchangeable.of_noted {next : Option Nat} {text : Text} {caret : Nat}
    {first second : Change} {firsts seconds : List Change}
    (place : first.redoPlace text = second.redoPlace text) (inside : caret ≤ text.length)
    (still : Interchangeable next text (first.noted caret :: firsts) (second.noted caret :: seconds)) :
    Interchangeable (some caret) text (first :: firsts) (second :: seconds) := by
  obtain ⟨⟨same, _⟩, deeper⟩ := still
  refine ⟨.of_noted place same inside, ?_⟩
  obtain ⟨_, textBefore⟩ := Change.undoPlace_noted caret first text
  obtain ⟨undoPlace, _⟩ := Change.undoPlace_noted caret first (first.textBefore text)
  rw [textBefore, undoPlace] at deeper
  exact deeper

/-- Where the caret is shown in `text` once the first of the changes that lead on is undone. -/
def nextPlace (text : Text) : List Change → Option Nat
  | [] => none
  | change :: _ => some (change.undoPlace text)

/-- Nobody can tell apart the changes that lead on from `text`. -/
def InterchangeableAhead : Text → List Change → List Change → Prop
  | text, first :: firsts, second :: seconds =>
      first.Indistinct (nextPlace (first.textAfter text) firsts) (first.textAfter text) second ∧
        InterchangeableAhead (first.textAfter text) firsts seconds
  | _, _, _ => True

theorem InterchangeableAhead.refl (text : Text) (changes : List Change) :
    InterchangeableAhead text changes changes := by
  induction changes generalizing text with
  | nil => trivial
  | cons change rest ih => exact ⟨.refl _ _ change, ih _⟩

end ModalVi
