import ModalVi.Proofs.Search.Cache
import ModalVi.Proofs.Search.Last

namespace ModalVi

/-! Searching for a literal text.

A search for a word that is not empty leads to the nearest place where the word stands: forward to
the first after the caret, backward to the last that ends before it, and around the end of the text
if there is none on the way.  Places may overlap. -/

namespace Text

variable {text word : Text} {caret start stop : Nat} {direction : Direction} {place? : Option Nat}

/-- The word stands in the text from `start` on. -/
def StandsAt (text word : Text) (start : Nat) : Prop := word <+: text.drop start

instance (text word : Text) : DecidablePred (text.StandsAt word) := fun start =>
  inferInstanceAs (Decidable (word <+: text.drop start))

/-- All places where the word stands, in ascending order. -/
def places (text word : Text) : List Nat :=
  (List.range (text.length + 1)).filter fun start => text.StandsAt word start

theorem StandsAt.bound (stands : text.StandsAt word start) (given : word ≠ []) :
    start + word.length ≤ text.length := by
  have length := List.IsPrefix.length_le stands
  have some := List.length_pos_iff.mpr given
  rw [List.length_drop] at length
  omega

theorem standsAt_take (given : word ≠ []) :
    StandsAt (text.take stop) word start ↔
      text.StandsAt word start ∧ start + word.length ≤ stop := by
  have some := List.length_pos_iff.mpr given
  rw [StandsAt, List.drop_take, List.prefix_take_iff, StandsAt]
  refine and_congr_right fun _ => ?_
  omega

theorem mem_places (given : word ≠ []) : start ∈ text.places word ↔ text.StandsAt word start := by
  rw [places, List.mem_filter, List.mem_range, decide_eq_true_iff]
  exact and_iff_right_of_imp fun stands => by
    have bound := stands.bound given
    omega

theorem sorted_places (text word : Text) : (text.places word).Pairwise (· < ·) :=
  List.pairwise_lt_range.filter _

/-! ### The nearest place -/

/-- Where a search for the word leads from `caret`. -/
inductive Nearest (text word : Text) (caret : Nat) : Direction → Option Nat → Prop where
  | after {start : Nat} (least : IsLeast {start | caret < start ∧ text.StandsAt word start} start) :
      Nearest text word caret .forward (some start)
  /-- Nothing is after the caret, and the search goes on from the start of the text. -/
  | first {start : Nat} (nothing : ∀ start, caret < start → ¬ text.StandsAt word start)
      (least : IsLeast {start | text.StandsAt word start} start) :
      Nearest text word caret .forward (some start)
  | before {start : Nat}
      (greatest :
        IsGreatest {start | text.StandsAt word start ∧ start + word.length ≤ caret} start) :
      Nearest text word caret .backward (some start)
  /-- Nothing is before the caret, and the search goes on from the end of the text. -/
  | last {start : Nat}
      (nothing : ∀ start, start + word.length ≤ caret → ¬ text.StandsAt word start)
      (greatest : IsGreatest {start | text.StandsAt word start} start) :
      Nearest text word caret .backward (some start)
  | nowhere {direction : Direction} (nothing : ∀ start, ¬ text.StandsAt word start) :
      Nearest text word caret direction none

theorem Nearest.standsAt (nearest : text.Nearest word caret direction (some start)) :
    text.StandsAt word start := by
  cases nearest with
  | after least => exact least.1.2
  | first _ least => exact least.1
  | before greatest => exact greatest.1.1
  | last _ greatest => exact greatest.1

end Text

namespace Finder

open Text

variable {find : Finder} {word : Text}

/-- The finder finds the word wherever it stands. -/
def FindsWord (find : Finder) (word : Text) : Prop :=
  ∀ text, FindsFirst find text (stopWhere (text.StandsAt word) word.length)

theorem isLeast_of_finds {offset : Nat} (given : word ≠ []) (finds : find.FindsWord word)
    (text : Text) (inside : offset ≤ text.length) :
    (∃ start, find text offset = some (start, start + word.length) ∧
        IsLeast {start | offset ≤ start ∧ text.StandsAt word start} start) ∨
      find text offset = none ∧ ∀ start, offset ≤ start → ¬ text.StandsAt word start := by
  have nearest := finds text offset inside
  generalize find text offset = answer at nearest ⊢
  cases nearest with
  | found reached inside matched earliest =>
      obtain ⟨stands, rfl⟩ := stopWhere_eq_some.mp matched
      refine .inl ⟨_, rfl, ⟨reached, stands⟩, fun earlier candidate => ?_⟩
      apply Nat.le_of_not_lt
      intro before
      exact stopWhere_eq_none.mp (earliest earlier before candidate.1) candidate.2
  | missed nothing =>
      refine .inr ⟨rfl, fun start reached stands => ?_⟩
      have bound := stands.bound given
      exact stopWhere_eq_none.mp (nothing start (by omega) reached) stands

theorem isGreatest_of_finds (given : word ≠ []) (finds : find.FindsWord word) (text : Text) :
    (∃ start, find.last text = some (start, start + word.length) ∧
        IsGreatest {start | text.StandsAt word start} start) ∨
      find.last text = none ∧ ∀ start, ¬ text.StandsAt word start := by
  have last := last_of_findsFirst (finds text)
  generalize find.last text = answer at last ⊢
  cases last with
  | found _ inside matched latest =>
      obtain ⟨stands, rfl⟩ := stopWhere_eq_some.mp matched
      refine .inl ⟨_, rfl, stands, fun later candidate => ?_⟩
      apply Nat.le_of_not_lt
      intro after
      have bound := StandsAt.bound candidate given
      exact stopWhere_eq_none.mp (latest later (by omega) after) candidate
  | missed nothing =>
      refine .inr ⟨rfl, fun start stands => ?_⟩
      have bound := stands.bound given
      exact stopWhere_eq_none.mp (nothing start (by omega) (Nat.zero_le _)) stands

theorem nearest_forward (given : word ≠ []) (finds : find.FindsWord word) (text : Text)
    (caret : Nat) :
    ∃ place?, find.forward text caret = place?.map (fun start => (start, start + word.length)) ∧
      text.Nearest word caret .forward place? := by
  -- No place of a word that is not empty is at the end of the text, where the search may begin.
  have beyond (start : Nat) (stands : text.StandsAt word start) :
      min (caret + 1) text.length ≤ start ↔ caret < start := by
    have some := List.length_pos_iff.mpr given
    have bound := stands.bound given
    omega
  rcases isLeast_of_finds given finds text (Nat.min_le_right (caret + 1) text.length) with
    ⟨start, ahead, least⟩ | ⟨ahead, nothing⟩
  · have same : {start | min (caret + 1) text.length ≤ start ∧ text.StandsAt word start} =
        {start | caret < start ∧ text.StandsAt word start} :=
      Set.ext fun start => and_congr_left (beyond start)
    exact ⟨some start, by rw [forward, ahead]; rfl, .after (same ▸ least)⟩
  · have nothing (start : Nat) (after : caret < start) : ¬ text.StandsAt word start :=
      fun stands => nothing start ((beyond start stands).mpr after) stands
    rw [forward, ahead, Option.none_or]
    rcases isLeast_of_finds given finds text (Nat.zero_le _) with
      ⟨start, around, least⟩ | ⟨around, nowhere⟩
    · have same : {start | 0 ≤ start ∧ text.StandsAt word start} =
          {start | text.StandsAt word start} :=
        Set.ext fun start => and_iff_right (Nat.zero_le start)
      exact ⟨some start, around, .first nothing (same ▸ least)⟩
    · exact ⟨none, around, .nowhere fun start => nowhere start (Nat.zero_le start)⟩

theorem nearest_backward (given : word ≠ []) (finds : find.FindsWord word) (text : Text)
    (caret : Nat) :
    ∃ place?, find.backward text caret = place?.map (fun start => (start, start + word.length)) ∧
      text.Nearest word caret .backward place? := by
  have before (start : Nat) : StandsAt (text.take caret) word start ↔
      text.StandsAt word start ∧ start + word.length ≤ caret := standsAt_take given
  rcases isGreatest_of_finds given finds (text.take caret) with
    ⟨start, behind, greatest⟩ | ⟨behind, nothing⟩
  · have same : {start | StandsAt (text.take caret) word start} =
        {start | text.StandsAt word start ∧ start + word.length ≤ caret} := Set.ext before
    exact ⟨some start, by rw [backward, behind]; rfl, .before (same ▸ greatest)⟩
  · have nothing (start : Nat) (ends : start + word.length ≤ caret) : ¬ text.StandsAt word start :=
      fun stands => nothing start ((before start).mpr ⟨stands, ends⟩)
    rw [backward, behind, Option.none_or]
    rcases isGreatest_of_finds given finds text with
      ⟨start, around, greatest⟩ | ⟨around, nowhere⟩
    · exact ⟨some start, around, .last nothing greatest⟩
    · exact ⟨none, around, .nowhere nowhere⟩

theorem nearest_toward (given : word ≠ []) (finds : find.FindsWord word) (direction : Direction)
    (text : Text) (caret : Nat) :
    ∃ place?, find.toward direction text caret =
        place?.map (fun start => (start, start + word.length)) ∧
      text.Nearest word caret direction place? := by
  cases direction with
  | forward => exact nearest_forward given finds text caret
  | backward => exact nearest_backward given finds text caret

end Finder

namespace Library

/-- Escaped, the word is found exactly where it stands. -/
def FindsLiteral (library : Library) (word : Text) : Prop :=
  ∃ find, library.compile (library.escape word) = .ok find ∧ find.FindsWord word

theorem findsLiteral_standard (word : Text) : standard.FindsLiteral word := by
  obtain ⟨find, compiled, first⟩ := findsFirst_of_spelled (word.map .character)
  refine ⟨find, ?_, fun text offset inside => ?_⟩
  · rwa [← Regex.quote_eq_spelling word] at compiled
  · refine (first text offset inside).congr fun start _ => ?_
    have stop : Regex.Atom.stopAt text (word.map .character ++ []) start =
        Finder.stopWhere (text.StandsAt word) word.length start := Regex.stopAt_characters word []
    rwa [List.append_nil] at stop

end Library

end ModalVi
