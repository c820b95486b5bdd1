import ModalVi.Proofs.Regex.Spelling
import ModalVi.Proofs.Search.First

namespace ModalVi

/-! What the expressions of this project find.

An expression tries the places of a text one after the other, so it does not pass over one where a match
starts, and its matches lie in the text.  The texts and words that it is given escaped it finds where they
stand. -/

namespace Regex

/-! ### Matches lie in the text -/

variable {pattern : Pattern} {before : Option Char} {unread : List Char} {offset : Nat}
  {found : Match}

/-- Threads that are followed from `offset` on end there or later, and not after the last character. -/
theorem le_of_follow {threads : List Thread} {best : Option (Nat × Slots)} {first last stop : Nat}
    {slots : Slots} (followed : follow threads before unread offset best = some (stop, slots))
    (earlier : ∀ stop slots, best = some (stop, slots) → first ≤ stop ∧ stop ≤ last)
    (begun : first ≤ offset) (ends : offset + unread.length = last) :
    first ≤ stop ∧ stop ≤ last := by
  induction unread generalizing threads before offset best with
  | nil =>
      rw [follow] at followed
      dsimp only at followed
      rcases Option.or_eq_some_iff.mp followed with here | ⟨-, there⟩
      · obtain ⟨noted, -, same⟩ := Option.map_eq_some_iff.mp here
        cases same
        simp only [List.length_nil] at ends
        omega
      · exact earlier _ _ there
  | cons c unread ih =>
      rw [follow] at followed
      dsimp only at followed
      generalize (Way.preferred _).2 = ended at followed
      have later : ∀ stop slots,
          (ended.map fun slots => (offset, slots)).or best = some (stop, slots) →
            first ≤ stop ∧ stop ≤ last := by
        intro stop slots known
        rcases Option.or_eq_some_iff.mp known with here | ⟨-, there⟩
        · obtain ⟨noted, -, same⟩ := Option.map_eq_some_iff.mp here
          cases same
          omega
        · exact earlier _ _ there
      split at followed
      · exact later _ _ followed
      · refine ih followed later (Nat.le_succ_of_le begun) ?_
        simp only [List.length_cons] at ends
        omega

theorem bounds_of_matchHere (matched : pattern.matchHere before unread offset = some found) :
    found.start = offset ∧ offset ≤ found.stop ∧ found.stop ≤ offset + unread.length := by
  obtain ⟨⟨stop, slots⟩, followed, rfl⟩ := Option.map_eq_some_iff.mp matched
  exact ⟨rfl, le_of_follow followed nofun (Nat.le_refl _) rfl⟩

theorem bounds_of_search (searched : pattern.search before unread offset = some found) :
    found.start ≤ found.stop ∧ found.stop ≤ offset + unread.length := by
  induction unread generalizing before offset with
  | nil =>
      simp only [Pattern.search] at searched
      split at searched
      · rename_i here matched
        cases searched
        have bounds := bounds_of_matchHere matched
        exact ⟨bounds.1 ▸ bounds.2.1, bounds.2.2⟩
      · cases searched
  | cons c unread ih =>
      simp only [Pattern.search] at searched
      split at searched
      · rename_i here matched
        cases searched
        have bounds := bounds_of_matchHere matched
        exact ⟨bounds.1 ▸ bounds.2.1, bounds.2.2⟩
      · have later := ih searched
        rw [List.length_cons]
        omega

theorem bounds_of_findAt {text : Text} (matched : pattern.findAt text offset = some found) :
    found.start ≤ found.stop ∧ found.stop ≤ text.length := by
  simp only [Pattern.findAt] at matched
  split at matched
  · cases matched
  · have bounds := bounds_of_search matched
    rw [List.length_drop] at bounds
    omega

/-! ### The first match -/

open Finder

variable {text : Text}

/-- Where the match that starts at an offset ends, if there is one. -/
def Pattern.stopAt (pattern : Pattern) (text : Text) (start : Nat) : Option Nat :=
  (pattern.matchHere (text.before? start) (text.drop start) start).map Match.stop

theorem first_of_matchHere {pattern : Pattern} {found : Match} (inside : offset ≤ text.length)
    (matched : pattern.matchHere (text.before? offset) (text.drop offset) offset = some found) :
    First (pattern.stopAt text) text offset (some (found.start, found.stop)) := by
  have start : found.start = offset := (bounds_of_matchHere matched).1
  have stop : pattern.stopAt text offset = some found.stop := by
    rw [Pattern.stopAt, matched]
    rfl
  rw [start]
  exact .found (Nat.le_refl offset) inside stop fun _ before after =>
    absurd before (Nat.not_lt.mpr after)

theorem first_of_search (pattern : Pattern) (inside : offset ≤ text.length) :
    First (pattern.stopAt text) text offset
      ((pattern.search (text.before? offset) (text.drop offset) offset).map fun found =>
        (found.start, found.stop)) := by
  have missed {offset : Nat}
      (here : pattern.matchHere (text.before? offset) (text.drop offset) offset = none) :
      pattern.stopAt text offset = none := by
    rw [Pattern.stopAt, here]
    rfl
  generalize unread : text.drop offset = rest
  induction rest generalizing offset with
  | nil =>
      have ended : text.length ≤ offset := List.drop_eq_nil_iff.mp unread
      rw [Pattern.search]
      cases here : pattern.matchHere (text.before? offset) [] offset with
      | some found => exact first_of_matchHere inside (unread ▸ here)
      | none =>
          refine .missed fun start within after => ?_
          obtain rfl : start = offset := by omega
          exact missed (unread ▸ here)
  | cons c rest ih =>
      have more : offset < text.length := by
        have length := congrArg List.length unread
        simp only [List.length_drop, List.length_cons] at length
        omega
      obtain ⟨rfl, later⟩ :=
        List.cons.inj ((List.drop_eq_getElem_cons more).symm.trans unread)
      have next : text.before? (offset + 1) = some text[offset] := by simp [Text.before?, more]
      rw [Pattern.search]
      cases here : pattern.matchHere (text.before? offset) (text[offset] :: rest) offset with
      | some found => exact first_of_matchHere inside (unread ▸ here)
      | none =>
          have searched := @ih (offset + 1) more later
          rw [next] at searched
          exact searched.of_missed (missed (unread ▸ here))

end Regex

namespace Library

open Finder

theorem findsSpans_standard : standard.FindsSpans := by
  intro source find compiled text offset _ start stop found
  rw [compile, standard] at compiled
  dsimp only at compiled
  cases parsed : Regex.parse false source with
  | none =>
      rw [parsed] at compiled
      cases compiled
  | some pattern =>
      rw [parsed] at compiled
      cases compiled
      obtain ⟨matched, here, same⟩ := Option.map_eq_some_iff.mp found
      cases same
      exact Regex.bounds_of_findAt here

/-- The finder of an expression finds its first match. -/
theorem findsFirst_of_parse {source : Text} {pattern : Regex.Pattern}
    (parsed : Regex.parse false source = some pattern) :
    ∃ find, standard.compile source = .ok find ∧
      ∀ text, FindsFirst find text (pattern.stopAt text) := by
  refine ⟨pattern.expression.find, ?_, fun text offset inside => ?_⟩
  · simp only [compile, standard, parsed]
    rfl
  · simp only [Regex.Pattern.expression, Regex.Pattern.findAt]
    rw [if_neg (Nat.not_lt.mpr inside)]
    exact Regex.first_of_search pattern inside

theorem findsFirst_of_spelled (atoms : List Regex.Atom) :
    ∃ find, standard.compile (atoms.flatMap Regex.Atom.spelling) = .ok find ∧
      ∀ text, FindsFirst find text (Regex.Atom.stopAt text atoms) := by
  obtain ⟨find, compiled, first⟩ := findsFirst_of_parse (Regex.parse_spelled atoms)
  refine ⟨find, compiled, fun text offset inside =>
    (first text offset inside).congr fun start within => ?_⟩
  rw [Regex.Pattern.stopAt, Regex.matchHere_sequence within, Option.map_map]
  exact Option.map_id'

end Library

end ModalVi
