import Mathlib.Data.Set.Basic
import Mathlib.Order.Bounds.Defs
import ModalVi.Proofs.Regex.Engine

namespace ModalVi.Finder

/-! The match that starts last.

A loop asks for the first match, then for the first one from right behind the start of that one on, and
so on, until there is none or the text ends.  It goes on behind the start of a match and not behind its
end, so matches that overlap others are not passed over and one without characters does not hold it up.
Each turn begins later in the text than the one before, so the loop ends, and of the matches that it came
upon the last is the one that starts last. -/

variable {find : Finder} {text : Text} {spans : Set (Nat × Nat)} {stopAt : Nat → Option Nat}
  {offset start stop : Nat} {best answer other : Option (Nat × Nat)}

/-- The loop ends with an answer, beginning with the place from which it asks next and the match that it
came upon last. -/
inductive Climbs (find : Finder) (text : Text) :
    (offset : Nat) → (best answer : Option (Nat × Nat)) → Prop where
  | missed {offset : Nat} {best : Option (Nat × Nat)} (none : find text offset = none) :
      Climbs find text offset best best
  | ended {offset start stop : Nat} {best : Option (Nat × Nat)}
      (found : find text offset = some (start, stop)) (last : text[start]? = none) :
      Climbs find text offset best (some (start, stop))
  | further {offset start stop : Nat} {c : Char} {best answer : Option (Nat × Nat)}
      (found : find text offset = some (start, stop)) (next : text[start]? = some c)
      (later : Climbs find text (start + 1) (some (start, stop)) answer) :
      Climbs find text offset best answer

/-- Of the matches that start at a place of the text or later, the finder finds one of those that start
first.  It may find another one of them when it is asked from another place. -/
structure FindsEarliest (find : Finder) (text : Text) (spans : Set (Nat × Nat)) : Prop where
  inside : ∀ span ∈ spans, span.1 ≤ text.length
  found : ∀ offset ≤ text.length, ∀ span, find text offset = some span →
    span ∈ spans ∧ IsLeast {start ∈ Prod.fst '' spans | offset ≤ start} span.1
  missed : ∀ offset ≤ text.length, find text offset = none → ∀ span ∈ spans, span.1 < offset

/-- Which match the finder finds at a place does not depend on where it was asked from. -/
def Consistent (find : Finder) (text : Text) : Prop :=
  ∀ offset ≤ text.length, ∀ start stop, find text offset = some (start, stop) →
    find text start = some (start, stop)

/-- What the loop came upon before `offset`: a match that starts last there, as the finder found it. -/
inductive Best (find : Finder) (text : Text) (spans : Set (Nat × Nat)) (offset : Nat) :
    Option (Nat × Nat) → Prop where
  | nothing (before : ∀ span ∈ spans, offset ≤ span.1) : Best find text spans offset none
  | found {asked start stop : Nat} (inside : asked ≤ text.length) (reached : asked ≤ start)
      (found : find text asked = some (start, stop))
      (greatest : IsGreatest {place ∈ Prod.fst '' spans | place < offset} start) :
      Best find text spans offset (some (start, stop))

/-! ### One turn -/

namespace FindsEarliest

variable (earliest : find.FindsEarliest text spans) (inside : offset ≤ text.length)
include earliest inside

theorem reached (found : find text offset = some (start, stop)) :
    offset ≤ start ∧ start ≤ text.length := by
  obtain ⟨member, least⟩ := earliest.found offset inside _ found
  exact ⟨least.1.2, earliest.inside _ member⟩

theorem best_of_found (found : find text offset = some (start, stop)) :
    Best find text spans (start + 1) (some (start, stop)) := by
  obtain ⟨member, least⟩ := earliest.found offset inside _ found
  refine .found inside least.1.2 found ⟨⟨least.1.1, Nat.lt_succ_self start⟩, ?_⟩
  exact fun place candidate => Nat.le_of_lt_succ candidate.2

/-- Where nothing more is found, the match that the loop came upon last is the last of all. -/
theorem best_of_missed (best : Best find text spans offset answer)
    (missed : find text offset = none) : Best find text spans (text.length + 1) answer := by
  have before := earliest.missed offset inside missed
  cases best with
  | nothing none =>
      exact .nothing fun span member =>
        absurd (before span member) (Nat.not_lt.mpr (none span member))
  | found asked reached found greatest =>
      refine .found asked reached found
        ⟨⟨greatest.1.1, Nat.lt_succ_of_le ?_⟩, fun place ⟨starts, _⟩ => ?_⟩
      · exact Nat.le_trans (Nat.le_of_lt greatest.1.2) inside
      · obtain ⟨span, member, rfl⟩ := starts
        exact greatest.2 ⟨⟨span, member, rfl⟩, before span member⟩

end FindsEarliest

/-! ### The loop -/

theorem Climbs.unique (climbs : Climbs find text offset best answer)
    (also : Climbs find text offset best other) : other = answer := by
  induction climbs with
  | missed none =>
      cases also with
      | missed => rfl
      | ended found _ | further found _ _ => cases none.symm.trans found
  | ended found last =>
      cases also with
      | missed none => cases none.symm.trans found
      | ended same _ => exact same.symm.trans found
      | further same next _ =>
          cases same.symm.trans found
          cases last.symm.trans next
  | further found next _ ih =>
      cases also with
      | missed none => cases none.symm.trans found
      | ended same last =>
          cases same.symm.trans found
          cases last.symm.trans next
      | further same _ later =>
          cases same.symm.trans found
          exact ih later

/-- The loop ends: a turn leaves at least one place behind, so as many turns suffice as places are left. -/
theorem climbs_lastFrom (earliest : find.FindsEarliest text spans) (fuel : Nat)
    (inside : offset ≤ text.length) (enough : text.length < offset + fuel)
    (best : Option (Nat × Nat)) :
    Climbs find text offset best (find.lastFrom text fuel offset best) := by
  induction fuel generalizing offset best with
  | zero => omega
  | succ fuel ih =>
      rw [lastFrom]
      cases found : find text offset with
      | none => exact .missed found
      | some span =>
          obtain ⟨start, stop⟩ := span
          have reached := earliest.reached inside found
          by_cases more : start < text.length
          · simp only [if_pos more]
            exact .further found (List.getElem?_eq_getElem more) (ih more (by omega) _)
          · simp only [if_neg more]
            exact .ended found (List.getElem?_eq_none (Nat.le_of_not_lt more))

theorem Climbs.best_answer (earliest : find.FindsEarliest text spans)
    (inside : offset ≤ text.length)
    (climbs : Climbs find text offset best answer) (begun : Best find text spans offset best) :
    Best find text spans (text.length + 1) answer := by
  -- A match that is found takes the place of the one before, so what was known is asked for only where
  -- nothing more is found.
  induction climbs with
  | missed none => exact earliest.best_of_missed inside begun none
  | ended found last =>
      have reached := earliest.reached inside found
      have whole := Nat.le_antisymm reached.2 (List.getElem?_eq_none_iff.mp last)
      rw [← whole]
      exact earliest.best_of_found inside found
  | further found next _ ih =>
      exact ih (List.getElem?_eq_some_iff.mp next).1 (earliest.best_of_found inside found)

theorem climbs_last (earliest : find.FindsEarliest text spans) :
    Climbs find text 0 none (find.last text) :=
  climbs_lastFrom earliest _ (Nat.zero_le _) (by omega) none

theorem best_last (earliest : find.FindsEarliest text spans) :
    Best find text spans (text.length + 1) (find.last text) :=
  (climbs_last earliest).best_answer earliest (Nat.zero_le _) (.nothing fun _ _ => Nat.zero_le _)

/-! ### Finders that find the first match -/

/-- The answer is the match that starts last, among those that start at `offset` or later. -/
inductive Last (stopAt : Nat → Option Nat) (text : Text) (offset : Nat) :
    Option (Nat × Nat) → Prop where
  | found {start stop : Nat} (reached : offset ≤ start) (inside : start ≤ text.length)
      (matched : stopAt start = some stop)
      (latest : ∀ later ≤ text.length, start < later → stopAt later = none) :
      Last stopAt text offset (some (start, stop))
  | missed (nothing : ∀ start ≤ text.length, offset ≤ start → stopAt start = none) :
      Last stopAt text offset none

theorem FindsFirst.earliest (first : FindsFirst find text stopAt) :
    find.FindsEarliest text {span | span.1 ≤ text.length ∧ stopAt span.1 = some span.2} where
  inside _ member := member.1
  found offset asked span found := by
    have nearest := first offset asked
    rw [found] at nearest
    cases nearest with
    | found reached inside matched earliest =>
        refine ⟨⟨inside, matched⟩, ⟨⟨_, ⟨inside, matched⟩, rfl⟩, reached⟩, ?_⟩
        rintro _ ⟨⟨other, ⟨_, held⟩, rfl⟩, after⟩
        apply Nat.le_of_not_lt
        intro before
        cases (earliest _ before after).symm.trans held
  missed offset asked missed span member := by
    have nearest := first offset asked
    rw [missed] at nearest
    cases nearest with
    | missed nothing =>
        apply Nat.lt_of_not_le
        intro after
        cases (nothing span.1 member.1 after).symm.trans member.2

theorem FindsFirst.consistent (first : FindsFirst find text stopAt) : find.Consistent text := by
  intro offset asked start stop found
  have nearest := first offset asked
  rw [found] at nearest
  cases nearest with
  | found _ inside matched _ =>
      have again := first start inside
      generalize find text start = answer at again ⊢
      cases again with
      | @found place _ reached _ same earliest =>
          obtain rfl : start = place := by
            refine Nat.le_antisymm reached (Nat.le_of_not_lt fun after => ?_)
            cases (earliest start after (Nat.le_refl start)).symm.trans matched
          rw [← Option.some.inj (same.symm.trans matched)]
      | missed nothing => cases (nothing start inside (Nat.le_refl start)).symm.trans matched

theorem last_of_findsFirst (first : FindsFirst find text stopAt) :
    Last stopAt text 0 (find.last text) := by
  have last := best_last first.earliest
  generalize find.last text = answer at last ⊢
  cases last with
  | nothing before =>
      refine .missed fun start inside _ => ?_
      refine Option.eq_none_iff_forall_ne_some.mpr fun stop matched => ?_
      exact absurd (before (start, stop) ⟨inside, matched⟩) (by omega)
  | found asked _ found greatest =>
      obtain ⟨inside, matched⟩ := (first.earliest.found _ asked _ found).1
      refine .found (Nat.zero_le _) inside matched fun later inside after => ?_
      refine Option.eq_none_iff_forall_ne_some.mpr fun stop matched => ?_
      exact absurd (greatest.2 ⟨⟨(later, stop), ⟨inside, matched⟩, rfl⟩, Nat.lt_succ_of_le inside⟩)
        (Nat.not_le.mpr after)

/-! ### What the loop finds -/

/-- The loop ends, and with one answer only.  It has none only where nothing matches.  Otherwise the answer
is a match that starts last, as the finder finds it when it is asked from its start or from before.  If
that makes no difference to the finder, it is what the finder finds at that start. -/
theorem last_isGreatest (earliest : find.FindsEarliest text spans) :
    (∀ answer, Climbs find text 0 none answer ↔ answer = find.last text) ∧
      (find.last text = none ↔ spans = ∅) ∧
      ∀ start stop, find.last text = some (start, stop) →
        IsGreatest (Prod.fst '' spans) start ∧
          (∃ offset ≤ start, find text offset = some (start, stop)) ∧
          (find.Consistent text → find text start = some (start, stop)) := by
  have climbs := climbs_last earliest
  have inside : ∀ place ∈ Prod.fst '' spans, place < text.length + 1 := by
    rintro _ ⟨span, member, rfl⟩
    exact Nat.lt_succ_of_le (earliest.inside span member)
  refine ⟨fun answer => ⟨climbs.unique, fun same => same ▸ climbs⟩, ?_⟩
  have last := best_last earliest
  generalize find.last text = answer at last ⊢
  cases last with
  | nothing before =>
      refine ⟨iff_of_true rfl (Set.eq_empty_iff_forall_notMem.mpr fun span member => ?_), nofun⟩
      exact absurd (inside _ ⟨span, member, rfl⟩) (Nat.not_lt.mpr (before span member))
  | found asked reached found greatest =>
      obtain ⟨span, member, _⟩ := greatest.1.1
      refine ⟨iff_of_false nofun (Set.nonempty_iff_ne_empty.mp ⟨span, member⟩), ?_⟩
      rintro start stop ⟨⟩
      refine ⟨⟨greatest.1.1, fun place starts => greatest.2 ⟨starts, inside place starts⟩⟩, ?_⟩
      exact ⟨⟨_, reached, found⟩, fun consistent => consistent _ asked _ _ found⟩

/-- An expression that needs no character is found at the end of the text, behind the matches that it has
before. -/
theorem last_isGreatest_without_characters :
    ∃ find spans, Library.standard.compile "a*".toList = .ok find ∧
      find.FindsEarliest "baa".toList spans ∧ find.Consistent "baa".toList ∧
      Climbs find "baa".toList 0 none (some (3, 3)) ∧ IsGreatest (Prod.fst '' spans) 3 ∧
      find "baa".toList 3 = some (3, 3) := by
  obtain ⟨pattern, parsed⟩ : ∃ pattern, Regex.parse false "a*".toList = some pattern := ⟨_, by rfl⟩
  obtain ⟨find, compiled, first⟩ := Library.findsFirst_of_parse parsed
  have earliest := (first "baa".toList).earliest
  have consistent := (first "baa".toList).consistent
  have last : (Library.standard.compile "a*".toList).map (·.last "baa".toList) =
      .ok (some (3, 3)) := by
    decide +kernel
  rw [compiled] at last
  replace last := Except.ok.inj last
  obtain ⟨climbs, _, found⟩ := last_isGreatest earliest
  obtain ⟨greatest, _, same⟩ := found 3 3 last
  exact ⟨find, _, compiled, earliest, consistent, (climbs _).mpr last.symm, greatest, same consistent⟩

end ModalVi.Finder
