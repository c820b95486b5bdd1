import ModalVi.Proofs.Search.Cache
import ModalVi.Proofs.Search.First
import ModalVi.Proofs.Strict.Text
import ModalVi.Session.Prompted

namespace ModalVi

variable {library : Library}

theorem Search.genuine_of_finderOf {source : Text} {result : Except String Finder}
    {search later : Search} (genuine : search.Genuine library)
    (given : search.finderOf library source = (result, later)) :
    later.Genuine library ∧ ∀ find, result = .ok find → library.compile source = .ok find := by
  rw [finderOf_eq genuine] at given
  cases given
  exact ⟨genuine.keeping source, fun _ => id⟩

theorem Search.genuine_find {text : Text} {caret : Nat} {reversed : Bool}
    {result : Except EditError (Option (Nat × Nat))} {search later : Search}
    (genuine : search.Genuine library)
    (found : search.find library text caret reversed = (result, later)) :
    later.Genuine library := by
  rw [find_eq genuine] at found
  cases found
  exact genuine.asked

namespace Strict

/-! Searches with every access checked. -/

variable {find : Finder} {text : Text} {place : Nat}

/-- The next match from a place of the text on, if it is a span of the text. -/
def findFrom (find : Finder) (text : Text) (place : Nat) : Option (Option (Nat × Nat)) :=
  if place ≤ text.length then
    match find text place with
    | none => some none
    | some (start, stop) =>
        if start ≤ stop ∧ stop ≤ text.length then some (some (start, stop)) else none
  else none

def lastFrom (find : Finder) (text : Text) : (fuel place : Nat) → (best : Option (Nat × Nat)) →
    Option (Option (Nat × Nat))
  | 0, _, best => some best
  | fuel + 1, place, best => do
      match ← findFrom find text place with
      | none => some best
      | some (start, stop) => do
          match ← slice text start text.length with
          | [] => some (some (start, stop))
          | _ :: _ => lastFrom find text fuel (start + 1) (some (start, stop))

def last (find : Finder) (text : Text) : Option (Option (Nat × Nat)) :=
  lastFrom find text (text.length + 1) 0 none

def forward (find : Finder) (text : Text) (caret : Nat) : Option (Option (Nat × Nat)) := do
  match ← findFrom find text (min (caret + 1) text.length) with
  | some found => some (some found)
  | none => findFrom find text 0

def backward (find : Finder) (text : Text) (caret : Nat) : Option (Option (Nat × Nat)) := do
  let before ← slice text 0 (min caret text.length)
  match ← last find before with
  | some found => some (some found)
  | none => last find text

def toward (direction : Direction) (find : Finder) (text : Text) (caret : Nat) :
    Option (Option (Nat × Nat)) :=
  match direction with
  | .forward => forward find text caret
  | .backward => backward find text caret

/-- As `Search.find`. -/
def seek (library : Library) (text : Text) (caret : Nat) (reversed : Bool) (search : Search) :
    Option (Except EditError (Option (Nat × Nat)) × Search) :=
  let direction := if reversed then search.direction.flip else search.direction
  match search.pattern.source? library with
  | none => some (.ok none, search)
  | some source =>
      match search.finderOf library source with
      | (.error fault, search) => some (.error (.searchPattern fault), search)
      | (.ok find, search) => do
          let found ← toward direction find text caret
          some (.ok found, search)

def findTimes (library : Library) (text : Text) (reversed : Bool) : (count place : Nat) → Search →
    Option (Except EditError Nat × Search)
  | 0, place, search => some (.ok place, search)
  | count + 1, place, search => do
      match ← seek library text place reversed search with
      | (.error error, search) => some (.error error, search)
      | (.ok none, search) => some (.error (.parse (.invalidMotion .patternNotFound)), search)
      | (.ok (some (start, _)), search) =>
          if start = place then some (.ok start, search)
          else findTimes library text reversed count start search

theorem findFrom_eq (bounded : find.Bounded) (inside : place ≤ text.length) :
    findFrom find text place = some (find text place) := by
  rw [findFrom, if_pos inside]
  cases found : find text place with
  | none => rfl
  | some span => exact if_pos (bounded _ _ inside _ _ found)

theorem lastFrom_eq (bounded : find.Bounded) (inside : place ≤ text.length) (fuel : Nat)
    (best : Option (Nat × Nat)) :
    lastFrom find text fuel place best = some (find.lastFrom text fuel place best) := by
  induction fuel generalizing place best with
  | zero => rfl
  | succ fuel ih =>
      simp only [lastFrom, Finder.lastFrom, findFrom_eq bounded inside, Option.bind_eq_bind,
        Option.bind_some]
      cases found : find text place with
      | none => rfl
      | some span =>
          obtain ⟨start, stop⟩ := span
          have bounds := bounded _ _ inside _ _ found
          have rest : text.slice start text.length = text.drop start :=
            List.take_of_length_le (by simp)
          have held := slice_eq (Nat.le_trans bounds.1 bounds.2) (Nat.le_refl text.length)
          simp only [held, rest, Option.bind_some]
          split
          · rename_i nothing
            rw [if_neg (Nat.not_lt.mpr (List.drop_eq_nil_iff.mp nothing))]
          · rename_i something
            have more : start < text.length := by
              have longer := congrArg List.length something
              simp only [List.length_drop, List.length_cons] at longer
              omega
            rw [if_pos more]
            exact ih more _

theorem last_eq (bounded : find.Bounded) (text : Text) :
    last find text = some (find.last text) :=
  lastFrom_eq bounded (Nat.zero_le _) _ _

theorem forward_eq (bounded : find.Bounded) (text : Text) (caret : Nat) :
    forward find text caret = some (find.forward text caret) := by
  simp only [forward, Finder.forward, findFrom_eq bounded (Nat.min_le_right _ _),
    findFrom_eq bounded (Nat.zero_le _), Option.bind_eq_bind, Option.bind_some]
  split <;> simp [*]

theorem backward_eq (bounded : find.Bounded) (text : Text) (caret : Nat) :
    backward find text caret = some (find.backward text caret) := by
  have before : text.slice 0 (min caret text.length) = text.take caret := by
    rw [Text.slice, List.drop_zero, Nat.sub_zero, ← List.take_eq_take_min]
  simp only [backward, Finder.backward, slice_eq (Nat.zero_le _) (Nat.min_le_right _ _), before,
    last_eq bounded, Option.bind_eq_bind, Option.bind_some]
  split <;> simp [*]

variable (spans : library.FindsSpans)
include spans

theorem seek_eq {search : Search} (genuine : search.Genuine library) (text : Text) (caret : Nat)
    (reversed : Bool) :
    seek library text caret reversed search = some (search.find library text caret reversed) := by
  simp only [seek, Search.find]
  cases search.pattern.source? library with
  | none => rfl
  | some source =>
      dsimp only
      generalize given : search.finderOf library source = answer
      obtain ⟨_ | find, later⟩ := answer
      · rfl
      · have compiled := (Search.genuine_of_finderOf genuine given).2 find rfl
        have bounded := spans source find compiled
        generalize (if reversed then search.direction.flip else search.direction) = direction
        cases direction with
        | forward => simp only [toward, forward_eq bounded, Option.bind_eq_bind, Option.bind_some]
        | backward => simp only [toward, backward_eq bounded, Option.bind_eq_bind, Option.bind_some]

theorem findTimes_eq {search : Search} (genuine : search.Genuine library) (text : Text)
    (reversed : Bool) (count place : Nat) :
    findTimes library text reversed count place search =
      some (Session.findTimes library text reversed count place search) := by
  induction count generalizing place search with
  | zero => rfl
  | succ count ih =>
      simp only [findTimes, Session.findTimes, seek_eq spans genuine, Option.bind_eq_bind,
        Option.bind_some]
      generalize found : search.find library text place reversed = answer
      obtain ⟨error | _ | span, later⟩ := answer
      · rfl
      · rfl
      · have still := Search.genuine_find genuine found
        dsimp only
        split
        · rfl
        · exact ih still _

end Strict

end ModalVi
