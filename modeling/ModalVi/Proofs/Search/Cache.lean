import Mathlib.Data.List.Induction
import ModalVi.Search

namespace ModalVi

/-! Keeping the matcher that was built last.

A search keeps the matcher of its last expression and builds one only for another expression.  What
is found never shows this: every answer is the one that the pattern and the direction alone give
(`Search.answer`).  Only the number of matchers built does, and a ledger tells it that knows which
expressions were asked for and nothing of the matcher. -/

/-- The match that a search in `direction` from `caret` leads to. -/
def Finder.toward (find : Finder) (direction : Direction) (text : Text) (caret : Nat) :
    Option (Nat × Nat) :=
  match direction with
  | .forward => find.forward text caret
  | .backward => find.backward text caret

namespace Search

variable {library : Library} {search : Search} {source : Text} {find : Finder}

/-- What is found without any matcher from before. -/
def answer (library : Library) (pattern : SearchPattern) (direction : Direction)
    (text : Text) (caret : Nat) : Except EditError (Option (Nat × Nat)) :=
  match pattern.source? library with
  | none => .ok none
  | some source =>
      match library.compile source with
      | .error fault => .error (.searchPattern fault)
      | .ok find => .ok (find.toward direction text caret)

/-- The direction of the search, or the opposite one. -/
def toward (search : Search) (reversed : Bool) : Direction :=
  if reversed then search.direction.flip else search.direction

/-- The expression of the matcher that is kept. -/
def built (search : Search) : Option Text := search.compiled.map Prod.fst

/-- The matcher that is kept is the one that its expression is built to. -/
def Genuine (library : Library) (search : Search) : Prop :=
  ∀ source find, search.compiled = some (source, find) → library.compile source = .ok find

theorem genuine_empty (library : Library) : Genuine library .empty := nofun

/-- The search once the matcher of `source` is at hand. -/
def keeping (library : Library) (source : Text) (search : Search) : Search :=
  if search.built = some source then search
  else
    match library.compile source with
    | .error _ => search
    | .ok find =>
        { search with
          compiled := some (source, find), compilations := search.compilations + 1 }

theorem finderOf_eq (genuine : search.Genuine library) (source : Text) :
    search.finderOf library source = (library.compile source, search.keeping library source) := by
  rw [keeping]
  split
  · rename_i kept
    obtain ⟨⟨_, find⟩, compiled, rfl⟩ := Option.map_eq_some_iff.mp kept
    simp [finderOf, compiled, genuine _ _ compiled, Option.filter]
  · rename_i other
    cases kept : search.compiled with
    | none =>
        simp only [finderOf, kept, Option.filter_none]
        cases library.compile source <;> rfl
    | some matcher =>
        obtain ⟨built, find⟩ := matcher
        have unlike : (built == source) = false := by
          rw [Search.built, kept] at other
          exact beq_false_of_ne fun same => other (congrArg some same)
        simp only [finderOf, kept, Option.filter_some, unlike, Bool.false_eq_true, if_false]
        cases library.compile source <;> rfl

theorem Genuine.keeping (genuine : search.Genuine library) (source : Text) :
    (search.keeping library source).Genuine library := by
  rw [Search.keeping]
  split
  · exact genuine
  · split
    · exact genuine
    · rename_i find compiled
      rintro _ _ ⟨⟩
      exact compiled

theorem pattern_keeping (library : Library) (source : Text) (search : Search) :
    (search.keeping library source).pattern = search.pattern ∧
      (search.keeping library source).direction = search.direction := by
  rw [keeping]
  split
  · exact ⟨rfl, rfl⟩
  · split <;> exact ⟨rfl, rfl⟩

/-- The search after it was asked for a match. -/
def asked (library : Library) (search : Search) : Search :=
  match search.pattern.source? library with
  | none => search
  | some source => search.keeping library source

theorem find_eq (genuine : search.Genuine library) (text : Text) (caret : Nat) (reversed : Bool) :
    search.find library text caret reversed =
      (answer library search.pattern (search.toward reversed) text caret, search.asked library) := by
  rw [find, answer, asked]
  cases search.pattern.source? library with
  | none => rfl
  | some source =>
      simp only [finderOf_eq genuine]
      cases library.compile source with
      | error fault => rfl
      | ok find =>
          rw [← toward]
          cases search.toward reversed <;> rfl

theorem Genuine.asked (genuine : search.Genuine library) :
    (search.asked library).Genuine library := by
  rw [Search.asked]
  split
  · exact genuine
  · exact genuine.keeping _

theorem pattern_asked (library : Library) (search : Search) :
    (search.asked library).pattern = search.pattern ∧
      (search.asked library).direction = search.direction := by
  rw [asked]
  split
  · exact ⟨rfl, rfl⟩
  · exact pattern_keeping library _ search

theorem keeping_keeping (library : Library) (source : Text) (search : Search) :
    (search.keeping library source).keeping library source = search.keeping library source := by
  by_cases kept : search.built = some source
  · have same : search.keeping library source = search := if_pos kept
    rw [same, same]
  · cases compiled : library.compile source with
    | error fault =>
        have same : search.keeping library source = search := by
          simp only [keeping, if_neg kept, compiled]
        rw [same, same]
    | ok find =>
        have built : (search.keeping library source).built = some source := by
          simp only [keeping, if_neg kept, compiled]
          rfl
        exact if_pos built

/-- Asked once more, the search has its matcher at hand. -/
theorem asked_asked (library : Library) (search : Search) :
    (search.asked library).asked library = search.asked library := by
  cases given : search.pattern.source? library with
  | none =>
      have same : search.asked library = search := by simp only [asked, given]
      rw [same, same]
  | some source =>
      have first : search.asked library = search.keeping library source := by
        simp only [asked, given]
      rw [first, asked, (pattern_keeping library source search).1, given]
      exact keeping_keeping library source search

/-! ### The matcher of a pattern -/

/-- The search is for what `find` finds. -/
structure Seeks (library : Library) (search : Search) (find : Finder) : Prop where
  genuine : search.Genuine library
  compiled : ∃ source, search.pattern.source? library = some source ∧ library.compile source = .ok find

theorem Seeks.asked (seeks : search.Seeks library find) :
    (search.asked library).Seeks library find :=
  ⟨seeks.genuine.asked, (pattern_asked library search).1 ▸ seeks.compiled⟩

theorem Seeks.find_eq (seeks : search.Seeks library find) (text : Text) (caret : Nat)
    (reversed : Bool) :
    search.find library text caret reversed =
      (.ok (find.toward (search.toward reversed) text caret), search.asked library) := by
  obtain ⟨source, given, compiled⟩ := seeks.compiled
  rw [Search.find_eq seeks.genuine, answer, given]
  simp only [compiled]

theorem toward_asked (search : Search) (reversed : Bool) :
    (search.asked library).toward reversed = search.toward reversed := by
  rw [toward, (pattern_asked library search).2, toward]

/-! ### Calls -/

/-- What a pattern is made of: a text, an expression, a line entered at a prompt, or a word. -/
inductive Query where
  | literal (text : Text)
  | expression (source : Text)
  | entered (line : Text)
  | word (sought : Text)

def Query.pattern (library : Library) : Query → SearchPattern
  | .literal text => .literal text
  | .expression source => .expression source
  | .entered line => .entered line
  | .word sought => .wholeWord library sought

/-- Something asked of a search. -/
inductive Call where
  | set (query : Query) (direction : Direction)
  | turn (direction : Direction)
  | find (text : Text) (caret : Nat) (reversed : Bool)

/-- The search after a call. -/
def perform (library : Library) (search : Search) : Call → Search
  | .set query direction => search.set (query.pattern library) direction
  | .turn direction => search.setDirection direction
  | .find text caret reversed => (search.find library text caret reversed).2

/-- The search after calls in a row. -/
def after (library : Library) (calls : List Call) : Search :=
  calls.foldl (perform library) .empty

/-- What can be told from the calls alone: the pattern, the direction, and the expression that was
built last. -/
structure Ledger where
  pattern : SearchPattern
  direction : Direction
  last : Option Text

namespace Ledger

def empty : Ledger := ⟨.none, .forward, none⟩

/-- The expression of the pattern, if it can be built. -/
def buildable (library : Library) (ledger : Ledger) : Option Text :=
  (ledger.pattern.source? library).filter fun source => (library.compile source).isOk

/-- The ledger after a call. -/
def note (library : Library) (ledger : Ledger) : Call → Ledger
  | .set query direction => { ledger with pattern := query.pattern library, direction := direction }
  | .turn direction => { ledger with direction := direction }
  | .find .. => { ledger with last := (ledger.buildable library).or ledger.last }

/-- Whether the call takes a new matcher: it asks for a match of an expression that can be built and
was not the last to be. -/
def builds (library : Library) (ledger : Ledger) : Call → Bool
  | .set .. | .turn _ => false
  | .find .. => (ledger.buildable library).any fun source => ledger.last != some source

end Ledger

/-- The ledger after calls in a row. -/
def noted (library : Library) (calls : List Call) : Ledger :=
  calls.foldl (Ledger.note library) .empty

/-- The search is where the calls of the ledger lead. -/
structure Tracks (library : Library) (search : Search) (ledger : Ledger) : Prop where
  pattern : search.pattern = ledger.pattern
  direction : search.direction = ledger.direction
  built : search.built = ledger.last
  genuine : search.Genuine library

theorem built_asked {ledger : Ledger} (tracks : Tracks library search ledger) :
    (search.asked library).built = (ledger.buildable library).or ledger.last ∧
      (search.asked library).compilations = search.compilations +
        if (ledger.buildable library).any (fun source => ledger.last != some source) then 1
        else 0 := by
  rw [asked, Ledger.buildable, ← tracks.pattern, ← tracks.built]
  cases search.pattern.source? library with
  | none => exact ⟨rfl, rfl⟩
  | some source =>
      simp only [keeping]
      split
      · rename_i kept
        have buildable : (library.compile source).isOk = true := by
          obtain ⟨⟨_, find⟩, compiled, rfl⟩ := Option.map_eq_some_iff.mp kept
          rw [tracks.genuine _ _ compiled]
          rfl
        simp [Option.filter, buildable, kept]
      · rename_i other
        have unlike : (search.built != some source) = true := bne_iff_ne.mpr other
        cases compiled : library.compile source with
        | error fault => simp [Option.filter, compiled, Except.isOk, Except.toBool]
        | ok find =>
            simp only [Option.filter, compiled, Except.isOk, Except.toBool, if_true, Option.any_some,
              unlike, Option.some_or, and_true]
            rfl

theorem Tracks.perform {ledger : Ledger} (tracks : Tracks library search ledger) (call : Call) :
    Tracks library (search.perform library call) (ledger.note library call) ∧
      (search.perform library call).compilations =
        search.compilations + if ledger.builds library call then 1 else 0 := by
  cases call with
  | set query direction => exact ⟨⟨rfl, rfl, tracks.built, tracks.genuine⟩, rfl⟩
  | turn direction => exact ⟨⟨tracks.pattern, rfl, tracks.built, tracks.genuine⟩, rfl⟩
  | find text caret reversed =>
      obtain ⟨built, compilations⟩ := built_asked tracks
      obtain ⟨pattern, direction⟩ := pattern_asked library search
      rw [Search.perform, find_eq tracks.genuine]
      exact ⟨⟨pattern.trans tracks.pattern, direction.trans tracks.direction, built,
        tracks.genuine.asked⟩, compilations⟩

theorem tracks_after (library : Library) (calls : List Call) :
    Tracks library (after library calls) (noted library calls) := by
  induction calls using List.reverseRecOn with
  | nil => exact ⟨rfl, rfl, rfl, genuine_empty library⟩
  | append_singleton calls call ih =>
      rw [after, noted, List.foldl_append, List.foldl_append]
      exact (ih.perform call).1

/-- After any calls, what is found is what a search finds that was never used before and is given
the same pattern and direction.  A call takes a new matcher exactly where it asks for an expression
that can be built and is not the one built last. -/
theorem find_after (library : Library) (calls : List Call) :
    let search := after library calls
    let ledger := noted library calls
    (∀ text caret reversed,
        (search.find library text caret reversed).1 =
          ((Search.empty.set ledger.pattern ledger.direction).find library text caret
            reversed).1) ∧
      ∀ call, (after library (calls ++ [call])).compilations =
        search.compilations + if ledger.builds library call then 1 else 0 := by
  intro search ledger
  have tracks : Tracks library search ledger := tracks_after library calls
  have fresh : (Search.empty.set ledger.pattern ledger.direction).Genuine library :=
    genuine_empty library
  refine ⟨fun text caret reversed => ?_, fun call => ?_⟩
  · rw [find_eq tracks.genuine, find_eq fresh, toward, tracks.pattern, tracks.direction]
    rfl
  · rw [after, List.foldl_append]
    exact (tracks.perform call).2

end Search

end ModalVi
