import ModalVi.Proofs.Search.Cache
import ModalVi.Proofs.Search.Literal

namespace ModalVi

/-! Searching for whole words.

A whole word begins and ends at a word boundary.  Forward, and around the end of the text, the
boundaries are those of the whole text.  Backward, the text is cut off at the caret first, and a word
that goes on behind the caret then seems to end there. -/

namespace Text

variable {text word : Text} {isWord : Char → Bool} {start stop offset : Nat}

/-- The word stands at `start`, between word boundaries. -/
structure WholeAt (text : Text) (isWord : Char → Bool) (word : Text) (start : Nat) : Prop where
  first : text.atEdge isWord start = true
  stands : text.StandsAt word start
  last : text.atEdge isWord (start + word.length) = true

theorem wholeAt_iff : text.WholeAt isWord word start ↔
    text.atEdge isWord start = true ∧ text.StandsAt word start ∧
      text.atEdge isWord (start + word.length) = true :=
  ⟨fun ⟨first, stands, last⟩ => ⟨first, stands, last⟩,
    fun ⟨first, stands, last⟩ => ⟨first, stands, last⟩⟩

instance (text : Text) (isWord : Char → Bool) (word : Text) :
    DecidablePred (text.WholeAt isWord word) := fun _ =>
  decidable_of_iff _ wholeAt_iff.symm

/-- Whether the characters on both sides may be part of a word. -/
def insideWord (text : Text) (isWord : Char → Bool) (offset : Nat) : Bool :=
  (text.before? offset).any isWord && text[offset]?.any isWord

theorem StandsAt.slice (stands : text.StandsAt word start) :
    text.slice start (start + word.length) = word := by
  rw [Text.slice, Nat.add_sub_cancel_left]
  exact (List.prefix_iff_eq_take.mp stands).symm

/-! ### A text that is cut off -/

theorem before?_take (within : offset ≤ stop) :
    before? (text.take stop) offset = text.before? offset := by
  rw [before?, before?]
  split
  · rfl
  · rw [List.getElem?_take_of_lt (by omega)]

theorem atEdge_take_of_lt (before : offset < stop) :
    atEdge (text.take stop) isWord offset = text.atEdge isWord offset := by
  rw [atEdge, atEdge, before?_take (Nat.le_of_lt before), List.getElem?_take_of_lt before]

/-- Where the text is cut off, a boundary is seen after every word character. -/
theorem atEdge_take_self (text : Text) (isWord : Char → Bool) (stop : Nat) :
    atEdge (text.take stop) isWord stop = (text.before? stop).any isWord := by
  have nothing : (text.take stop)[stop]? = none :=
    List.getElem?_eq_none (List.length_take_le stop text)
  rw [atEdge, before?_take (Nat.le_refl stop), nothing]
  exact Bool.bne_false _

theorem atEdge_iff_of_take (seen : atEdge (text.take stop) isWord stop = true) :
    text.atEdge isWord stop = true ↔ text.insideWord isWord stop = false := by
  rw [atEdge_take_self] at seen
  rw [atEdge, insideWord, seen]
  cases text[stop]?.any isWord <;> decide

theorem not_insideWord_of_atEdge (atEdge : text.atEdge isWord offset = true) :
    text.insideWord isWord offset = false := by
  rw [Text.atEdge] at atEdge
  rw [insideWord]
  revert atEdge
  cases (text.before? offset).any isWord <;>
    cases text[offset]?.any isWord <;> decide

/-- A whole word of the text up to `stop` is one of the whole text, unless `stop` is within a word.
-/
theorem wholeAt_of_take (inside : start ≤ (text.take stop).length)
    (whole : WholeAt (text.take stop) isWord word start) :
    text.StandsAt word start ∧ start + word.length ≤ stop ∧
      (text.atEdge isWord start = true ∧ text.atEdge isWord (start + word.length) = true ↔
        ¬ (start + word.length = stop ∧ text.insideWord isWord stop = true)) := by
  obtain ⟨first, stands, last⟩ := whole
  rw [StandsAt, List.drop_take, List.prefix_take_iff] at stands
  rw [List.length_take] at inside
  have within : start + word.length ≤ stop := by omega
  refine ⟨stands.1, within, ?_⟩
  rcases Nat.lt_or_eq_of_le within with before | rfl
  · rw [atEdge_take_of_lt (by omega)] at first
    rw [atEdge_take_of_lt before] at last
    exact iff_of_true ⟨first, last⟩ fun ends => absurd ends.1 (Nat.ne_of_lt before)
  · have ends := atEdge_iff_of_take last
    have begins (edge : text.atEdge isWord (start + word.length) = true) :
        text.atEdge isWord start = true := by
      rcases Nat.eq_zero_or_pos word.length with empty | given
      · rwa [empty, Nat.add_zero] at edge
      · rwa [atEdge_take_of_lt (by omega)] at first
    constructor
    · rintro ⟨_, edge⟩ ⟨_, around⟩
      rw [ends.mp edge] at around
      cases around
    · intro apart
      have edge := ends.mpr (Bool.eq_false_iff.mpr fun around => apart ⟨rfl, around⟩)
      exact ⟨begins edge, edge⟩

end Text

namespace Finder

open Text

variable {find : Finder} {text word : Text} {isWord : Char → Bool} {caret start stop : Nat}

/-- The finder finds the word wherever it stands as a whole one. -/
def FindsWhole (find : Finder) (isWord : Char → Bool) (word : Text) : Prop :=
  ∀ text, FindsFirst find text (stopWhere (text.WholeAt isWord word) word.length)

/-- What a search for a whole word comes upon.  It is between word boundaries, unless it was found in
the text before the caret and the word goes on behind the caret. -/
structure Upon (text : Text) (isWord : Char → Bool) (word : Text) (direction : Direction)
    (caret start stop : Nat) : Prop where
  length : stop = start + word.length
  inside : stop ≤ text.length
  slice : text.slice start stop = word
  edges : text.atEdge isWord start = true ∧ text.atEdge isWord stop = true ↔
    ¬ (direction = .backward ∧ stop = caret ∧ text.insideWord isWord caret = true)

variable {direction : Direction} {offset : Nat}

theorem upon_of_wholeAt (inside : start ≤ text.length) (whole : text.WholeAt isWord word start)
    (direction : Direction) (caret : Nat) :
    Upon text isWord word direction caret start (start + word.length) where
  length := rfl
  inside := by
    have length := List.IsPrefix.length_le whole.stands
    rw [List.length_drop] at length
    omega
  slice := whole.stands.slice
  edges := by
    refine iff_of_true ⟨whole.first, whole.last⟩ fun ⟨_, same, around⟩ => ?_
    rw [← same, not_insideWord_of_atEdge whole.last] at around
    cases around

theorem upon_forward (finds : find.FindsWhole isWord word)
    (found : find.forward text caret = some (start, stop)) :
    Upon text isWord word .forward caret start stop := by
  have upon {offset : Nat} (asked : offset ≤ text.length)
      (here : find text offset = some (start, stop)) :
      Upon text isWord word .forward caret start stop := by
    have nearest := finds text offset asked
    rw [here] at nearest
    cases nearest with
    | found _ inside matched _ =>
        obtain ⟨whole, rfl⟩ := stopWhere_eq_some.mp matched
        exact upon_of_wholeAt inside whole .forward caret
  rcases Option.or_eq_some_iff.mp found with ahead | ⟨_, around⟩
  · exact upon (Nat.min_le_right _ _) ahead
  · exact upon (Nat.zero_le _) around

theorem upon_backward (finds : find.FindsWhole isWord word)
    (found : find.backward text caret = some (start, stop)) :
    Upon text isWord word .backward caret start stop := by
  rcases Option.or_eq_some_iff.mp found with behind | ⟨_, around⟩
  · have last := last_of_findsFirst (finds (text.take caret))
    rw [behind] at last
    cases last with
    | found _ inside matched _ =>
        obtain ⟨whole, rfl⟩ := stopWhere_eq_some.mp matched
        obtain ⟨stands, within, edges⟩ := wholeAt_of_take inside whole
        refine ⟨rfl, ?_, stands.slice, by simpa using edges⟩
        have length := List.IsPrefix.length_le stands
        rw [List.length_drop] at length
        rw [List.length_take] at inside
        omega
  · have last := last_of_findsFirst (finds text)
    rw [around] at last
    cases last with
    | found _ inside matched _ =>
        obtain ⟨whole, rfl⟩ := stopWhere_eq_some.mp matched
        exact upon_of_wholeAt inside whole .backward caret

theorem upon_toward (finds : find.FindsWhole isWord word)
    (found : find.toward direction text caret = some (start, stop)) :
    Upon text isWord word direction caret start stop := by
  cases direction with
  | forward => exact upon_forward finds found
  | backward => exact upon_backward finds found

/-- Nothing is found only where there is no whole word at all. -/
theorem not_wholeAt_of_toward (finds : find.FindsWhole isWord word)
    (missed : find.toward direction text caret = none) (inside : start ≤ text.length) :
    ¬ text.WholeAt isWord word start := by
  cases direction with
  | forward =>
      have nearest := finds text 0 (Nat.zero_le _)
      rw [(Option.or_eq_none_iff.mp missed).2] at nearest
      cases nearest with
      | missed nothing => exact stopWhere_eq_none.mp (nothing start inside (Nat.zero_le _))
  | backward =>
      have last := last_of_findsFirst (finds text)
      rw [(Option.or_eq_none_iff.mp missed).2] at last
      cases last with
      | missed nothing => exact stopWhere_eq_none.mp (nothing start inside (Nat.zero_le _))

end Finder

namespace Library

/-- Escaped and between boundaries, the word is found exactly where it stands as a whole one. -/
def FindsWholeWord (library : Library) (isWord : Char → Bool) (word : Text) : Prop :=
  ∃ find, library.compile (['\\', 'b'] ++ library.escape word ++ ['\\', 'b']) = .ok find ∧
    find.FindsWhole isWord word

theorem findsWholeWord_standard (word : Text) :
    standard.FindsWholeWord Unicode.isWordCharacter word := by
  obtain ⟨find, compiled, first⟩ :=
    findsFirst_of_spelled (Regex.Atom.edge :: word.map Regex.Atom.character ++ [.edge])
  have spelled : (Regex.Atom.edge :: word.map Regex.Atom.character ++ [Regex.Atom.edge]).flatMap
      Regex.Atom.spelling = ['\\', 'b'] ++ Regex.quote word ++ ['\\', 'b'] := by
    rw [Regex.quote_eq_spelling, List.cons_append, List.flatMap_cons, List.flatMap_append]
    rfl
  rw [spelled] at compiled
  refine ⟨find, compiled, fun text offset inside => (first text offset inside).congr fun start _ => ?_⟩
  rw [Regex.stopAt_wholeWord, Finder.stopWhere]
  exact if_congr Text.wholeAt_iff.symm rfl rfl

end Library

namespace Search

open Finder

variable {library : Library} {isWord : Char → Bool} {word : Text}

/-- After any calls, a search for a whole word finds one if there is one.  What it finds is the word,
and both its ends are word boundaries of the text, unless it goes backward and the word found ends
at the caret, within a longer one. -/
theorem upon_wholeWord (whole : library.FindsWholeWord isWord word) (calls : List Call)
    (direction : Direction) :
    let search := (after library calls).set (.wholeWord library word) direction
    ∀ text caret reversed, ∃ found,
      (search.find library text caret reversed).1 = .ok found ∧
        (∀ start stop, found = some (start, stop) →
          Upon text isWord word (search.toward reversed) caret start stop) ∧
        (found = none → ∀ start ≤ text.length, ¬ text.WholeAt isWord word start) := by
  intro search text caret reversed
  obtain ⟨find, compiled, finds⟩ := whole
  have genuine : search.Genuine library := (tracks_after library calls).genuine
  have seeks : search.Seeks library find := ⟨genuine, _, rfl, compiled⟩
  rw [seeks.find_eq]
  refine ⟨_, rfl, fun start stop found => ?_, fun missed start inside => ?_⟩
  · exact upon_toward finds found
  · exact not_wholeAt_of_toward finds missed inside

/-- The match that is found in `food` is `foo`, and ends where no word does. -/
theorem upon_wholeWord_in_longer_word :
    let search := (after .standard []).set (.wholeWord .standard "foo".toList) .backward
    (search.find .standard "food".toList 3 false).1 = .ok (some (0, 3)) ∧
      Upon "food".toList Unicode.isWordCharacter "foo".toList .backward 3 0 3 := by
  intro search
  obtain ⟨found, answer, upon, _⟩ := upon_wholeWord (Library.findsWholeWord_standard "foo".toList) []
    .backward "food".toList 3 false
  have known : (search.find .standard "food".toList 3 false).1 = .ok (some (0, 3)) := by
    decide +kernel
  obtain rfl : found = some (0, 3) := Except.ok.inj (answer.symm.trans known)
  exact ⟨answer, upon 0 3 rfl⟩

/-- In `food`, `foo` is found backward from its own end. -/
theorem found_within_longer_word :
    let search := (after .standard []).set (.wholeWord .standard "foo".toList) .backward
    (search.find .standard "food".toList 3 false).1.toOption = some (some (0, 3)) ∧
      Text.atEdge "food".toList Unicode.isWordCharacter 3 = false := by
  decide +kernel

end Search

end ModalVi
