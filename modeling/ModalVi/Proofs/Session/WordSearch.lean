import ModalVi.Proofs.Search.WholeWord
import ModalVi.Proofs.Session.Inside
import ModalVi.Proofs.Session.Seeking
import ModalVi.Proofs.Text.Token

namespace ModalVi

/-! Seeking the word at the caret.

The word at the caret is a longest run of word characters, which symbols are too.  What is sought
stands between word boundaries of regular expressions, where symbols are no part of a word.  So the
word is found if it is such a word anywhere, and a word that begins or ends with a symbol may not
even be found where it was taken from. -/

namespace Text

variable {text word : Text} {marks isWord : Char → Bool} {start low high offset index : Nat}

theorem StandsAt.getElem? (stands : text.StandsAt word start) (within : index < word.length) :
    text[start + index]? = word[index]? := by
  have known := List.prefix_iff_getElem?.mp stands index within
  rwa [List.getElem?_drop, ← List.getElem?_eq_getElem within] at known

theorem standsAt_slice (text : Text) (low high : Nat) : text.StandsAt (text.slice low high) low :=
  List.take_prefix _ _

/-- The word at a place is a longest run of word characters. -/
theorem longestRun_wordAround (around : text.wordAround marks offset = (low, high))
    (given : low < high) : LongestRun (isWordPart marks) text low high := by
  obtain ⟨rfl, rfl⟩ := Prod.mk.inj around
  obtain ⟨behind, before⟩ :=
    accepts_skipWhile_backward (Reader.reads_backward text offset) rfl (isWordPart marks)
  obtain ⟨ahead, after⟩ :=
    accepts_skipWhile_forward (Reader.reads_forward text offset) rfl (isWordPart marks)
  rw [Reader.offset_backward] at behind
  rw [Reader.offset_forward] at ahead
  refine ⟨given, fun index before after => ?_, before, after⟩
  rcases Nat.lt_or_ge index (min offset text.length) with first | second
  · exact behind.each index first after
  · exact ahead.each index before second

/-- No place of the word ends at `offset` within a longer word. -/
def Clear (text : Text) (isWord : Char → Bool) (word : Text) (offset : Nat) : Prop :=
  ∀ start, text.StandsAt word start → start + word.length = offset →
    text.insideWord isWord offset = false

theorem WholeAt.clear (whole : text.WholeAt isWord word offset) : text.Clear isWord word offset :=
  fun _ _ _ => not_insideWord_of_atEdge whole.first

/-- A longest run does not stand right before itself. -/
theorem LongestRun.clear (run : LongestRun (isWordPart marks) text low high) :
    text.Clear isWord (text.slice low high) low := by
  intro start stands ends
  have given := run.given
  have bound := lt_length_of_holds (run.each (high - 1) (by omega) (by omega))
  have length : (text.slice low high).length = high - low := by
    rw [Text.slice, List.length_take, List.length_drop]
    omega
  have last : high - low - 1 < (text.slice low high).length := by omega
  have same := (stands.getElem? last).trans ((standsAt_slice text low high).getElem? last).symm
  have part := run.each (high - 1) (by omega) (by omega)
  have other := run.before (by omega)
  -- The last character of the word is right before the run, and within it as well.
  rw [show start + (high - low - 1) = low - 1 by omega,
    show low + (high - low - 1) = high - 1 by omega] at same
  rw [holds, same, ← holds, part] at other
  cases other

end Text

namespace Finder

open Text

variable {find : Finder} {text word : Text} {isWord : Char → Bool} {direction : Direction}
  {caret start place : Nat}

theorem wholeAt_of_next (finds : find.FindsWhole isWord word)
    (clear : text.Clear isWord word caret) (next : find.next direction text caret = some place) :
    place ≤ text.length ∧ text.WholeAt isWord word place := by
  obtain ⟨⟨start, stop⟩, found, rfl⟩ := Option.map_eq_some_iff.mp next
  obtain ⟨rfl, inside, slice, edges⟩ := upon_toward finds found
  have stands : text.StandsAt word start := by
    have standing := standsAt_slice text start (start + word.length)
    rwa [slice] at standing
  have apart : ¬ (direction = .backward ∧ start + word.length = caret ∧
      text.insideWord isWord caret = true) := by
    rintro ⟨_, ends, around⟩
    rw [clear start stands ends] at around
    cases around
  obtain ⟨begins, ends⟩ := edges.mpr apart
  exact ⟨Nat.le_trans (Nat.le_add_right _ _) inside, begins, stands, ends⟩

/-- Every match starts between boundaries, so the next search cannot go wrong either. -/
theorem wholeAt_of_nth (finds : find.FindsWhole isWord word)
    (clear : text.Clear isWord word caret) {count : Nat}
    (found : find.nth direction text (count + 1) caret = some place) :
    place ≤ text.length ∧ text.WholeAt isWord word place := by
  induction count generalizing caret with
  | zero =>
      obtain ⟨start, next, same⟩ := Option.bind_eq_some_iff.mp found
      cases same
      exact wholeAt_of_next finds clear next
  | succ count ih =>
      obtain ⟨start, next, onward⟩ := Option.bind_eq_some_iff.mp found
      exact ih (wholeAt_of_next finds clear next).2.clear onward

theorem exists_nth (finds : find.FindsWhole isWord word)
    (inside : start ≤ text.length) (whole : text.WholeAt isWord word start) (direction : Direction)
    (count caret : Nat) : ∃ place, find.nth direction text count caret = some place := by
  induction count generalizing caret with
  | zero => exact ⟨caret, rfl⟩
  | succ count ih =>
      cases found : find.toward direction text caret with
      | none => exact absurd whole (not_wholeAt_of_toward finds found inside)
      | some span =>
          obtain ⟨place, onward⟩ := ih span.1
          exact ⟨place, by rw [nth, next, found, Option.map_some, Option.bind_some, onward]⟩

end Finder

namespace Session

open Finder Text

variable {library : Library} {isWord : Char → Bool} {session : Session library}
  {digits : List Char} {count low high : Nat} {direction : Direction}

/-- The session once it seeks the word from `low` to `high`, from the start of that word. -/
def seekingWord (low high : Nat) (direction : Direction) (session : Session library) :
    Session library :=
  { session.begun with
    search := (session.search.set (.wholeWord library (session.text.slice low high)) direction).asked
      library
    cursor := Cursor.collapsed low }

theorem press_word (whole : library.FindsWholeWord isWord (session.text.slice low high))
    (genuine : session.search.Genuine library) (mode : session.mode = .command)
    (fresh : session.keys = []) (counting : Counting digits count)
    (around : session.text.wordAround library.isPunctuation session.caret = (low, high))
    (given : low < high) (direction : Direction) :
    ∃ find : Finder, find.FindsWhole isWord (session.text.slice low high) ∧
      session.press ((digits ++ [wordKey direction]).map .char) =
        (session.seekingWord low high direction).arrive
          (find.nth direction session.text count low) := by
  obtain ⟨find, compiled, finds⟩ := whole
  refine ⟨find, finds, ?_⟩
  let search := session.search.set (.wholeWord library (session.text.slice low high)) direction
  let begun : Session library := { session.begun with search, cursor := Cursor.collapsed low }
  have moves : Moves library fun session => session.act (.searchWord direction) count :=
    moves_searchWord direction count
  have seeks : begun.search.Seeks library find := ⟨genuine, _, rfl, compiled⟩
  have moved : begun.searchMove false count =
      (session.seekingWord low high direction).land (find.nth direction session.text count low) :=
    searchMove_of_seeks seeks counting.positive
  have acted : session.begun.act (.searchWord direction) count =
      (session.seekingWord low high direction).land (find.nth direction session.text count low) := by
    have text : session.begun.text = session.text := rfl
    have caret : session.begun.caret = session.caret := rfl
    show session.begun.searchWord direction count = _
    rw [searchWord, text, caret, around]
    exact (if_neg (Nat.ne_of_lt given)).trans moved
  rw [press_moves moves (by simp) (by simp) mode fresh counting.legible
    (counting.parse_searchWord direction), acted]
  cases find.nth direction session.text count low <;> rfl

/-- Wherever a session was led, the keys that seek the word at the caret succeed if and only if this
text stands between word boundaries anywhere, and then they end where it does.  If not, they report
that it was not found. -/
theorem press_word_iff_wholeAt
    (whole : library.FindsWholeWord isWord (session.text.slice low high))
    (surface : Surface) (clipboard : Clipboard) (prompt : Prompt) (options : Options)
    (reached :
      Reaches (fun _ _ => True) (Session.start library surface clipboard prompt options) session)
    (mode : session.mode = .command) (fresh : session.keys = []) (counting : Counting digits count)
    (around : session.text.wordAround library.isPunctuation session.caret = (low, high))
    (given : low < high) (direction : Direction) :
    let word := session.text.slice low high
    let attempt := session.press (digits.map .char ++ [.char (wordKey direction)])
    (attempt.1 = .ok () ↔ ∃ start ≤ session.text.length, session.text.WholeAt isWord word start) ∧
      (attempt.1 = .ok () → ∃ start, attempt.2.cursor = Cursor.collapsed start ∧
        session.text.WholeAt isWord word start ∧
        ((∀ other, session.text.StandsAt word other → other = low) → start = low)) ∧
      (attempt.1 ≠ .ok () → attempt.1 = .error (.parse (.invalidMotion .patternNotFound))) := by
  intro word attempt
  obtain ⟨find, finds, pressed⟩ :=
    press_word whole (genuine_of_reaches reached) mode fresh counting around given direction
  have clear : session.text.Clear isWord word low := (longestRun_wordAround around given).clear
  obtain ⟨times, rfl⟩ := Nat.exists_eq_succ_of_ne_zero (Nat.ne_of_gt counting.positive)
  rw [List.map_append] at pressed
  have same : attempt = _ := pressed
  cases found : find.nth direction session.text (times + 1) low with
  | some place =>
      obtain ⟨inside, whole⟩ := wholeAt_of_nth finds clear found
      rw [found] at same
      rw [same]
      refine ⟨iff_of_true rfl ⟨place, inside, whole⟩, fun _ => ⟨place, ?_, whole, ?_⟩, ?_⟩
      · exact congrArg Cursor.collapsed (Nat.min_eq_left inside)
      · exact fun alone => alone place whole.stands
      · exact fun failed => absurd rfl failed
  | none =>
      rw [found] at same
      rw [same]
      refine ⟨iff_of_false nofun ?_, nofun, fun _ => rfl⟩
      rintro ⟨start, inside, whole⟩
      obtain ⟨place, landed⟩ := exists_nth finds inside whole direction (times + 1) low
      rw [found] at landed
      cases landed

/-- From the second of two equal words, the search leads to one of them. -/
theorem press_word_of_two_equal :
    let first := Session.start .standard ((Surface.ofText "ab ab".toList).withCaret 4)
      (.ofText []) .silent {}
    let session := first.handle .enter
    session.text.wordAround Unicode.isPunctuation session.caret = (3, 5) ∧
      (session.press [.char '2', .char '*']).1 = .ok () ∧
      ∃ start, (session.press [.char '2', .char '*']).2.cursor = Cursor.collapsed start ∧
        session.text.WholeAt Unicode.isWordCharacter "ab".toList start := by
  intro first session
  have reached : Reaches (fun _ _ => True) first session := .step .refl trivial
  have mode : session.mode = .command := by decide +kernel
  have fresh : session.keys = [] := by decide +kernel
  have around : session.text.wordAround Unicode.isPunctuation session.caret = (3, 5) := by
    decide +kernel
  have word : session.text.slice 3 5 = "ab".toList := by decide +kernel
  have whole : session.text.WholeAt Unicode.isWordCharacter "ab".toList 0 :=
    ⟨by decide +kernel, by decide +kernel, by decide +kernel⟩
  have numeral : Counting ['2'] 2 := @Counting.toDigits 2 (by decide) (by decide)
  clear_value session
  obtain ⟨succeeds, lands, _⟩ :=
    press_word_iff_wholeAt (Library.findsWholeWord_standard _) _ _ _ _ reached mode fresh numeral
      around (by decide) .forward
  rw [word] at succeeds lands
  have done := succeeds.mpr ⟨0, Nat.zero_le _, whole⟩
  obtain ⟨start, cursor, lands, _⟩ := lands done
  exact ⟨around, done, start, cursor, lands⟩

/-- The word `c++` is not found where it stands, since no boundary is behind its symbols. -/
theorem word_not_found_under_caret :
    let session :=
      (Session.start .standard (.ofText "c++".toList) (.ofText []) .silent {}).handle .enter
    session.text.wordAround Unicode.isPunctuation session.caret = (0, 3) ∧
      (session.press [.char '*']).1.toOption = none ∧
      (session.press [.char '#']).1.toOption = none := by
  decide +kernel

end Session

end ModalVi
