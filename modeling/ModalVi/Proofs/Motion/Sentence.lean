import ModalVi.Proofs.Motion.Bounds
import ModalVi.Proofs.Text.Onward
import ModalVi.Proofs.Text.Token

namespace ModalVi

/-! Sentences before the caret.

A step back over a sentence stops behind the nearest two characters that are the breaks of a blank line,
or of which the first is a full stop.  If the second is a full stop as well, the step goes forward again
over the white space behind it.  So from behind two full stops and white space, steps back come to where
they set out from, or further, and from any other place they do not. -/

/-! ### The first pair -/

/-- The first two neighbours that `stop` holds for are `place` characters into the list, or there are
none and the list is `place` characters long. -/
structure FirstPair (stop : Char → Char → Bool) (list : List Char) (place : Nat) : Prop where
  least : ∀ {index first second}, list[index]? = some first → list[index + 1]? = some second →
    stop first second = true → place ≤ index
  met : place = list.length ∨
    ∃ first second, list[place]? = some first ∧ list[place + 1]? = some second ∧
      stop first second = true

theorem FirstPair.here {stop : Char → Char → Bool} {first second : Char}
    (held : stop first second = true) (rest : List Char) :
    FirstPair stop (first :: second :: rest) 0 :=
  ⟨fun _ _ _ => Nat.zero_le _, .inr ⟨first, second, rfl, rfl, held⟩⟩

theorem FirstPair.cons {stop : Char → Char → Bool} {first second : Char} {rest : List Char}
    {place : Nat} (refused : stop first second = false)
    (later : FirstPair stop (second :: rest) place) :
    FirstPair stop (first :: second :: rest) (place + 1) where
  least {index one two} known next held := by
    cases index with
    | zero =>
        cases known
        cases next
        rw [refused] at held
        cases held
    | succ index => exact Nat.succ_le_succ (later.least known next held)
  met := by
    rcases later.met with whole | found
    · exact .inl (congrArg (· + 1) whole)
    · exact .inr found

theorem FirstPair.of_short {stop : Char → Char → Bool} {list : List Char}
    (short : list.length < 2) : FirstPair stop list list.length where
  least {index _ _} _ next _ := by
    have inside := (List.getElem?_eq_some_iff.mp next).1
    omega
  met := .inl rfl

namespace Reader

theorem firstPair_firstRefused {stop : Char → Char → Bool}
    {accept : Unit → List Char → Bool × Unit}
    (pairs : ∀ first second, accept () [first, second] = (!stop first second, ()))
    (list : List Char) :
    FirstPair stop list ((firstRefused 2 accept () list).getD list.length) := by
  induction list with
  | nil =>
      have none : firstRefused 2 accept () [] = none := by simp [firstRefused]
      rw [none]
      exact .of_short Nat.zero_lt_two
  | cons one rest ih =>
      cases rest with
      | nil =>
          have none : firstRefused 2 accept () [one] = none := by simp [firstRefused]
          rw [none]
          exact .of_short Nat.one_lt_two
      | cons two rest =>
          cases held : stop one two with
          | true =>
              have found : firstRefused 2 accept () (one :: two :: rest) = some 0 := by
                simp [firstRefused, pairs, held]
              rw [found]
              exact .here held rest
          | false =>
              have further : firstRefused 2 accept () (one :: two :: rest) =
                  (firstRefused 2 accept () (two :: rest)).map (· + 1) := by
                rw [firstRefused]
                simp [pairs, held]
              have later := FirstPair.cons held ih
              rw [further]
              cases known : firstRefused 2 accept () (two :: rest) with
              | none =>
                  rw [known] at later
                  exact later
              | some place =>
                  rw [known] at later
                  exact later

theorem firstPair_of_firstRefused {stop : Char → Char → Bool}
    {accept : Unit → List Char → Bool × Unit} {list : List Char} {found : Option Nat}
    (searched : firstRefused 2 accept () list = found)
    (pairs : ∀ first second, accept () [first, second] = (!stop first second, ())) :
    FirstPair stop list (found.getD list.length) := by
  rw [← searched]
  exact firstPair_firstRefused pairs list

theorem exists_toPair (stop : Char → Char → Bool) (reader : Reader) :
    ∃ place, FirstPair stop reader.ahead place ∧ reader.toPair stop = reader.advance place := by
  simp only [toPair, skipWindows]
  split
  · rename_i position found
    exact ⟨position, firstPair_of_firstRefused found fun _ _ => rfl, rfl⟩
  · rename_i none
    exact ⟨reader.ahead.length, firstPair_of_firstRefused none fun _ _ => rfl, rfl⟩

end Reader

/-- Reading back from `offset` stops at `place`: behind the nearest two characters that `stop` holds for,
the second of them read first, or at the start of the text. -/
structure Text.PairBefore (stop : Char → Char → Bool) (text : Text) (offset place : Nat) :
    Prop where
  back : place ≤ offset
  least : ∀ {index earlier later}, text[index]? = some earlier → text[index + 1]? = some later →
    stop later earlier = true → index + 2 ≤ offset → index + 2 ≤ place
  met : place = 0 ∨ ∃ index earlier later, place = index + 2 ∧ text[index]? = some earlier ∧
    text[index + 1]? = some later ∧ stop later earlier = true

theorem Reader.pairBefore_toPair {text : Text} {reader : Reader} (reads : Reads text reader)
    (backward : reader.direction = .backward) (stop : Char → Char → Bool) :
    Text.PairBefore stop text reader.offset (reader.toPair stop).offset := by
  obtain ⟨place, first, moved⟩ := exists_toPair stop reader
  have length := length_ahead_backward reads backward
  have ahead (index : Nat) (within : index + 1 ≤ reader.offset) :
      reader.ahead[reader.offset - (index + 1)]? = text[index]? := by
    rw [getElem?_ahead_backward reads backward (by omega)]
    congr 1
    omega
  rw [moved, offset_advance_backward backward, length]
  refine ⟨Nat.sub_le _ _, fun {index earlier later} knownEarlier knownLater held within => ?_, ?_⟩
  · have laterAt := ahead (index + 1) (by omega)
    have earlierAt := ahead index (by omega)
    rw [knownLater] at laterAt
    rw [knownEarlier, show reader.offset - (index + 1) = reader.offset - (index + 1 + 1) + 1 by omega]
      at earlierAt
    have bound := first.least laterAt earlierAt held
    omega
  · rcases first.met with whole | ⟨later, earlier, knownLater, knownEarlier, held⟩
    · exact .inl (by omega)
    · have bound := (List.getElem?_eq_some_iff.mp knownEarlier).1
      rw [length] at bound
      obtain ⟨index, whole⟩ : ∃ index, reader.offset = index + 2 + place :=
        ⟨reader.offset - place - 2, by omega⟩
      have laterAt := ahead (index + 1) (by omega)
      have earlierAt := ahead index (by omega)
      rw [show reader.offset - (index + 1 + 1) = place by omega, knownLater] at laterAt
      rw [show reader.offset - (index + 1) = place + 1 by omega, knownEarlier] at earlierAt
      exact .inr ⟨index, earlier, later, by omega, earlierAt.symm, laterAt.symm, held⟩

/-! ### One step -/

namespace Text

variable {text : Text} {offset place : Nat}

/-- Reading back over a sentence from `offset` stops at `place`: at the start of the text, or behind two
characters of which not only the second is a full stop.  It does not pass a full stop and one character
more. -/
structure SentenceStop (text : Text) (offset place : Nat) : Prop where
  back : place ≤ offset
  least : ∀ {index}, text[index]? = some '.' → index + 2 ≤ offset → index + 2 ≤ place
  met : place = 0 ∨ ∃ index, place = index + 2 ∧
    (text[index + 1]? = some '.' → text[index]? = some '.')

/-- Two full stops and then white space stand right before the place. -/
def AfterStops (text : Text) (offset : Nat) : Prop :=
  ∃ stop, text[stop]? = some '.' ∧ text[stop + 1]? = some '.' ∧ stop + 2 < offset ∧
    Accepts Unicode.isWhitespace text (stop + 2) offset

/-- Where a step back over a sentence ends: where it stops, or if a full stop is next there, behind the
white space after that. -/
inductive SentenceStep (text : Text) (offset : Nat) : Nat → Prop where
  | stays {place : Nat} (stopped : SentenceStop text (offset - 1) place)
      (other : place ≠ 0 → text[place - 1]? ≠ some '.') : SentenceStep text offset place
  | returns {stop found : Nat} (stopped : SentenceStop text (offset - 1) (stop + 2))
      (first : text[stop]? = some '.') (second : text[stop + 1]? = some '.')
      (spaces : Accepts Unicode.isWhitespace text (stop + 2) found)
      (ended : text.holds Unicode.isWhitespace found = false) : SentenceStep text offset found

end Text

open Text

namespace Reader

variable {text : Text} {reader : Reader}

theorem sentenceStop_toPair (reads : Reads text reader) (backward : reader.direction = .backward) :
    SentenceStop text reader.offset (reader.toPair TextObject.sentenceStart).offset := by
  have pair := pairBefore_toPair reads backward TextObject.sentenceStart
  refine ⟨pair.back, fun {index} known within => ?_, ?_⟩
  · have inside := reads.offset_le
    exact pair.least known (List.getElem?_eq_getElem (show index + 1 < text.length by omega))
      (by simp [TextObject.sentenceStart]) within
  · rcases pair.met with first | ⟨index, earlier, later, place, knownEarlier, knownLater, held⟩
    · exact .inl first
    · refine .inr ⟨index, place, fun stop => ?_⟩
      rw [knownLater] at stop
      cases stop
      rw [knownEarlier]
      simpa [TextObject.sentenceStart] using held

/-- A step back over a sentence. -/
theorem sentenceStep (reads : Reads text reader) (backward : reader.direction = .backward) :
    reader.sentenceBackward.direction = .backward ∧
      SentenceStep text reader.offset reader.sentenceBackward.offset := by
  have start := offset_advance_back reads backward 1
  have stopped := sentenceStop_toPair (reads.advance 1) backward
  have onward := Onward.toPair TextObject.sentenceStart (reader.advance 1)
  have readsStop := (reads.advance 1).toPair TextObject.sentenceStart
  rw [start] at stopped
  rw [sentenceBackward]
  generalize (reader.advance 1).toPair TextObject.sentenceStart = stopping at *
  have facing : stopping.direction = .backward := onward.direction_eq.trans backward
  by_cases notFirst : stopping.offset ≠ 0
  · have next := peek_backward readsStop facing notFirst
    by_cases stop : stopping.peek = some '.'
    · obtain ⟨index, place, both⟩ := stopped.met.resolve_left notFirst
      have second : text[index + 1]? = some '.' := by
        rw [← stop, next, place]
        rfl
      have turned := readsStop.turn .forward
      obtain ⟨spaces, ended⟩ := accepts_skipWhile_forward turned (direction_turn _ _)
        Unicode.isWhitespace
      rw [if_pos stop, offset_turn]
      rw [offset_turn, place] at spaces
      rw [place] at stopped
      exact ⟨direction_turn _ _, .returns stopped (both second) second spaces ended⟩
    · rw [if_neg stop]
      rw [next] at stop
      exact ⟨facing, .stays stopped fun _ => stop⟩
  · have nothing : stopping.peek = none := by
      rw [peek, List.head?_eq_none_iff, ← List.length_eq_zero_iff,
        length_ahead_backward readsStop facing]
      exact not_not.mp notFirst
    rw [nothing, if_neg (by simp)]
    exact ⟨facing, .stays stopped fun further => absurd further notFirst⟩

end Reader

/-! ### Many steps -/

namespace Text

variable {text : Text} {offset place found : Nat}

/-- Unless two full stops and white space are before a place, a step from there or from before leads
back behind it. -/
theorem SentenceStep.le_of_not_afterStops (step : SentenceStep text place found)
    (ordered : place ≤ offset) (free : ¬ AfterStops text offset) : found ≤ offset - 1 := by
  cases step with
  | stays stopped =>
      have back := stopped.back
      omega
  | returns stopped first second spaces =>
      have back := stopped.back
      apply Nat.le_of_not_lt
      intro beyond
      refine free ⟨_, first, second, by omega, by omega, fun index before after => ?_⟩
      exact spaces.each index (by omega) after

/-- From behind two full stops and white space, a step leads to another such place before, or past all
of the white space. -/
theorem SentenceStep.of_spaces {stop : Nat} (step : SentenceStep text place found)
    (first : text[stop]? = some '.') (second : text[stop + 1]? = some '.')
    (spaces : Accepts Unicode.isWhitespace text (stop + 2) offset) (after : stop + 2 < place)
    (ordered : place ≤ offset) : stop + 2 < found ∧ found < place ∨ offset ≤ found := by
  cases step with
  | stays stopped other =>
      have back := stopped.back
      have bound := stopped.least first (by omega)
      refine .inl ⟨Nat.lt_of_le_of_ne bound ?_, by omega⟩
      rintro rfl
      exact other (by omega) second
  | @returns further found stopped firstAlso secondAlso spacesAlso ended =>
      have back := stopped.back
      have bound := stopped.least first (by omega)
      -- No full stop is among the white space, so this one is the other.
      have same : further = stop := by
        by_contra different
        have space := spaces.each (further + 1) (by omega) (by omega)
        rw [holds_of_getElem? secondAlso] at space
        exact absurd space (by decide)
      subst same
      right
      apply Nat.le_of_not_lt
      intro before
      have space := spaces.each found before spacesAlso.ordered
      rw [ended] at space
      cases space

end Text

namespace Reader

variable {text : Text} {reader : Reader} {offset : Nat}

theorem offset_steps_sentenceBackward_le (reads : Reads text reader)
    (backward : reader.direction = .backward) (free : ¬ AfterStops text reader.offset)
    (count : Nat) :
    (reader.steps sentenceBackward (count + 1)).offset ≤ reader.offset - 1 := by
  let kept (later : Reader) : Prop :=
    (Reads text later ∧ later.direction = .backward) ∧ later.offset ≤ reader.offset - 1
  have keeps (later : Reader) (held : Reads text later ∧ later.direction = .backward)
      (ordered : later.offset ≤ reader.offset) : kept later.sentenceBackward := by
    obtain ⟨facing, step⟩ := sentenceStep held.1 held.2
    exact ⟨⟨held.1.sentenceBackward, facing⟩, step.le_of_not_afterStops ordered free⟩
  obtain ⟨further, stepped⟩ := exists_steps_succ sentenceBackward count reader
  have held : kept (reader.sentenceBackward.steps sentenceBackward further) :=
    steps_keeps (fun later held => keeps later held.1 (Nat.le_trans held.2 (Nat.sub_le _ _)))
      further (keeps reader ⟨reads, backward⟩ (Nat.le_refl _))
  rw [stepped]
  exact held.2

/-- Behind two full stops and white space, some number of steps does not lead back. -/
theorem exists_steps_sentenceBackward {stop : Nat} (first : text[stop]? = some '.')
    (second : text[stop + 1]? = some '.')
    (spaces : Accepts Unicode.isWhitespace text (stop + 2) offset) (reads : Reads text reader)
    (backward : reader.direction = .backward) (after : stop + 2 < reader.offset)
    (ordered : reader.offset ≤ offset) :
    ∃ count, offset ≤ (reader.steps sentenceBackward (count + 1)).offset := by
  induction place : reader.offset using Nat.strongRecOn generalizing reader with
  | ind place ih =>
      subst place
      obtain ⟨facing, step⟩ := sentenceStep reads backward
      rcases step.of_spaces first second spaces after ordered with ⟨within, before⟩ | beyond
      · obtain ⟨count, found⟩ := ih _ before reads.sentenceBackward facing within
          (Nat.le_trans (Nat.le_of_lt before) ordered) rfl
        refine ⟨count + 1, ?_⟩
        rw [steps, if_neg (Nat.ne_of_lt before)]
        exact found
      · refine ⟨0, ?_⟩
        simpa only [steps, ite_self] using beyond

/-- Steps back over sentences lead back, for every count, from all places but those that two full stops
and white space are before. -/
theorem offset_steps_sentenceBackward_iff (reads : Reads text reader)
    (backward : reader.direction = .backward) :
    (∀ count, (reader.steps sentenceBackward (count + 1)).offset ≤ reader.offset - 1) ↔
      ¬ AfterStops text reader.offset := by
  constructor
  · rintro back ⟨stop, first, second, after, spaces⟩
    obtain ⟨count, beyond⟩ := exists_steps_sentenceBackward first second spaces reads backward after
      (Nat.le_refl _)
    have before := back count
    omega
  · intro free count
    exact offset_steps_sentenceBackward_le reads backward free count

end Reader

end ModalVi
