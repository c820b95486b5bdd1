import ModalVi.Proofs.Motion.Follow
import ModalVi.Proofs.Text.Line
import ModalVi.Proofs.Text.Token

namespace ModalVi

/-! Searching backward for a character.

A search backward goes over the occurrences of its target before the caret, the nearest first: those on
the line of the caret or, if the target is the line break, all that there are.  A count picks one of them,
and so does repeating the search, since a repeated search first leaves the occurrence that it stopped next
to. -/

namespace Text

variable {text : Text} {target : Char} {start stop place offset : Nat}

/-- Where a character stands from `start` up to `stop`, the last place first. -/
def occurrences (text : Text) (target : Char) (start stop : Nat) : List Nat :=
  ((List.range stop).filter fun place => start ≤ place ∧ text[place]? = some target).reverse

theorem mem_occurrences :
    place ∈ text.occurrences target start stop ↔
      place < stop ∧ start ≤ place ∧ text[place]? = some target := by
  rw [occurrences, List.mem_reverse, List.mem_filter, List.mem_range, decide_eq_true_iff]

theorem occurrences_succ (text : Text) (target : Char) (start stop : Nat) :
    text.occurrences target start (stop + 1) =
      if start ≤ stop ∧ text[stop]? = some target then
        stop :: text.occurrences target start stop
      else text.occurrences target start stop := by
  rw [occurrences, List.range_succ, List.filter_append, List.reverse_append]
  split
  · rename_i held
    rw [List.filter_cons_of_pos (by simpa using held)]
    rfl
  · rename_i refused
    rw [List.filter_cons_of_neg (by simpa using refused)]
    rfl

theorem occurrences_of_head (last : (text.occurrences target start stop).head? = some place) :
    text.occurrences target start stop = place :: text.occurrences target start place := by
  induction stop with
  | zero => cases last
  | succ stop ih =>
      rw [occurrences_succ] at last ⊢
      split at last
      · rename_i held
        cases last
        rw [if_pos held]
      · rename_i refused
        rw [if_neg refused]
        exact ih last

theorem head_occurrences (member : place ∈ text.occurrences target start stop)
    (last : ∀ index < stop, place < index → text[index]? ≠ some target) :
    (text.occurrences target start stop).head? = some place := by
  induction stop with
  | zero => cases member
  | succ stop ih =>
      obtain ⟨before, after, held⟩ := mem_occurrences.mp member
      rw [occurrences_succ]
      rcases Nat.eq_or_lt_of_le (Nat.le_of_lt_succ before) with rfl | earlier
      · rw [if_pos ⟨after, held⟩]
        rfl
      · rw [if_neg fun also => last stop (Nat.lt_succ_self stop) earlier also.2]
        exact ih (mem_occurrences.mpr ⟨earlier, after, held⟩)
          fun index within => last index (Nat.lt_succ_of_lt within)

/-- The occurrences that a search backward goes over: no line is left for another, unless the line break
is what is looked for. -/
def targetsBefore (text : Text) (target : Char) (offset : Nat) : List Nat :=
  text.occurrences target (if target = '\n' then 0 else text.lineStart offset) offset

theorem targetsBefore_of_head (inside : offset ≤ text.length)
    (last : (text.targetsBefore target offset).head? = some place) :
    text.targetsBefore target offset = place :: text.targetsBefore target place := by
  obtain ⟨before, after, _⟩ := mem_occurrences.mp (List.mem_of_mem_head? last)
  rw [targetsBefore, occurrences_of_head last, targetsBefore]
  split
  · rfl
  · rename_i other
    rw [if_neg other] at after
    rw [lineStart_eq_of_le inside after (Nat.le_of_lt before)]

/-- The nearest target before a place, if no other and no break is between, is the first one. -/
theorem head_targetsBefore (inside : offset ≤ text.length) (before : place < offset)
    (held : text[place]? = some target)
    (other : ∀ index < offset, place < index →
      text[index]? ≠ some target ∧ text[index]? ≠ some '\n') :
    (text.targetsBefore target offset).head? = some place := by
  refine head_occurrences (mem_occurrences.mpr ⟨before, ?_, held⟩) fun index within after =>
    (other index within after).1
  split
  · exact Nat.zero_le _
  · rename_i unbroken
    apply Nat.le_of_not_lt
    intro started
    have bound := lineStart_le inside
    rcases lineStart_eq_zero_or_break inside with first | broken
    · omega
    · rcases Nat.eq_or_lt_of_le (show place ≤ text.lineStart offset - 1 by omega) with same | after
      · rw [← same, held] at broken
        exact unbroken (Option.some.inj broken)
      · exact (other _ (by omega) after).2 broken

/-- There is no target before a place, if none is on the way back to the start of the text, or to a break
that is not looked for. -/
theorem targetsBefore_eq_nil (inside : offset ≤ text.length) (ordered : stop ≤ offset)
    (free : ∀ index < offset, stop ≤ index → text[index]? ≠ some target)
    (ended : stop = 0 ∨ target ≠ '\n' ∧ text[stop - 1]? = some '\n') :
    text.targetsBefore target offset = [] := by
  rw [List.eq_nil_iff_forall_not_mem]
  intro place member
  obtain ⟨before, after, held⟩ := mem_occurrences.mp member
  rcases ended with rfl | ⟨unbroken, broken⟩
  · exact free place before (Nat.zero_le _) held
  · rw [if_neg unbroken] at after
    have started := (isGreatest_lineStart inside).2 ⟨ordered, .inr broken⟩
    exact free place before (Nat.le_trans started after) held

end Text

open Reader Text

namespace CharSearch

variable {text : Text} {target : Char} {reader found : Reader} {place : Nat}

/-- The reader faces backward and is right behind the place. -/
structure Behind (text : Text) (found : Reader) (place : Nat) : Prop where
  reads : Reads text found
  backward : found.direction = .backward
  offset : found.offset = place + 1

theorem Behind.offset_advance (behind : Behind text found place) :
    (found.advance 1).offset = place := by
  rw [offset_advance_back behind.reads behind.backward, behind.offset, Nat.add_sub_cancel]

/-- Reading backward to a target comes to the nearest one, or there is none to come to. -/
theorem rel_reach (reads : Reads text reader) (backward : reader.direction = .backward)
    (target : Char) :
    Option.Rel (Behind text) (reach target reader)
      (text.targetsBefore target reader.offset).head? := by
  have inside := reads.offset_le
  let accept (c : Char) : Bool := c != target && c != '\n'
  obtain ⟨passed, stopped⟩ := accepts_skipWhile_backward reads backward accept
  have readsFound := reads.skipWhile accept
  have facing : (reader.skipWhile accept).direction = .backward := backward
  change Option.Rel _ (if (reader.skipWhile accept).peek = some target then
    some (reader.skipWhile accept) else none) _
  generalize reader.skipWhile accept = found at *
  have other (index : Nat) (before : index < reader.offset) (after : found.offset ≤ index) :
      text[index]? ≠ some target ∧ text[index]? ≠ some '\n' := by
    obtain ⟨c, known, accepted⟩ := exists_of_holds (passed.each index before after)
    simpa [accept, known] using accepted
  -- The reader stops at the start of the text, at the target, or at a break that is not the target.
  by_cases first : found.offset = 0
  · have nothing : found.peek = none := by
      rw [peek, readsFound.ahead_eq_take facing, first]
      rfl
    rw [nothing, if_neg (by simp), targetsBefore_eq_nil inside passed.ordered
      (fun index before after => (other index before after).1) (.inl first)]
    exact .none
  · have next := peek_backward readsFound facing first
    have ordered := passed.ordered
    have known := List.getElem?_eq_getElem (show found.offset - 1 < text.length by omega)
    have refused := stopped first
    rw [holds_of_getElem? known] at refused
    rw [next]
    split
    · rename_i met
      rw [head_targetsBefore inside (show found.offset - 1 < reader.offset by omega) met
        fun index before after => other index before (by omega)]
      exact .some ⟨readsFound, facing, by omega⟩
    · rename_i missed
      have broken : target ≠ '\n' ∧ text[found.offset - 1]? = some '\n' := by
        rw [known] at missed ⊢
        simp only [accept, Bool.and_eq_false_iff, bne_eq_false_iff_eq] at refused
        rcases refused with met | broken
        · exact absurd (congrArg some met) missed
        · rw [broken] at missed ⊢
          exact ⟨fun same => missed (congrArg some same.symm), rfl⟩
      rw [targetsBefore_eq_nil inside ordered
        (fun index before after => (other index before after).1) (.inr broken)]
      exact .none

theorem rel_reachBackward (reads : Reads text reader) (backward : reader.direction = .backward)
    (target : Char) (count : Nat) :
    Option.Rel (Behind text) (reachBackward target (count + 1) reader)
      (text.targetsBefore target reader.offset)[count]? := by
  have inside := reads.offset_le
  have first := rel_reach reads backward target
  induction count generalizing reader with
  | zero =>
      rw [← List.head?_eq_getElem?]
      simpa [reachBackward] using first
  | succ count ih =>
      rw [reachBackward]
      cases known : (text.targetsBefore target reader.offset).head? with
      | none =>
          rw [known] at first
          rw [List.head?_eq_none_iff.mp known]
          generalize reach target reader = reached at first ⊢
          cases first
          exact .none
      | some place =>
          rw [known] at first
          rw [targetsBefore_of_head inside known, List.getElem?_cons_succ]
          generalize reach target reader = reached at first ⊢
          cases first with
          | some behind =>
              have further := ih (behind.reads.advance 1) behind.backward
                (behind.reads.advance 1).offset_le
                (rel_reach (behind.reads.advance 1) behind.backward target)
              rw [behind.offset_advance] at further
              exact further

theorem map_eq_of_rel {α β γ : Type} {relates : α → β → Prop} {first : Option α}
    {second : Option β} {read : α → γ} {write : β → γ} (rel : Option.Rel relates first second)
    (same : ∀ one other, relates one other → read one = write other) :
    first.map read = second.map write := by
  cases rel with
  | none => rfl
  | some related => exact congrArg some (same _ _ related)

/-- Where a search backward stops that has found its target at a place. -/
def stopAt (before : Bool) (place : Nat) : Nat := if before then place + 1 else place

/-- A search backward stops at one of the targets before it: it starts behind the one that it stopped
next to, if it is repeated. -/
theorem run_backward_eq {offset : Nat} (inside : offset ≤ text.length) (target : Char)
    (before repeated : Bool) (count : Nat) :
    run ⟨target, .backward, before⟩ repeated (count + 1) text offset =
      (text.targetsBefore target
        (if before && repeated && (Reader.backward text offset).peek == some target then offset - 1
          else offset))[count]?.map (stopAt before) := by
  have reads := reads_backward text offset
  have placed : (Reader.backward text offset).offset = offset := offset_facing .backward inside
  have left := offset_advance_back reads rfl 1
  have stops (found : Reader) (place : Nat) (behind : Behind text found place) :
      (if before then found.offset else (found.advance 1).offset) = stopAt before place := by
    rw [behind.offset, behind.offset_advance, stopAt]
  simp only [run]
  generalize (before && repeated && (Reader.backward text offset).peek == some target) = adjacent
  cases adjacent with
  | true =>
      have reached := rel_reachBackward (reads.advance 1) rfl target count
      rw [left, placed] at reached
      exact map_eq_of_rel reached stops
  | false =>
      have reached := rel_reachBackward reads rfl target count
      rw [placed] at reached
      exact map_eq_of_rel reached stops

end CharSearch

/-! ### Where the keys lead -/

namespace Standpoint

variable {point : Standpoint} {target : Char} {place : Nat} {before : Bool}

/-- What a search backward comes to, with the place of the target that it found. -/
def backTo (point : Standpoint) (before : Bool) : Option Nat → Except ParseError Cursor
  | some place => .ok (point.moveTo (CharSearch.stopAt before place))
  | none => .error (.invalidMotion .characterNotFound)

/-- Follows one motion after the other, each from where the one before it led, and remembers the searches
on the way. -/
def followAll (point : Standpoint) (lineKey : Option Char) :
    Option CharSearch → List KeyBuffer → Except ParseError Cursor
  | _, [] => .ok point.cursor
  | memory, buffer :: rest => do
      let motion ← Motion.parse lineKey buffer
      let found ← point.resolve memory buffer.count motion
      followAll { point with cursor := found } lineKey (motion.remember memory) rest

theorem searchCharacter_eq {search : CharSearch} {repeated : Bool} {count : Nat}
    {found : Option Nat}
    (ran : search.run repeated count point.text point.cursor.caret =
      found.map (CharSearch.stopAt before)) :
    point.searchCharacter search repeated count = point.backTo before found := by
  rw [searchCharacter, ran]
  cases found <;> rfl

theorem resolve_charSearch_backward (inside : point.cursor.caret ≤ point.text.length)
    (memory : Option CharSearch) (target : Char) (before : Bool) (count : Nat) :
    point.resolve memory (count + 1) (.charSearch ⟨target, .backward, before⟩) =
      point.backTo before (point.text.targetsBefore target point.cursor.caret)[count]? := by
  have ran := CharSearch.run_backward_eq inside target before false count
  rw [Bool.and_false, Bool.false_and, if_neg Bool.false_ne_true] at ran
  exact searchCharacter_eq ran

/-- A search backward once more, from where it stopped for a target. -/
theorem resolve_searchAgain_backward (held : point.text[place]? = some target)
    (stopped : point.cursor.caret = CharSearch.stopAt before place) :
    point.resolve (some ⟨target, .backward, before⟩) 1 (.searchAgain false) =
      point.backTo before (point.text.targetsBefore target place).head? := by
  have within := (List.getElem?_eq_some_iff.mp held).1
  have inside : point.cursor.caret ≤ point.text.length := by
    rw [stopped, CharSearch.stopAt]
    split <;> omega
  have ran := CharSearch.run_backward_eq inside target before true 0
  have start : (if before && true && (Reader.backward point.text point.cursor.caret).peek ==
      some target then point.cursor.caret - 1 else point.cursor.caret) = place := by
    cases before with
    | false => exact stopped
    | true =>
        have placed : (Reader.backward point.text point.cursor.caret).offset = place + 1 :=
          (offset_facing .backward inside).trans stopped
        have next := peek_backward (reads_backward point.text point.cursor.caret) rfl (by omega)
        rw [placed, Nat.add_sub_cancel, held] at next
        rw [next, stopped]
        simp [CharSearch.stopAt]
  rw [start, ← List.head?_eq_getElem?] at ran
  exact searchCharacter_eq ran

/-- From where a search backward stopped for a target, repeating it leads on along the targets. -/
theorem followAll_again (lineKey : Option Char) (count : Nat)
    (held : point.text[place]? = some target)
    (stopped : point.cursor.caret = CharSearch.stopAt before place) :
    point.followAll lineKey (some ⟨target, .backward, before⟩)
        (List.replicate count (.ofKeys [';'])) =
      point.backTo before (place :: point.text.targetsBefore target place)[count]? := by
  induction count generalizing point place with
  | zero =>
      rw [List.getElem?_cons_zero, backTo, moveTo, ← stopped]
      rfl
  | succ count ih =>
      -- The search leaves the target that it stopped next to, so the next one is the first before it.
      have inside := Nat.le_of_lt (List.getElem?_eq_some_iff.mp held).1
      have again := resolve_searchAgain_backward held stopped
      have parsed : Motion.parse lineKey (.ofKeys [';']) = .ok (.searchAgain false) := rfl
      have next : point.followAll lineKey (some ⟨target, .backward, before⟩)
          (List.replicate (count + 1) (.ofKeys [';'])) =
          point.backTo before (point.text.targetsBefore target place).head? >>= fun found =>
            followAll { point with cursor := found } lineKey (some ⟨target, .backward, before⟩)
              (List.replicate count (.ofKeys [';'])) := by
        rw [← again]
        rfl
      rw [next, List.getElem?_cons_succ]
      cases known : (point.text.targetsBefore target place).head? with
      | none =>
          rw [List.head?_eq_none_iff.mp known]
          rfl
      | some further =>
          obtain ⟨_, _, heldFurther⟩ := mem_occurrences.mp (List.mem_of_mem_head? known)
          rw [targetsBefore_of_head inside known]
          exact @ih { point with cursor := point.moveTo _ } further heldFurther rfl

/-- A search backward without a count, and then repeated, leads as far as one with a count. -/
theorem followAll_search {keys : List Char} (inside : point.cursor.caret ≤ point.text.length)
    (memory : Option CharSearch) (lineKey : Option Char) (count : Nat)
    (parsed : Motion.parse lineKey (.ofKeys keys) =
      .ok (.charSearch ⟨target, .backward, before⟩)) :
    point.followAll lineKey memory (.ofKeys keys :: List.replicate count (.ofKeys [';'])) =
      point.backTo before (point.text.targetsBefore target point.cursor.caret)[count]? := by
  have first := resolve_charSearch_backward inside memory target before 0
  have next : point.followAll lineKey memory
      (.ofKeys keys :: List.replicate count (.ofKeys [';'])) =
      point.backTo before (point.text.targetsBefore target point.cursor.caret)[0]? >>= fun found =>
        followAll { point with cursor := found } lineKey (some ⟨target, .backward, before⟩)
          (List.replicate count (.ofKeys [';'])) := by
    rw [← first, followAll, parsed]
    rfl
  rw [next, ← List.head?_eq_getElem?]
  cases known : (point.text.targetsBefore target point.cursor.caret).head? with
  | none =>
      rw [List.head?_eq_none_iff.mp known]
      rfl
  | some place =>
      obtain ⟨_, _, held⟩ := mem_occurrences.mp (List.mem_of_mem_head? known)
      rw [targetsBefore_of_head inside known]
      let found : Standpoint :=
        { point with cursor := point.moveTo (CharSearch.stopAt before place) }
      have stopped : found.cursor.caret = CharSearch.stopAt before place := rfl
      exact followAll_again lineKey count (show found.text[place]? = some target from held) stopped

/-- `F` and `T` with a count stop on the occurrence that it names, or right behind it, of those before the
caret, the nearest first.  They are the occurrences on the line of the caret or, if the target is the line
break, all that there are.  If there are fewer, the keys fail.  The keys without a count, and then `;` as
often as it takes, do the same. -/
theorem follow_charSearch_backward (inside : point.cursor.caret ≤ point.text.length)
    (memory : Option CharSearch) (lineKey : Option Char) (target : Char) (rest : List Char)
    (count : Nat) (counted before : Bool) :
    let key := if before then 'T' else 'F'
    let start := if target = '\n' then 0 else point.text.lineStart point.cursor.caret
    let places := point.text.occurrences target start point.cursor.caret
    point.follow memory lineKey ⟨key :: target :: rest, count + 1, counted⟩ =
        point.backTo before places[count]? ∧
      point.followAll lineKey memory
          (.ofKeys [key, target] :: List.replicate count (.ofKeys [';'])) =
        point.backTo before places[count]? := by
  intro key start places
  have resolved := resolve_charSearch_backward inside memory target before count
  have parsed (keys : List Char) (count : Nat) (counted : Bool) :
      Motion.parse lineKey ⟨key :: target :: keys, count, counted⟩ =
        .ok (.charSearch ⟨target, .backward, before⟩) := by
    cases before <;> rfl
  exact ⟨(follow_of_parse (parsed rest (count + 1) counted)).trans resolved,
    followAll_search inside memory lineKey count (parsed [] 1 false)⟩

/-- The third `x` back, behind two that are adjacent. -/
theorem follow_charSearch_backward_of_adjacent :
    let point := ofCaret Unicode.isPunctuation "x\nxaxx".toList 6
    point.cursor.caret ≤ point.text.length ∧
      point.follow none none ⟨['T', 'x'], 3, true⟩ = .ok ⟨3, 6⟩ ∧
      point.followAll none none [.ofKeys ['T', 'x'], .ofKeys [';'], .ofKeys [';']] =
        .ok ⟨3, 6⟩ := by
  intro point
  have inside : point.cursor.caret ≤ point.text.length := by decide
  have led : point.backTo true
      (point.text.occurrences 'x' (point.text.lineStart point.cursor.caret) point.cursor.caret)[2]? =
        .ok ⟨3, 6⟩ := rfl
  obtain ⟨counted, repeated⟩ := follow_charSearch_backward inside none none 'x' [] 2 true true
  exact ⟨inside, counted.trans led, repeated.trans led⟩

/-- The break before its line is no part of it, and is found. -/
theorem follow_charSearch_of_break :
    let text := "a\nb".toList
    (ofCaret Unicode.isPunctuation text 2).follow none none (.ofKeys ['F', '\n']) = .ok ⟨1, 2⟩ ∧
      Text.occurrences text '\n' (Text.lineStart text 2) 2 = [] :=
  ⟨rfl, rfl⟩

end Standpoint

end ModalVi
