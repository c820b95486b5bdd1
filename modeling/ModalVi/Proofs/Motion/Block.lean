import ModalVi.Proofs.Motion.Bracket
import ModalVi.Proofs.Text.Splice

namespace ModalVi

/-! Pairs of brackets around a place.

Read away from the place, the brackets that are unmatched are those of the pairs around it, innermost
first.  A search for the first of them that closes more than `depth` pairs finds the one with that number,
and so does a search that goes outward pair by pair.  The brackets with one number in both directions are
a pair, because what was read up to them leaves as many open as it closes. -/

namespace Text

variable {text list rest : Text} {opening closing inner target c : Char}
  {depth low high place offset count : Nat}

/-! ### Unmatched brackets -/

/-- The list holds a target there, and no `inner` before it opens what that closes. -/
def Unmatched (inner target : Char) (list : List Char) (place : Nat) : Prop :=
  list[place]? = some target ∧ ∀ earlier < place, ¬ Paired inner target list earlier place

instance : DecidablePred (Unmatched inner target list) :=
  fun place => inferInstanceAs (Decidable
    (list[place]? = some target ∧ ∀ earlier < place, ¬ Paired inner target list earlier place))

/-- The places of the unmatched targets, in order. -/
def unmatched (inner target : Char) (list : List Char) : List Nat :=
  (List.range list.length).filter (Unmatched inner target list)

theorem paired_cons_succ :
    Paired inner target (c :: rest) (low + 1) (high + 1) ↔ Paired inner target rest low high := by
  have same : slice (c :: rest) (low + 1 + 1) (high + 1) = slice rest (low + 1) high := by
    simp only [slice, List.drop_succ_cons, Nat.add_sub_add_right]
  constructor
  · rintro ⟨ordered, opens, closes, between⟩
    exact ⟨by omega, opens, closes, same ▸ between⟩
  · rintro ⟨ordered, opens, closes, between⟩
    exact ⟨by omega, opens, closes, same ▸ between⟩

theorem paired_cons_zero (apart : inner ≠ target) :
    Paired inner target (c :: rest) 0 (place + 1) ↔
      c = inner ∧ firstUnmatched inner target 0 rest = some place := by
  rw [firstUnmatched_zero_iff apart]
  constructor
  · rintro ⟨_, opens, closes, between⟩
    exact ⟨Option.some.inj opens, closes, between⟩
  · rintro ⟨rfl, closes, between⟩
    exact ⟨Nat.succ_pos _, rfl, closes, between⟩

theorem unmatched_zero : Unmatched inner target (c :: rest) 0 ↔ c = target := by
  simp [Unmatched]

theorem unmatched_succ (apart : inner ≠ target) :
    Unmatched inner target (c :: rest) (place + 1) ↔
      Unmatched inner target rest place ∧
        ¬ (c = inner ∧ firstUnmatched inner target 0 rest = some place) := by
  rw [Unmatched, Unmatched, Nat.forall_lt_succ_left, paired_cons_zero apart]
  simp only [paired_cons_succ, List.getElem?_cons_succ]
  exact ⟨fun ⟨held, alone, free⟩ => ⟨⟨held, free⟩, alone⟩,
    fun ⟨⟨held, free⟩, alone⟩ => ⟨held, alone, free⟩⟩

/-- A character more in front may be unmatched itself, and may open what one of the others closes. -/
theorem unmatched_cons (apart : inner ≠ target) :
    unmatched inner target (c :: rest) =
      (if c = target then [0] else []) ++
        ((unmatched inner target rest).filter fun place =>
          ¬ (c = inner ∧ firstUnmatched inner target 0 rest = some place)).map (· + 1) := by
  have later : ((List.range rest.length).map Nat.succ).filter
      (Unmatched inner target (c :: rest)) =
      ((unmatched inner target rest).filter fun place =>
        ¬ (c = inner ∧ firstUnmatched inner target 0 rest = some place)).map (· + 1) := by
    rw [List.filter_map, unmatched, List.filter_filter]
    congr 1
    refine List.filter_congr fun place _ => ?_
    rw [← Bool.decide_and]
    exact decide_eq_decide.mpr ((unmatched_succ apart).trans and_comm)
  rw [unmatched, List.length_cons, List.range_succ_eq_map, List.filter_cons, later]
  by_cases same : c = target
  · simp [unmatched_zero, same]
  · simp [unmatched_zero, same]

/-- The search finds the unmatched target with the number `depth`. -/
theorem firstUnmatched_eq_getElem? (apart : inner ≠ target) (depth : Nat) (list : List Char) :
    firstUnmatched inner target depth list = (unmatched inner target list)[depth]? := by
  induction list generalizing depth with
  | nil => rfl
  | cons c rest ih =>
      rw [unmatched_cons apart]
      by_cases opens : c = inner
      · subst opens
        -- What the bracket opens is closed by the first target that is unmatched behind it.
        have nodup : (unmatched c target rest).Nodup := List.nodup_range.filter _
        have first := ih 0
        rw [firstUnmatched_inner, ih (depth + 1), first]
        generalize unmatched c target rest = places at nodup ⊢
        cases places with
        | nil => simp [apart]
        | cons place later =>
            have others : later.filter (fun other => !decide (place = other)) = later := by
              refine List.filter_eq_self.mpr fun other member => ?_
              have different := List.rel_of_pairwise_cons nodup member
              simpa using different
            simp [apart, others]
      · have all : ((unmatched inner target rest).filter fun place =>
            ¬ (c = inner ∧ firstUnmatched inner target 0 rest = some place)) =
            unmatched inner target rest :=
          List.filter_eq_self.mpr fun place _ => by simp [opens]
        rw [all]
        by_cases closes : c = target
        · subst closes
          cases depth with
          | zero => simp [firstUnmatched_target_zero apart]
          | succ depth => simp [firstUnmatched_target_succ apart, ih]
        · simp [firstUnmatched_other opens closes, closes, ih]

theorem lt_length_of_unmatched (apart : inner ≠ target)
    (held : (unmatched inner target list)[depth]? = some place) : place < list.length := by
  rw [← firstUnmatched_eq_getElem? apart] at held
  exact firstUnmatched_lt_length held

theorem length_unmatched_le_iff (apart : inner ≠ target) :
    (unmatched inner target list).length ≤ depth ↔ ClosesAtMost inner target depth list := by
  rw [← firstUnmatched_eq_none_iff apart, firstUnmatched_eq_getElem? apart,
    List.getElem?_eq_none_iff]

/-- A list that closes `depth` pairs has as many unmatched targets. -/
theorem Closes.length_unmatched (apart : inner ≠ target) (closes : Closes inner target depth list) :
    (unmatched inner target list).length = depth := by
  refine Nat.le_antisymm ((length_unmatched_le_iff apart).mpr closes.fronts) ?_
  have fronts : ClosesAtMost inner target (unmatched inner target list).length list :=
    (length_unmatched_le_iff apart).mp (Nat.le_refl _)
  have whole := fronts list.length
  have total := closes.total
  rw [List.take_length] at whole
  omega

/-- Behind an unmatched target the search begins anew. -/
theorem firstUnmatched_after (apart : inner ≠ target)
    (found : firstUnmatched inner target depth list = some place) (further : Nat) :
    firstUnmatched inner target (depth + 1 + further) list =
      (firstUnmatched inner target further (list.drop (place + 1))).map (place + 1 + ·) := by
  induction list generalizing depth place with
  | nil => cases found
  | cons c rest ih =>
      by_cases opens : c = inner
      · subst opens
        rw [firstUnmatched_inner] at found ⊢
        obtain ⟨later, met, rfl⟩ := Option.map_eq_some_iff.mp found
        have next := ih met
        rw [show depth + 1 + further + 1 = depth + 1 + 1 + further by omega, next]
        simp [Nat.add_right_comm, Function.comp_def]
      · by_cases closes : c = target
        · subst closes
          rw [show depth + 1 + further = depth + further + 1 by omega,
            firstUnmatched_target_succ apart]
          cases depth with
          | zero =>
              rw [firstUnmatched_target_zero apart] at found
              cases found
              simp [Nat.add_comm]
          | succ depth =>
              rw [firstUnmatched_target_succ apart] at found
              obtain ⟨later, met, rfl⟩ := Option.map_eq_some_iff.mp found
              rw [ih met]
              simp [Nat.add_right_comm, Function.comp_def]
        · rw [firstUnmatched_other opens closes] at found ⊢
          obtain ⟨later, met, rfl⟩ := Option.map_eq_some_iff.mp found
          rw [ih met]
          simp [Nat.add_right_comm, Function.comp_def]

/-! ### The pair with a number -/

/-- A text that leaves `depth` pairs open, read backward, and one that closes as many. -/
theorem balanced_append {left right : Text} (opens : Closes closing opening depth left.reverse)
    (closes : Closes opening closing depth right) : Balanced opening closing (left ++ right) := by
  have whole := opens.total
  have total := closes.total
  rw [List.count_reverse, List.count_reverse] at whole
  refine ⟨by rw [List.count_append, List.count_append]; omega, fun length => ?_⟩
  rw [List.take_append, List.count_append, List.count_append]
  rcases Nat.le_total length left.length with within | beyond
  · -- What the rest of the left part leaves open, it does not open more than that.
    have back := opens.fronts (left.length - length)
    rw [List.take_reverse, List.count_reverse, List.count_reverse, Nat.sub_sub_self within,
      count_drop, count_drop] at back
    have closed := (List.take_sublist length left).count_le closing
    have opened := (List.take_sublist length left).count_le opening
    rw [Nat.sub_eq_zero_of_le within, List.take_zero]
    simp only [List.count_nil]
    omega
  · have front := closes.fronts (length - left.length)
    rw [List.take_of_length_le beyond]
    omega

/-- The brackets of the pair number `count` around the offset, of which the first is the innermost. -/
structure Encloses (opening closing : Char) (text : Text) (offset count low high : Nat) : Prop where
  paired : Paired opening closing text low high
  before : low < offset
  after : offset ≤ high
  depth : (unmatched closing opening (text.slice (low + 1) offset).reverse).length + 1 = count

/-- The unmatched brackets with one number, read backward and forward from a place, enclose it. -/
theorem encloses_of_unmatched (apart : opening ≠ closing) {back ahead : Nat}
    (start : (unmatched closing opening (text.take offset).reverse)[count]? = some back)
    (stop : (unmatched opening closing (text.drop offset))[count]? = some ahead) :
    Encloses opening closing text offset (count + 1) (offset - 1 - back) (offset + ahead) := by
  rw [← firstUnmatched_eq_getElem? apart.symm] at start
  rw [← firstUnmatched_eq_getElem? apart] at stop
  obtain ⟨opens, left⟩ := (firstUnmatched_eq_some_iff apart.symm).mp start
  obtain ⟨closes, right⟩ := (firstUnmatched_eq_some_iff apart).mp stop
  have inside := (List.getElem?_eq_some_iff.mp closes).1
  have within := (List.getElem?_eq_some_iff.mp opens).1
  rw [List.length_drop] at inside
  rw [List.length_reverse, List.length_take] at within
  have bounded : offset ≤ text.length := by omega
  rw [getElem?_reverse_take (by omega) bounded] at opens
  rw [List.getElem?_drop] at closes
  rw [take_reverse_take bounded, show offset - back = offset - 1 - back + 1 by omega] at left
  have between : Balanced opening closing (text.slice (offset - 1 - back + 1) (offset + ahead)) := by
    have first : offset - 1 - back + 1 ≤ offset := by omega
    rw [← slice_append first (Nat.le_add_right offset ahead)]
    refine balanced_append left ?_
    rwa [slice, Nat.add_sub_cancel_left]
  exact ⟨⟨by omega, opens, closes, between⟩, by omega, by omega,
    congrArg (· + 1) (left.length_unmatched apart.symm)⟩

end Text

open Text Reader

namespace TextObject

variable {opening closing inner target : Char} {around : Bool} {count : Nat} {extent found : Extent}

/-! ### Outward over pairs -/

theorem toUnmatched_eq (apart : inner ≠ target) (past : Bool) (reader : Reader) :
    toUnmatched inner target past reader =
      (unmatched inner target reader.ahead)[0]?.map fun place =>
        reader.advance (if past then place + 1 else place) := by
  rw [toUnmatched, firstUnmatched_eq_getElem? apart]

/-- Behind the first unmatched target the others are unmatched, and no more. -/
theorem unmatched_drop (apart : inner ≠ target) {list : List Char} {place : Nat}
    (first : (unmatched inner target list)[0]? = some place) (count : Nat) :
    (unmatched inner target list)[count + 1]? =
      (unmatched inner target (list.drop (place + 1)))[count]?.map (place + 1 + ·) := by
  rw [← firstUnmatched_eq_getElem? apart] at first ⊢
  have after := firstUnmatched_after apart first count
  rw [← firstUnmatched_eq_getElem? apart, ← after]
  congr 1
  omega

/-- Outward over `count + 1` pairs, both readers come to the unmatched bracket with the number `count`. -/
theorem outward_toUnmatched_iff (apart : opening ≠ closing) :
    outward (toUnmatched closing opening) (toUnmatched opening closing) around (count + 1) extent =
        some found ↔
      ∃ low high, (unmatched closing opening extent.start.ahead)[count]? = some low ∧
        (unmatched opening closing extent.stop.ahead)[count]? = some high ∧
        found = ⟨extent.start.advance (if around then low + 1 else low),
          extent.stop.advance (if around then high + 1 else high)⟩ := by
  induction count generalizing extent with
  | zero =>
      rw [outward, toUnmatched_eq apart.symm, toUnmatched_eq apart]
      cases (unmatched closing opening extent.start.ahead)[0]? with
      | none => simp
      | some low =>
          cases (unmatched opening closing extent.stop.ahead)[0]? with
          | none => simp
          | some high => simp [outward, eq_comm]
  | succ count ih =>
      rw [outward, toUnmatched_eq apart.symm, toUnmatched_eq apart]
      cases first : (unmatched closing opening extent.start.ahead)[0]? with
      | none =>
          have empty : unmatched closing opening extent.start.ahead = [] := by simpa using first
          simp [empty]
      | some low =>
          cases firstAlso : (unmatched opening closing extent.stop.ahead)[0]? with
          | none =>
              have empty : unmatched opening closing extent.stop.ahead = [] := by
                simpa using firstAlso
              simp [empty]
          | some high =>
              have past : (around || count + 1 != 0) = true := by simp
              have beyond (place further : Nat) :
                  place + 1 + (if around then further + 1 else further) =
                    if around then place + 1 + further + 1 else place + 1 + further := by
                split <;> rfl
              simp only [Option.map_some, past, if_true, ih, ahead_advance, advance_advance, beyond,
                unmatched_drop apart.symm first, unmatched_drop apart firstAlso,
                Option.map_eq_some_iff]
              constructor
              · rintro ⟨later, laterAlso, next, nextAlso, rfl⟩
                exact ⟨_, _, ⟨later, next, rfl⟩, ⟨laterAlso, nextAlso, rfl⟩, rfl⟩
              · rintro ⟨_, _, ⟨later, next, rfl⟩, ⟨laterAlso, nextAlso, rfl⟩, rfl⟩
                exact ⟨later, laterAlso, next, nextAlso, rfl⟩

/-! ### Block objects -/

theorem select_block_eq_ok_iff :
    (block opening closing).select marks around count extent = .ok found ↔
      outward (toUnmatched closing opening) (toUnmatched opening closing) around count extent =
        some found := by
  rw [select]
  cases outward (toUnmatched closing opening) (toUnmatched opening closing) around count extent with
  | some extent => simp
  | none => simp

theorem select_block_error {error : ParseError}
    (failed : (block opening closing).select marks around count extent = .error error) :
    error = .invalidMotion .noEnclosingBracket := by
  rw [select] at failed
  split at failed
  · cases failed
  · cases failed
    rfl

theorem offset_advance_start {text : Text} {offset place : Nat} (inside : offset ≤ text.length) :
    ((Extent.atOffset text offset).start.advance place).offset = offset - place := by
  rw [Extent.atOffset, offset_advance_back (reads_backward text offset) rfl, offset_backward,
    Nat.min_eq_left inside]

theorem offset_advance_stop {text : Text} {offset place : Nat} (inside : offset ≤ text.length)
    (within : offset + place ≤ text.length) :
    ((Extent.atOffset text offset).stop.advance place).offset = offset + place := by
  have length := length_ahead_forward (reads_forward text offset) rfl
  rw [offset_advance_forward rfl, offset_atOffset_stop inside, Extent.atOffset, length,
    offset_forward, Nat.min_eq_left inside, Nat.min_eq_left (by omega)]

section Around

variable {text : Text} {offset : Nat} (apart : opening ≠ closing) (given : 0 < count)
include apart given

theorem le_length_unmatched_of_select
    (selected : (block opening closing).select marks around count (.atOffset text offset) = .ok found) :
    count ≤ (unmatched closing opening (text.take offset).reverse).length ∧
      count ≤ (unmatched opening closing (text.drop offset)).length := by
  obtain ⟨count, rfl⟩ := Nat.exists_eq_add_of_lt given
  rw [Nat.zero_add, select_block_eq_ok_iff, outward_toUnmatched_iff apart] at selected
  obtain ⟨back, ahead, start, stop, _⟩ := selected
  have before := (List.getElem?_eq_some_iff.mp start).1
  have after := (List.getElem?_eq_some_iff.mp stop).1
  rw [Nat.zero_add]
  exact ⟨before, after⟩

/-- The inner object and the one around it are found at the brackets of the same pair. -/
theorem exists_encloses
    (before : count ≤ (unmatched closing opening (text.take offset).reverse).length)
    (after : count ≤ (unmatched opening closing (text.drop offset)).length) :
    ∃ low high, Encloses opening closing text offset count low high ∧
      ∀ around, ∃ found,
        (block opening closing).select marks around count (.atOffset text offset) = .ok found ∧
          found.start.offset = (if around then low else low + 1) ∧
          found.stop.offset = if around then high + 1 else high := by
  obtain ⟨count, rfl⟩ := Nat.exists_eq_add_of_lt given
  rw [Nat.zero_add] at before after ⊢
  have start := List.getElem?_eq_getElem before
  have stop := List.getElem?_eq_getElem after
  generalize (unmatched closing opening (text.take offset).reverse)[count] = back at start
  generalize (unmatched opening closing (text.drop offset))[count] = ahead at stop
  have encloses := encloses_of_unmatched apart start stop
  have backward := lt_length_of_unmatched apart.symm start
  have forward := lt_length_of_unmatched apart stop
  rw [List.length_reverse, List.length_take] at backward
  rw [List.length_drop] at forward
  have inside : offset ≤ text.length := by omega
  refine ⟨_, _, encloses, fun around => ⟨_, select_block_eq_ok_iff.mpr
    ((outward_toUnmatched_iff apart).mpr ⟨back, ahead, start, stop, rfl⟩), ?_, ?_⟩⟩
  · rw [offset_advance_start inside]
    split <;> omega
  · rw [offset_advance_stop inside (by split <;> omega)]
    split <;> omega

end Around

end TextObject

namespace Standpoint

open TextObject

/-- The object of a kind of brackets and a count is found exactly where as many brackets are unmatched
before the place and after it.  It lies between the brackets of a pair, `count - 1` other pairs are around
the place in it, and the brackets, which belong to the object around, are partners for `%`. -/
theorem select_block_encloses {opening closing : Char} (kind : (opening, closing) ∈ bracketPairs)
    (point : Standpoint) (memory : Option CharSearch) (lineKey : Option Char) (offset : Nat)
    {count : Nat} (given : 0 < count) :
    (∀ around, (∃ found,
      (block opening closing).select point.marks around count (.atOffset point.text offset) =
        .ok found) ↔
        count ≤ (unmatched closing opening (point.text.take offset).reverse).length ∧
          count ≤ (unmatched opening closing (point.text.drop offset)).length) ∧
    (∀ around error,
      (block opening closing).select point.marks around count (.atOffset point.text offset) =
        .error error →
        error = .invalidMotion .noEnclosingBracket) ∧
    ∀ inner, (block opening closing).select point.marks false count (.atOffset point.text offset) =
      .ok inner →
      ∃ outer low,
        (block opening closing).select point.marks true count (.atOffset point.text offset) =
          .ok outer ∧
        inner.start.offset = low + 1 ∧ outer.start.offset = low ∧
        outer.stop.offset = inner.stop.offset + 1 ∧
        Encloses opening closing point.text offset count low inner.stop.offset ∧
        point.jump memory lineKey low = .ok (point.moveTo inner.stop.offset) ∧
        point.jump memory lineKey inner.stop.offset = .ok (point.moveTo low) := by
  have apart := ne_of_bracketPairs kind
  refine ⟨fun around => ⟨?_, fun ⟨before, after⟩ => ?_⟩,
    fun around error failed => select_block_error failed, fun inner selected => ?_⟩
  · rintro ⟨found, selected⟩
    exact le_length_unmatched_of_select apart given selected
  · obtain ⟨_, _, _, found⟩ := exists_encloses apart given before after
    obtain ⟨extent, selected, _⟩ := found around
    exact ⟨extent, selected⟩
  · obtain ⟨before, after⟩ := le_length_unmatched_of_select apart given selected
    obtain ⟨low, high, encloses, found⟩ := exists_encloses apart given before after
    obtain ⟨outer, selectedAround, outerStart, outerStop⟩ := found true
    obtain ⟨same, selectedSame, innerStart, innerStop⟩ := found false
    cases selected.symm.trans selectedSame
    simp only [Bool.false_eq_true, if_false] at innerStart innerStop
    have partners : Partners point.text low high := ⟨opening, closing, kind, .inl encloses.paired⟩
    subst innerStop
    exact ⟨outer, low, selectedAround, innerStart, outerStart, outerStop, encloses,
      jump_of_partners partners, jump_of_partners partners.symm⟩

/-- The second pair of parentheses around a place. -/
theorem select_block_encloses_twice :
    let point := ofCaret Unicode.isPunctuation "f(a, (b), c)".toList 6
    ('(', ')') ∈ bracketPairs ∧ 0 < 2 ∧
      (∃ inner outer,
        (block '(' ')').select point.marks false 2 (.atOffset point.text 6) = .ok inner ∧
        (block '(' ')').select point.marks true 2 (.atOffset point.text 6) = .ok outer ∧
        inner.start.offset = 2 ∧ inner.stop.offset = 11 ∧ outer.start.offset = 1 ∧
        outer.stop.offset = 12) ∧
      Encloses '(' ')' point.text 6 2 1 11 ∧ point.jump none none 1 = .ok ⟨11, 6⟩ ∧
      point.jump none none 11 = .ok ⟨1, 6⟩ := by
  intro point
  have kind : ('(', ')') ∈ bracketPairs := by decide
  obtain ⟨resolves, _, around⟩ := select_block_encloses kind point none none 6 Nat.two_pos
  obtain ⟨inner, selected⟩ := (resolves false).mpr (by decide +kernel)
  obtain ⟨outer, low, selectedAlso, start, outerStart, outerStop, encloses, there, back⟩ :=
    around inner selected
  have offsets : ((block '(' ')').select point.marks false 2 (.atOffset point.text 6)).toOption.map
      (fun extent => (extent.start.offset, extent.stop.offset)) = some (2, 11) := by
    decide +kernel
  rw [selected] at offsets
  simp only [Except.toOption, Option.map_some, Option.some.injEq, Prod.mk.injEq] at offsets
  obtain ⟨innerStart, innerStop⟩ := offsets
  obtain rfl : low = 1 := by omega
  rw [innerStop] at encloses there back outerStop
  exact ⟨kind, Nat.two_pos, ⟨inner, outer, selected, selectedAlso, innerStart, innerStop, outerStart,
    outerStop⟩, encloses, there, back⟩

end Standpoint

end ModalVi
