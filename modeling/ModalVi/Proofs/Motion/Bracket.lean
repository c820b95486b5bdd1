import ModalVi.Proofs.Motion.Follow
import ModalVi.Proofs.Text.Line
import ModalVi.Proofs.Text.Token

namespace ModalVi

/-! Brackets that belong together.

A text is balanced in one kind of brackets if as many close as open and no front part of it closes more.
The search for a partner stops at the first bracket that closes more than what it has read opens, so what
it has read is balanced.  Read from the other end, a balanced text is balanced with the brackets
exchanged, and so the searches from both brackets of a pair find each other. -/

namespace Text

variable {text rest : Text} {opening closing inner target c : Char}
  {depth low high place other offset : Nat}

/-! ### Balanced texts -/

/-- No front part of the text closes more than `depth` pairs that it does not open. -/
def ClosesAtMost (opening closing : Char) (depth : Nat) (text : Text) : Prop :=
  ∀ length, (text.take length).count closing ≤ (text.take length).count opening + depth

/-- The text closes `depth` pairs that it does not open, and no front part of it closes more. -/
structure Closes (opening closing : Char) (depth : Nat) (text : Text) : Prop where
  total : text.count closing = text.count opening + depth
  fronts : ClosesAtMost opening closing depth text

/-- As many brackets close as open, and in no front part of the text do more close than open. -/
def Balanced (opening closing : Char) (text : Text) : Prop := Closes opening closing 0 text

/-- The brackets at the two places open and close one pair. -/
structure Paired (opening closing : Char) (text : Text) (low high : Nat) : Prop where
  ordered : low < high
  opens : text[low]? = some opening
  closes : text[high]? = some closing
  between : Balanced opening closing (text.slice (low + 1) high)

instance : Decidable (ClosesAtMost opening closing depth text) :=
  decidable_of_iff
    (∀ length < text.length + 1,
      (text.take length).count closing ≤ (text.take length).count opening + depth) <| by
    refine ⟨fun bounded length => ?_, fun bounded length _ => bounded length⟩
    rcases Nat.lt_or_ge length (text.length + 1) with within | beyond
    · exact bounded length within
    · have whole := bounded text.length (Nat.lt_succ_self _)
      rw [List.take_of_length_le (by omega)]
      rwa [List.take_length] at whole

instance : Decidable (Balanced opening closing text) :=
  decidable_of_iff
    (text.count closing = text.count opening + 0 ∧ ClosesAtMost opening closing 0 text)
    ⟨fun ⟨total, fronts⟩ => ⟨total, fronts⟩, fun balanced => ⟨balanced.total, balanced.fronts⟩⟩

instance : Decidable (Paired opening closing text low high) :=
  decidable_of_iff
    (low < high ∧ text[low]? = some opening ∧ text[high]? = some closing ∧
      Balanced opening closing (text.slice (low + 1) high))
    ⟨fun ⟨ordered, opens, closes, between⟩ => ⟨ordered, opens, closes, between⟩,
      fun paired => ⟨paired.ordered, paired.opens, paired.closes, paired.between⟩⟩

/-! ### One character more in front -/

theorem closesAtMost_nil : ClosesAtMost opening closing depth [] := by
  intro length
  simp

/-- What holds of all front parts holds without the first character and with it. -/
theorem closesAtMost_cons :
    ClosesAtMost opening closing depth (c :: rest) ↔
      ∀ length, (c :: rest.take length).count closing ≤
        (c :: rest.take length).count opening + depth := by
  constructor
  · intro bounded length
    exact bounded (length + 1)
  · intro bounded length
    cases length with
    | zero => simp
    | succ length => exact bounded length

theorem closes_nil : Closes opening closing depth [] ↔ depth = 0 := by
  constructor
  · rintro ⟨total, _⟩
    simpa using total.symm
  · rintro rfl
    exact ⟨rfl, closesAtMost_nil⟩

section Apart

variable (apart : opening ≠ closing)
include apart

theorem closesAtMost_cons_opening :
    ClosesAtMost opening closing depth (opening :: rest) ↔
      ClosesAtMost opening closing (depth + 1) rest := by
  rw [closesAtMost_cons]
  simp only [ClosesAtMost, List.count_cons_self, List.count_cons_of_ne apart]
  exact forall_congr' fun length => by omega

theorem closesAtMost_cons_closing :
    ClosesAtMost opening closing (depth + 1) (closing :: rest) ↔
      ClosesAtMost opening closing depth rest := by
  rw [closesAtMost_cons]
  simp only [ClosesAtMost, List.count_cons_self, List.count_cons_of_ne apart.symm]
  exact forall_congr' fun length => by omega

theorem not_closesAtMost_cons_closing : ¬ ClosesAtMost opening closing 0 (closing :: rest) := by
  intro bounded
  have first := bounded 1
  simp [List.count_cons_of_ne apart.symm] at first

omit apart in
theorem closesAtMost_cons_other (notOpening : c ≠ opening) (notClosing : c ≠ closing) :
    ClosesAtMost opening closing depth (c :: rest) ↔ ClosesAtMost opening closing depth rest := by
  rw [closesAtMost_cons]
  simp only [ClosesAtMost, List.count_cons_of_ne notOpening, List.count_cons_of_ne notClosing]

theorem closes_cons_opening :
    Closes opening closing depth (opening :: rest) ↔ Closes opening closing (depth + 1) rest := by
  constructor
  · rintro ⟨total, bounded⟩
    rw [List.count_cons_self, List.count_cons_of_ne apart] at total
    exact ⟨by omega, (closesAtMost_cons_opening apart).mp bounded⟩
  · rintro ⟨total, bounded⟩
    refine ⟨?_, (closesAtMost_cons_opening apart).mpr bounded⟩
    rw [List.count_cons_self, List.count_cons_of_ne apart]
    omega

theorem closes_cons_closing :
    Closes opening closing (depth + 1) (closing :: rest) ↔ Closes opening closing depth rest := by
  constructor
  · rintro ⟨total, bounded⟩
    rw [List.count_cons_self, List.count_cons_of_ne apart.symm] at total
    exact ⟨by omega, (closesAtMost_cons_closing apart).mp bounded⟩
  · rintro ⟨total, bounded⟩
    refine ⟨?_, (closesAtMost_cons_closing apart).mpr bounded⟩
    rw [List.count_cons_self, List.count_cons_of_ne apart.symm]
    omega

theorem not_closes_cons_closing : ¬ Closes opening closing 0 (closing :: rest) :=
  fun closes => not_closesAtMost_cons_closing apart closes.fronts

omit apart in
theorem closes_cons_other (notOpening : c ≠ opening) (notClosing : c ≠ closing) :
    Closes opening closing depth (c :: rest) ↔ Closes opening closing depth rest := by
  constructor
  · rintro ⟨total, bounded⟩
    rw [List.count_cons_of_ne notOpening, List.count_cons_of_ne notClosing] at total
    exact ⟨total, (closesAtMost_cons_other notOpening notClosing).mp bounded⟩
  · rintro ⟨total, bounded⟩
    refine ⟨?_, (closesAtMost_cons_other notOpening notClosing).mpr bounded⟩
    rwa [List.count_cons_of_ne notOpening, List.count_cons_of_ne notClosing]

end Apart

/-! ### The search for what closes more -/

theorem firstUnmatched_inner (inner target : Char) (depth : Nat) (rest : List Char) :
    firstUnmatched inner target depth (inner :: rest) =
      (firstUnmatched inner target (depth + 1) rest).map (· + 1) := by
  simp [firstUnmatched]

section Search

variable (apart : inner ≠ target)
include apart

theorem firstUnmatched_target_zero (rest : List Char) :
    firstUnmatched inner target 0 (target :: rest) = some 0 := by
  simp [firstUnmatched, apart.symm]

theorem firstUnmatched_target_succ (depth : Nat) (rest : List Char) :
    firstUnmatched inner target (depth + 1) (target :: rest) =
      (firstUnmatched inner target depth rest).map (· + 1) := by
  simp [firstUnmatched, apart.symm]

omit apart in
theorem firstUnmatched_other (notInner : c ≠ inner) (notTarget : c ≠ target) (depth : Nat)
    (rest : List Char) :
    firstUnmatched inner target depth (c :: rest) =
      (firstUnmatched inner target depth rest).map (· + 1) := by
  simp [firstUnmatched, notInner, notTarget]

theorem firstUnmatched_eq_none_iff :
    firstUnmatched inner target depth text = none ↔ ClosesAtMost inner target depth text := by
  induction text generalizing depth with
  | nil => exact iff_of_true rfl closesAtMost_nil
  | cons c rest ih =>
      by_cases opens : c = inner
      · subst opens
        rw [firstUnmatched_inner, Option.map_eq_none_iff, ih, closesAtMost_cons_opening apart]
      · by_cases closes : c = target
        · subst closes
          cases depth with
          | zero =>
              rw [firstUnmatched_target_zero apart]
              exact iff_of_false (by simp) (not_closesAtMost_cons_closing apart)
          | succ depth =>
              rw [firstUnmatched_target_succ apart, Option.map_eq_none_iff, ih,
                closesAtMost_cons_closing apart]
        · rw [firstUnmatched_other opens closes, Option.map_eq_none_iff, ih,
            closesAtMost_cons_other opens closes]

/-- The search finds the first target that closes one pair more than `depth`. -/
theorem firstUnmatched_eq_some_iff :
    firstUnmatched inner target depth text = some place ↔
      text[place]? = some target ∧ Closes inner target depth (text.take place) := by
  induction text generalizing depth place with
  | nil => simp [firstUnmatched]
  | cons c rest ih =>
      by_cases opens : c = inner
      · subst opens
        rw [firstUnmatched_inner]
        cases place with
        | zero => simp [apart]
        | succ place => simp [← closes_cons_opening apart, ih]
      · by_cases closes : c = target
        · subst closes
          cases depth with
          | zero =>
              rw [firstUnmatched_target_zero apart]
              cases place with
              | zero => simp [closes_nil]
              | succ place => simp [not_closes_cons_closing apart]
          | succ depth =>
              rw [firstUnmatched_target_succ apart]
              cases place with
              | zero => simp [closes_nil]
              | succ place => simp [closes_cons_closing apart, ih]
        · rw [firstUnmatched_other opens closes]
          cases place with
          | zero => simp [closes]
          | succ place => simp [closes_cons_other opens closes, ih]

/-- From depth zero, what the search has read when it stops is balanced. -/
theorem firstUnmatched_zero_iff :
    firstUnmatched inner target 0 text = some place ↔
      text[place]? = some target ∧ Balanced inner target (text.take place) :=
  firstUnmatched_eq_some_iff apart

end Search

/-! ### From the other end -/

theorem count_drop (text : Text) (c : Char) (length : Nat) :
    (text.drop length).count c = text.count c - (text.take length).count c := by
  have whole := congrArg (List.count c) (List.take_append_drop length text)
  rw [List.count_append] at whole
  omega

/-- Read backward, a balanced text is balanced with the brackets exchanged. -/
theorem Balanced.reverse (balanced : Balanced opening closing text) :
    Balanced closing opening text.reverse := by
  obtain ⟨total, fronts⟩ := balanced
  refine ⟨by simp only [List.count_reverse]; omega, fun length => ?_⟩
  have front := fronts (text.length - length)
  rw [List.take_reverse, List.count_reverse, List.count_reverse, count_drop, count_drop]
  omega

theorem balanced_reverse :
    Balanced closing opening text.reverse ↔ Balanced opening closing text := by
  constructor
  · intro balanced
    have again := balanced.reverse
    rwa [List.reverse_reverse] at again
  · exact Balanced.reverse

theorem getElem?_reverse_take (within : place < high) (inside : high ≤ text.length) :
    (text.take high).reverse[place]? = text[high - 1 - place]? := by
  have bound : place < (text.take high).length := by
    rwa [List.length_take, Nat.min_eq_left inside]
  rw [List.getElem?_reverse bound, List.length_take, Nat.min_eq_left inside,
    List.getElem?_take_of_lt (by omega)]

theorem take_reverse_take (inside : high ≤ text.length) :
    (text.take high).reverse.take place = (text.slice (high - place) high).reverse := by
  rw [List.take_reverse, List.length_take, Nat.min_eq_left inside, List.drop_take]
  rfl

section Pairs

variable (apart : opening ≠ closing)
include apart

/-- The search forward from an opening bracket finds the one that closes its pair. -/
theorem firstUnmatched_forward_iff (opens : text[low]? = some opening) :
    (firstUnmatched opening closing 0 (text.drop (low + 1))).map (low + 1 + ·) = some high ↔
      Paired opening closing text low high := by
  rw [Option.map_eq_some_iff]
  constructor
  · rintro ⟨position, found, rfl⟩
    obtain ⟨closes, between⟩ := (firstUnmatched_zero_iff apart).mp found
    rw [List.getElem?_drop] at closes
    refine ⟨by omega, opens, closes, ?_⟩
    rwa [slice, Nat.add_sub_cancel_left]
  · rintro ⟨ordered, _, closes, between⟩
    obtain ⟨position, rfl⟩ := Nat.exists_eq_add_of_le (Nat.succ_le_of_lt ordered)
    refine ⟨position, (firstUnmatched_zero_iff apart).mpr ⟨?_, ?_⟩, rfl⟩
    · rwa [List.getElem?_drop]
    · rwa [slice, Nat.succ_eq_add_one, Nat.add_sub_cancel_left] at between

/-- The search backward from a closing bracket finds the one that opens its pair. -/
theorem firstUnmatched_backward_iff (closes : text[high]? = some closing) :
    (firstUnmatched closing opening 0 (text.take high).reverse).map (high - 1 - ·) = some low ↔
      Paired opening closing text low high := by
  have inside : high < text.length := (List.getElem?_eq_some_iff.mp closes).1
  rw [Option.map_eq_some_iff]
  constructor
  · rintro ⟨position, found, rfl⟩
    obtain ⟨opens, between⟩ := (firstUnmatched_zero_iff apart.symm).mp found
    have within := (List.getElem?_eq_some_iff.mp opens).1
    rw [List.length_reverse, List.length_take] at within
    rw [getElem?_reverse_take (by omega) (by omega)] at opens
    rw [take_reverse_take (by omega), balanced_reverse] at between
    refine ⟨by omega, opens, closes, ?_⟩
    rwa [show high - 1 - position + 1 = high - position by omega]
  · rintro ⟨ordered, opens, _, between⟩
    obtain ⟨position, rfl⟩ := Nat.exists_eq_add_of_lt ordered
    refine ⟨position, (firstUnmatched_zero_iff apart.symm).mpr ⟨?_, ?_⟩, by omega⟩
    · rw [getElem?_reverse_take (by omega) (by omega)]
      rwa [show low + position + 1 - 1 - position = low by omega]
    · rw [take_reverse_take (by omega), balanced_reverse]
      rwa [show low + position + 1 - position = low + 1 by omega]

end Pairs

/-! ### The four kinds -/

section Kinds

variable (kind : (opening, closing) ∈ bracketPairs)
include kind

theorem ne_of_bracketPairs : opening ≠ closing := by
  simp only [bracketPairs, List.mem_cons, Prod.mk.injEq, List.not_mem_nil, or_false] at kind
  rcases kind with ⟨rfl, rfl⟩ | ⟨rfl, rfl⟩ | ⟨rfl, rfl⟩ | ⟨rfl, rfl⟩ <;> decide

theorem bracketPartner_of_opening (opens : text[place]? = some opening) :
    bracketPartner text place =
      (firstUnmatched opening closing 0 (text.drop (place + 1))).map (place + 1 + ·) := by
  have found : bracketPairs.find? (·.1 == opening) = some (opening, closing) := by
    simp only [bracketPairs, List.mem_cons, Prod.mk.injEq, List.not_mem_nil, or_false] at kind
    rcases kind with ⟨rfl, rfl⟩ | ⟨rfl, rfl⟩ | ⟨rfl, rfl⟩ | ⟨rfl, rfl⟩ <;> rfl
  simp only [bracketPartner, opens, found]

theorem bracketPartner_of_closing (closes : text[place]? = some closing) :
    bracketPartner text place =
      (firstUnmatched closing opening 0 (text.take place).reverse).map (place - 1 - ·) := by
  have found : bracketPairs.find? (·.1 == closing) = none ∧
      bracketPairs.find? (·.2 == closing) = some (opening, closing) := by
    simp only [bracketPairs, List.mem_cons, Prod.mk.injEq, List.not_mem_nil, or_false] at kind
    rcases kind with ⟨rfl, rfl⟩ | ⟨rfl, rfl⟩ | ⟨rfl, rfl⟩ | ⟨rfl, rfl⟩ <;> exact ⟨rfl, rfl⟩
  simp only [bracketPartner, closes, found]

end Kinds

theorem isBracket_iff :
    isBracket c = true ↔ ∃ opening closing, (opening, closing) ∈ bracketPairs ∧
      (c = opening ∨ c = closing) := by
  simp [isBracket]

theorem bracketPartner_eq_none (other : text.holds isBracket place = false) :
    bracketPartner text place = none := by
  cases held : text[place]? with
  | none => simp only [bracketPartner, held]
  | some c =>
      rw [holds_of_getElem? held] at other
      simp only [isBracket, List.any_eq_false, Bool.not_eq_true, Bool.or_eq_false_iff] at other
      have notOpening : bracketPairs.find? (·.1 == c) = none := by
        refine List.find?_eq_none.mpr fun pair member same => ?_
        have different := (other pair member).1
        rw [beq_iff_eq.mp same, beq_self_eq_true] at different
        cases different
      have notClosing : bracketPairs.find? (·.2 == c) = none := by
        refine List.find?_eq_none.mpr fun pair member same => ?_
        have different := (other pair member).2
        rw [beq_iff_eq.mp same, beq_self_eq_true] at different
        cases different
      simp only [bracketPartner, held, notOpening, notClosing]

/-- The two places hold the brackets of one pair, of any kind and in either order. -/
def Partners (text : Text) (place other : Nat) : Prop :=
  ∃ opening closing, (opening, closing) ∈ bracketPairs ∧
    (Paired opening closing text place other ∨ Paired opening closing text other place)

theorem Partners.symm (partners : Partners text place other) : Partners text other place := by
  obtain ⟨opening, closing, kind, paired⟩ := partners
  exact ⟨opening, closing, kind, paired.symm⟩

theorem Partners.holds (partners : Partners text place other) :
    text.holds isBracket place = true := by
  obtain ⟨opening, closing, kind, paired | paired⟩ := partners
  · rw [holds_of_getElem? paired.opens]
    exact isBracket_iff.mpr ⟨opening, closing, kind, .inl rfl⟩
  · rw [holds_of_getElem? paired.closes]
    exact isBracket_iff.mpr ⟨opening, closing, kind, .inr rfl⟩

theorem bracketPartner_of_partners (partners : Partners text place other) :
    bracketPartner text place = some other := by
  obtain ⟨opening, closing, kind, paired | paired⟩ := partners
  · rw [bracketPartner_of_opening kind paired.opens]
    exact (firstUnmatched_forward_iff (ne_of_bracketPairs kind) paired.opens).mpr paired
  · rw [bracketPartner_of_closing kind paired.closes]
    exact (firstUnmatched_backward_iff (ne_of_bracketPairs kind) paired.closes).mpr paired

theorem partners_of_bracketPartner (found : bracketPartner text place = some other) :
    Partners text place other := by
  cases bracket : text.holds isBracket place with
  | false =>
      rw [bracketPartner_eq_none bracket] at found
      cases found
  | true =>
      obtain ⟨c, held, isBracket⟩ := exists_of_holds bracket
      obtain ⟨opening, closing, kind, rfl | rfl⟩ := isBracket_iff.mp isBracket
      · rw [bracketPartner_of_opening kind held] at found
        exact ⟨c, closing, kind, .inl
          ((firstUnmatched_forward_iff (ne_of_bracketPairs kind) held).mp found)⟩
      · rw [bracketPartner_of_closing kind held] at found
        exact ⟨opening, c, kind, .inr
          ((firstUnmatched_backward_iff (ne_of_bracketPairs kind) held).mp found)⟩

theorem bracketPartner_eq_some_iff :
    bracketPartner text place = some other ↔ Partners text place other :=
  ⟨partners_of_bracketPartner, bracketPartner_of_partners⟩

/-! ### The first bracket of the line -/

/-- The first bracket from the offset on is at `place`, and both are in one line. -/
structure FirstBracket (text : Text) (offset place : Nat) : Prop where
  line : SameLine text offset place
  bracket : text.holds isBracket place = true
  least : ∀ index < place, offset ≤ index → text.holds isBracket index = false

theorem firstBracket_self (bracket : text.holds isBracket place = true) :
    FirstBracket text place place where
  line := ⟨Nat.le_refl _, Nat.le_of_lt (lt_length_of_holds bracket), by simp [slice]⟩
  bracket := bracket
  least _ before after := absurd before (Nat.not_lt_of_le after)

/-- Where only other characters than breaks are accepted, they are in one line. -/
theorem Accepts.sameLine {accept : Char → Bool} {start stop : Nat}
    (accepts : Accepts accept text start stop) (inside : stop ≤ text.length)
    (unbroken : accept '\n' = false) : SameLine text start stop where
  ordered := accepts.ordered
  bounded := inside
  unbroken c member := by
    rintro rfl
    obtain ⟨index, held⟩ := List.mem_iff_getElem?.mp member
    have within := (List.getElem?_eq_some_iff.mp held).1
    rw [length_slice accepts.ordered inside] at within
    rw [slice, List.getElem?_take_of_lt within, List.getElem?_drop] at held
    have accepted := accepts.each (start + index) (by omega) (Nat.le_add_right _ _)
    rw [holds_of_getElem? held, unbroken] at accepted
    cases accepted

/-- Of the characters up to the first bracket of the line, each is read over. -/
theorem FirstBracket.offset_skipWhile (first : FirstBracket text offset place) :
    ((Reader.forward text offset).skipWhile fun c => c != '\n' && !isBracket c).offset = place := by
  have inside := Nat.le_trans first.line.ordered first.line.bounded
  obtain ⟨passed, stopped⟩ := accepts_skipWhile_forward (Reader.reads_forward text offset) rfl
    fun c => c != '\n' && !isBracket c
  rw [Reader.offset_forward, Nat.min_eq_left inside] at passed
  generalize (Reader.skipWhile _ _).offset = reached at passed stopped ⊢
  rcases Nat.lt_trichotomy reached place with before | same | beyond
  · -- Another character than a bracket, and in the line, is not where reading stops.
    have known := List.getElem?_eq_getElem (Nat.lt_of_lt_of_le before first.line.bounded)
    have free := first.least reached before passed.ordered
    have unbroken := first.line.getElem?_ne passed.ordered before
    rw [holds_of_getElem? known] at free stopped
    rw [known] at unbroken
    rw [free] at stopped
    simp only [Bool.not_false, Bool.and_true, bne_eq_false_iff_eq] at stopped
    exact absurd (congrArg some stopped) unbroken
  · exact same
  · have bracket := first.bracket
    obtain ⟨c, known, accepted⟩ := exists_of_holds (passed.each place beyond first.line.ordered)
    rw [holds_of_getElem? known] at bracket
    rw [bracket] at accepted
    simp at accepted

theorem FirstBracket.matchingBracket_eq (first : FirstBracket text offset place) :
    matchingBracket text offset = bracketPartner text place := by
  rw [matchingBracket, first.offset_skipWhile]

/-- Where the rest of the line holds no bracket, there is no partner either. -/
theorem matchingBracket_eq_none (free : ∀ place, ¬ FirstBracket text offset place) :
    matchingBracket text offset = none := by
  have reads := Reader.reads_forward text offset
  have inside := (reads.skipWhile fun c => c != '\n' && !isBracket c).offset_le
  obtain ⟨passed, _⟩ := accepts_skipWhile_forward reads rfl fun c => c != '\n' && !isBracket c
  apply bracketPartner_eq_none
  rw [Reader.offset_forward] at passed
  generalize (Reader.skipWhile _ _).offset = reached at inside passed ⊢
  rw [← Bool.not_eq_true]
  intro bracket
  have before : offset ≤ text.length := by
    have within := lt_length_of_holds bracket
    have ordered := passed.ordered
    omega
  rw [Nat.min_eq_left before] at passed
  refine free reached ⟨passed.sameLine inside rfl, bracket, fun index within after => ?_⟩
  obtain ⟨c, known, accepted⟩ := exists_of_holds (passed.each index within after)
  rw [holds_of_getElem? known]
  simpa using (Bool.and_eq_true_iff.mp accepted).2

end Text

namespace Standpoint

open Text

variable {point : Standpoint}

/-- Where `%` leads from an offset. -/
def jump (point : Standpoint) (memory : Option CharSearch) (lineKey : Option Char) (offset : Nat) :
    Except ParseError Cursor :=
  ({ point with cursor := point.moveTo offset } : Standpoint).follow memory lineKey (.ofKeys ['%'])

theorem jump_of_some {memory : Option CharSearch} {lineKey : Option Char} {offset other : Nat}
    (found : matchingBracket point.text offset = some other) :
    point.jump memory lineKey offset = .ok (point.moveTo other) := by
  rw [jump, follow_of_parse rfl]
  simp only [resolve, moveTo, found]

theorem jump_of_none {memory : Option CharSearch} {lineKey : Option Char} {offset : Nat}
    (none : matchingBracket point.text offset = none) :
    point.jump memory lineKey offset = .error (.invalidMotion .noMatchingBracket) := by
  rw [jump, follow_of_parse rfl]
  simp only [resolve, moveTo, none]

theorem jump_of_partners {memory : Option CharSearch} {lineKey : Option Char} {place other : Nat}
    (partners : Partners point.text place other) :
    point.jump memory lineKey place = .ok (point.moveTo other) := by
  apply jump_of_some
  rw [(firstBracket_self partners.holds).matchingBracket_eq]
  exact bracketPartner_of_partners partners

/-- `%` leads from a bracket to its partner and from there back, and fails exactly if it has none.  From
any other place it leads where it does from the first bracket after that in the line, and fails without
one. -/
theorem jump_partner (point : Standpoint) (memory : Option CharSearch) (lineKey : Option Char) :
    (∀ place, point.text.holds isBracket place = true →
      (∀ found, point.jump memory lineKey place = .ok found →
        ∃ other, found = point.moveTo other ∧ Partners point.text place other ∧
          point.jump memory lineKey other = .ok (point.moveTo place)) ∧
      ∀ error, point.jump memory lineKey place = .error error →
        error = .invalidMotion .noMatchingBracket ∧ ∀ other, ¬ Partners point.text place other) ∧
    ∀ offset, point.text.holds isBracket offset = false →
      (∀ place, FirstBracket point.text offset place →
        point.jump memory lineKey offset = point.jump memory lineKey place) ∧
      ((∀ place, ¬ FirstBracket point.text offset place) →
        point.jump memory lineKey offset = .error (.invalidMotion .noMatchingBracket)) := by
  refine ⟨fun place bracket => ?_, fun offset _ => ⟨fun place first => ?_, fun free => ?_⟩⟩
  · have same := (firstBracket_self bracket).matchingBracket_eq
    cases partner : bracketPartner point.text place with
    | some other =>
        have partners := bracketPartner_eq_some_iff.mp partner
        rw [jump_of_partners partners]
        refine ⟨fun found leads => ?_, fun error failed => (by cases failed)⟩
        cases leads
        exact ⟨other, rfl, partners, jump_of_partners partners.symm⟩
    | none =>
        rw [jump_of_none (same.trans partner)]
        refine ⟨fun found leads => (by cases leads), fun error failed => ?_⟩
        cases failed
        refine ⟨rfl, fun other partners => ?_⟩
        rw [bracketPartner_of_partners partners] at partner
        cases partner
  · have same : matchingBracket point.text offset = matchingBracket point.text place :=
      first.matchingBracket_eq.trans (firstBracket_self first.bracket).matchingBracket_eq.symm
    cases found : matchingBracket point.text place with
    | some other => rw [jump_of_some found, jump_of_some (same.trans found)]
    | none => rw [jump_of_none found, jump_of_none (same.trans found)]
  · exact jump_of_none (matchingBracket_eq_none free)

/-- Parentheses around brackets that cross them. -/
theorem jump_partner_over_others :
    let point := ofCaret Unicode.isPunctuation "f(a[(1]), b)".toList 0
    point.text.holds isBracket 1 = true ∧ point.jump none none 1 = .ok ⟨11, 0⟩ ∧
      Partners point.text 1 11 ∧ point.jump none none 11 = .ok ⟨1, 0⟩ ∧
      point.text.holds isBracket 0 = false ∧ FirstBracket point.text 0 1 ∧
      point.jump none none 0 = .ok ⟨11, 0⟩ := by
  intro point
  have bracket : point.text.holds isBracket 1 = true := by decide
  have other : point.text.holds isBracket 0 = false := by decide
  have leads : point.jump none none 1 = .ok ⟨11, 0⟩ := rfl
  have between : point.text.slice 0 1 = ['f'] := rfl
  have first : FirstBracket point.text 0 1 :=
    ⟨⟨by decide, by decide, by simp [between]⟩, bracket, by decide⟩
  obtain ⟨onBracket, elsewhere⟩ := jump_partner point none none
  obtain ⟨place, same, partners, back⟩ := (onBracket 1 bracket).1 _ leads
  obtain rfl : 11 = place := congrArg Cursor.caret same
  exact ⟨bracket, leads, partners, back, other, first,
    ((elsewhere 0 other).1 1 first).trans leads⟩

end Standpoint

end ModalVi
