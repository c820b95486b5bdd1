import ModalVi.KeyBuffer

namespace ModalVi

/-! Counts as they are typed.

A count is typed as its decimal digits, of which the first is not zero.  The first digits of a count
are a count as well, so it can grow with every key and is read anew each time. -/

variable {digits front : List Char} {count : Nat}

/-- The digits are those of a count that is not too large. -/
structure Numeral (digits : List Char) : Prop where
  given : digits ≠ []
  decimal : ∀ c ∈ digits, c.isDigit = true
  leading : ∀ later, digits ≠ '0' :: later
  possible : decimalValue digits < countLimit

theorem decimalValue_eq (digits : List Char) :
    decimalValue digits = Nat.ofDigitChars 10 digits 0 := rfl

/-- More digits make a number no smaller. -/
theorem decimalValue_le_append (front later : List Char) :
    decimalValue front ≤ decimalValue (front ++ later) := by
  have grows (value : Nat) (digits : List Char) :
      value ≤ digits.foldl (fun value digit => 10 * value + (digit.toNat - '0'.toNat)) value := by
    induction digits generalizing value with
    | nil => exact Nat.le_refl _
    | cons digit rest ih =>
        have next := ih (10 * value + (digit.toNat - '0'.toNat))
        rw [List.foldl_cons]
        omega
  rw [decimalValue, decimalValue, List.foldl_append]
  exact grows _ later

/-- The digits end where something else follows. -/
theorem takeWhile_of_ended {rest : List Char}
    (ended : ∀ c, rest.head? = some c → c.isDigit = false) :
    rest.takeWhile Char.isDigit = [] := by
  cases rest with
  | nil => rfl
  | cons c later => simp [ended c rfl]

/-- A number at the front is read as far as digits go. -/
theorem KeyBuffer.digits_append {rest : List Char} {counted : Bool} (given : digits ≠ [])
    (decimal : ∀ c ∈ digits, c.isDigit = true) (leading : ∀ later, digits ≠ '0' :: later) :
    (KeyBuffer.mk (digits ++ rest) count counted).digits =
      digits ++ rest.takeWhile Char.isDigit := by
  simp only [KeyBuffer.digits]
  split
  · rename_i later zero
    rcases List.append_eq_cons_iff.mp zero with ⟨rfl, _⟩ | ⟨later, rfl, _⟩
    · exact absurd rfl given
    · exact absurd rfl (leading later)
  · exact List.takeWhile_append_of_pos decimal

/-- Where no digit is ahead, there is no count to read. -/
theorem KeyBuffer.readNumber_of_ended {join : Nat → Nat → Option Nat} {buffer : KeyBuffer}
    (ended : ∀ c, buffer.rest.head? = some c → c.isDigit = false) :
    buffer.readNumber join = .ok buffer := by
  have none : buffer.digits = [] := by
    simp only [KeyBuffer.digits]
    split
    · rfl
    · exact takeWhile_of_ended ended
  simp only [readNumber, none, List.isEmpty_nil, if_true]

namespace Numeral

theorem of_prefix (numeral : Numeral digits) (isPrefix : front <+: digits) (given : front ≠ []) :
    Numeral front := by
  obtain ⟨later, rfl⟩ := isPrefix
  refine ⟨given, fun c member => ?_, ?_, ?_⟩
  · exact numeral.decimal c (List.mem_append_left later member)
  · rintro rest rfl
    exact numeral.leading (rest ++ later) rfl
  · exact Nat.lt_of_le_of_lt (decimalValue_le_append front later) numeral.possible

theorem takeWhile_append (numeral : Numeral digits) {rest : List Char}
    (ended : ∀ c, rest.head? = some c → c.isDigit = false) :
    (digits ++ rest).takeWhile Char.isDigit = digits := by
  rw [List.takeWhile_append_of_pos numeral.decimal, takeWhile_of_ended ended, List.append_nil]

/-- A number at the front is joined to the count so far, if both are possible. -/
theorem readNumber (numeral : Numeral digits) {join : Nat → Nat → Option Nat} {joined : Nat}
    {counted : Bool} {rest : List Char} (ended : ∀ c, rest.head? = some c → c.isDigit = false)
    (joins : join count (decimalValue digits) = some joined) :
    KeyBuffer.readNumber join ⟨digits ++ rest, count, counted⟩ = .ok ⟨rest, joined, true⟩ := by
  have read : (KeyBuffer.mk (digits ++ rest) count counted).digits = digits := by
    rw [KeyBuffer.digits_append numeral.given numeral.decimal numeral.leading,
      takeWhile_of_ended ended, List.append_nil]
  have given : digits.isEmpty = false := List.isEmpty_eq_false_iff.mpr numeral.given
  simp only [KeyBuffer.readNumber, KeyBuffer.dropDigits, read, given, countValue?,
    if_pos numeral.possible, Option.bind_some, joins, List.drop_left, Bool.false_eq_true, if_false]

/-- The digits before a command are read as its count. -/
theorem readCount (numeral : Numeral digits) {rest : List Char}
    (ended : ∀ c, rest.head? = some c → c.isDigit = false) :
    (KeyBuffer.ofKeys (digits ++ rest)).readCount = .ok ⟨rest, decimalValue digits, true⟩ :=
  numeral.readNumber ended rfl

/-- The digits before a motion multiply the count. -/
theorem readMotionCount (numeral : Numeral digits) {counted : Bool} {rest : List Char}
    (ended : ∀ c, rest.head? = some c → c.isDigit = false)
    (possible : count * decimalValue digits < countLimit) :
    KeyBuffer.readMotionCount ⟨digits ++ rest, count, counted⟩ =
      .ok ⟨rest, count * decimalValue digits, true⟩ :=
  numeral.readNumber ended (if_pos possible)

theorem decimalValue_pos (numeral : Numeral digits) : 0 < decimalValue digits := by
  obtain ⟨given, decimal, leading, _⟩ := numeral
  cases digits with
  | nil => exact absurd rfl given
  | cons digit later =>
      have first : decimalValue [digit] = digit.toNat - '0'.toNat := Nat.zero_add _
      have least := decimalValue_le_append [digit] later
      have range := decimal digit List.mem_cons_self
      have other : digit.toNat ≠ '0'.toNat :=
        fun same => leading later (congrArg (· :: later) (Char.toNat_inj.mp same))
      simp only [Char.isDigit, Bool.and_eq_true, decide_eq_true_eq, ge_iff_le,
        UInt32.le_iff_toNat_le] at range
      have low : '0'.toNat ≤ digit.toNat := range.1
      rw [first, List.singleton_append] at least
      omega

theorem readCount_alone (numeral : Numeral digits) :
    (KeyBuffer.ofKeys digits).readCount = .ok ⟨[], decimalValue digits, true⟩ := by
  have nothing : ∀ c, ([] : List Char).head? = some c → c.isDigit = false := by simp
  have read := numeral.readCount nothing
  rwa [List.append_nil] at read

end Numeral

/-- The digits at the front of a buffer are those of a count, if it is a possible one. -/
theorem KeyBuffer.numeral_digits {buffer : KeyBuffer} (given : buffer.digits ≠ [])
    (possible : decimalValue buffer.digits < countLimit) : Numeral buffer.digits := by
  refine ⟨given, fun c member => ?_, fun later zero => ?_, possible⟩
  · simp only [digits] at member
    split at member
    · cases member
    · exact List.all_eq_true.mp List.all_takeWhile c member
  · simp only [digits] at zero
    split at zero
    · cases zero
    · rename_i other
      have first : buffer.rest.head? = some '0' := by
        cases keys : buffer.rest with
        | nil =>
            rw [keys] at zero
            cases zero
        | cons key rest =>
            rw [keys, List.takeWhile_cons] at zero
            split at zero
            · exact congrArg some (List.cons.inj zero).1
            · cases zero
      obtain ⟨rest, keys⟩ := List.head?_eq_some_iff.mp first
      exact other rest keys

/-- Either there is no count, and nothing was read, or its digits were. -/
theorem KeyBuffer.readCount_cases {keys : List Char} {buffer : KeyBuffer}
    (read : (ofKeys keys).readCount = .ok buffer) :
    ((ofKeys keys).digits = [] ∧ buffer = ofKeys keys) ∨
      (Numeral (ofKeys keys).digits ∧
        buffer = ⟨keys.drop (ofKeys keys).digits.length, decimalValue (ofKeys keys).digits, true⟩) := by
  simp only [readCount, readNumber] at read
  split at read
  · rename_i none
    cases read
    exact .inl ⟨List.isEmpty_iff.mp none, rfl⟩
  · rename_i given
    split at read
    · rename_i count valued
      cases read
      obtain ⟨typed, counted, same⟩ := Option.bind_eq_some_iff.mp valued
      simp only [countValue?, Option.ite_none_right_eq_some, Option.some.injEq] at counted
      obtain ⟨possible, rfl⟩ := counted
      cases same
      exact .inr ⟨numeral_digits (by simpa using given) possible, rfl⟩
    · cases read

/-- What is read as a count is never zero. -/
theorem KeyBuffer.pos_of_readCount {keys : List Char} {buffer : KeyBuffer}
    (read : (ofKeys keys).readCount = .ok buffer) : 0 < buffer.count := by
  rcases readCount_cases read with ⟨_, rfl⟩ | ⟨numeral, rfl⟩
  · exact Nat.one_pos
  · exact numeral.decimalValue_pos

/-- The digits of a count are all that can be wrong with it. -/
theorem KeyBuffer.eq_invalidNumber {join : Nat → Nat → Option Nat} {buffer : KeyBuffer}
    {error : ParseError} (failed : buffer.readNumber join = .error error) :
    error = .invalidNumber := by
  simp only [readNumber] at failed
  split at failed
  · cases failed
  · split at failed
    · cases failed
    · cases failed
      rfl

/-- What is left once the count was read. -/
theorem KeyBuffer.rest_of_readCount {keys : List Char} {buffer : KeyBuffer}
    (read : (ofKeys keys).readCount = .ok buffer) :
    buffer.rest = keys.drop (ofKeys keys).digits.length := by
  rcases readCount_cases read with ⟨none, rfl⟩ | ⟨_, rfl⟩
  · rw [none]
    rfl
  · rfl

theorem KeyBuffer.digits_isPrefix (keys : List Char) : (ofKeys keys).digits <+: keys := by
  simp only [digits, ofKeys]
  split
  · exact List.nil_prefix
  · exact List.takeWhile_prefix _

/-- Nothing is left exactly if the keys are digits of a count. -/
theorem KeyBuffer.numeral_of_readCount {keys : List Char} {buffer : KeyBuffer} (given : keys ≠ [])
    (read : (ofKeys keys).readCount = .ok buffer) (nothing : buffer.rest = []) : Numeral keys := by
  rcases readCount_cases read with ⟨_, rfl⟩ | ⟨numeral, rfl⟩
  · exact absurd nothing given
  · have whole : (ofKeys keys).digits = keys :=
      (digits_isPrefix keys).eq_of_length_le (List.drop_eq_nil_iff.mp nothing)
    rwa [whole] at numeral

theorem toDigits_ne_zero_cons (positive : 0 < count) (later : List Char) :
    Nat.toDigits 10 count ≠ '0' :: later := by
  induction count using Nat.strongRecOn generalizing later with
  | _ count ih =>
      intro zero
      rw [Nat.toDigits_eq_if (by decide)] at zero
      split at zero
      · have digit : count.digitChar = '0' := (List.cons.inj zero).1
        rw [Nat.digitChar_eq_zero] at digit
        omega
      · rcases List.append_eq_cons_iff.mp zero with ⟨none, _⟩ | ⟨rest, zero, _⟩
        · exact Nat.toDigits_ne_nil none
        · exact ih (count / 10) (by omega) (by omega) rest zero

theorem isDigit_of_mem_toDigits : ∀ c ∈ Nat.toDigits 10 count, c.isDigit = true :=
  fun _ member => Nat.isDigit_of_mem_toDigits (by decide) (by decide) member

theorem numeral_toDigits (positive : 0 < count) (possible : count < countLimit) :
    Numeral (Nat.toDigits 10 count) where
  given := Nat.toDigits_ne_nil
  decimal := isDigit_of_mem_toDigits
  leading := toDigits_ne_zero_cons positive
  possible := by
    rw [decimalValue_eq, Nat.ofDigitChars_ten_toDigits]
    exact possible

theorem decimalValue_toDigits (count : Nat) : decimalValue (Nat.toDigits 10 count) = count :=
  Nat.ofDigitChars_ten_toDigits

/-- A number is refused if no possible number that begins with its digits can be joined. -/
theorem KeyBuffer.readNumber_of_too_large {join : Nat → Nat → Option Nat} {number : Nat}
    {counted : Bool} (positive : 0 < number) (rest : List Char)
    (impossible : ∀ typed, number ≤ typed → typed < countLimit → join count typed = none) :
    readNumber join ⟨Nat.toDigits 10 number ++ rest, count, counted⟩ = .error .invalidNumber := by
  have read : (KeyBuffer.mk (Nat.toDigits 10 number ++ rest) count counted).digits =
      Nat.toDigits 10 number ++ rest.takeWhile Char.isDigit :=
    digits_append Nat.toDigits_ne_nil isDigit_of_mem_toDigits (toDigits_ne_zero_cons positive)
  have least : number ≤ decimalValue (Nat.toDigits 10 number ++ rest.takeWhile Char.isDigit) := by
    have front := decimalValue_le_append (Nat.toDigits 10 number) (rest.takeWhile Char.isDigit)
    rwa [decimalValue_toDigits] at front
  have given : (Nat.toDigits 10 number ++ rest.takeWhile Char.isDigit).isEmpty = false :=
    List.isEmpty_eq_false_iff.mpr (List.append_ne_nil_of_left_ne_nil Nat.toDigits_ne_nil _)
  simp only [readNumber, read, given, Bool.false_eq_true, if_false, countValue?]
  split
  · rename_i joined valued
    obtain ⟨typed, possible, joins⟩ := Option.bind_eq_some_iff.mp valued
    rw [Option.ite_none_right_eq_some] at possible
    obtain ⟨possible, same⟩ := possible
    cases same
    rw [impossible _ least possible] at joins
    cases joins
  · rfl

end ModalVi
