import ModalVi.Ex.Command
import ModalVi.Proofs.Count
import ModalVi.Proofs.Text.Words

namespace ModalVi

/-! Lines after a colon, written and read again.

A line is written as its range, the letter `s`, the pattern and the replacement between delimiters, and the
letters for the flags.  A backslash is put before every delimiter of the pattern and the replacement.  Where
the line is split, backslashes are read in pairs with what follows them; where they are taken away again,
only those right before a delimiter are seen.  The two agree on every text that was written this way. -/

open Text (IsWord)

variable {delimiter c : Char} {text rest digits letters address : Text}

/-- The ways to write a range. -/
inductive LineRange.Written : LineRange → Text → Prop
  | current : Written .current []
  | all : Written .all ['%']
  | visual : Written .visual ['\'', '<', ',', '\'', '>']
  | line {number : Nat} (positive : 1 ≤ number) (possible : number < countLimit) :
      Written (.lines (number - 1) (number - 1)) (Nat.toDigits 10 number)
  | lines {first last : Nat} (positiveFirst : 1 ≤ first) (possibleFirst : first < countLimit)
      (positiveLast : 1 ≤ last) (possibleLast : last < countLimit) :
      Written (.lines (first - 1) (last - 1)) (Nat.toDigits 10 first ++ ',' :: Nat.toDigits 10 last)

/-- The letters ask for the flags, in any order and as often as they like. -/
structure SubstitutionFlags.Written (flags : SubstitutionFlags) (letters : Text) : Prop where
  known : ∀ letter ∈ letters, letter = 'g' ∨ letter = 'i' ∨ letter = 'n'
  everyMatch : flags.everyMatch = true ↔ 'g' ∈ letters
  ignoreCase : flags.ignoreCase = true ↔ 'i' ∈ letters
  countOnly : flags.countOnly = true ↔ 'n' ∈ letters

/-- In every pair of a backslash and a character, from the left, that character is no delimiter, and none
is missing at the end. -/
inductive Paired (delimiter : Char) : Text → Prop
  | nil : Paired delimiter []
  | pair {c : Char} {rest : Text} (other : c ≠ delimiter) (later : Paired delimiter rest) :
      Paired delimiter ('\\' :: c :: rest)
  | char {c : Char} {rest : Text} (plain : c ≠ '\\') (later : Paired delimiter rest) :
      Paired delimiter (c :: rest)

namespace ExCommand

/-- The text with a backslash before every delimiter. -/
def escape (delimiter : Char) (text : Text) : Text :=
  text.flatMap fun c => if c = delimiter then ['\\', c] else [c]

theorem escape_cons_delimiter (delimiter : Char) (rest : Text) :
    escape delimiter (delimiter :: rest) = '\\' :: delimiter :: escape delimiter rest := by
  simp [escape]

theorem escape_cons (other : c ≠ delimiter) (rest : Text) :
    escape delimiter (c :: rest) = c :: escape delimiter rest := by
  simp [escape, other]

theorem escape_ne_nil (given : text ≠ []) : escape delimiter text ≠ [] := by
  obtain ⟨c, rest, rfl⟩ := List.exists_cons_of_ne_nil given
  by_cases same : c = delimiter
  · rw [same, escape_cons_delimiter]
    exact List.cons_ne_nil _ _
  · rw [escape_cons same]
    exact List.cons_ne_nil _ _

/-! ### Backslashes -/

theorem splitAtDelimiter_pair (c : Char) (rest : Text) :
    splitAtDelimiter delimiter false ('\\' :: c :: rest) =
      (splitAtDelimiter delimiter false rest).map fun (before, after) =>
        ('\\' :: c :: before, after) := by
  simp [splitAtDelimiter, Function.comp_def]

theorem splitAtDelimiter_cons (plain : c ≠ '\\') (other : c ≠ delimiter) (rest : Text) :
    splitAtDelimiter delimiter false (c :: rest) =
      (splitAtDelimiter delimiter false rest).map fun (before, after) => (c :: before, after) := by
  simp [splitAtDelimiter, plain, other]

/-- An escaped text ends at the first delimiter after it. -/
theorem splitAtDelimiter_escape (parting : delimiter ≠ '\\') (paired : Paired delimiter text)
    (rest : Text) :
    splitAtDelimiter delimiter false (escape delimiter text ++ delimiter :: rest) =
      some (escape delimiter text, rest) := by
  -- The cases are the steps of the scan, since a delimiter with its backslash is one more pair.
  induction paired with
  | nil => simp [escape, splitAtDelimiter, parting]
  | pair other later ih =>
      rw [escape_cons parting.symm, escape_cons other, List.cons_append, List.cons_append,
        splitAtDelimiter_pair, ih]
      rfl
  | @char c later plain _ ih =>
      by_cases same : c = delimiter
      · rw [same, escape_cons_delimiter, List.cons_append, List.cons_append, splitAtDelimiter_pair, ih]
        rfl
      · rw [escape_cons same, List.cons_append, splitAtDelimiter_cons plain same, ih]
        rfl

theorem unescape_pair (delimiter : Char) (rest : Text) :
    unescape delimiter ('\\' :: delimiter :: rest) = delimiter :: unescape delimiter rest := by
  simp [unescape]

theorem unescape_cons (apart : rest.head? ≠ some delimiter) :
    unescape delimiter (c :: rest) = c :: unescape delimiter rest := by
  cases rest with
  | nil => rfl
  | cons next rest =>
      have other : next ≠ delimiter := by simpa using apart
      simp [unescape, other]

theorem head?_escape_ne (parting : delimiter ≠ '\\') (text : Text) :
    (escape delimiter text).head? ≠ some delimiter := by
  cases text with
  | nil => simp [escape]
  | cons c rest =>
      by_cases same : c = delimiter
      · rw [same, escape_cons_delimiter]
        simpa using parting.symm
      · rw [escape_cons same]
        simpa using same

/-- The backslashes that were put before delimiters are the ones that are taken away. -/
theorem unescape_escape (parting : delimiter ≠ '\\') (text : Text) :
    unescape delimiter (escape delimiter text) = text := by
  induction text with
  | nil => rfl
  | cons c rest ih =>
      by_cases same : c = delimiter
      · rw [same, escape_cons_delimiter, unescape_pair, ih]
      · rw [escape_cons same, unescape_cons (head?_escape_ne parting rest), ih]

/-! ### Ranges -/

theorem isWhitespace_of_isDigit (digit : c.isDigit = true) : Unicode.isWhitespace c = false := by
  have bounds : 48 ≤ c.toNat ∧ c.toNat ≤ 57 := by
    simpa [Char.isDigit, UInt32.le_iff_toNat_le] using digit
  simp only [Unicode.isWhitespace, Bool.or_eq_false_iff, Bool.and_eq_false_iff, decide_eq_false_iff_not,
    beq_eq_false_iff_ne]
  omega

theorem readNumber_append (numeral : Numeral digits)
    (ended : ∀ c, rest.head? = some c → c.isDigit = false) :
    readNumber (digits ++ rest) = some (decimalValue digits, rest) := by
  simp only [readNumber, numeral.takeWhile_append ended, countValue?, if_pos numeral.possible]
  simp [numeral.given]

/-- A range that begins with a digit is a number, or two. -/
theorem readRange_append (numeral : Numeral digits) (rest : Text) :
    readRange (digits ++ rest) =
      match readNumber (digits ++ rest) with
      | none => (.current, digits ++ rest)
      | some (first, rest) =>
          match rest with
          | ',' :: beyond =>
              match readNumber beyond with
              | some (last, rest) => (.lines (first - 1) (last - 1), rest)
              | none => (.lines (first - 1) (first - 1), rest)
          | _ => (.lines (first - 1) (first - 1), rest) := by
  obtain ⟨c, later, rfl⟩ := List.exists_cons_of_ne_nil numeral.given
  have digit := numeral.decimal c List.mem_cons_self
  rw [List.cons_append, readRange.eq_def]
  split
  · rename_i percent
    obtain ⟨rfl, _⟩ := List.cons.inj percent
    exact absurd digit (by decide)
  · rename_i mark
    obtain ⟨rfl, _⟩ := List.cons.inj mark
    exact absurd digit (by decide)
  · rfl

theorem readRange_number (numeral : Numeral digits)
    (ended : ∀ c, rest.head? = some c → c.isDigit = false) (alone : rest.head? ≠ some ',') :
    readRange (digits ++ rest) =
      (.lines (decimalValue digits - 1) (decimalValue digits - 1), rest) := by
  rw [readRange_append numeral, readNumber_append numeral ended]
  simp only
  split
  · exact absurd rfl alone
  · rfl

theorem readRange_numbers {further : Text} (numeral : Numeral digits) (also : Numeral further)
    (ended : ∀ c, rest.head? = some c → c.isDigit = false) :
    readRange (digits ++ ',' :: (further ++ rest)) =
      (.lines (decimalValue digits - 1) (decimalValue further - 1), rest) := by
  have comma : ∀ c, (',' :: (further ++ rest)).head? = some c → c.isDigit = false := by
    rintro _ ⟨⟩
    rfl
  rw [readRange_append numeral, readNumber_append numeral comma]
  simp only [readNumber_append also ended]

/-- A written range is read up to the letter after it. -/
theorem readRange_written {range : LineRange} (written : range.Written address) (body : Text) :
    readRange (address ++ 's' :: body) = (range, 's' :: body) := by
  have letter : ∀ c, ('s' :: body).head? = some c → c.isDigit = false := by
    rintro _ ⟨⟩
    rfl
  cases written with
  | current => rfl
  | all => rfl
  | visual => rfl
  | @line number positive possible =>
      have read := readRange_number (numeral_toDigits positive possible) letter (by simp)
      rwa [decimalValue_toDigits] at read
  | @lines first last positive possible positiveLast possibleLast =>
      have read := readRange_numbers (numeral_toDigits positive possible)
        (numeral_toDigits positiveLast possibleLast) letter
      rw [decimalValue_toDigits, decimalValue_toDigits] at read
      rwa [List.append_assoc, List.cons_append]

theorem isWhitespace_of_mem_written {range : LineRange} (written : range.Written address) :
    ∀ c ∈ address, Unicode.isWhitespace c = false := by
  have digits {number : Nat} (positive : 1 ≤ number) (possible : number < countLimit) :
      ∀ c ∈ Nat.toDigits 10 number, Unicode.isWhitespace c = false := fun c member =>
    isWhitespace_of_isDigit ((numeral_toDigits positive possible).decimal c member)
  cases written with
  | current => simp
  | all => exact List.forall_mem_singleton.mpr (by decide)
  | visual =>
      intro c member
      simp only [List.mem_cons, List.not_mem_nil, or_false] at member
      rcases member with rfl | rfl | rfl | rfl | rfl <;> decide
  | line positive possible => exact digits positive possible
  | lines positive possible positiveLast possibleLast =>
      intro c member
      rcases List.mem_append.mp member with first | rest
      · exact digits positive possible c first
      · rcases List.mem_cons.mp rest with rfl | last
        · decide
        · exact digits positiveLast possibleLast c last

/-! ### Flags -/

/-- What one more letter asks for. -/
def readFlag (flags : SubstitutionFlags) (letter : Char) : Except ParseError SubstitutionFlags :=
  match letter with
  | 'g' => .ok { flags with everyMatch := true }
  | 'i' => .ok { flags with ignoreCase := true }
  | 'n' => .ok { flags with countOnly := true }
  | _ => .error (.invalidCommand .unknownFlag)

theorem readFlags_eq (line : Text) :
    readFlags line = (Text.trim line).foldlM readFlag ⟨false, false, false⟩ := rfl

theorem foldlM_readFlag (known : ∀ letter ∈ letters, letter = 'g' ∨ letter = 'i' ∨ letter = 'n')
    (flags : SubstitutionFlags) :
    letters.foldlM readFlag flags = .ok ⟨flags.everyMatch || decide ('g' ∈ letters),
      flags.ignoreCase || decide ('i' ∈ letters), flags.countOnly || decide ('n' ∈ letters)⟩ := by
  induction letters generalizing flags with
  | nil => simp [pure, Except.pure]
  | cons letter rest ih =>
      have later := ih fun next member => known next (List.mem_cons_of_mem _ member)
      rw [List.foldlM_cons]
      rcases known letter List.mem_cons_self with rfl | rfl | rfl
      · exact (later _).trans (by simp)
      · exact (later _).trans (by simp)
      · exact (later _).trans (by simp)

theorem isWhitespace_of_mem_letters {flags : SubstitutionFlags} (written : flags.Written letters) :
    ∀ c ∈ letters, Unicode.isWhitespace c = false := by
  intro c member
  rcases written.known c member with rfl | rfl | rfl <;> decide

theorem readFlags_written {flags : SubstitutionFlags} (written : flags.Written letters) :
    readFlags letters = .ok flags := by
  have trimmed : Text.trim letters = letters := by
    cases letters with
    | nil => rfl
    | cons letter rest =>
        exact (IsWord.trimmed ⟨List.cons_ne_nil _ _, isWhitespace_of_mem_letters written⟩).trim
  obtain ⟨known, everyMatch, ignoreCase, countOnly⟩ := written
  rw [readFlags_eq, trimmed, foldlM_readFlag known]
  simp only [Bool.false_or, ← everyMatch, ← ignoreCase, ← countOnly, Bool.decide_eq_true]

/-! ### Whole lines -/

/-- A substitution as it is written between delimiters, with letters behind it. -/
def written (delimiter : Char) (letters : Text) (substitution : Substitution) : Text :=
  delimiter :: (escape delimiter substitution.pattern ++
    delimiter :: (escape delimiter substitution.replacement ++ delimiter :: letters))

theorem readBody_written {substitution : Substitution} (parting : delimiter ≠ '\\')
    (delimits : isDelimiter delimiter = true) (given : substitution.pattern ≠ [])
    (pattern : Paired delimiter substitution.pattern)
    (replacement : Paired delimiter substitution.replacement)
    (flags : substitution.flags.Written letters) (range : LineRange) :
    readBody range (written delimiter letters substitution) =
      .ok (.substitute range substitution) := by
  have filled : (escape delimiter substitution.pattern).isEmpty = false := by
    simpa using escape_ne_nil given
  simp only [readBody, written, delimits, splitAtDelimiter_escape parting pattern,
    splitAtDelimiter_escape parting replacement, Option.getD_some, filled, unescape_escape parting,
    readFlags_written flags]
  rfl

/-- A written line is read as the range and the substitution that it was written for, and a lone `s`
behind a range as the previous substitution on that range. -/
theorem parse_of_written {range : LineRange} {address : Text} (ranged : range.Written address) :
    parse (address ++ ['s']) = .ok (.substituteAgain range) ∧
    ∀ (delimiter : Char) (substitution : Substitution) (letters : Text),
      Unicode.isAlphanumeric delimiter = false → Unicode.isWhitespace delimiter = false →
      delimiter ≠ '\\' → substitution.pattern ≠ [] → Paired delimiter substitution.pattern →
      Paired delimiter substitution.replacement → substitution.flags.Written letters →
      parse (address ++ 's' :: written delimiter letters substitution) =
        .ok (.substitute range substitution) := by
  have solid := isWhitespace_of_mem_written ranged
  have front : IsWord (address ++ ['s']) := by
    refine ⟨by simp, fun c member => ?_⟩
    rcases List.mem_append.mp member with inAddress | letter
    · exact solid c inAddress
    · cases List.mem_singleton.mp letter
      decide
  constructor
  · rw [parse, front.trimmed.trim, readRange_written ranged]
    rfl
  · intro delimiter substitution letters letterless shown parting given pattern replacement flags
    have delimits : isDelimiter delimiter = true := by
      simp [isDelimiter, letterless, shown, parting]
    have back : IsWord (delimiter :: letters) :=
      ⟨List.cons_ne_nil _ _, List.forall_mem_cons.mpr ⟨shown, isWhitespace_of_mem_letters flags⟩⟩
    -- Trimming keeps the line: white space can only stand in the pattern and the replacement.
    have trimmed := front.trimmed.append (delimiter :: (escape delimiter substitution.pattern ++
      delimiter :: escape delimiter substitution.replacement)) back.trimmed
    have line : address ++ ['s'] ++ (delimiter :: (escape delimiter substitution.pattern ++
        delimiter :: escape delimiter substitution.replacement)) ++ delimiter :: letters =
        address ++ 's' :: written delimiter letters substitution := by
      simp [written]
    rw [line] at trimmed
    rw [parse, trimmed.trim, readRange_written ranged]
    exact readBody_written parting delimits given pattern replacement flags range

/-- A comma as the delimiter, behind a range with a comma, and a backslash before it in the pattern. -/
theorem parse_of_written_commas :
    let substitution : Substitution := ⟨"\\\\,a".toList, "\\n,&".toList, ⟨true, false, true⟩⟩
    LineRange.Written (.lines 1 41) "2,42".toList ∧ Paired ',' substitution.pattern ∧
      Paired ',' substitution.replacement ∧ substitution.flags.Written "nng".toList ∧
      parse "2,42s".toList = .ok (.substituteAgain (.lines 1 41)) ∧
      parse "2,42s,\\\\\\,a,\\n\\,&,nng".toList = .ok (.substitute (.lines 1 41) substitution) := by
  intro substitution
  have ranged : LineRange.Written (.lines 1 41) "2,42".toList :=
    @LineRange.Written.lines 2 42 (by decide) (by decide) (by decide) (by decide)
  have pattern : Paired ',' substitution.pattern :=
    .pair (by decide) (.char (by decide) (.char (by decide) .nil))
  have replacement : Paired ',' substitution.replacement :=
    .pair (by decide) (.char (by decide) (.char (by decide) .nil))
  have flags : substitution.flags.Written "nng".toList :=
    ⟨by simp, by decide, by decide, by decide⟩
  obtain ⟨again, line⟩ := parse_of_written ranged
  have read := line ',' substitution "nng".toList (by decide +kernel) (by decide) (by decide) (by decide)
    pattern replacement flags
  exact ⟨ranged, pattern, replacement, flags, again, read⟩

end ExCommand

end ModalVi
