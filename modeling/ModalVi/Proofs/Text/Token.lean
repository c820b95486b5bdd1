import ModalVi.Library
import ModalVi.Proofs.Text.Reader
import ModalVi.Unicode.Punctuation

namespace ModalVi

/-! Words as longest runs.

A token is a longest run of characters of one kind.  For words the kinds are word characters and
punctuation; for big words there is one kind, all characters but white space.  As long as no white space
is a mark of punctuation it belongs to no kind, and every other character belongs to exactly one.  So a
token starts where its kind begins and ends where its kind ends, whatever stands on the other side. -/

/-! ### White space and punctuation -/

/-- The code points of white space. -/
def Unicode.spaces : List Nat :=
  [0x9, 0xa, 0xb, 0xc, 0xd, 0x20, 0x85, 0xa0, 0x1680, 0x2000, 0x2001, 0x2002, 0x2003, 0x2004, 0x2005,
    0x2006, 0x2007, 0x2008, 0x2009, 0x200a, 0x2028, 0x2029, 0x202f, 0x205f, 0x3000]

theorem Unicode.mem_spaces {c : Char} (space : isWhitespace c = true) : c.toNat ∈ spaces := by
  simp only [isWhitespace, Bool.or_eq_true, Bool.and_eq_true, decide_eq_true_eq,
    beq_iff_eq] at space
  simp only [spaces, List.mem_cons, List.not_mem_nil, or_false]
  omega

theorem Unicode.marksApart : MarksApart isPunctuation := by
  intro c space
  have all : ∀ point ∈ spaces, isPunctuation (Char.ofNat point) = false := by decide +kernel
  have known := all c.toNat (mem_spaces space)
  rwa [Char.ofNat_toNat] at known

theorem isPunctuation_of_isWhitespace {marks : Char → Bool} {c : Char} (apart : MarksApart marks)
    (space : Unicode.isWhitespace c = true) : isPunctuation marks c = false := by
  rw [isPunctuation, apart c space, Bool.and_false]

namespace Text

variable {text : Text} {marks accept other : Char → Bool} {kinds : List (Char → Bool)}
  {start stop offset index : Nat} {c : Char}

/-! ### Characters by their place -/

/-- Whether there is a character at the offset, and it is accepted. -/
def holds (text : Text) (accept : Char → Bool) (offset : Nat) : Bool := text[offset]?.any accept

theorem holds_of_getElem? (known : text[offset]? = some c) :
    text.holds accept offset = accept c := by
  rw [holds, known]
  rfl

theorem exists_of_holds (held : text.holds accept offset = true) :
    ∃ c, text[offset]? = some c ∧ accept c = true := by
  cases known : text[offset]? with
  | none =>
      rw [holds, known] at held
      cases held
  | some c => exact ⟨c, rfl, (holds_of_getElem? known).symm.trans held⟩

theorem lt_length_of_holds (held : text.holds accept offset = true) : offset < text.length := by
  obtain ⟨c, known, _⟩ := exists_of_holds held
  exact (List.getElem?_eq_some_iff.mp known).1

/-- All characters from `start` up to `stop` are accepted. -/
structure Accepts (accept : Char → Bool) (text : Text) (start stop : Nat) : Prop where
  ordered : start ≤ stop
  each : ∀ index < stop, start ≤ index → text.holds accept index = true

/-! ### Reading over accepted characters -/

section Skipping

variable {reader : Reader}

open Reader

theorem any_of_lt_takeWhile {list : List Char} (before : index < (list.takeWhile accept).length) :
    list[index]?.any accept = true := by
  have prefixed := List.prefix_iff_getElem?.mp (List.takeWhile_prefix accept (l := list)) index before
  rw [prefixed]
  exact List.all_eq_true.mp (List.all_takeWhile (p := accept)) _ (List.getElem_mem before)

theorem any_at_takeWhile (accept : Char → Bool) (list : List Char) :
    list[(list.takeWhile accept).length]?.any accept = false := by
  induction list with
  | nil => rfl
  | cons c rest ih =>
      cases accepted : accept c with
      | true => simpa [accepted] using ih
      | false => simp [accepted]

/-- Reading forward over accepted characters ends before the first other one. -/
theorem accepts_skipWhile_forward (reads : Reads text reader)
    (forward : reader.direction = .forward) (accept : Char → Bool) :
    Accepts accept text reader.offset (reader.skipWhile accept).offset ∧
      text.holds accept (reader.skipWhile accept).offset = false := by
  have ahead := reads.ahead_eq_drop forward
  have held (count : Nat) :
      text.holds accept (reader.offset + count) = reader.ahead[count]?.any accept := by
    rw [holds, ahead, List.getElem?_drop]
  rw [offset_skipWhile_forward forward]
  refine ⟨⟨Nat.le_add_right _ _, fun index before after => ?_⟩, ?_⟩
  · obtain ⟨count, rfl⟩ := Nat.exists_eq_add_of_le after
    rw [held]
    exact any_of_lt_takeWhile (Nat.lt_of_add_lt_add_left before)
  · rw [held]
    exact any_at_takeWhile accept reader.ahead

/-- From among accepted characters, or from after them, reading over such leads past all of them. -/
theorem Accepts.le_skipWhile (accepts : Accepts accept text start stop) (reads : Reads text reader)
    (forward : reader.direction = .forward) (after : start ≤ reader.offset) :
    stop ≤ (reader.skipWhile accept).offset := by
  obtain ⟨passed, ended⟩ := accepts_skipWhile_forward reads forward accept
  apply Nat.le_of_not_lt
  intro before
  have held := accepts.each _ before (Nat.le_trans after passed.ordered)
  rw [ended] at held
  cases held

/-- Reading backward over accepted characters ends after the first other one. -/
theorem accepts_skipWhile_backward (reads : Reads text reader)
    (backward : reader.direction = .backward) (accept : Char → Bool) :
    Accepts accept text (reader.skipWhile accept).offset reader.offset ∧
      ((reader.skipWhile accept).offset ≠ 0 →
        text.holds accept ((reader.skipWhile accept).offset - 1) = false) := by
  have run := (List.takeWhile_sublist accept (l := reader.ahead)).length_le
  have held (count : Nat) (within : count < reader.offset) :
      text.holds accept (reader.offset - 1 - count) = reader.ahead[count]?.any accept := by
    rw [holds, getElem?_ahead_backward reads backward within]
  rw [offset_skipWhile_backward backward]
  rw [length_ahead_backward reads backward] at run
  refine ⟨⟨Nat.sub_le _ _, fun index before after => ?_⟩, fun notFirst => ?_⟩
  · have known := held (reader.offset - 1 - index) (by omega)
    rw [show reader.offset - 1 - (reader.offset - 1 - index) = index by omega] at known
    rw [known]
    exact any_of_lt_takeWhile (by omega)
  · have known := held (reader.ahead.takeWhile accept).length (by omega)
    rw [Nat.sub_right_comm, known]
    exact any_at_takeWhile accept reader.ahead

end Skipping

/-! ### Kinds of characters -/

/-- What words, or big words, are runs of. -/
def wordKinds (marks : Char → Bool) (big : Bool) : List (Char → Bool) :=
  if big then [fun c => !Unicode.isWhitespace c] else [isWordPart marks, isPunctuation marks]

/-- White space is of no kind, and any other character is of exactly one. -/
structure Kinds (kinds : List (Char → Bool)) : Prop where
  solid : ∀ accept ∈ kinds, ∀ c, accept c = true → Unicode.isWhitespace c = false
  covered : ∀ c, Unicode.isWhitespace c = false → ∃ accept ∈ kinds, accept c = true
  apart : ∀ accept ∈ kinds, ∀ other ∈ kinds, ∀ c, accept c = true → other c = true → accept = other

theorem solid_of_isWordPart (part : isWordPart marks c = true) :
    Unicode.isWhitespace c = false ∧ isPunctuation marks c = false := by
  simpa [isWordPart] using part

theorem kinds_wordKinds (apart : MarksApart marks) (big : Bool) : Kinds (wordKinds marks big) := by
  cases big with
  | true => exact ⟨by simp [wordKinds], by simp [wordKinds], by simp [wordKinds]⟩
  | false =>
      refine ⟨fun accept member c accepted => ?_, fun c solid => ?_,
        fun accept member other memberAlso c accepted acceptedAlso => ?_⟩
      · simp only [wordKinds, Bool.false_eq_true, if_false, List.mem_cons, List.not_mem_nil,
          or_false] at member
        rcases member with rfl | rfl
        · exact (solid_of_isWordPart accepted).1
        · by_contra space
          rw [isPunctuation_of_isWhitespace apart (by simpa using space)] at accepted
          cases accepted
      · cases mark : isPunctuation marks c with
        | true => exact ⟨isPunctuation marks, by simp [wordKinds], mark⟩
        | false => exact ⟨isWordPart marks, by simp [wordKinds], by simp [isWordPart, solid, mark]⟩
      · simp only [wordKinds, Bool.false_eq_true, if_false, List.mem_cons, List.not_mem_nil,
          or_false] at member memberAlso
        rcases member with rfl | rfl <;> rcases memberAlso with rfl | rfl
        · rfl
        · exact absurd acceptedAlso (by simp [(solid_of_isWordPart accepted).2])
        · exact absurd accepted (by simp [(solid_of_isWordPart acceptedAlso).2])
        · rfl

/-! ### Tokens -/

/-- The characters from `start` up to `stop` are accepted, and those next to them are not. -/
structure LongestRun (accept : Char → Bool) (text : Text) (start stop : Nat) : Prop where
  given : start < stop
  each : ∀ index < stop, start ≤ index → text.holds accept index = true
  before : start ≠ 0 → text.holds accept (start - 1) = false
  after : text.holds accept stop = false

instance : Decidable (LongestRun accept text start stop) :=
  decidable_of_iff
    (start < stop ∧ (∀ index < stop, start ≤ index → text.holds accept index = true) ∧
      (start ≠ 0 → text.holds accept (start - 1) = false) ∧ text.holds accept stop = false)
    ⟨fun ⟨given, each, before, after⟩ => ⟨given, each, before, after⟩,
      fun run => ⟨run.given, run.each, run.before, run.after⟩⟩

/-- A longest run of characters of one kind. -/
def Token (kinds : List (Char → Bool)) (text : Text) (start stop : Nat) : Prop :=
  ∃ accept ∈ kinds, LongestRun accept text start stop

instance : Decidable (Token kinds text start stop) :=
  inferInstanceAs (Decidable (∃ accept ∈ kinds, LongestRun accept text start stop))

/-- Where tokens start, in ascending order. -/
def tokenStarts (kinds : List (Char → Bool)) (text : Text) : List Nat :=
  (List.range text.length).filter fun start =>
    (List.range (text.length + 1)).any fun stop => Token kinds text start stop

/-- Where tokens end, in ascending order. -/
def tokenEnds (kinds : List (Char → Bool)) (text : Text) : List Nat :=
  (List.range (text.length + 1)).filter fun stop =>
    (List.range text.length).any fun start => Token kinds text start stop

theorem Token.bounds (token : Token kinds text start stop) :
    start < text.length ∧ stop ≤ text.length := by
  obtain ⟨accept, _, run⟩ := token
  have given := run.given
  have first := lt_length_of_holds (run.each start given (Nat.le_refl _))
  have last := lt_length_of_holds (run.each (stop - 1) (by omega) (by omega))
  omega

theorem mem_tokenStarts : start ∈ tokenStarts kinds text ↔ ∃ stop, Token kinds text start stop := by
  simp only [tokenStarts, List.mem_filter, List.mem_range, List.any_eq_true, decide_eq_true_eq]
  constructor
  · rintro ⟨_, stop, _, token⟩
    exact ⟨stop, token⟩
  · rintro ⟨stop, token⟩
    exact ⟨token.bounds.1, stop, Nat.lt_succ_of_le token.bounds.2, token⟩

theorem mem_tokenEnds : stop ∈ tokenEnds kinds text ↔ ∃ start, Token kinds text start stop := by
  simp only [tokenEnds, List.mem_filter, List.mem_range, List.any_eq_true, decide_eq_true_eq]
  constructor
  · rintro ⟨_, start, _, token⟩
    exact ⟨start, token⟩
  · rintro ⟨start, token⟩
    exact ⟨Nat.lt_succ_of_le token.bounds.2, start, token.bounds.1, token⟩

/-- A token starts at a character of its kind with none of that kind before it. -/
theorem mem_tokenStarts_iff : start ∈ tokenStarts kinds text ↔
    ∃ accept ∈ kinds, text.holds accept start = true ∧
      (start ≠ 0 → text.holds accept (start - 1) = false) := by
  rw [mem_tokenStarts]
  constructor
  · rintro ⟨stop, accept, member, run⟩
    exact ⟨accept, member, run.each start run.given (Nat.le_refl _), run.before⟩
  · rintro ⟨accept, member, held, before⟩
    have inside := Nat.le_of_lt (lt_length_of_holds held)
    have skipped := accepts_skipWhile_forward (Reader.reads_forward text start) rfl accept
    rw [Reader.offset_forward, Nat.min_eq_left inside] at skipped
    obtain ⟨run, after⟩ := skipped
    have moved := Nat.lt_of_le_of_ne run.ordered fun same => by
      rw [← same, held] at after
      cases after
    exact ⟨_, accept, member, moved, run.each, before, after⟩

/-- A token ends after a character of its kind with none of that kind behind it. -/
theorem mem_tokenEnds_iff : stop ∈ tokenEnds kinds text ↔
    ∃ accept ∈ kinds, stop ≠ 0 ∧ text.holds accept (stop - 1) = true ∧
      text.holds accept stop = false := by
  rw [mem_tokenEnds]
  constructor
  · rintro ⟨start, accept, member, run⟩
    have given := run.given
    exact ⟨accept, member, by omega, run.each (stop - 1) (by omega) (by omega), run.after⟩
  · rintro ⟨accept, member, notFirst, held, after⟩
    have inside : stop ≤ text.length := by
      have last := lt_length_of_holds held
      omega
    have skipped := accepts_skipWhile_backward (Reader.reads_backward text stop) rfl accept
    rw [Reader.offset_backward, Nat.min_eq_left inside] at skipped
    obtain ⟨run, before⟩ := skipped
    have moved := Nat.lt_of_le_of_ne run.ordered fun same => by
      rw [same] at before
      rw [before notFirst] at held
      cases held
    exact ⟨_, accept, member, moved, run.each, before, after⟩

theorem sorted_tokenStarts (kinds : List (Char → Bool)) (text : Text) :
    (tokenStarts kinds text).Pairwise (· < ·) :=
  List.pairwise_lt_range.filter _

theorem sorted_tokenEnds (kinds : List (Char → Bool)) (text : Text) :
    (tokenEnds kinds text).Pairwise (· < ·) :=
  List.pairwise_lt_range.filter _

end Text

end ModalVi
