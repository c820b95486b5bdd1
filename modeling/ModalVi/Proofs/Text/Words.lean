import Mathlib.Data.List.Basic
import ModalVi.Text.Basic

namespace ModalVi.Text

/-! Words and lines of a text that was put together from them.

Words with spaces between them are read back as they were, and so are lines with breaks between them.
White space parts the words of a text, wherever it stands. -/

variable {text word rest line body blanks : Text} {row : List Text} {c : Char}

/-! ### Words -/

/-- Some characters, none of which is white space. -/
structure IsWord (word : Text) : Prop where
  given : word ≠ []
  solid : ∀ c ∈ word, Unicode.isWhitespace c = false

/-- The words with a space between any two. -/
def unwords (row : List Text) : Text := List.intercalate [' '] row

theorem intercalate_cons (mark : Char) (first : Text) (others : List Text) :
    List.intercalate [mark] (first :: others) = first ++ others.flatMap (mark :: ·) := by
  induction others generalizing first with
  | nil => simp
  | cons next others ih =>
      rw [List.intercalate_cons_cons, ih, List.flatMap_cons]
      simp

theorem unwords_cons (word : Text) (row : List Text) :
    unwords (word :: row) = word ++ row.flatMap (' ' :: ·) :=
  intercalate_cons ' ' word row

theorem words_cons_space (space : Unicode.isWhitespace c = true) (rest : Text) :
    words (c :: rest) = words rest := by
  rw [words.eq_def]
  exact if_pos space

/-- A word ends where white space begins. -/
theorem words_append (isWord : IsWord word) (ends : rest.head?.all Unicode.isWhitespace = true) :
    words (word ++ rest) = word :: words rest := by
  obtain ⟨given, solid⟩ := isWord
  induction word with
  | nil => exact absurd rfl given
  | cons c tail ih =>
      have letter : Unicode.isWhitespace c = false := solid c (by simp)
      cases tail with
      | nil =>
          cases rest with
          | nil => simp [words, letter]
          | cons next rest =>
              have space : Unicode.isWhitespace next = true := by simpa using ends
              simp [words, letter, space]
      | cons next tail =>
          have later : Unicode.isWhitespace next = false := solid next (by simp)
          have shorter := ih (by simp) fun d member => solid d (by simp [member])
          simp only [List.cons_append] at shorter ⊢
          rw [words, letter]
          simp only [Bool.false_eq_true, if_false, later, shorter]

theorem words_spaced (isWords : ∀ word ∈ row, IsWord word) :
    words (row.flatMap (' ' :: ·)) = row := by
  induction row with
  | nil => rfl
  | cons word row ih =>
      have ends : (row.flatMap (' ' :: ·)).head?.all Unicode.isWhitespace = true := by
        cases row with
        | nil => rfl
        | cons next row => rfl
      rw [List.flatMap_cons, List.cons_append, words_cons_space (by decide),
        words_append (isWords word (by simp)) ends, ih fun next member => isWords next (by simp [member])]

/-- Words put together with spaces are read back. -/
theorem words_unwords (isWords : ∀ word ∈ row, IsWord word) : words (unwords row) = row := by
  cases row with
  | nil => rfl
  | cons word row =>
      have spaced := words_spaced isWords
      rw [List.flatMap_cons, List.cons_append, words_cons_space (by decide)] at spaced
      rw [unwords_cons, spaced]

theorem exists_words_cons (letter : Unicode.isWhitespace c = false) (rest : Text) :
    ∃ first others, words (c :: rest) = first :: others := by
  rw [words.eq_def]
  simp only [letter, Bool.false_eq_true, if_false]
  split
  · exact ⟨_, _, rfl⟩
  · split
    · exact ⟨_, _, rfl⟩
    · split <;> exact ⟨_, _, rfl⟩

/-- A word of a text consists of characters of the text. -/
theorem mem_words (member : word ∈ words text) : IsWord word ∧ word ⊆ text := by
  induction text generalizing word with
  | nil => cases member
  | cons c rest ih =>
      have within (word : Text) (known : word ∈ words rest) : IsWord word ∧ word ⊆ c :: rest :=
        ⟨(ih known).1, List.Subset.trans (ih known).2 (List.subset_cons_self c rest)⟩
      have alone (letter : Unicode.isWhitespace c = false) : IsWord [c] ∧ [c] ⊆ c :: rest :=
        ⟨⟨by simp, by simpa using letter⟩, by simp⟩
      rw [words.eq_def] at member
      dsimp only at member
      split at member
      · exact within word member
      · rename_i letter
        have letter : Unicode.isWhitespace c = false := by simpa using letter
        split at member
        · cases List.mem_singleton.mp member
          exact alone letter
        · split at member
          · rcases List.mem_cons.mp member with rfl | later
            · exact alone letter
            · exact within word later
          · split at member
            · cases List.mem_singleton.mp member
              exact alone letter
            · rename_i first others known
              rw [known] at within
              rcases List.mem_cons.mp member with rfl | later
              · obtain ⟨isWord, letters⟩ := within first (by simp)
                refine ⟨⟨by simp, ?_⟩, List.cons_subset.mpr ⟨by simp, letters⟩⟩
                exact List.forall_mem_cons.mpr ⟨letter, isWord.solid⟩
              · exact within word (by simp [later])

/-- White space parts the words before it from the words after it. -/
theorem words_append_space (space : Unicode.isWhitespace c = true) (front rest : Text) :
    words (front ++ c :: rest) = words front ++ words rest := by
  induction front with
  | nil => exact words_cons_space space rest
  | cons d front ih =>
      cases letter : Unicode.isWhitespace d with
      | true => rw [List.cons_append, words_cons_space letter, words_cons_space letter, ih]
      | false =>
          cases front with
          | nil => simp [words, letter, space]
          | cons next front =>
              cases later : Unicode.isWhitespace next with
              | true =>
                  rw [List.cons_append, List.cons_append, words, letter, words, letter]
                  simp only [Bool.false_eq_true, if_false, later, if_true]
                  rw [← List.cons_append, ih, List.cons_append]
              | false =>
                  obtain ⟨first, others, known⟩ := exists_words_cons later front
                  rw [known, List.cons_append, List.cons_append] at ih
                  rw [List.cons_append, List.cons_append, words, letter, words, letter]
                  simp only [Bool.false_eq_true, if_false, later, ih, known, List.cons_append]

theorem words_spaces_append (spaces : ∀ c ∈ blanks, Unicode.isWhitespace c = true) (rest : Text) :
    words (blanks ++ rest) = words rest := by
  induction blanks with
  | nil => rfl
  | cons c blanks ih =>
      rw [List.cons_append, words_cons_space (spaces c List.mem_cons_self)]
      exact ih fun d member => spaces d (List.mem_cons_of_mem _ member)

theorem words_append_spaces (front : Text) (spaces : ∀ c ∈ blanks, Unicode.isWhitespace c = true) :
    words (front ++ blanks) = words front := by
  cases blanks with
  | nil => rw [List.append_nil]
  | cons c blanks =>
      have nothing := words_spaces_append spaces []
      rw [List.append_nil, words_cons_space (spaces c List.mem_cons_self)] at nothing
      rw [words_append_space (spaces c List.mem_cons_self), nothing]
      exact List.append_nil _

/-! ### White space at the ends -/

/-- No white space stands before the first word or after the last. -/
structure Trimmed (text : Text) : Prop where
  first : ∃ c rest, text = c :: rest ∧ Unicode.isWhitespace c = false
  last : ∃ front c, text = front ++ [c] ∧ Unicode.isWhitespace c = false

theorem exists_last_word (given : row ≠ []) :
    ∃ front word, word ∈ row ∧ unwords row = front ++ word := by
  obtain ⟨first, rest, rfl⟩ := List.exists_cons_of_ne_nil given
  rcases rest.eq_nil_or_concat with rfl | ⟨init, word, rfl⟩
  · exact ⟨[], first, by simp, by simp [unwords]⟩
  · exact ⟨first ++ init.flatMap (' ' :: ·) ++ [' '], word, by simp, by simp [unwords_cons]⟩

theorem trimmed_unwords (isWords : ∀ word ∈ row, IsWord word) (given : row ≠ []) :
    Trimmed (unwords row) where
  first := by
    obtain ⟨word, rest, rfl⟩ := List.exists_cons_of_ne_nil given
    have isWord := isWords word (by simp)
    obtain ⟨c, tail, rfl⟩ := List.exists_cons_of_ne_nil isWord.given
    exact ⟨c, _, unwords_cons (c :: tail) rest, isWord.solid c (by simp)⟩
  last := by
    obtain ⟨front, word, member, ends⟩ := exists_last_word given
    have isWord := isWords word member
    rcases word.eq_nil_or_concat with none | ⟨tail, c, rfl⟩
    · exact absurd none isWord.given
    · exact ⟨front ++ tail, c, by simp [ends], isWord.solid c (by simp)⟩

theorem trim_append {blanks : Text} (trimmed : Trimmed text)
    (spaces : ∀ c ∈ blanks, Unicode.isWhitespace c = true) : trim (blanks ++ text) = text := by
  obtain ⟨⟨c, rest, begins, letter⟩, front, d, ends, letterAlso⟩ := trimmed
  have started : trimStart (blanks ++ text) = text := by
    rw [trimStart, List.dropWhile_append_of_pos spaces, begins, List.dropWhile_cons, letter]
    rfl
  rw [trim, started, trimEnd, trimStart, ends, List.reverse_concat, List.dropWhile_cons, letterAlso]
  simp

theorem Trimmed.trim (trimmed : Trimmed text) : trim text = text :=
  trim_append trimmed (List.forall_mem_nil _)

theorem IsWord.trimmed (isWord : IsWord word) : Trimmed word := by
  have alone := trimmed_unwords (List.forall_mem_singleton.mpr isWord) (List.cons_ne_nil word [])
  simpa [unwords] using alone

theorem Trimmed.append (front : Trimmed text) (middle : Text) (back : Trimmed rest) :
    Trimmed (text ++ middle ++ rest) where
  first := by
    obtain ⟨c, later, rfl, letter⟩ := front.first
    exact ⟨c, later ++ middle ++ rest, by simp, letter⟩
  last := by
    obtain ⟨before, c, rfl, letter⟩ := back.last
    exact ⟨text ++ middle ++ before, c, by simp, letter⟩

theorem trim_subset (text : Text) : trim text ⊆ text := by
  intro c member
  have inEnd : c ∈ (trimStart text).reverse :=
    (List.dropWhile_sublist _).subset (List.mem_reverse.mp member)
  exact (List.dropWhile_sublist _).subset (List.mem_reverse.mp inEnd)

theorem trimmed_trim (given : trim text ≠ []) : Trimmed (trim text) where
  first := by
    have letter := List.head?_dropWhile_not Unicode.isWhitespace text
    rw [trim, trimStart] at given ⊢
    generalize text.dropWhile Unicode.isWhitespace = started at given letter ⊢
    cases started with
    | nil => exact absurd rfl given
    | cons c rest =>
        have letter : Unicode.isWhitespace c = false := by simpa using letter
        refine ⟨c, (rest.reverse.dropWhile Unicode.isWhitespace).reverse, ?_, letter⟩
        rw [trimEnd, trimStart, List.reverse_cons, List.dropWhile_append]
        split
        · rename_i nothing
          rw [List.isEmpty_iff.mp nothing]
          simp [letter]
        · simp
  last := by
    have letter := List.head?_dropWhile_not Unicode.isWhitespace (trimStart text).reverse
    rw [trim, trimEnd, trimStart] at given ⊢
    generalize (trimStart text).reverse.dropWhile Unicode.isWhitespace = ending at given letter ⊢
    cases ending with
    | nil => exact absurd rfl given
    | cons c rest => exact ⟨rest.reverse, c, by simp, by simpa using letter⟩

theorem words_ne_nil (trimmed : Trimmed text) : words text ≠ [] := by
  obtain ⟨c, rest, rfl, letter⟩ := trimmed.first
  obtain ⟨_, _, known⟩ := exists_words_cons letter rest
  simp [known]

theorem isWhitespace_of_mem_takeWhile (text : Text) :
    ∀ c ∈ text.takeWhile Unicode.isWhitespace, Unicode.isWhitespace c = true :=
  List.all_eq_true.mp List.all_takeWhile

theorem words_trimStart (text : Text) : words (trimStart text) = words text := by
  have parts : text.takeWhile Unicode.isWhitespace ++ trimStart text = text :=
    List.takeWhile_append_dropWhile
  rw [← words_spaces_append (isWhitespace_of_mem_takeWhile text), parts]

/-- Trimming takes white space off the end. -/
theorem exists_trimEnd_append (text : Text) :
    ∃ blanks, trimEnd text ++ blanks = text ∧ ∀ c ∈ blanks, Unicode.isWhitespace c = true := by
  refine ⟨(text.reverse.takeWhile Unicode.isWhitespace).reverse, ?_, fun c member => ?_⟩
  · rw [trimEnd, trimStart, ← List.reverse_append, List.takeWhile_append_dropWhile,
      List.reverse_reverse]
  · exact isWhitespace_of_mem_takeWhile text.reverse c (List.mem_reverse.mp member)

theorem trimEnd_subset (text : Text) : trimEnd text ⊆ text := by
  obtain ⟨blanks, parts, _⟩ := exists_trimEnd_append text
  intro c member
  rw [← parts]
  exact List.mem_append_left blanks member

theorem words_trimEnd (text : Text) : words (trimEnd text) = words text := by
  obtain ⟨blanks, parts, spaces⟩ := exists_trimEnd_append text
  rw [← words_append_spaces (trimEnd text) spaces, parts]

/-- Trimming takes no word away. -/
theorem words_trim (text : Text) : words (trim text) = words text := by
  rw [trim, words_trimEnd, words_trimStart]

/-! ### Lines -/

theorem unbroken_unwords (unbroken : ∀ word ∈ row, '\n' ∉ word) :
    '\n' ∉ unwords row := by
  cases row with
  | nil => simp [unwords]
  | cons word rest =>
      simp only [unwords_cons, List.mem_append, List.mem_flatMap, List.mem_cons]
      rintro (inWord | ⟨other, member, space | inOther⟩)
      · exact unbroken word List.mem_cons_self inWord
      · cases space
      · exact unbroken other (List.mem_cons_of_mem _ member) inOther

theorem lines_ne_nil (text : Text) : lines text ≠ [] := by
  cases text with
  | nil => simp [lines]
  | cons c rest =>
      rw [lines]
      split
      · simp
      · split <;> simp

theorem lines_of_unbroken (unbroken : '\n' ∉ line) : lines line = [line] := by
  induction line with
  | nil => rfl
  | cons c rest ih =>
      have other : c ≠ '\n' := (List.ne_of_not_mem_cons unbroken).symm
      simp [lines, ih (List.not_mem_of_not_mem_cons unbroken), other]

theorem lines_append (unbroken : '\n' ∉ line) (rest : Text) :
    lines (line ++ '\n' :: rest) = line :: lines rest := by
  induction line with
  | nil => simp [lines]
  | cons c front ih =>
      have other : c ≠ '\n' := (List.ne_of_not_mem_cons unbroken).symm
      rw [List.cons_append, lines, ih (List.not_mem_of_not_mem_cons unbroken)]
      simp [other]

/-- Lines put together with breaks are read back. -/
theorem lines_ofLines {list : List Text} (given : list ≠ [])
    (unbroken : ∀ line ∈ list, '\n' ∉ line) : lines (ofLines list) = list := by
  induction list with
  | nil => exact absurd rfl given
  | cons line rest ih =>
      cases rest with
      | nil =>
          rw [ofLines, List.intercalate_singleton]
          exact lines_of_unbroken (unbroken line (by simp))
      | cons next rest =>
          have later := ih (by simp) fun other member => unbroken other (by simp [member])
          rw [ofLines] at later ⊢
          rw [List.intercalate_cons_cons, List.append_assoc, List.singleton_append,
            lines_append (unbroken line (by simp)), later]

theorem unbroken_of_mem_lines (member : line ∈ lines text) : '\n' ∉ line := by
  induction text generalizing line with
  | nil =>
      cases List.mem_singleton.mp member
      simp
  | cons c rest ih =>
      rw [lines] at member
      split at member
      · rcases List.mem_cons.mp member with rfl | later
        · simp
        · exact ih later
      · rename_i other
        have other : '\n' ≠ c := by
          rintro rfl
          exact other rfl
        split at member
        · cases List.mem_singleton.mp member
          simpa using other
        · rename_i first others known
          rw [known] at ih
          rcases List.mem_cons.mp member with rfl | later
          · exact List.not_mem_cons_of_ne_of_not_mem other (ih (by simp))
          · exact ih (by simp [later])

/-- A final break is followed by an empty line. -/
theorem lines_concat_break (body : Text) : lines (body ++ ['\n']) = lines body ++ [[]] := by
  induction body with
  | nil => rfl
  | cons c rest ih =>
      rw [List.cons_append, lines, lines, ih]
      split
      · rfl
      · obtain ⟨line, others, known⟩ := List.exists_cons_of_ne_nil (lines_ne_nil rest)
        rw [known]
        rfl

theorem ofLines_concat_nil {list : List Text} (given : list ≠ []) :
    ofLines (list ++ [[]]) = ofLines list ++ ['\n'] := by
  induction list with
  | nil => exact absurd rfl given
  | cons line rest ih =>
      cases rest with
      | nil => simp [ofLines]
      | cons next rest =>
          have later := ih (by simp)
          rw [ofLines, ofLines] at later ⊢
          simp only [List.cons_append, List.intercalate_cons_cons] at later ⊢
          rw [later]
          simp

theorem ofLines_lines (text : Text) : ofLines (lines text) = text := by
  induction text with
  | nil => rfl
  | cons c rest ih =>
      obtain ⟨line, others, known⟩ := List.exists_cons_of_ne_nil (lines_ne_nil rest)
      rw [lines]
      split
      · rename_i broken
        rw [known, ofLines, List.intercalate_cons_cons, ← ofLines, ← known, ih, beq_iff_eq.mp broken]
        rfl
      · rw [known] at ih ⊢
        cases others with
        | nil => simpa [ofLines] using ih
        | cons next others =>
            rw [ofLines, List.intercalate_cons_cons] at ih ⊢
            simpa using ih

/-- The words of a text are those of its lines. -/
theorem words_ofLines (list : List Text) : words (ofLines list) = list.flatMap words := by
  induction list with
  | nil => rfl
  | cons line rest ih =>
      cases rest with
      | nil => simp [ofLines]
      | cons next rest =>
          rw [ofLines] at ih ⊢
          rw [List.intercalate_cons_cons, List.append_assoc, List.singleton_append,
            words_append_space (by decide), ih]
          rfl

end ModalVi.Text
