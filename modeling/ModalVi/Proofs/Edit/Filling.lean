import Mathlib.Data.List.Chain
import Mathlib.Data.List.TakeWhile
import ModalVi.Edit.Reflow
import ModalVi.Proofs.Text.Words

namespace ModalVi.Reflow

/-! Lines of a paragraph, as they are written and as they are read again.

A paragraph is written as rows of its words, each behind the same blanks and prefix.  A written line that
is read again has these blanks and these words, and the prefix if no other one can be read instead. -/

open Text (IsWord Trimmed unwords words_append words_unwords)

variable {markers : List Text} {marker other body lead : Text} {line first : Line}
  {width : Nat} {words row : List Text}

/-! ### Prefixes -/

/-- The marker can be read at the start of `body`. -/
structure Fits (marker body : Text) : Prop where
  given : marker ≠ []
  starts : marker <+: body
  ends : (body.drop marker.length).head?.all Unicode.isWhitespace = true

/-- The longer of two markers, the second of two that are as long. -/
def longer (best : Option Text) (marker : Text) : Option Text :=
  match best with
  | some longest => if longest.length ≤ marker.length then some marker else some longest
  | none => some marker

theorem foldl_longer (list : List Text) (best : Text) :
    ∃ found, list.foldl longer (some best) = some found ∧ found ∈ best :: list ∧
      ∀ other ∈ best :: list, other.length ≤ found.length := by
  induction list generalizing best with
  | nil => exact ⟨best, rfl, by simp, by simp⟩
  | cons next rest ih =>
      rw [List.foldl_cons, longer]
      split
      · rename_i shorter
        obtain ⟨found, chosen, member, most⟩ := ih next
        refine ⟨found, chosen, List.mem_cons_of_mem _ member, List.forall_mem_cons.mpr ⟨?_, most⟩⟩
        exact Nat.le_trans shorter (most next (by simp))
      · rename_i notShorter
        obtain ⟨found, chosen, member, most⟩ := ih best
        have first := most best (by simp)
        refine ⟨found, chosen, ?_, ?_⟩
        · rcases List.mem_cons.mp member with same | later
          · simp [same]
          · simp [later]
        · intro other known
          rcases List.mem_cons.mp known with same | later
          · exact same ▸ first
          · rcases List.mem_cons.mp later with same | last
            · rw [same]
              omega
            · exact most other (by simp [last])

theorem mem_filter_fits :
    marker ∈ markers.filter (fun marker => !marker.isEmpty && marker.isPrefixOf body &&
      (body.drop marker.length).head?.all Unicode.isWhitespace) ↔
      marker ∈ markers ∧ Fits marker body := by
  simp only [List.mem_filter, Bool.and_eq_true, Bool.not_eq_true', List.isEmpty_eq_false_iff,
    List.isPrefixOf_iff_prefix]
  constructor
  · rintro ⟨member, ⟨given, starts⟩, ends⟩
    exact ⟨member, given, starts, ends⟩
  · rintro ⟨member, given, starts, ends⟩
    exact ⟨member, ⟨given, starts⟩, ends⟩

theorem longestMarker_cases (markers : List Text) (body : Text) :
    (longestMarker markers body = none ∧ ∀ marker ∈ markers, ¬ Fits marker body) ∨
      ∃ marker, longestMarker markers body = some marker ∧ marker ∈ markers ∧ Fits marker body ∧
        ∀ other ∈ markers, Fits other body → other.length ≤ marker.length := by
  have fitting (marker : Text) := @mem_filter_fits markers marker body
  have read : longestMarker markers body = List.foldl longer none (markers.filter
    (fun marker => !marker.isEmpty && marker.isPrefixOf body &&
      (body.drop marker.length).head?.all Unicode.isWhitespace)) := rfl
  rw [read]
  generalize markers.filter _ = candidates at fitting ⊢
  cases candidates with
  | nil => exact .inl ⟨rfl, fun marker member fits => nomatch (fitting marker).mpr ⟨member, fits⟩⟩
  | cons best rest =>
      obtain ⟨found, chosen, member, most⟩ := foldl_longer rest best
      obtain ⟨known, fits⟩ := (fitting found).mp member
      refine .inr ⟨found, chosen, known, fits, fun other knownAlso fitsAlso => ?_⟩
      exact most other ((fitting other).mpr ⟨knownAlso, fitsAlso⟩)

/-- The marker that is read is the only one of its length that can be. -/
theorem longestMarker_eq (member : marker ∈ markers) (fits : Fits marker body)
    (longest : ∀ other ∈ markers, Fits other body → other.length ≤ marker.length) :
    longestMarker markers body = some marker := by
  rcases longestMarker_cases markers body with ⟨_, none⟩ | ⟨found, read, known, fitsAlso, most⟩
  · exact absurd fits (none marker member)
  · have shorter := longest found known fitsAlso
    have longer := most marker member fits
    rw [read, List.IsPrefix.eq_of_length_le (List.prefix_of_prefix_length_le fitsAlso.starts
      fits.starts shorter) longer]

theorem longestMarker_nil (markers : List Text) : longestMarker markers [] = none := by
  rcases longestMarker_cases markers [] with ⟨none, _⟩ | ⟨marker, _, _, fits, _⟩
  · exact none
  · exact absurd (List.prefix_nil.mp fits.starts) fits.given

/-- A marker that is read is read again where it stands alone. -/
theorem longestMarker_alone (read : longestMarker markers body = some marker) :
    longestMarker markers marker = some marker := by
  rcases longestMarker_cases markers body with ⟨none, _⟩ | ⟨found, again, member, fits, _⟩
  · rw [none] at read
    cases read
  · rw [again] at read
    cases read
    refine longestMarker_eq member ⟨fits.given, List.prefix_refl _, by simp⟩ fun other _ fitsAlso => ?_
    exact fitsAlso.starts.length_le

/-! ### Lines that are read -/

/-- The characters that may stand before the prefix of a line. -/
def Indents (lead : Text) : Prop := ∀ c ∈ lead, c = ' ' ∨ c = '\t'

/-- No such character begins the text. -/
def Begins (body : Text) : Prop := ∀ c, body.head? = some c → c ≠ ' ' ∧ c ≠ '\t'

theorem parse_append (indents : Indents lead) (begins : Begins body) (markers : List Text) :
    Line.parse markers (lead ++ body) =
      ⟨lead, longestMarker markers body,
        Text.trim (body.drop ((longestMarker markers body).getD []).length)⟩ := by
  have blank : ∀ c ∈ lead, (c == ' ' || c == '\t') = true := by
    intro c member
    simpa using indents c member
  have taken : body.takeWhile (fun c => c == ' ' || c == '\t') = [] := by
    cases body with
    | nil => rfl
    | cons c rest =>
        obtain ⟨notSpace, notTab⟩ := begins c rfl
        simp [notSpace, notTab]
  have dropped : body.dropWhile (fun c => c == ' ' || c == '\t') = body := by
    cases body with
    | nil => rfl
    | cons c rest =>
        obtain ⟨notSpace, notTab⟩ := begins c rfl
        simp [notSpace, notTab]
  simp only [Line.parse, List.takeWhile_append_of_pos blank, List.dropWhile_append_of_pos blank, taken,
    dropped, List.append_nil]

theorem parse_nil (markers : List Text) : Line.parse markers [] = ⟨[], none, []⟩ := by
  have parsed : Line.parse markers [] = ⟨[], longestMarker markers [],
      Text.trim (List.drop ((longestMarker markers []).getD []).length [])⟩ := rfl
  rw [longestMarker_nil] at parsed
  exact parsed

/-- A line as it can be read. -/
structure Line.Formed (markers : List Text) (line : Line) : Prop where
  indents : Indents line.lead
  alone : ∀ marker, line.marker = some marker → longestMarker markers marker = some marker
  begins : ∀ marker, line.marker = some marker → Begins marker ∧ marker ≠ [] ∧ '\n' ∉ marker
  trimmed : line.content ≠ [] → Trimmed line.content
  unbroken : '\n' ∉ line.content

theorem formed_parse {text : Text} (unbroken : '\n' ∉ text) (markers : List Text) :
    (Line.parse markers text).Formed markers := by
  let blank (c : Char) : Bool := c == ' ' || c == '\t'
  have within : text.dropWhile blank ⊆ text := (List.dropWhile_sublist blank).subset
  refine ⟨?_, ?_, ?_, ?_, ?_⟩
  · intro c member
    have isBlank := List.all_eq_true.mp (List.all_takeWhile (p := blank) (l := text)) c member
    simpa [blank] using isBlank
  · exact fun marker read => longestMarker_alone read
  · intro marker read
    rcases longestMarker_cases markers (text.dropWhile blank) with
      ⟨none, _⟩ | ⟨found, again, _, fits, _⟩
    · cases none.symm.trans read
    · cases again.symm.trans read
      obtain ⟨rest, whole⟩ := fits.starts
      refine ⟨?_, fits.given, fun member => unbroken (within (fits.starts.subset member))⟩
      intro c head
      have first := List.head?_dropWhile_not blank text
      rw [← whole, List.head?_append, head] at first
      simpa [blank] using first
  · exact Text.trimmed_trim
  · intro member
    have inBody := List.mem_of_mem_drop (Text.trim_subset _ member)
    exact unbroken (within inBody)

theorem kept_eq_nil (formed : line.Formed markers) (none : line.marker = none) :
    line.kept = [] := by
  have spaces : ∀ c ∈ line.lead.reverse, Unicode.isWhitespace c = true := by
    intro c member
    rcases formed.indents c (List.mem_reverse.mp member) with rfl | rfl <;> decide
  have dropped : line.lead.reverse.dropWhile Unicode.isWhitespace = [] :=
    List.dropWhile_eq_nil_iff.mpr spaces
  simp only [Line.kept, none, Text.trimEnd, Text.trimStart, dropped, List.reverse_nil]

/-- The white space that a line is kept with is read as a blank line that is kept alike. -/
theorem kept_parse_kept (formed : line.Formed markers) :
    (Line.parse markers line.kept).isBlank = true ∧
      (Line.parse markers line.kept).kept = line.kept := by
  cases read : line.marker with
  | none =>
      have kept := kept_eq_nil formed read
      rw [kept, parse_nil]
      exact ⟨rfl, rfl⟩
  | some marker =>
      have kept : line.kept = line.lead ++ marker := by simp only [Line.kept, read]
      have parsed := parse_append formed.indents (formed.begins marker read).1 markers
      rw [formed.alone marker read, Option.getD_some, List.drop_length] at parsed
      rw [kept, parsed]
      exact ⟨rfl, rfl⟩

/-! ### Lines that are written -/

/-- Some words. -/
structure IsRow (row : List Text) : Prop where
  given : row ≠ []
  isWords : ∀ word ∈ row, IsWord word

theorem IsRow.trimmed (isRow : IsRow row) : Trimmed (unwords row) :=
  Text.trimmed_unwords isRow.isWords isRow.given

theorem IsRow.unwords_ne_nil (isRow : IsRow row) : unwords row ≠ [] := by
  obtain ⟨_, _, begins, _⟩ := isRow.trimmed.first
  simp [begins]

/-- A word can begin the rest of a line behind its prefix. -/
theorem IsRow.begins (isRow : IsRow row) : Begins (unwords row) := by
  intro c head
  obtain ⟨d, tail, whole, letter⟩ := isRow.trimmed.first
  rw [whole] at head
  cases head
  constructor
  · rintro rfl
    exact absurd letter (by decide)
  · rintro rfl
    exact absurd letter (by decide)

/-- The spaces by which the further lines of a paragraph hang. -/
def Line.pad (first : Line) : Text := if first.isListItem then Line.hanging else []

theorem Line.furtherHead_eq (first : Line) : first.furtherHead = first.head ++ first.pad := by
  rw [Line.furtherHead, Line.pad]
  split <;> simp

theorem Line.eq_space_of_mem_pad (first : Line) : ∀ c ∈ first.pad, c = ' ' := by
  rw [Line.pad]
  split <;> simp [Line.hanging]

theorem Line.Formed.unbroken_lead (formed : line.Formed markers) : '\n' ∉ line.lead := by
  intro member
  simpa using formed.indents '\n' member

theorem unbroken_head (formed : first.Formed markers) : '\n' ∉ first.head := by
  rw [Line.head]
  split
  · rename_i marker marked
    obtain ⟨_, _, unbroken⟩ := formed.begins marker marked
    simp [formed.unbroken_lead, unbroken]
  · exact formed.unbroken_lead

theorem unbroken_kept (formed : line.Formed markers) : '\n' ∉ line.kept := by
  cases marked : line.marker with
  | none => simp [kept_eq_nil formed marked]
  | some marker =>
      obtain ⟨_, _, unbroken⟩ := formed.begins marker marked
      simp [Line.kept, marked, formed.unbroken_lead, unbroken]

/-- What is read of a line that is written without a prefix. -/
theorem parse_unmarked {pad : Text} (formed : first.Formed markers) (padding : ∀ c ∈ pad, c = ' ')
    (isRow : IsRow row) (unmarked : first.marker = none) :
    Line.parse markers (first.head ++ pad ++ unwords row) =
      ⟨first.lead ++ pad, longestMarker markers (unwords row),
        Text.trim ((unwords row).drop ((longestMarker markers (unwords row)).getD []).length)⟩ := by
  have indents : Indents (first.lead ++ pad) := by
    intro c member
    rcases List.mem_append.mp member with inLead | inPad
    · exact formed.indents c inLead
    · exact .inl (padding c inPad)
  have head : first.head = first.lead := by simp only [Line.head, unmarked]
  rw [head]
  exact parse_append indents isRow.begins markers

/-- What is read of a line that is written behind a prefix. -/
theorem parse_marked (formed : first.Formed markers) (marked : first.marker = some marker)
    (pad : Text) (row : List Text) :
    Line.parse markers (first.head ++ pad ++ unwords row) =
      ⟨first.lead, longestMarker markers (marker ++ (' ' :: pad ++ unwords row)),
        Text.trim ((marker ++ (' ' :: pad ++ unwords row)).drop
          ((longestMarker markers (marker ++ (' ' :: pad ++ unwords row))).getD []).length)⟩ := by
  have head : first.head ++ pad ++ unwords row =
      first.lead ++ (marker ++ (' ' :: pad ++ unwords row)) := by
    simp [Line.head, marked]
  have begins : Begins (marker ++ (' ' :: pad ++ unwords row)) := by
    obtain ⟨begins, given, _⟩ := formed.begins marker marked
    obtain ⟨d, tail, rfl⟩ := List.exists_cons_of_ne_nil given
    exact begins
  rw [head]
  exact parse_append formed.indents begins markers

/-- A written line is read back where its prefix is. -/
theorem parse_written {pad : Text} (formed : first.Formed markers) (padding : ∀ c ∈ pad, c = ' ')
    (isRow : IsRow row)
    (read : (Line.parse markers (first.head ++ pad ++ unwords row)).marker = first.marker) :
    Line.parse markers (first.head ++ pad ++ unwords row) =
      ⟨first.lead ++ if first.marker.isNone then pad else [], first.marker, unwords row⟩ := by
  cases marked : first.marker with
  | none =>
      rw [parse_unmarked formed padding isRow marked, marked] at read
      have none : longestMarker markers (unwords row) = none := read
      rw [parse_unmarked formed padding isRow marked, none]
      exact congrArg (Line.mk _ _) (Text.trim_append isRow.trimmed (List.forall_mem_nil _))
  | some marker =>
      rw [parse_marked formed marked, marked] at read
      have found : longestMarker markers (marker ++ (' ' :: pad ++ unwords row)) = some marker := read
      have spaces : ∀ c ∈ ' ' :: pad, Unicode.isWhitespace c = true := by
        intro c member
        rcases List.mem_cons.mp member with rfl | inPad
        · decide
        · rw [padding c inPad]
          decide
      rw [parse_marked formed marked, found, Option.getD_some, List.drop_left,
        Text.trim_append isRow.trimmed spaces]
      simp

theorem head_words_of_isListItem (item : line.isListItem = true) :
    (Text.words line.content).head? = some ['-'] := by
  simp only [Line.isListItem, Bool.or_eq_true, beq_iff_eq, List.isPrefixOf_iff_prefix] at item
  rcases item with alone | ⟨rest, starts⟩
  · rw [alone]
    rfl
  · have isWord : IsWord ['-'] := ⟨by simp, List.forall_mem_singleton.mpr (by decide)⟩
    have spaced : line.content = ['-'] ++ ' ' :: rest := starts.symm
    rw [spaced, Text.words_append isWord (by simp; decide)]
    rfl

/-- A line is written as a list item where a dash is its first word. -/
theorem isListItem_unwords (isRow : IsRow row) (lead : Text) (marker : Option Text) :
    Line.isListItem ⟨lead, marker, unwords row⟩ = true ↔ row.head? = some ['-'] := by
  constructor
  · intro item
    have head := head_words_of_isListItem item
    rw [words_unwords isRow.isWords] at head
    exact head
  · intro head
    obtain ⟨rest, rfl⟩ := List.head?_eq_some_iff.mp head
    cases rest with
    | nil => rfl
    | cons next rest => simp [Line.isListItem, Text.unwords_cons]

/-! ### Rows of words -/

/-- A line that is written: what it begins with, and the words behind that. -/
structure Written where
  head : Text
  words : List Text
deriving DecidableEq, Repr

namespace Written

def text (line : Written) : Text := line.head ++ unwords line.words

/-- The line is shorter than the width, unless it has to hold a single word. -/
def Bounded (width : Nat) (line : Written) : Prop :=
  line.text.length < width ∨ line.words.length = 1

/-- The first word of the next line has no room behind this line. -/
def Full (width : Nat) (line next : Written) : Prop :=
  ∀ word ∈ next.words.head?, width ≤ line.text.length + 1 + word.length

theorem text_singleton (head word : Text) : text ⟨head, [word]⟩ = head ++ word := by
  simp [text, Text.unwords_cons]

theorem text_concat {line : Written} (given : line.words ≠ []) (word : Text) :
    text ⟨line.head, line.words ++ [word]⟩ = line.text ++ ' ' :: word := by
  obtain ⟨opening, rest, words⟩ := List.exists_cons_of_ne_nil given
  simp [text, Text.unwords_cons, words]

end Written

open Written (Bounded Full)

/-- What filling makes of the words behind a line that holds some: the words that go on the line, and the
rows of the further lines. -/
structure Fills (width : Nat) (further : Text) (line : Written) (words more : List Text)
    (rows : List (List Text)) : Prop where
  filled : fillFrom width further line.text false words =
    Written.text ⟨line.head, line.words ++ more⟩ :: rows.map (Written.text ⟨further, ·⟩)
  whole : more ++ rows.flatten = words
  given : [] ∉ rows
  bounded : ∀ written ∈ ⟨line.head, line.words ++ more⟩ :: rows.map (Written.mk further),
    written.Bounded width
  full : (⟨line.head, line.words ++ more⟩ :: rows.map (Written.mk further)).IsChain (Full width)

theorem exists_fills (width : Nat) (further : Text) (line : Written) (given : line.words ≠ [])
    (bounded : line.Bounded width) (words : List Text) :
    ∃ more rows, Fills width further line words more rows := by
  -- The line so far holds words, so one more word lengthens it by its own length and a space.
  induction words generalizing line with
  | nil => exact ⟨[], [], by simp [fillFrom, Written.text], rfl, by simp, by simpa using bounded, by simp⟩
  | cons word rest ih =>
      by_cases reached : width ≤ line.text.length + 1 + word.length
      · obtain ⟨more, rows, later⟩ := ih ⟨further, [word]⟩ (by simp) (.inr rfl)
        have filled := later.filled
        refine ⟨[], (word :: more) :: rows, ?_, ?_, ?_, ?_, ?_⟩
        · rw [Written.text_singleton] at filled
          rw [fillFrom, if_pos reached, filled]
          simp
        · simp [later.whole]
        · simpa using later.given
        · refine List.forall_mem_cons.mpr ⟨by simpa using bounded, later.bounded⟩
        · refine List.isChain_cons.mpr ⟨?_, later.full⟩
          rintro _ ⟨⟩ _ ⟨⟩
          simpa using reached
      · have text := Written.text_concat given word
        obtain ⟨more, rows, later⟩ := ih ⟨line.head, line.words ++ [word]⟩ (by simp)
          (.inl (by rw [text, List.length_append, List.length_cons]; omega))
        have along : line.words ++ [word] ++ more = line.words ++ word :: more := by simp
        obtain ⟨filled, whole, given, bounded, full⟩ := later
        rw [along] at filled bounded full
        refine ⟨word :: more, rows, ?_, by simp [whole], given, bounded, full⟩
        rw [fillFrom, if_neg reached, ← filled, text]

/-- The lines of a paragraph, with the words of its opening line and those of its further lines. -/
def Line.written (first : Line) (row : List Text) (rows : List (List Text)) : List Written :=
  ⟨first.head, row⟩ :: rows.map (Written.mk first.furtherHead)

/-- Rows that take up the words of a paragraph, each as many of them as there is room for. -/
structure Filled (width : Nat) (first : Line) (words row : List Text) (rows : List (List Text)) :
    Prop where
  lines : Block.lines width (.paragraph first words) = (first.written row rows).map Written.text
  whole : row ++ rows.flatten = words
  isRow : IsRow row
  isRows : ∀ row ∈ rows, IsRow row
  bounded : ∀ line ∈ first.written row rows, line.Bounded width
  full : (first.written row rows).IsChain (Full width)

theorem exists_filled (width : Nat) (first : Line) (isRow : IsRow words) :
    ∃ row rows, Filled width first words row rows := by
  obtain ⟨given, isWords⟩ := isRow
  obtain ⟨word, rest, rfl⟩ := List.exists_cons_of_ne_nil given
  obtain ⟨more, rows, filled, whole, none, bounded, full⟩ :=
    exists_fills width first.furtherHead ⟨first.head, [word]⟩ (by simp) (.inr rfl) rest
  have all : word :: more ++ rows.flatten = word :: rest := by rw [List.cons_append, whole]
  have opening : ∀ known ∈ word :: more, IsWord known := by
    intro known member
    exact isWords known (all ▸ List.mem_append_left _ member)
  have further : ∀ row ∈ rows, ∀ known ∈ row, IsWord known := by
    intro row among known member
    exact isWords known (all ▸ List.mem_append_right _ (List.mem_flatten_of_mem among member))
  refine ⟨word :: more, rows, ?_, all, ⟨by simp, opening⟩, ?_, bounded, full⟩
  · rw [Written.text_singleton] at filled
    rw [Block.lines, fillFrom, filled, Line.written, List.map_cons, List.map_map]
    rfl
  · intro row among
    exact ⟨fun empty => none (empty ▸ among), further row among⟩

/-- A paragraph is written in rows of its words, with none left out. -/
theorem lines_paragraph (width : Nat) (first : Line) (isRow : IsRow words) :
    ∃ (row : List Text) (rows : List (List Text)), Block.lines width (.paragraph first words) =
        (first.head ++ unwords row) :: rows.map (fun row => first.head ++ first.pad ++ unwords row) ∧
      row ++ rows.flatten = words ∧ IsRow row ∧ ∀ row ∈ rows, IsRow row := by
  obtain ⟨row, rows, lines, whole, isRow, isRows, _⟩ := exists_filled width first isRow
  refine ⟨row, rows, ?_, whole, isRow, isRows⟩
  rw [lines, Line.written, List.map_cons, List.map_map, Line.furtherHead_eq]
  rfl

end ModalVi.Reflow
