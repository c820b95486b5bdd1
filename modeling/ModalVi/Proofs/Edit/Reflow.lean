import ModalVi.Proofs.Edit.Paragraph

namespace ModalVi.Reflow

/-! Filling paragraphs that were filled already.

A second filling reads the lines that the first one wrote.  Where every line of a paragraph is read back
as the line it was written as, the same paragraphs are found again, and filling them changes nothing. -/

open Text (unwords words_unwords)

variable {markers : List Text} {marker body : Text} {first again : Line} {width : Nat}
  {words : List Text} {block next : Block}

/-! ### Paragraphs that are read back -/

/-- The lines of the paragraph are read with its prefix, and the first of them alone as a list item if it
was one. -/
structure Paragraph.ReadBack (width : Nat) (markers : List Text) (first : Line)
    (words : List Text) :
    Prop where
  marker : ∀ line ∈ Block.lines width (.paragraph first words),
    (Line.parse markers line).marker = first.marker
  opening : ∀ line ∈ (Block.lines width (.paragraph first words)).head?,
    (Line.parse markers line).isListItem = first.isListItem
  further : ∀ line ∈ (Block.lines width (.paragraph first words)).tail,
    (Line.parse markers line).isListItem = false

def Block.ReadBack (width : Nat) (markers : List Text) : Block → Prop
  | .blank _ => True
  | .paragraph first words => Paragraph.ReadBack width markers first words

instance (width : Nat) (markers : List Text) : DecidablePred (Block.ReadBack width markers)
  | .blank _ => inferInstanceAs (Decidable True)
  | .paragraph first words => decidable_of_iff
      ((∀ line ∈ Block.lines width (.paragraph first words),
          (Line.parse markers line).marker = first.marker) ∧
        (∀ line ∈ (Block.lines width (.paragraph first words)).head?,
          (Line.parse markers line).isListItem = first.isListItem) ∧
        ∀ line ∈ (Block.lines width (.paragraph first words)).tail,
          (Line.parse markers line).isListItem = false)
      ⟨fun ⟨marker, opening, further⟩ => ⟨marker, opening, further⟩,
        fun ⟨marker, opening, further⟩ => ⟨marker, opening, further⟩⟩

/-- Lines that open the same paragraphs, with whatever words. -/
structure Line.Alike (first again : Line) : Prop where
  lead : again.lead = first.lead
  marker : again.marker = first.marker
  item : again.isListItem = first.isListItem
  shown : again.isBlank = first.isBlank

theorem Line.Alike.continues_left (alike : first.Alike again) (line : Line) :
    Line.continues again line = Line.continues first line := by
  simp only [Line.continues, alike.lead, alike.marker, alike.item]

theorem Line.Alike.continues_right (alike : first.Alike again) (line : Line) :
    Line.continues line again = Line.continues line first := by
  simp only [Line.continues, alike.lead, alike.marker, alike.item, alike.shown]

theorem Line.Alike.lines (alike : first.Alike again) (width : Nat) (words : List Text) :
    Block.lines width (.paragraph again words) = Block.lines width (.paragraph first words) := by
  have head : again.head = first.head := by simp only [Line.head, alike.lead, alike.marker]
  simp only [Block.lines, Line.furtherHead, head, alike.item]

/-- A further line goes on with the paragraph that the first line opens again. -/
theorem continues_further {row : List Text} (isRow : IsRow row)
    (item : Line.isListItem ⟨first.lead ++ if first.marker.isNone then first.pad else [], first.marker,
      unwords row⟩ = false) :
    Line.continues first ⟨first.lead ++ if first.marker.isNone then first.pad else [], first.marker,
      unwords row⟩ = true := by
  have shown : (unwords row).isEmpty = false := by simpa using isRow.unwords_ne_nil
  simp only [Line.continues, Line.isBlank, shown, item, bne_self_eq_false, Bool.or_false,
    Bool.false_eq_true, if_false, Bool.or_eq_true, Bool.and_eq_true, beq_iff_eq]
  cases marked : first.marker.isNone with
  | false => simp
  | true =>
      cases listed : first.isListItem with
      | false => simp [Line.pad, listed]
      | true => simp [Line.pad, listed]

/-- A paragraph that is read back is opened again, and goes on to its last line. -/
theorem parse_lines_paragraph (paragraph : Paragraph markers first words)
    (readBack : Paragraph.ReadBack width markers first words) :
    ∃ again further,
      (Block.lines width (.paragraph first words)).map (Line.parse markers) = again :: further ∧
        first.Alike again ∧ (∀ line ∈ further, Line.continues first line = true) ∧
        Text.words again.content ++ further.flatMap (Text.words ·.content) = words := by
  obtain ⟨row, rows, written, whole, isRow, isRows⟩ := lines_paragraph width first paragraph.row
  obtain ⟨marker, opening, later⟩ := readBack
  rw [written] at marker opening later ⊢
  have readRow : Line.parse markers (first.head ++ unwords row) =
      ⟨first.lead, first.marker, unwords row⟩ := by
    have known := marker _ List.mem_cons_self
    rw [← List.append_nil first.head] at known ⊢
    rw [parse_written paragraph.formed (List.forall_mem_nil _) isRow known]
    simp
  have readRows : ∀ row ∈ rows, Line.parse markers (first.head ++ first.pad ++ unwords row) =
      ⟨first.lead ++ if first.marker.isNone then first.pad else [], first.marker, unwords row⟩ :=
    fun row among => parse_written paragraph.formed first.eq_space_of_mem_pad (isRows row among)
      (marker _ (List.mem_cons_of_mem _ (List.mem_map_of_mem among)))
  refine ⟨_, _, List.map_cons, ⟨?_, ?_, ?_, ?_⟩, ?_, ?_⟩
  · rw [readRow]
  · rw [readRow]
  · exact opening _ rfl
  · rw [readRow, paragraph.shown]
    simpa [Line.isBlank] using isRow.unwords_ne_nil
  · intro line member
    simp only [List.map_map, List.mem_map, Function.comp_apply] at member
    obtain ⟨row, among, rfl⟩ := member
    have item := later _ (List.mem_map_of_mem among)
    rw [readRows row among] at item ⊢
    exact continues_further (isRows row among) item
  · have read : rows.map (fun row => Text.words
        (Line.parse markers (first.head ++ first.pad ++ unwords row)).content) = rows := by
      refine (List.map_congr_left (g := id) fun row among => ?_).trans (List.map_id rows)
      rw [readRows row among]
      exact words_unwords (isRows row among).isWords
    rw [readRow, words_unwords isRow.isWords, List.flatMap_map, List.flatMap_map, List.flatMap, read,
      whole]

/-! ### Paragraphs that are found again -/

theorem blocksFrom_continuing {further : List Line}
    (continuing : ∀ line ∈ further, Line.continues first line = true) (words : List Text)
    (rest : List Line) :
    blocksFrom (some (first, words)) (further ++ rest) =
      blocksFrom (some (first, words ++ further.flatMap (Text.words ·.content))) rest := by
  induction further generalizing words with
  | nil => simp
  | cons line further ih =>
      have later := ih (fun next member => continuing next (List.mem_cons_of_mem _ member))
        (words ++ Text.words line.content)
      rw [List.cons_append, blocksFrom, if_pos (continuing line (by simp)), later, List.append_assoc,
        List.flatMap_cons]

/-- The lines of a paragraph are found as such a paragraph. -/
theorem blocksFrom_lines_paragraph (paragraph : Paragraph markers first words)
    (readBack : Paragraph.ReadBack width markers first words) {rest : List Line}
    (parted : ∀ line ∈ rest.head?, Line.continues first line = false) :
    ∃ again, first.Alike again ∧
      blocksFrom none ((Block.lines width (.paragraph first words)).map (Line.parse markers) ++ rest) =
        .paragraph again words :: blocksFrom none rest := by
  obtain ⟨again, further, read, alike, continuing, whole⟩ := parse_lines_paragraph paragraph readBack
  refine ⟨again, alike, ?_⟩
  have shown : again.isBlank = false := alike.shown.trans paragraph.shown
  have same : ∀ line ∈ further, Line.continues again line = true := fun line member =>
    (alike.continues_left line).trans (continuing line member)
  rw [read, List.cons_append, blocksFrom, if_neg (by simp [shown]), blocksFrom_continuing same, whole]
  cases rest with
  | nil => rfl
  | cons line rest => exact blocksFrom_of_parted ((alike.continues_left line).trans (parted line rfl))

/-- What does not go on with a paragraph does not go on with it when it is written and read. -/
theorem parted_lines (formed : next.Formed markers) (readBack : next.ReadBack width markers)
    (parted : Line.continues first next.opening = false) :
    ∀ line ∈ ((next.lines width).map (Line.parse markers)).head?, Line.continues first line = false := by
  cases next with
  | blank line =>
      obtain ⟨shown, _⟩ := kept_parse_kept formed
      rintro _ ⟨⟩
      simp [Line.continues, shown]
  | paragraph other words =>
      obtain ⟨again, further, read, alike, _⟩ := parse_lines_paragraph formed readBack
      rw [read]
      rintro _ ⟨⟩
      exact (alike.continues_right first).trans parted

theorem blocksFrom_concat_blank {blank : Line} (nothing : blank.isBlank = true)
    (opened : Option (Line × List Text)) (lines : List Line) :
    blocksFrom opened (lines ++ [blank]) = blocksFrom opened lines ++ [.blank blank] := by
  induction lines generalizing opened with
  | nil =>
      cases opened with
      | none => simp [blocksFrom, nothing]
      | some paragraph => simp [blocksFrom, Line.continues, nothing]
  | cons line rest ih =>
      have fresh : blocksFrom none (line :: (rest ++ [blank])) =
          blocksFrom none (line :: rest) ++ [.blank blank] := by
        rw [blocksFrom, blocksFrom]
        split
        · rw [ih, List.cons_append]
        · exact ih _
      obtain _ | ⟨first, words⟩ := opened
      · exact fresh
      · cases continued : Line.continues first line with
        | true =>
            rw [List.cons_append, blocksFrom, blocksFrom, if_pos continued, if_pos continued]
            exact ih _
        | false =>
            rw [List.cons_append, blocksFrom_of_parted continued, blocksFrom_of_parted continued, fresh,
              List.cons_append]

theorem lines_ne_nil (formed : block.Formed markers) (width : Nat) : block.lines width ≠ [] := by
  cases block with
  | blank line => simp [Block.lines]
  | paragraph first words =>
      obtain ⟨row, rows, written, _⟩ := lines_paragraph width first formed.row
      simp [written]

/-- The blocks of the lines that blocks are written as are written as the same lines. -/
theorem lines_blocksFrom_lines {blocks : List Block}
    (formed : ∀ block ∈ blocks, block.Formed markers)
    (readBack : ∀ block ∈ blocks, block.ReadBack width markers)
    (apart : blocks.IsChain Block.Parts) :
    (blocksFrom none ((blocks.flatMap (Block.lines width)).map (Line.parse markers))).flatMap
      (Block.lines width) = blocks.flatMap (Block.lines width) := by
  -- Where a paragraph ends is seen by the line after it, the first one that the next block wrote: it has
  -- to be read as a line that does not go on with the paragraph, as the line that opened that block.
  induction blocks with
  | nil => rfl
  | cons block rest ih =>
      obtain ⟨parts, apart⟩ := List.isChain_cons.mp apart
      have formedRest : ∀ next ∈ rest, next.Formed markers := fun next member =>
        formed next (List.mem_cons_of_mem _ member)
      have readBackRest : ∀ next ∈ rest, next.ReadBack width markers := fun next member =>
        readBack next (List.mem_cons_of_mem _ member)
      have later := ih formedRest readBackRest apart
      rw [List.flatMap_cons, List.map_append]
      cases block with
      | blank line =>
          obtain ⟨shown, kept⟩ := kept_parse_kept (formed _ List.mem_cons_self)
          simp only [Block.lines, List.map_cons, List.map_nil, List.singleton_append, blocksFrom, shown,
            if_true, List.flatMap_cons, kept, later]
      | paragraph first words =>
          have parted : ∀ line ∈ ((rest.flatMap (Block.lines width)).map (Line.parse markers)).head?,
              Line.continues first line = false := by
            cases rest with
            | nil => simp
            | cons next rest =>
                have known := formedRest next List.mem_cons_self
                intro line head
                refine parted_lines known (readBackRest next List.mem_cons_self) (parts next rfl) line ?_
                simpa [List.head?_append, lines_ne_nil known] using head
          obtain ⟨again, alike, found⟩ := blocksFrom_lines_paragraph
            (formed _ List.mem_cons_self) (readBack _ List.mem_cons_self) parted
          rw [found, List.flatMap_cons, alike.lines, later]

/-- No line of a block is broken. -/
theorem unbroken_of_mem_lines (formed : block.Formed markers) {line : Text}
    (member : line ∈ block.lines width) : '\n' ∉ line := by
  cases block with
  | blank line =>
      cases List.mem_singleton.mp member
      exact unbroken_kept formed
  | paragraph first words =>
      obtain ⟨row, rows, written, whole, _⟩ := lines_paragraph width first formed.row
      have pad : '\n' ∉ first.pad := fun member => by
        simpa using first.eq_space_of_mem_pad '\n' member
      rw [written, List.mem_cons, List.mem_map] at member
      rw [← whole] at formed
      rcases member with rfl | ⟨row, among, rfl⟩
      · have inRow := Text.unbroken_unwords fun word member =>
          formed.unbroken word (List.mem_append_left _ member)
        simp [unbroken_head formed.formed, inRow]
      · have inRow := Text.unbroken_unwords fun word member =>
          formed.unbroken word (List.mem_append_right _ (List.mem_flatten_of_mem among member))
        simp [unbroken_head formed.formed, pad, inRow]

/-! ### Words that are not misread -/

/-- No marker has white space in it. -/
def Solid (markers : List Text) : Prop :=
  ∀ marker ∈ markers, ∀ c ∈ marker, Unicode.isWhitespace c = false

/-- No word of the paragraph is a marker unless it has one, and none is a dash but that of its list
item. -/
structure Paragraph.Plain (markers : List Text) (first : Line) (words : List Text) : Prop where
  unmarked : first.marker = none → ∀ word ∈ words, word ∉ markers
  opening : words.head? = some ['-'] → first.isListItem = true
  further : ['-'] ∉ words.tail

def Block.Plain (markers : List Text) : Block → Prop
  | .blank _ => True
  | .paragraph first words => Paragraph.Plain markers first words

instance (markers : List Text) : Decidable (Solid markers) :=
  decidable_of_iff (markers.all fun marker => marker.all fun c => !Unicode.isWhitespace c)
    (by simp [Solid])

instance (markers : List Text) : DecidablePred (Block.Plain markers)
  | .blank _ => inferInstanceAs (Decidable True)
  | .paragraph first words => decidable_of_iff
      ((first.marker = none → ∀ word ∈ words, word ∉ markers) ∧
        (words.head? = some ['-'] → first.isListItem = true) ∧ ['-'] ∉ words.tail)
      ⟨fun ⟨unmarked, opening, further⟩ => ⟨unmarked, opening, further⟩,
        fun ⟨unmarked, opening, further⟩ => ⟨unmarked, opening, further⟩⟩

theorem head_words_of_fits (solid : Solid markers) (member : marker ∈ markers)
    (fits : Fits marker body) : (Text.words body).head? = some marker := by
  have ends := fits.ends
  obtain ⟨rest, rfl⟩ := fits.starts
  rw [List.drop_left] at ends
  rw [Text.words_append ⟨fits.given, solid marker member⟩ ends]
  rfl

/-- A written line has the prefix that it was written with. -/
theorem marker_parse_of_plain {pad : Text} {row : List Text} (solid : Solid markers)
    (formed : first.Formed markers) (padding : ∀ c ∈ pad, c = ' ') (isRow : IsRow row)
    (plain : first.marker = none → ∀ word ∈ row, word ∉ markers) :
    (Line.parse markers (first.head ++ pad ++ unwords row)).marker = first.marker := by
  cases marked : first.marker with
  | none =>
      rw [parse_unmarked formed padding isRow marked]
      rcases longestMarker_cases markers (unwords row) with ⟨none, _⟩ | ⟨marker, _, member, fits, _⟩
      · exact none
      · have head := head_words_of_fits solid member fits
        rw [words_unwords isRow.isWords] at head
        exact absurd member (plain marked marker (List.mem_of_head? head))
  | some marker =>
      rw [parse_marked formed marked]
      have alone := formed.alone marker marked
      rcases longestMarker_cases markers marker with ⟨none, _⟩ | ⟨found, again, member, fits, _⟩
      · cases none.symm.trans alone
      · cases again.symm.trans alone
        have fitsAlso : Fits marker (marker ++ (' ' :: pad ++ unwords row)) :=
          ⟨fits.given, List.prefix_append _ _, by simp; decide⟩
        have first := head_words_of_fits solid member fitsAlso
        refine longestMarker_eq member fitsAlso fun other known fitsOther => ?_
        have same : other = marker := by
          have head := head_words_of_fits solid known fitsOther
          simpa using head.symm.trans first
        exact same ▸ Nat.le_refl _

/-- A paragraph of plain words is read back at every width. -/
theorem readBack_of_plain (solid : Solid markers) (paragraph : Paragraph markers first words)
    (plain : Paragraph.Plain markers first words) (width : Nat) :
    Paragraph.ReadBack width markers first words := by
  obtain ⟨row, rows, written, whole, isRow, isRows⟩ := lines_paragraph width first paragraph.row
  obtain ⟨unmarked, opening, further⟩ := plain
  have readRow : (Line.parse markers (first.head ++ [] ++ unwords row)).marker = first.marker :=
    marker_parse_of_plain solid paragraph.formed (List.forall_mem_nil _) isRow fun none word member =>
      unmarked none word (whole ▸ List.mem_append_left _ member)
  have readRows : ∀ row ∈ rows,
      (Line.parse markers (first.head ++ first.pad ++ unwords row)).marker = first.marker :=
    fun row among => marker_parse_of_plain solid paragraph.formed first.eq_space_of_mem_pad
      (isRows row among) fun none word member =>
        unmarked none word (whole ▸ List.mem_append_right _ (List.mem_flatten_of_mem among member))
  have head : words.head? = row.head? := by
    rw [← whole, List.head?_append_of_ne_nil _ isRow.given]
  have later : rows.flatten ⊆ words.tail := by
    rw [← whole, List.tail_append_of_ne_nil isRow.given]
    exact List.subset_append_right _ _
  constructor
  · rw [written]
    rintro line (_ | ⟨_, later⟩)
    · simpa using readRow
    · obtain ⟨row, among, rfl⟩ := List.mem_map.mp later
      exact readRows row among
  · rw [written]
    rintro _ ⟨⟩
    have read := parse_written paragraph.formed (List.forall_mem_nil _) isRow readRow
    rw [List.append_nil] at read
    rw [read, Bool.eq_iff_iff, isListItem_unwords isRow, ← head]
    exact ⟨opening, paragraph.bullet⟩
  · rw [written]
    intro line member
    obtain ⟨row, among, rfl⟩ := List.mem_map.mp member
    have read := parse_written paragraph.formed first.eq_space_of_mem_pad (isRows row among)
      (readRows row among)
    rw [read, Bool.eq_false_iff, ne_eq, isListItem_unwords (isRows row among)]
    intro dash
    exact further (later (List.mem_flatten_of_mem among (List.mem_of_head? dash)))

end ModalVi.Reflow

namespace ModalVi.Text

variable {width : Nat} {markers : List Text} {text : Text}

/-- The paragraphs and blank lines of a text. -/
def blocks (markers : List Text) (text : Text) : List Reflow.Block :=
  Reflow.blocksFrom none ((lines text).map (Reflow.Line.parse markers))

theorem formed_of_mem_blocks {block : Reflow.Block} (member : block ∈ blocks markers text) :
    block.Formed markers := by
  refine Reflow.formed_of_mem_blocksFrom ?_ (by simp) member
  intro line known
  obtain ⟨written, among, rfl⟩ := List.mem_map.mp known
  exact Reflow.formed_parse (unbroken_of_mem_lines among) markers

theorem lines_blocks_ne_nil (width : Nat) (markers : List Text) (text : Text) :
    (blocks markers text).flatMap (Reflow.Block.lines width) ≠ [] := by
  obtain ⟨line, rest, whole⟩ := List.exists_cons_of_ne_nil (lines_ne_nil text)
  obtain ⟨block, more, opened, _⟩ := Reflow.exists_blocksFrom_none (Reflow.Line.parse markers line)
    (rest.map (Reflow.Line.parse markers))
  have found : blocks markers text = block :: more := by rw [blocks, whole, List.map_cons, opened]
  have formed : block.Formed markers := formed_of_mem_blocks (found ▸ List.mem_cons_self)
  rw [found, List.flatMap_cons]
  exact fun nothing => Reflow.lines_ne_nil formed width (List.append_eq_nil_iff.mp nothing).1

/-- A final break is filled as a last line that is blank. -/
theorem reflow_eq_ofLines (width : Nat) (markers : List Text) (text : Text) :
    reflow width markers text =
      ofLines ((blocks markers text).flatMap (Reflow.Block.lines width)) := by
  by_cases broken : text.getLast? = some '\n'
  · obtain ⟨body, rfl⟩ := List.getLast?_eq_some_iff.mp broken
    have found : blocks markers (body ++ ['\n']) = blocks markers body ++ [.blank ⟨[], none, []⟩] := by
      rw [blocks, lines_concat_break, List.map_append, List.map_singleton, Reflow.parse_nil]
      exact Reflow.blocksFrom_concat_blank rfl none _
    have kept : Reflow.Block.lines width (.blank ⟨[], none, []⟩) = [[]] := rfl
    rw [found, List.flatMap_append, List.flatMap_singleton, kept,
      ofLines_concat_nil (lines_blocks_ne_nil width markers body), reflow,
      splitFinalBreak_concat_break]
    rfl
  · have whole : splitFinalBreak text = (text, false) := if_neg broken
    rw [reflow, whole]
    rfl

/-- The lines of a filled text are those of its blocks. -/
theorem lines_reflow (width : Nat) (markers : List Text) (text : Text) :
    lines (reflow width markers text) = (blocks markers text).flatMap (Reflow.Block.lines width) := by
  rw [reflow_eq_ofLines]
  refine lines_ofLines (lines_blocks_ne_nil width markers text) fun line member => ?_
  obtain ⟨block, among, within⟩ := List.mem_flatMap.mp member
  exact Reflow.unbroken_of_mem_lines (formed_of_mem_blocks among) within

theorem reflow_of_readBack (readBack : ∀ block ∈ blocks markers text, block.ReadBack width markers) :
    reflow width markers (reflow width markers text) = reflow width markers text := by
  rw [reflow_eq_ofLines width markers (reflow width markers text), blocks, lines_reflow,
    Reflow.lines_blocksFrom_lines (fun _ => formed_of_mem_blocks) readBack
      (Reflow.isChain_blocksFrom none _), reflow_eq_ofLines]

/-- Filling a filled text changes nothing where every paragraph is read back.  Where the words of every
paragraph are plain, it changes nothing at any width. -/
theorem reflow_reflow (markers : List Text) (text : Text) :
    (∀ width, (∀ block ∈ blocks markers text, block.ReadBack width markers) →
      reflow width markers (reflow width markers text) = reflow width markers text) ∧
    (Reflow.Solid markers → (∀ block ∈ blocks markers text, block.Plain markers) →
      ∀ width, reflow width markers (reflow width markers text) = reflow width markers text) := by
  refine ⟨fun width => reflow_of_readBack, fun solid plain width => reflow_of_readBack ?_⟩
  intro block member
  have formed := formed_of_mem_blocks member
  have plain := plain block member
  cases block with
  | blank line => trivial
  | paragraph first words => exact Reflow.readBack_of_plain solid formed plain width

/-- A list item with a paragraph that has a prefix, filled twice. -/
theorem reflow_reflow_of_list_item :
    let markers : List Text := [['#']]
    let text : Text := "- one two\n\n# a b c\n".toList
    let filled : Text := "- one\n  two\n\n# a b\n# c\n".toList
    Reflow.Solid markers ∧ (∀ block ∈ blocks markers text, block.Plain markers) ∧
      (∀ block ∈ blocks markers text, block.ReadBack 6 markers) ∧
      reflow 6 markers text = filled ∧ reflow 6 markers filled = filled := by
  intro markers text filled
  have solid : Reflow.Solid markers := by decide
  have plain : ∀ block ∈ blocks markers text, block.Plain markers := by decide
  have readBack : ∀ block ∈ blocks markers text, block.ReadBack 6 markers := by decide
  have once : reflow 6 markers text = filled := by decide
  refine ⟨solid, plain, readBack, once, ?_⟩
  have twice := (reflow_reflow markers text).1 6 readBack
  rwa [once] at twice

/-- A dash that has come to begin a line is read as a list item. -/
theorem reflow_ne_of_dash :
    let markers : List Text := [['#'], ['>'], ['/', '/']]
    let filled := reflow 3 markers "a - b".toList
    filled = "a\n-\nb".toList ∧ reflow 3 markers filled = "a\n-\n  b".toList ∧
      reflow 3 markers filled ≠ filled := by
  decide

/-! ### Lines that hold as many words as there is room for

A line of a filled paragraph is shorter than the width, or holds a single word that is too long for it.
It ends only where the next word would have brought it to the width. -/

open Reflow (Filled Line)

/-- A filled text consists of the lines of its blocks, and every paragraph is filled with rows of its
words that take up as many words as there is room for. -/
theorem exists_filled_reflow (width : Nat) (markers : List Text) (text : Text) :
    lines (reflow width markers text) = (blocks markers text).flatMap (Reflow.Block.lines width) ∧
    ∀ first words, .paragraph first words ∈ blocks markers text →
      ∃ row rows, Filled width first words row rows := by
  refine ⟨lines_reflow width markers text, fun first words member => ?_⟩
  have paragraph : Reflow.Paragraph markers first words := formed_of_mem_blocks member
  exact Reflow.exists_filled width first paragraph.row

/-- A list item with a word that is longer than the width. -/
theorem exists_filled_of_list_item :
    let markers : List Text := [['#']]
    let text : Text := "# - aaa bbb c\n# incredibly d".toList
    let first : Line := ⟨[], some ['#'], "- aaa bbb c".toList⟩
    let words : List Text := ["-", "aaa", "bbb", "c", "incredibly", "d"].map String.toList
    reflow 10 markers text = "# - aaa\n#   bbb c\n#   incredibly\n#   d".toList ∧
      .paragraph first words ∈ blocks markers text ∧ ∃ row rows, Filled 10 first words row rows := by
  intro markers text first words
  have found : .paragraph first words ∈ blocks markers text := by decide
  exact ⟨by decide, found, (exists_filled_reflow 10 markers text).2 first words found⟩

end ModalVi.Text
