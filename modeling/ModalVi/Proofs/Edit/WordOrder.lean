import ModalVi.Proofs.Edit.Reflow

namespace ModalVi

/-! Words of a text that was filled.

Filling puts every word of a paragraph back, in the order in which they were read.  Only prefixes come and
go: a line gives its prefix up, and the lines of the paragraph are each written with one again. -/

open Text (words_spaces_append words_append_space)

variable {markers : List Text} {line first : Reflow.Line} {width : Nat}
  {block : Reflow.Block}

/-- The words of a text that are no prefixes. -/
def Text.prose (markers : List Text) (text : Text) : List Text :=
  (Text.words text).filter (!markers.contains ·)

namespace Reflow

open Text (prose)

/-- The words that a block holds. -/
def Block.words : Block → List Text
  | .blank _ => []
  | .paragraph _ words => words

/-! ### Words that are read -/

theorem prose_marker_append {marker rest : Text} (solid : Solid markers) (member : marker ∈ markers)
    (given : marker ≠ []) (ends : rest.head?.all Unicode.isWhitespace = true) :
    prose markers (marker ++ rest) = prose markers rest := by
  rw [prose, Text.words_append ⟨given, solid marker member⟩ ends, List.filter_cons_of_neg (by simpa)]
  rfl

theorem isWhitespace_of_indents {lead : Text} (indents : Indents lead) :
    ∀ c ∈ lead, Unicode.isWhitespace c = true := by
  intro c member
  rcases indents c member with rfl | rfl <;> decide

/-- Taking a line apart leaves its words in what it holds, but for its prefix. -/
theorem prose_parse (solid : Solid markers) (text : Text) :
    prose markers (Line.parse markers text).content = prose markers text := by
  let blank (c : Char) : Bool := c == ' ' || c == '\t'
  have indents : Indents (text.takeWhile blank) := by
    intro c member
    simpa [blank] using List.all_eq_true.mp (List.all_takeWhile (p := blank) (l := text)) c member
  have body : prose markers (text.dropWhile blank) = prose markers text := by
    rw [prose, ← words_spaces_append (isWhitespace_of_indents indents) (text.dropWhile blank),
      List.takeWhile_append_dropWhile, prose]
  have content : (Line.parse markers text).content = Text.trim ((text.dropWhile blank).drop
      ((longestMarker markers (text.dropWhile blank)).getD []).length) := rfl
  rw [← body, content]
  generalize text.dropWhile blank = body
  rw [prose, Text.words_trim]
  rcases longestMarker_cases markers body with ⟨absent, _⟩ | ⟨marker, read, member, fits, _⟩
  · rw [absent]
    rfl
  · obtain ⟨given, ⟨rest, rfl⟩, ends⟩ := fits
    rw [List.drop_left] at ends
    rw [read, Option.getD_some, List.drop_left, prose_marker_append solid member given ends]
    rfl

theorem words_of_isBlank (blank : line.isBlank = true) : Text.words line.content = [] := by
  rw [List.isEmpty_iff.mp blank]
  rfl

/-- The blocks of a text hold the words of its lines, behind those of the paragraph still open. -/
theorem words_blocksFrom (opened : Option (Line × List Text)) (lines : List Line) :
    (blocksFrom opened lines).flatMap Block.words =
      opened.elim [] Prod.snd ++ lines.flatMap (Text.words ·.content) := by
  induction lines generalizing opened with
  | nil =>
      obtain _ | ⟨first, words⟩ := opened
      · rfl
      · simp [blocksFrom, Block.words]
  | cons line rest ih =>
      -- A line that ends the open paragraph is then read as if none had been open.
      have fresh : (blocksFrom none (line :: rest)).flatMap Block.words =
          (line :: rest).flatMap (Text.words ·.content) := by
        rw [blocksFrom]
        split
        · rename_i blank
          rw [List.flatMap_cons, ih, List.flatMap_cons, words_of_isBlank blank]
          rfl
        · rw [ih]
          rfl
      obtain _ | ⟨first, words⟩ := opened
      · exact fresh
      · cases continued : Line.continues first line with
        | true =>
            rw [blocksFrom, if_pos continued, ih, List.flatMap_cons, ← List.append_assoc]
            rfl
        | false =>
            rw [blocksFrom_of_parted continued, List.flatMap_cons, fresh]
            rfl

/-! ### Words that are written -/

theorem Line.Formed.mem_markers {marker : Text} (formed : line.Formed markers)
    (marked : line.marker = some marker) : marker ∈ markers := by
  have alone := formed.alone marker marked
  rcases longestMarker_cases markers marker with ⟨absent, _⟩ | ⟨found, read, member, _⟩
  · cases absent.symm.trans alone
  · cases read.symm.trans alone
    exact member

/-- What stands before the words of a line is blanks and a prefix. -/
theorem prose_head_append (solid : Solid markers) (formed : first.Formed markers) (rest : Text) :
    prose markers (first.head ++ rest) = prose markers rest := by
  have lead (rest : Text) : prose markers (first.lead ++ rest) = prose markers rest := by
    rw [prose, words_spaces_append (isWhitespace_of_indents formed.indents), prose]
  cases marked : first.marker with
  | none =>
      have head : first.head = first.lead := by simp only [Line.head, marked]
      rw [head, lead]
  | some marker =>
      have head : first.head ++ rest = first.lead ++ (marker ++ (' ' :: rest)) := by
        simp [Line.head, marked]
      rw [head, lead, prose_marker_append solid (formed.mem_markers marked) (formed.begins marker marked).2.1
        (by simp; decide), prose, Text.words_cons_space (by decide), prose]

theorem prose_kept (solid : Solid markers) (formed : line.Formed markers) :
    prose markers line.kept = [] := by
  cases marked : line.marker with
  | none =>
      rw [kept_eq_nil formed marked]
      rfl
  | some marker =>
      have kept : line.kept = line.lead ++ (marker ++ []) := by simp [Line.kept, marked]
      have alone : prose markers (marker ++ []) = prose markers [] :=
        prose_marker_append solid (formed.mem_markers marked) (formed.begins marker marked).2.1 rfl
      rw [kept, prose, words_spaces_append (isWhitespace_of_indents formed.indents), ← prose, alone]
      rfl

theorem prose_lines (solid : Solid markers) (formed : block.Formed markers) (width : Nat) :
    (block.lines width).flatMap (prose markers) = block.words.filter (!markers.contains ·) := by
  cases block with
  | blank line => simpa [Block.lines, Block.words] using prose_kept solid formed
  | paragraph first words =>
      obtain ⟨row, rows, written, whole, isRow, isRows⟩ := lines_paragraph width first formed.row
      have padding : ∀ c ∈ first.pad, Unicode.isWhitespace c = true := by
        intro c member
        rw [first.eq_space_of_mem_pad c member]
        decide
      have opening : prose markers (first.head ++ Text.unwords row) = row.filter (!markers.contains ·) := by
        rw [prose_head_append solid formed.formed, prose, Text.words_unwords isRow.isWords]
      have further : ∀ row ∈ rows, prose markers (first.head ++ first.pad ++ Text.unwords row) =
          row.filter (!markers.contains ·) := by
        intro row among
        rw [List.append_assoc, prose_head_append solid formed.formed, prose,
          words_spaces_append padding, Text.words_unwords (isRows row among).isWords]
      rw [written, List.flatMap_cons, opening, List.flatMap_map, List.flatMap_congr further, Block.words,
        ← whole, List.filter_append, List.filter_flatten, List.flatMap_def]

end Reflow

namespace Text

theorem prose_ofLines (markers : List Text) (list : List Text) :
    prose markers (ofLines list) = list.flatMap (prose markers) := by
  rw [prose, words_ofLines, List.filter_flatMap]
  rfl

theorem prose_eq_words (text : Text) : prose [] text = words text := by
  simp [prose]

/-- Filling keeps the words of a text and their order, but for prefixes; without prefixes it keeps all
words. -/
theorem prose_reflow (width : Nat) (text : Text) :
    (∀ markers, Reflow.Solid markers →
      prose markers (reflow width markers text) = prose markers text) ∧
    words (reflow width [] text) = words text := by
  have kept (markers : List Text) (solid : Reflow.Solid markers) :
      prose markers (reflow width markers text) = prose markers text := by
    -- The words in between, which the blocks hold, are those written and those read.
    have written : ((blocks markers text).flatMap (Reflow.Block.lines width)).flatMap (prose markers) =
        ((blocks markers text).flatMap Reflow.Block.words).filter (!markers.contains ·) := by
      rw [List.flatMap_assoc, List.filter_flatMap]
      exact List.flatMap_congr fun block member =>
        Reflow.prose_lines solid (formed_of_mem_blocks member) width
    have read : ((blocks markers text).flatMap Reflow.Block.words).filter (!markers.contains ·) =
        (lines text).flatMap (prose markers) := by
      rw [blocks, Reflow.words_blocksFrom, Option.elim_none, List.nil_append, List.filter_flatMap,
        List.flatMap_map]
      exact List.flatMap_congr fun line _ => Reflow.prose_parse solid line
    rw [reflow_eq_ofLines, prose_ofLines, written, read, ← prose_ofLines, ofLines_lines]
  refine ⟨kept, ?_⟩
  have all := kept [] (by decide)
  rwa [prose_eq_words, prose_eq_words] at all

/-- A comment whose lines are filled again, with one prefix within its words and more before them than
there were. -/
theorem prose_reflow_of_comment :
    let markers : List Text := [['#'], ['/', '/']]
    let text : Text := "# one # two\n# three four\n\n- x  // y z\n".toList
    let filled : Text := "# one #\n# two\n# three\n# four\n\n- x //\n  y z\n".toList
    Reflow.Solid markers ∧ reflow 8 markers text = filled ∧
      prose markers filled = prose markers text ∧
      prose markers text = ["one", "two", "three", "four", "-", "x", "y", "z"].map String.toList := by
  intro markers text filled
  have solid : Reflow.Solid markers := by decide
  have written : reflow 8 markers text = filled := by decide
  have kept := (prose_reflow 8 text).1 markers solid
  rw [written] at kept
  exact ⟨solid, written, kept, by decide⟩

end Text

end ModalVi
