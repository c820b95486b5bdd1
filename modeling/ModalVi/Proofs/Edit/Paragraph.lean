import Mathlib.Data.List.Chain
import ModalVi.Proofs.Edit.Filling

namespace ModalVi.Reflow

/-! Paragraphs as they are found in a text.

A paragraph is opened by a line that is not blank, consists of words, and is followed by nothing that
could go on with it. -/

open Text (IsWord unwords)

variable {markers : List Text} {line first : Line} {words : List Text} {block next : Block}

/-! ### Paragraphs that are found -/

/-- A paragraph as it can be found: with an opening line that is not blank, and words. -/
structure Paragraph (markers : List Text) (first : Line) (words : List Text) : Prop where
  formed : first.Formed markers
  shown : first.isBlank = false
  row : IsRow words
  unbroken : ∀ word ∈ words, '\n' ∉ word
  bullet : first.isListItem = true → words.head? = some ['-']

def Block.Formed (markers : List Text) : Block → Prop
  | .blank line => line.Formed markers
  | .paragraph first words => Paragraph markers first words

theorem mem_words_content {word : Text} (formed : line.Formed markers)
    (member : word ∈ Text.words line.content) : IsWord word ∧ '\n' ∉ word := by
  obtain ⟨isWord, letters⟩ := Text.mem_words member
  exact ⟨isWord, fun broken => formed.unbroken (letters broken)⟩

theorem Line.Formed.paragraph (formed : line.Formed markers) (shown : line.isBlank = false) :
    Paragraph markers line (Text.words line.content) where
  formed := formed
  shown := shown
  row := ⟨Text.words_ne_nil (formed.trimmed (by simpa [Line.isBlank] using shown)),
    fun _ member => (mem_words_content formed member).1⟩
  unbroken _ member := (mem_words_content formed member).2
  bullet := head_words_of_isListItem

theorem Paragraph.append (paragraph : Paragraph markers first words)
    (formed : line.Formed markers) :
    Paragraph markers first (words ++ Text.words line.content) where
  formed := paragraph.formed
  shown := paragraph.shown
  row := by
    refine ⟨by simp [paragraph.row.given], fun word member => ?_⟩
    rcases List.mem_append.mp member with before | added
    · exact paragraph.row.isWords word before
    · exact (mem_words_content formed added).1
  unbroken word member := by
    rcases List.mem_append.mp member with before | added
    · exact paragraph.unbroken word before
    · exact (mem_words_content formed added).2
  bullet item := by
    rw [List.head?_append, paragraph.bullet item]
    rfl

/-- A line that does not go on with the paragraph ends it. -/
theorem blocksFrom_of_parted {rest : List Line} (parted : Line.continues first line = false) :
    blocksFrom (some (first, words)) (line :: rest) =
      .paragraph first words :: blocksFrom none (line :: rest) := by
  simp only [blocksFrom, parted, Bool.false_eq_true, if_false]

theorem formed_of_mem_blocksFrom {lines : List Line} (formed : ∀ line ∈ lines, line.Formed markers)
    {opened : Option (Line × List Text)}
    (paragraph : ∀ first words, opened = some (first, words) → Paragraph markers first words)
    (member : block ∈ blocksFrom opened lines) : block.Formed markers := by
  induction lines generalizing opened with
  | nil =>
      obtain _ | ⟨first, words⟩ := opened
      · cases member
      · cases List.mem_singleton.mp member
        exact paragraph first words rfl
  | cons line rest ih =>
      have opening := formed line (by simp)
      have later : ∀ line ∈ rest, line.Formed markers := fun next known => formed next (by simp [known])
      have fresh (member : block ∈ blocksFrom none (line :: rest)) : block.Formed markers := by
        rw [blocksFrom] at member
        split at member
        · rcases List.mem_cons.mp member with rfl | among
          · exact opening
          · exact ih later (by simp) among
        · rename_i shown
          refine ih later ?_ member
          rintro _ _ ⟨⟩
          exact opening.paragraph (by simpa using shown)
      obtain _ | ⟨first, words⟩ := opened
      · exact fresh member
      · cases continued : Line.continues first line with
        | true =>
            rw [blocksFrom, if_pos continued] at member
            refine ih later ?_ member
            rintro _ _ ⟨⟩
            exact (paragraph first words rfl).append opening
        | false =>
            rw [blocksFrom_of_parted continued] at member
            rcases List.mem_cons.mp member with rfl | among
            · exact paragraph first words rfl
            · exact fresh among

/-! ### Paragraphs that are apart -/

def Block.opening : Block → Line
  | .blank line => line
  | .paragraph first _ => first

/-- The next block does not go on with this one. -/
def Block.Parts : (block next : Block) → Prop
  | .blank _, _ => True
  | .paragraph first _, next => Line.continues first next.opening = false

theorem exists_blocksFrom_some (first : Line) (words : List Text) (lines : List Line) :
    ∃ all more, blocksFrom (some (first, words)) lines = .paragraph first all :: more := by
  induction lines generalizing words with
  | nil => exact ⟨words, [], rfl⟩
  | cons line rest ih =>
      rw [blocksFrom]
      split
      · exact ih _
      · exact ⟨words, _, rfl⟩

/-- The first line of a text opens its first block. -/
theorem exists_blocksFrom_none (line : Line) (rest : List Line) :
    ∃ block more, blocksFrom none (line :: rest) = block :: more ∧ block.opening = line := by
  rw [blocksFrom]
  split
  · exact ⟨_, _, rfl, rfl⟩
  · obtain ⟨words, more, opened⟩ := exists_blocksFrom_some line (Text.words line.content) rest
    exact ⟨_, more, opened, rfl⟩

theorem isChain_blocksFrom (opened : Option (Line × List Text)) (lines : List Line) :
    (blocksFrom opened lines).IsChain Block.Parts := by
  induction lines generalizing opened with
  | nil =>
      cases opened with
      | none => exact .nil
      | some paragraph => exact .singleton _
  | cons line rest ih =>
      have fresh : (blocksFrom none (line :: rest)).IsChain Block.Parts := by
        rw [blocksFrom]
        split
        · exact List.isChain_cons.mpr ⟨fun _ _ => trivial, ih none⟩
        · exact ih _
      obtain _ | ⟨first, words⟩ := opened
      · exact fresh
      · cases continued : Line.continues first line with
        | true =>
            rw [blocksFrom, if_pos continued]
            exact ih _
        | false =>
            rw [blocksFrom_of_parted continued]
            refine List.isChain_cons.mpr ⟨?_, fresh⟩
            obtain ⟨block, more, opened, opening⟩ := exists_blocksFrom_none line rest
            rw [opened]
            rintro _ ⟨⟩
            rw [Block.Parts, opening]
            exact continued

end ModalVi.Reflow
