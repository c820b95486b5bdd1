import Mathlib.Data.List.Sort
import ModalVi.Proofs.Text.Column

namespace ModalVi

/-! Lines that are read and lines by number.

A reader knows no lines: it stops at breaks, or goes past them.  Line ranges are given by the numbers of
lines instead, and what numbers them is not part of the editor.  As long as that breaks lines at line
feeds only, both come upon the same lines, wherever in a line they begin, also at a break and in the empty
line behind a final one. -/

namespace Text

variable {text : Text} {reader : Reader} {line column offset : Nat}

/-! ### Where numbered lines start and end -/

theorem offsetAt_eq (among : line ≤ text.lastLine) (column : Nat) :
    text.offsetAt line column = startOfLine line text + column := by
  have stands := stands_start among
  have start := lineStart_eq_startOfLine stands.inside
  rw [stands.lineStart, stands.lineOf_eq] at start
  rw [← start, offsetAt, offsetAt, Nat.add_zero]

theorem endsLine_offsetAt_width (among : line ≤ text.lastLine) :
    EndsLine text (text.offsetAt line (text.width line)) := by
  have stands := stands_end among
  have ends := (isLeast_lineEnd stands.inside).1.2
  rwa [lineEnd, stands.restOfLine, Nat.sub_self] at ends

/-! ### Reading down -/

section Readers

open Reader

/-- Reading on from line end to line end leads to the end of the line as many lines below, or of the last
one. -/
theorem offset_lineEndBelow (reads : Reads text reader) (forward : reader.direction = .forward)
    (stands : Stands text line column reader.offset) (count : Nat) :
    (lineEndBelow (count + 1) reader).offset =
      text.offsetAt (min (line + count) text.lastLine)
        (text.width (min (line + count) text.lastLine)) := by
  induction count generalizing reader line column with
  | zero =>
      rw [lineEndBelow, offset_toLineBreak_of_stands reads forward stands, Nat.add_zero,
        Nat.min_eq_left stands.among]
  | succ count ih =>
      have ended := offset_toLineBreak_of_stands reads forward stands
      have ahead := length_ahead_forward reads.toLineBreak forward
      rw [ended] at ahead
      simp only [lineEndBelow, List.isEmpty_iff, ← List.length_eq_zero_iff, ahead]
      rcases Nat.eq_or_lt_of_le stands.among with rfl | above
      · rw [offsetAt_lastLine, Nat.sub_self, if_pos rfl, ended, Nat.min_eq_right (Nat.le_add_right _ _)]
      · have next := offsetAt_succ stands.among
        have inside : text.offsetAt (line + 1) 0 ≤ text.length := (stands_start above).inside
        have faces : reader.toLineBreak.direction = .forward := forward
        have moved : (reader.toLineBreak.advance 1).offset = text.offsetAt (line + 1) 0 := by
          rw [offset_advance_forward faces, ahead, ended]
          omega
        have below := ih (reads.toLineBreak.advance 1) forward (moved ▸ stands_start above)
        rw [if_neg (by omega), below, Nat.succ_add_eq_add_succ]

end Readers

/-! ### The same lines -/

theorem lineStart_min_length (text : Text) (offset : Nat) :
    text.lineStart (min offset text.length) = text.lineStart offset := by
  rw [lineStart, lineStart, Reader.backward, Reader.facing_min, Reader.backward]

theorem nextLineStart_min_length (text : Text) (offset : Nat) :
    text.nextLineStart (min offset text.length) = text.nextLineStart offset := by
  rw [nextLineStart, nextLineStart, Reader.forward, Reader.facing_min, Reader.forward]

theorem nthLineEnd_min_length (text : Text) (offset count : Nat) :
    text.nthLineEnd (min offset text.length) count = text.nthLineEnd offset count := by
  rw [nthLineEnd, nthLineEnd, Reader.forward, Reader.facing_min, Reader.forward]

theorem Stands.nthLineEnd (stands : Stands text line column offset) (count : Nat) :
    text.nthLineEnd offset (count + 1) =
      text.offsetAt (min (line + count) text.lastLine)
        (text.width (min (line + count) text.lastLine)) := by
  have placed : (Reader.forward text offset).offset = offset :=
    Reader.offset_facing .forward stands.inside
  exact offset_lineEndBelow (Reader.reads_forward text offset) rfl (by rwa [placed]) count

/-- The start of the line after another, or the end of the text after the last one. -/
theorem nextLineStart_eq_ite (inside : offset ≤ text.length) :
    text.nextLineStart offset =
      if text.lineOf offset < text.lineCount - 1 then startOfLine (text.lineOf offset + 1) text
      else text.length := by
  rw [nextLineStart_eq_startOfLine inside]
  split
  · rfl
  · exact startOfLine_of_lineCount_le (by omega)

/-- Readers come upon the lines that line ranges give by number. -/
theorem readers_of_numbers (text : Text) (offset count : Nat) :
    let place := min offset text.length
    let line := text.lineOf place
    let below := min (line + count) text.lastLine
    (line ≤ text.lastLine ∧ startOfLine line text ≤ place ∧
        place ≤ startOfLine line text + text.width line) ∧
      text.lineStart offset = startOfLine line text ∧
      text.nextLineStart offset =
        (if line < text.lastLine then startOfLine (line + 1) text else text.length) ∧
      text.nthLineEnd offset (count + 1) = startOfLine below text + text.width below ∧
      EndsLine text (text.nthLineEnd offset (count + 1)) := by
  intro place line below
  have inside : place ≤ text.length := Nat.min_le_right offset text.length
  obtain ⟨column, stands⟩ := exists_column inside
  have started := lineStart_eq_startOfLine inside
  have next := nextLineStart_eq_ite inside
  have ended := stands.nthLineEnd count
  rw [lineStart_min_length] at started
  rw [nextLineStart_min_length] at next
  rw [nthLineEnd_min_length] at ended
  have among : below ≤ text.lastLine := Nat.min_le_right _ _
  have stood := stands.place
  rw [offsetAt_eq stands.among] at stood
  refine ⟨⟨stands.among, ?_, ?_⟩, started, next, ?_, ?_⟩
  · exact stood ▸ Nat.le_add_right _ column
  · exact stood ▸ Nat.add_le_add_left stands.within _
  · exact ended.trans (offsetAt_eq among _)
  · exact ended ▸ endsLine_offsetAt_width among

end Text

/-! ### Numbered lines -/

/-- What numbers the lines of a text: how many there are, which of them holds a place, and where each of
them starts. -/
structure LineIndex where
  count : Nat
  lineOf : (offset : Nat) → Nat
  startOf : (line : Nat) → Nat

namespace LineIndex

open Text

/-- Where a line ends, before its break. -/
def endOf (index : LineIndex) (text : Text) (line : Nat) : Nat :=
  if line < index.count - 1 then index.startOf (line + 1) - 1 else text.length

/-- Lines break at line feeds and nowhere else.  One starts where the text does and one behind every
line feed, in this order, and a place is in the last line that has started. -/
structure BreaksAtLineFeeds (index : LineIndex) (text : Text) : Prop where
  starts : ∀ offset, (∃ line < index.count, index.startOf line = offset) ↔ StartsLine text offset
  ascending : ∀ line other, line < other → other < index.count →
    index.startOf line < index.startOf other
  among : ∀ offset ≤ text.length, index.lineOf offset < index.count
  holds : ∀ offset ≤ text.length, ∀ line < index.count,
    line ≤ index.lineOf offset ↔ index.startOf line ≤ offset

/-- The numbers of line ranges. -/
def ofText (text : Text) : LineIndex := ⟨text.lineCount, text.lineOf, (startOfLine · text)⟩

variable {index other : LineIndex} {text : Text} {line offset : Nat}

theorem le_lineOf_iff (among : line ≤ text.lastLine) (inside : offset ≤ text.length) :
    line ≤ text.lineOf offset ↔ startOfLine line text ≤ offset := by
  constructor
  · intro ordered
    have begun := startOfLine_mono text ordered
    rw [← lineStart_eq_startOfLine inside] at begun
    exact Nat.le_trans begun (lineStart_le inside)
  · intro ordered
    have later := lineOf_mono text ordered
    rwa [lineOf_startOfLine (Nat.lt_succ_of_le among)] at later

theorem breaksAtLineFeeds_ofText (text : Text) : (ofText text).BreaksAtLineFeeds text where
  starts offset := by
    constructor
    · rintro ⟨line, among, rfl⟩
      have stands := stands_start (Nat.le_of_lt_succ among)
      have starts := (isGreatest_lineStart stands.inside).1.2
      rwa [stands.lineStart, offsetAt_eq stands.among] at starts
    · intro starts
      have begun := lineStart_eq_startOfLine starts.inside
      rw [lineStart_of_starts starts] at begun
      exact ⟨text.lineOf offset, lineOf_lt_lineCount text offset, begun.symm⟩
  ascending line other before among := by
    apply Nat.lt_of_not_le
    intro ordered
    have later := (le_lineOf_iff (Nat.le_of_lt_succ among) (startOfLine_le line text)).mpr ordered
    rw [lineOf_startOfLine (Nat.lt_trans before among)] at later
    exact Nat.not_le_of_lt before later
  among offset _ := lineOf_lt_lineCount text offset
  holds offset inside line among := le_lineOf_iff (Nat.le_of_lt_succ among) inside

namespace BreaksAtLineFeeds

theorem sorted_starts (breaks : index.BreaksAtLineFeeds text) :
    ((List.range index.count).map index.startOf).Pairwise (· < ·) :=
  List.pairwise_map.mpr (List.pairwise_lt_range.imp_of_mem fun _ member before =>
    breaks.ascending _ _ before (List.mem_range.mp member))

theorem mem_starts (breaks : index.BreaksAtLineFeeds text) :
    offset ∈ (List.range index.count).map index.startOf ↔ StartsLine text offset := by
  simp only [List.mem_map, List.mem_range]
  exact breaks.starts offset

/-- There is only one way to number lines that break at line feeds. -/
theorem unique (breaks : index.BreaksAtLineFeeds text) (also : other.BreaksAtLineFeeds text) :
    index.count = other.count ∧ (∀ line < index.count, index.startOf line = other.startOf line) ∧
      ∀ offset ≤ text.length, index.lineOf offset = other.lineOf offset := by
  have starts : (List.range index.count).map index.startOf =
      (List.range other.count).map other.startOf :=
    breaks.sorted_starts.eq_of_mem_iff also.sorted_starts fun _ =>
      breaks.mem_starts.trans also.mem_starts.symm
  have count : index.count = other.count := by simpa using congrArg List.length starts
  have same (line : Nat) (among : line < index.count) : index.startOf line = other.startOf line := by
    have held := congrArg (·[line]?) starts
    simpa [among, count ▸ among] using held
  refine ⟨count, same, fun offset inside => Nat.le_antisymm ?_ ?_⟩
  · have among := breaks.among offset inside
    have begun := (breaks.holds offset inside _ among).mp (Nat.le_refl _)
    rw [same _ among] at begun
    exact (also.holds offset inside _ (count ▸ among)).mpr begun
  · have among := also.among offset inside
    have begun := (also.holds offset inside _ among).mp (Nat.le_refl _)
    rw [← same _ (count ▸ among)] at begun
    exact (breaks.holds offset inside _ (count ▸ among)).mpr begun

/-! So the lines of any such numbering are those of line ranges. -/

variable (breaks : index.BreaksAtLineFeeds text)
include breaks

theorem last_eq : index.count - 1 = text.lastLine :=
  congrArg (· - 1) (breaks.unique (breaksAtLineFeeds_ofText text)).1

theorem lineOf_eq (inside : offset ≤ text.length) : index.lineOf offset = text.lineOf offset :=
  (breaks.unique (breaksAtLineFeeds_ofText text)).2.2 offset inside

theorem startOf_eq (among : line ≤ text.lastLine) : index.startOf line = startOfLine line text := by
  obtain ⟨count, starts, _⟩ := breaks.unique (breaksAtLineFeeds_ofText text)
  exact starts line (count ▸ Nat.lt_succ_of_le among)

theorem endOf_eq (among : line ≤ text.lastLine) :
    index.endOf text line = startOfLine line text + text.width line := by
  rw [endOf, breaks.last_eq, ← offsetAt_eq among]
  rcases Nat.eq_or_lt_of_le among with rfl | above
  · exact (if_neg (Nat.lt_irrefl _)).trans text.offsetAt_lastLine.symm
  · have next := offsetAt_succ among
    rw [offsetAt_eq above, Nat.add_zero] at next
    rw [if_pos above, breaks.startOf_eq above, next, Nat.add_sub_cancel]

end BreaksAtLineFeeds

end LineIndex

namespace Text

/-- What readers take for the lines of a text are its lines by number, if these break at line feeds only.
The line of a place is one of them, and the place is in it or at its end; what is behind the text counts
as its end.  A reader finds the start of that line, and the start of the next one or else the end of the
text.  It also finds the end of the line `count` lines below, before its break, or of the last line if
there are fewer. -/
theorem lines_of_readers {index : LineIndex} {text : Text} (breaks : index.BreaksAtLineFeeds text)
    (offset count : Nat) :
    let place := min offset text.length
    let line := index.lineOf place
    let last := index.count - 1
    let below := min (line + count) last
    (line ≤ last ∧ index.startOf line ≤ place ∧ place ≤ index.endOf text line) ∧
      text.lineStart offset = index.startOf line ∧
      text.nextLineStart offset =
        (if line < last then index.startOf (line + 1) else text.length) ∧
      text.nthLineEnd offset (count + 1) = index.endOf text below ∧
      EndsLine text (text.nthLineEnd offset (count + 1)) := by
  intro place line last below
  have lastEq : last = text.lastLine := breaks.last_eq
  have lineEq : line = text.lineOf place := breaks.lineOf_eq (Nat.min_le_right offset text.length)
  obtain ⟨⟨among, begun, within⟩, started, next, ended, ends⟩ := readers_of_numbers text offset count
  rw [← lineEq] at among begun within started next ended
  rw [← lastEq] at next ended
  have among' : below ≤ text.lastLine := lastEq ▸ Nat.min_le_right _ _
  rw [breaks.startOf_eq among, breaks.endOf_eq among, breaks.endOf_eq among']
  refine ⟨⟨lastEq ▸ among, begun, within⟩, started, ?_, ended, ends⟩
  rw [next]
  split
  · rename_i above
    rw [breaks.startOf_eq (lastEq ▸ above)]
  · rfl

/-- Behind a final break there is one more line, and a place behind the text is in it. -/
theorem lines_of_readers_behind_final_break :
    let text : Text := "a\nb\n".toList
    let index := LineIndex.ofText text
    index.BreaksAtLineFeeds text ∧ text.lineStart 9 = index.startOf 2 ∧ index.startOf 2 = 4 ∧
      text.nthLineEnd 1 2 = index.endOf text 1 ∧ index.endOf text 1 = 3 := by
  intro text index
  have breaks := LineIndex.breaksAtLineFeeds_ofText text
  obtain ⟨_, started, _⟩ := lines_of_readers breaks 9 0
  obtain ⟨_, _, _, ended, _⟩ := lines_of_readers breaks 1 1
  exact ⟨breaks, started, by decide, ended, by decide⟩

end Text

end ModalVi
