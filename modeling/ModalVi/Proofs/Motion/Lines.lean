import ModalVi.Proofs.Motion.Follow
import ModalVi.Proofs.Text.Column

namespace ModalVi.Standpoint

/-! Line motions by line and column.

From a column of a line, `j` and `k` lead to the same column of a line below or above, or to its end if
it is shorter; `+` and `-` lead to the first character of such a line that is not white space.  There is
nothing below the last line and nothing above the first. -/

open Text

variable {point : Standpoint} {line column target : Nat}

theorem firstNonBlank_offsetAt (among : target ≤ point.text.lastLine) :
    point.firstNonBlank (point.text.offsetAt target 0) =
      point.text.offsetAt target (point.text.leadingSpace target) :=
  offset_skipLineSpace among

section Caret

variable (stands : Stands point.text line column point.cursor.caret)
include stands

theorem sameColumn_offsetAt (among : target ≤ point.text.lastLine) :
    point.sameColumn (point.text.offsetAt target 0) =
      point.text.offsetAt target (min column (point.text.width target)) := by
  have start := stands_start among
  have front : (point.reader .backward).lineAhead.length = column := by
    have ahead := (point.reads_reader .backward).ahead_eq_take rfl
    rw [offset_reader stands.inside] at ahead
    rw [Reader.lineAhead, ahead, stands.length_frontOfLine]
  rw [sameColumn, front, offset_advanceInLine start.inside, start.restOfLine, offsetAt, offsetAt]
  omega

/-- `j` -/
theorem resolve_down (memory : Option CharSearch) (count : Nat) :
    point.resolve memory count .down =
      .ok (point.moveTo (point.text.offsetAt (min (line + count) point.text.lastLine)
        (min column (point.text.width (min (line + count) point.text.lastLine))))) := by
  rw [resolve, Standpoint.lineStart, stands.lineStart, offset_linesDown_start stands.among,
    sameColumn_offsetAt stands (Nat.min_le_right _ _)]

/-- `k` -/
theorem resolve_up (memory : Option CharSearch) (count : Nat) :
    point.resolve memory count .up =
      .ok (point.moveTo (point.text.offsetAt (line - count)
        (min column (point.text.width (line - count))))) := by
  have above : line - count ≤ point.text.lastLine := Nat.le_trans (Nat.sub_le _ _) stands.among
  have reads := point.reads_reader .backward
  have start := offset_toLineBreak_backward reads rfl
  rw [offset_reader stands.inside, stands.lineStart] at start
  have placed : Stands point.text line 0 (point.reader .backward).toLineBreak.offset := by
    rw [start]
    exact stands_start stands.among
  have found := offset_linesUp reads.toLineBreak rfl placed count
  rw [resolve, found, sameColumn_offsetAt stands above]

/-- `+` -/
theorem resolve_lineBelow (memory : Option CharSearch) (count : Nat) :
    point.resolve memory count .lineBelow =
      .ok (point.moveTo (point.text.offsetAt (min (line + count) point.text.lastLine)
        (point.text.leadingSpace (min (line + count) point.text.lastLine)))) := by
  have reads := point.reads_reader .forward
  have below := offset_steps_pastLineBreak reads rfl count
  obtain ⟨reached, found⟩ := stands.iterate_nextLineStart count
  rw [offset_reader stands.inside] at below
  rw [← below] at found
  have start := offset_toLineBreak_backward
    ((reads.steps (fun _ reads => reads.pastLineBreak) count).turn .backward)
    (Reader.direction_turn _ _)
  rw [Reader.offset_turn, found.lineStart] at start
  rw [resolve, start, firstNonBlank_offsetAt (Nat.min_le_right _ _)]

/-- `-` -/
theorem resolve_lineAbove (memory : Option CharSearch) (count : Nat) :
    point.resolve memory count .lineAbove =
      .ok (point.moveTo (point.text.offsetAt (line - count)
        (point.text.leadingSpace (line - count)))) := by
  have reads := point.reads_reader .backward
  have above := (walks_pastLineBreak_backward point.text).offset_steps reads rfl count
  obtain ⟨reached, found⟩ := stands.iterate_lineStart count
  rw [offset_reader stands.inside] at above
  rw [← above] at found
  have start := offset_toLineBreak_backward
    (reads.steps (fun _ reads => reads.pastLineBreak) count)
    ((walks_pastLineBreak_backward point.text).direction_steps reads rfl count)
  rw [found.lineStart] at start
  rw [resolve, start, firstNonBlank_offsetAt found.among]

/-- `0` -/
theorem resolve_lineStart (memory : Option CharSearch) (count : Nat) :
    point.resolve memory count .lineStart = .ok (point.moveTo (point.text.offsetAt line 0)) := by
  rw [resolve, Standpoint.lineStart, stands.lineStart]

/-- `^` -/
theorem resolve_firstNonBlank (memory : Option CharSearch) (count : Nat) :
    point.resolve memory count .firstNonBlank =
      .ok (point.moveTo (point.text.offsetAt line (point.text.leadingSpace line))) := by
  rw [resolve, Standpoint.lineStart, stands.lineStart, firstNonBlank_offsetAt stands.among]

/-- `h` -/
theorem resolve_left (memory : Option CharSearch) (count : Nat) :
    point.resolve memory count .left =
      .ok (point.moveTo (point.text.offsetAt line (column - count))) := by
  have place := stands.place
  have reads := point.reads_reader .backward
  have ahead := Reader.length_ahead_backward reads rfl
  have front := reads.ahead_eq_take rfl
  rw [offset_reader stands.inside] at ahead front
  rw [offsetAt] at place
  rw [resolve, Reader.advanceInLine, Reader.offset_advance_backward rfl,
    offset_reader stands.inside, ahead, Reader.lineAhead, front, stands.length_frontOfLine, offsetAt]
  congr 2
  omega

/-- `l` -/
theorem resolve_right (memory : Option CharSearch) (count : Nat) :
    point.resolve memory count .right =
      .ok (point.moveTo (point.text.offsetAt line (min (column + count) (point.text.width line)))) := by
  have place := stands.place
  have within := stands.within
  have ahead := offset_advanceInLine stands.inside count
  rw [stands.restOfLine] at ahead
  rw [offsetAt] at place
  have right : point.resolve memory count .right = .ok (point.moveTo
      ((Reader.forward point.text point.cursor.caret).advanceInLine count).offset) := rfl
  rw [right, ahead, offsetAt]
  congr 2
  omega

/-- `$`, outside visual mode. -/
theorem resolve_lineEnd (visual : point.visual = false) (memory : Option CharSearch) (count : Nat) :
    point.resolve memory count .lineEnd =
      .ok (point.moveTo (point.text.offsetAt line (point.text.width line))) := by
  have placed : Stands point.text line column (point.reader .forward).offset := by
    rwa [offset_reader stands.inside]
  rw [resolve, visual, if_neg Bool.false_ne_true,
    offset_toLineBreak_of_stands (point.reads_reader .forward) rfl placed]

end Caret

/-- `G` with a count. -/
theorem resolve_line (point : Standpoint) (memory : Option CharSearch) (count : Nat) :
    point.resolve memory count .line =
      .ok (point.moveTo (point.text.offsetAt (min (count - 1) point.text.lastLine) 0)) := by
  have below := offset_linesDown_start (Nat.zero_le point.text.lastLine) (count - 1)
  have first : point.text.offsetAt 0 0 = 0 := rfl
  rw [first, Nat.zero_add] at below
  rw [resolve, below]

/-! ### Where the keys lead -/

/-- The keys lead to a column of a line. -/
def LeadsTo (point : Standpoint) (memory : Option CharSearch) (lineKey : Option Char)
    (buffer : KeyBuffer) (line column : Nat) : Prop :=
  point.follow memory lineKey buffer = .ok (point.moveTo (point.text.offsetAt line column))

/-- The caret is in a column of a line.  Outside visual mode the line motions lead from there to the
lines and columns that follow from their count, of which the ends of the text leave no more than there
is. -/
theorem leadsTo_lines (memory : Option CharSearch) (lineKey : Option Char) (rest : List Char)
    (count : Nat) (counted : Bool) (inside : point.cursor.caret ≤ point.text.length)
    (visual : point.visual = false) :
    (∃ line column, Stands point.text line column point.cursor.caret) ∧
      ∀ line column, Stands point.text line column point.cursor.caret →
        let text := point.text
        let below := min (line + count) text.lastLine
        let above := line - count
        let leads (key : Char) := point.LeadsTo memory lineKey ⟨key :: rest, count, counted⟩
        leads 'j' below (min column (text.width below)) ∧
        leads 'k' above (min column (text.width above)) ∧
        leads '+' below (text.leadingSpace below) ∧
        leads '-' above (text.leadingSpace above) ∧
        (counted = true → leads 'G' (min (count - 1) text.lastLine) 0) ∧
        leads '0' line 0 ∧
        leads '^' line (text.leadingSpace line) ∧
        (count = 1 → leads '$' line (text.width line)) := by
  refine ⟨exists_stands inside, fun line column stands => ?_⟩
  refine ⟨?_, ?_, ?_, ?_, fun typed => ?_, ?_, ?_, fun single => ?_⟩
  · exact (follow_of_parse rfl).trans (resolve_down stands memory count)
  · exact (follow_of_parse rfl).trans (resolve_up stands memory count)
  · exact (follow_of_parse rfl).trans (resolve_lineBelow stands memory count)
  · exact (follow_of_parse rfl).trans (resolve_lineAbove stands memory count)
  · subst typed
    exact (follow_of_parse rfl).trans (resolve_line point memory count)
  · exact (follow_of_parse rfl).trans (resolve_lineStart stands memory count)
  · exact (follow_of_parse rfl).trans (resolve_firstNonBlank stands memory count)
  · subst single
    exact (follow_of_parse rfl).trans (resolve_lineEnd stands visual memory 1)

/-- The last line is shorter than the one that the caret is in. -/
theorem leadsTo_lines_below_last :
    let point := ofCaret Unicode.isPunctuation "abcd\n e".toList 3
    point.cursor.caret ≤ point.text.length ∧ point.visual = false ∧
      Stands point.text 0 3 point.cursor.caret ∧
      point.LeadsTo none none ⟨['j'], 5, true⟩ 1 2 := by
  intro point
  have inside : point.cursor.caret ≤ point.text.length := by decide
  have stands : Stands point.text 0 3 point.cursor.caret := ⟨by decide, by decide, by decide⟩
  have leads := (leadsTo_lines none none [] 5 true inside rfl).2 0 3 stands
  exact ⟨inside, rfl, stands, leads.1⟩

end ModalVi.Standpoint
