import ModalVi.Proofs.Text.BrokenLines
import ModalVi.Proofs.Text.Words

namespace ModalVi.Text

/-! Lines and columns.

A place of a text is a column in one of its lines.  Before it are the lines above, each with its break,
and the front of its own line; after it are the rest of that line and the lines below, each behind a
break.  What a reader finds on either side follows from that. -/

variable {text : Text} {line column offset : Nat}

/-! ### Places -/

/-- The line with a number, without its break. -/
def lineAt (text : Text) (line : Nat) : Text := (lines text).getD line []

def width (text : Text) (line : Nat) : Nat := (text.lineAt line).length

/-- The number of characters of white space at the front of a line. -/
def leadingSpace (text : Text) (line : Nat) : Nat :=
  ((text.lineAt line).takeWhile Unicode.isWhitespace).length

theorem leadingSpace_le_width (text : Text) (line : Nat) :
    text.leadingSpace line ≤ text.width line :=
  (List.takeWhile_sublist _).length_le

/-- The number of the last line: there is one line more than there are breaks. -/
def lastLine (text : Text) : Nat := text.count '\n'

/-- The lines above a line, with their breaks. -/
def linesAbove (text : Text) (line : Nat) : Text :=
  ((lines text).take line).flatMap (· ++ ['\n'])

/-- The place `column` characters into a line. -/
def offsetAt (text : Text) (line column : Nat) : Nat := (text.linesAbove line).length + column

/-- The place `offset` is a column of a line, or the end of the line. -/
structure Stands (text : Text) (line column offset : Nat) : Prop where
  among : line ≤ text.lastLine
  within : column ≤ text.width line
  place : text.offsetAt line column = offset

theorem length_lines (text : Text) : (lines text).length = text.lastLine + 1 := by
  induction text with
  | nil => rfl
  | cons c rest ih =>
      obtain ⟨held, others, known⟩ := List.exists_cons_of_ne_nil (lines_ne_nil rest)
      rw [lastLine, List.count_cons, lines]
      rw [lastLine] at ih
      split
      · rw [List.length_cons, ih]
      · rw [known] at ih ⊢
        exact ih

theorem lt_length_lines (among : line ≤ text.lastLine) : line < (lines text).length := by
  rw [length_lines]
  exact Nat.lt_succ_of_le among

theorem unbroken_lineAt (text : Text) (line : Nat) : '\n' ∉ text.lineAt line := by
  rw [lineAt, List.getD_eq_getElem?_getD]
  cases known : (lines text)[line]? with
  | none => exact List.not_mem_nil
  | some held => exact unbroken_of_mem_lines (List.mem_of_getElem? known)

theorem lineAt_eq (inside : line < (lines text).length) :
    text.lineAt line = (lines text)[line] := by
  rw [lineAt, List.getD_eq_getElem?_getD, List.getElem?_eq_getElem inside, Option.getD_some]

theorem lines_eq (among : line ≤ text.lastLine) :
    lines text = (lines text).take line ++ text.lineAt line :: (lines text).drop (line + 1) := by
  have inside := lt_length_lines among
  rw [lineAt_eq inside, ← List.drop_eq_getElem_cons inside, List.take_append_drop]

theorem exists_stands (inside : offset ≤ text.length) :
    ∃ line column, Stands text line column offset := by
  induction text generalizing offset with
  | nil =>
      cases Nat.le_zero.mp inside
      exact ⟨0, 0, Nat.le_refl _, Nat.le_refl _, rfl⟩
  | cons c rest ih =>
      cases offset with
      | zero => exact ⟨0, 0, Nat.zero_le _, Nat.zero_le _, rfl⟩
      | succ offset =>
          obtain ⟨line, column, stands⟩ := ih (Nat.le_of_succ_le_succ inside)
          obtain ⟨held, others, known⟩ := List.exists_cons_of_ne_nil (lines_ne_nil rest)
          obtain ⟨inLines, inLine, place⟩ := stands
          rw [width, lineAt] at inLine
          rw [offsetAt, linesAbove] at place
          by_cases broken : c = '\n'
          · have whole : lines (c :: rest) = [] :: lines rest := by rw [lines, if_pos (by simpa)]
            refine ⟨line + 1, column, ?_, ?_, ?_⟩
            · rw [lastLine, broken, List.count_cons_self]
              exact Nat.succ_le_succ inLines
            · rwa [width, lineAt, whole, List.getD_cons_succ]
            · rw [offsetAt, linesAbove, whole, List.take_succ_cons, List.flatMap_cons, ← place]
              simp only [List.length_append, List.length_singleton, List.nil_append]
              omega
          · have whole : lines (c :: rest) = (c :: held) :: others := by
              rw [lines, if_neg (by simpa), known]
            rw [known] at inLine place
            cases line with
            | zero =>
                refine ⟨0, column + 1, Nat.zero_le _, ?_, ?_⟩
                · rw [width, lineAt, whole]
                  exact Nat.succ_le_succ inLine
                · rw [offsetAt, linesAbove, ← place]
                  simp
            | succ line =>
                refine ⟨line + 1, column, ?_, ?_, ?_⟩
                · rwa [lastLine, List.count_cons_of_ne broken]
                · rwa [width, lineAt, whole]
                · rw [offsetAt, linesAbove, whole, ← place]
                  simp only [List.take_succ_cons, List.flatMap_cons, List.length_append,
                    List.length_cons]
                  omega

/-! ### Before and after a place -/

theorem ofLines_append_cons (front : List Text) (held : Text) (back : List Text) :
    ofLines (front ++ held :: back) =
      front.flatMap (· ++ ['\n']) ++ (held ++ back.flatMap ('\n' :: ·)) := by
  induction front with
  | nil => exact intercalate_cons '\n' held back
  | cons first front ih =>
      have next : ofLines (first :: (front ++ held :: back)) =
          first ++ ['\n'] ++ ofLines (front ++ held :: back) := by
        cases front <;> exact List.intercalate_cons_cons
      rw [List.cons_append, next, ih, List.flatMap_cons, List.append_assoc (first ++ ['\n'])]

namespace Stands

variable (stands : Stands text line column offset)
include stands

/-- The text before a place and the text after it. -/
theorem parts :
    text.take offset = text.linesAbove line ++ (text.lineAt line).take column ∧
      text.drop offset =
        (text.lineAt line).drop column ++ ((lines text).drop (line + 1)).flatMap ('\n' :: ·) := by
  obtain ⟨among, within, place⟩ := stands
  have whole := ofLines_lines text
  rw [width] at within
  rw [lines_eq among, ofLines_append_cons, ← linesAbove] at whole
  rw [offsetAt] at place
  generalize text.linesAbove line = front at place whole ⊢
  generalize ((lines text).drop (line + 1)).flatMap ('\n' :: ·) = back at whole ⊢
  generalize text.lineAt line = held at within whole ⊢
  rw [← place, ← whole]
  simp [List.take_append, List.drop_append, Nat.sub_eq_zero_of_le within, List.take_of_length_le,
    List.drop_of_length_le]

theorem inside : offset ≤ text.length := by
  have front := congrArg List.length stands.parts.1
  have place := stands.place
  rw [List.length_append, List.length_take, List.length_take, ← width,
    Nat.min_eq_left stands.within] at front
  rw [offsetAt] at place
  omega

/-- Before a place stand the front of its line and text that is ended. -/
theorem length_frontOfLine :
    ((text.take offset).reverse.takeWhile (· != '\n')).length = column := by
  have ended : Ended (text.linesAbove line) :=
    ended_flatMap fun held _ => ended_concat_break held
  have front : ∀ c ∈ ((text.lineAt line).take column).reverse, (c != '\n') = true := by
    intro c member
    have held := List.mem_of_mem_take (List.mem_reverse.mp member)
    simpa using ne_of_mem_of_not_mem held (text.unbroken_lineAt line)
  rw [stands.parts.1, List.reverse_append, List.takeWhile_append_of_pos front,
    ended.takeWhile_reverse, List.append_nil, List.length_reverse, List.length_take,
    ← width, Nat.min_eq_left stands.within]

theorem lineStart : text.lineStart offset = text.offsetAt line 0 := by
  have place := stands.place
  rw [lineStart_eq stands.inside, stands.length_frontOfLine, ← place, offsetAt, offsetAt]
  omega

/-- After a place stand the rest of its line and nothing, or a break. -/
theorem restOfLine : text.restOfLine offset = text.width line - column := by
  have back : ∀ c ∈ (text.lineAt line).drop column, (c != '\n') = true := by
    intro c member
    simpa using ne_of_mem_of_not_mem (List.mem_of_mem_drop member) (text.unbroken_lineAt line)
  have none : (((lines text).drop (line + 1)).flatMap ('\n' :: ·)).takeWhile (· != '\n') = [] := by
    cases (lines text).drop (line + 1) <;> rfl
  rw [Text.restOfLine, stands.parts.2, List.takeWhile_append_of_pos back, none, List.append_nil,
    List.length_drop, width]

end Stands

theorem stands_start (among : line ≤ text.lastLine) : Stands text line 0 (text.offsetAt line 0) :=
  ⟨among, Nat.zero_le _, rfl⟩

theorem stands_end (among : line ≤ text.lastLine) :
    Stands text line (text.width line) (text.offsetAt line (text.width line)) :=
  ⟨among, Nat.le_refl _, rfl⟩

theorem offsetAt_succ (among : line ≤ text.lastLine) :
    text.offsetAt (line + 1) 0 = text.offsetAt line (text.width line) + 1 := by
  have inside := lt_length_lines among
  rw [offsetAt, offsetAt, width, lineAt_eq inside, linesAbove, linesAbove,
    List.take_succ_eq_append_getElem inside, List.flatMap_append, List.length_append,
    List.flatMap_singleton, List.length_append, List.length_singleton]
  omega

/-- The text ends where its last line does. -/
theorem offsetAt_lastLine (text : Text) :
    text.offsetAt text.lastLine (text.width text.lastLine) = text.length := by
  have stands := stands_end (Nat.le_refl text.lastLine)
  have nothing : (lines text).drop (text.lastLine + 1) = [] :=
    List.drop_eq_nil_of_le (Nat.le_of_eq text.length_lines)
  have rest := congrArg List.length stands.parts.2
  rw [nothing, width, List.drop_length, List.length_drop] at rest
  exact Nat.le_antisymm stands.inside (Nat.le_of_sub_eq_zero rest)

theorem count_break_flatMap {list : List Text} (unbroken : ∀ held ∈ list, '\n' ∉ held) :
    (list.flatMap (· ++ ['\n'])).count '\n' = list.length := by
  induction list with
  | nil => rfl
  | cons held rest ih =>
      rw [List.forall_mem_cons] at unbroken
      rw [List.flatMap_cons, List.count_append, List.count_append, ih unbroken.2,
        List.count_eq_zero.mpr unbroken.1, List.count_singleton_self, List.length_cons]
      omega

theorem Stands.lineOf_eq (stands : Stands text line column offset) : text.lineOf offset = line := by
  have above : ((lines text).take line).length = line :=
    List.length_take_of_le (Nat.le_of_lt (lt_length_lines stands.among))
  have none : ((text.lineAt line).take column).count '\n' = 0 :=
    List.count_eq_zero.mpr fun member => text.unbroken_lineAt line (List.mem_of_mem_take member)
  have breaks : (text.linesAbove line).count '\n' = ((lines text).take line).length :=
    count_break_flatMap fun held member => unbroken_of_mem_lines (List.mem_of_mem_take member)
  rw [lineOf, stands.parts.1, List.count_append, none, breaks, above, Nat.add_zero]

theorem exists_column (inside : offset ≤ text.length) :
    ∃ column, Stands text (text.lineOf offset) column offset := by
  obtain ⟨line, column, stands⟩ := exists_stands inside
  exact ⟨column, stands.lineOf_eq.symm ▸ stands⟩

/-- Below a line other than the last one is another line. -/
theorem drop_lines (above : line < text.lastLine) :
    (lines text).drop (line + 1) = text.lineAt (line + 1) :: (lines text).drop (line + 2) := by
  rw [lineAt_eq (lt_length_lines above)]
  exact List.drop_eq_getElem_cons (lt_length_lines above)

/-- After a line other than the last one comes its break. -/
theorem drop_offsetAt (above : line < text.lastLine) :
    text.drop (text.offsetAt line 0) =
      text.lineAt line ++ '\n' :: (text.lineAt (line + 1) ++
        ((lines text).drop (line + 2)).flatMap ('\n' :: ·)) := by
  rw [(stands_start (Nat.le_of_lt above)).parts.2, drop_lines above, List.flatMap_cons,
    List.drop_zero, List.cons_append]

theorem slice_line (above : line < text.lastLine) :
    text.slice (text.offsetAt line 0) (text.offsetAt (line + 1) 0) = text.lineAt line ++ ['\n'] := by
  have width : text.offsetAt (line + 1) 0 - text.offsetAt line 0 =
      (text.lineAt line ++ ['\n']).length := by
    have next := offsetAt_succ (Nat.le_of_lt above)
    rw [Text.width] at next
    simp only [offsetAt, List.length_append, List.length_singleton] at next ⊢
    omega
  have whole := drop_offsetAt above
  rw [List.append_cons] at whole
  rw [slice, whole, width, List.take_left]

theorem drop_lastLine (text : Text) :
    text.drop (text.offsetAt text.lastLine 0) = text.lineAt text.lastLine := by
  have nothing : (lines text).drop (text.lastLine + 1) = [] :=
    List.drop_eq_nil_of_le (Nat.le_of_eq text.length_lines)
  have rest := (stands_start (Nat.le_refl text.lastLine)).parts.2
  rwa [nothing, List.flatMap_nil, List.append_nil, List.drop_zero] at rest

/-! ### From line to line -/

theorem offsetAt_mono {later : Nat} (ordered : line ≤ later) (text : Text) :
    text.offsetAt line 0 ≤ text.offsetAt later 0 := by
  obtain ⟨more, rfl⟩ := Nat.exists_eq_add_of_le ordered
  rw [offsetAt, offsetAt, linesAbove, linesAbove, List.take_add, List.flatMap_append,
    List.length_append]
  omega

/-- The same column in a later line, or the end of that line if it is shorter, is not before. -/
theorem Stands.le_offsetAt {later : Nat} (stands : Stands text line column offset)
    (ordered : line ≤ later) : offset ≤ text.offsetAt later (min column (text.width later)) := by
  have place := stands.place
  have within := stands.within
  rcases Nat.eq_or_lt_of_le ordered with rfl | below
  · rw [Nat.min_eq_left within]
    exact Nat.le_of_eq place.symm
  · have start := offsetAt_mono below text
    rw [offsetAt_succ stands.among] at start
    rw [offsetAt] at place
    simp only [offsetAt] at start ⊢
    omega

/-- The same column in an earlier line, or the end of that line if it is shorter, is not after. -/
theorem Stands.offsetAt_le {earlier : Nat} (stands : Stands text line column offset)
    (ordered : earlier ≤ line) :
    text.offsetAt earlier (min column (text.width earlier)) ≤ offset := by
  have place := stands.place
  have within := stands.within
  rcases Nat.eq_or_lt_of_le ordered with rfl | above
  · rw [Nat.min_eq_left within]
    exact Nat.le_of_eq place
  · have start := offsetAt_mono above text
    rw [offsetAt_succ (Nat.le_trans ordered stands.among)] at start
    rw [offsetAt] at place
    simp only [offsetAt] at start ⊢
    omega

theorem Stands.nextLineStart (stands : Stands text line column offset)
    (above : line < text.lastLine) : text.nextLineStart offset = text.offsetAt (line + 1) 0 := by
  have bound := (stands_start above).inside
  have place := stands.place
  have within := stands.within
  rw [nextLineStart_eq stands.inside, stands.restOfLine]
  rw [offsetAt_succ stands.among, offsetAt] at bound ⊢
  rw [offsetAt] at place
  omega

theorem Stands.nextLineStart_last (stands : Stands text text.lastLine column offset) :
    text.nextLineStart offset =
      text.offsetAt text.lastLine (text.width text.lastLine) := by
  have whole := offsetAt_lastLine text
  have place := stands.place
  have within := stands.within
  rw [nextLineStart_eq stands.inside, stands.restOfLine]
  rw [offsetAt] at whole place ⊢
  omega

/-- Going down from line to line ends in the last one. -/
theorem Stands.iterate_nextLineStart (stands : Stands text line column offset) (count : Nat) :
    ∃ reached, Stands text (min (line + count) text.lastLine) reached
      (text.nextLineStart^[count] offset) := by
  induction count generalizing line column offset with
  | zero => exact ⟨column, by rwa [Nat.add_zero, Nat.min_eq_left stands.among]⟩
  | succ count ih =>
      rw [Function.iterate_succ_apply]
      rcases Nat.eq_or_lt_of_le stands.among with rfl | above
      · rw [stands.nextLineStart_last]
        obtain ⟨reached, found⟩ := ih (stands_end (Nat.le_refl text.lastLine))
        refine ⟨reached, ?_⟩
        rwa [Nat.min_eq_right (Nat.le_add_right _ _)] at found ⊢
      · rw [stands.nextLineStart above]
        obtain ⟨reached, found⟩ := ih (stands_start above)
        refine ⟨reached, ?_⟩
        rwa [Nat.succ_add_eq_add_succ] at found

/-- Going up from line to line ends in the first one. -/
theorem Stands.iterate_lineStart (stands : Stands text line column offset) (count : Nat) :
    ∃ reached, Stands text (line - count) reached ((text.lineStart · - 1)^[count] offset) := by
  induction count generalizing line column offset with
  | zero => exact ⟨column, stands⟩
  | succ count ih =>
      rw [Function.iterate_succ_apply, stands.lineStart]
      have among := stands.among
      cases line with
      | zero =>
          obtain ⟨reached, found⟩ := ih (stands_start among)
          rw [Nat.zero_sub] at found ⊢
          exact ⟨reached, found⟩
      | succ line =>
          have above : line ≤ text.lastLine := Nat.le_of_succ_le among
          rw [offsetAt_succ above, Nat.add_sub_cancel]
          obtain ⟨reached, found⟩ := ih (stands_end above)
          exact ⟨reached, by rwa [Nat.succ_sub_succ]⟩

/-! ### Readers at line starts -/

section Readers

variable {reader : Reader}

open Reader

theorem offset_toLineBreak_of_stands (reads : Reads text reader)
    (forward : reader.direction = .forward) (stands : Stands text line column reader.offset) :
    reader.toLineBreak.offset = text.offsetAt line (text.width line) := by
  have place := stands.place
  have within := stands.within
  rw [offset_toLineBreak_forward reads forward, stands.restOfLine]
  simp only [offsetAt] at place ⊢
  omega

theorem offset_linesDown (reads : Reads text reader) (forward : reader.direction = .forward)
    (stands : Stands text line 0 reader.offset) (count : Nat) :
    (reader.linesDown count).offset = text.offsetAt (min (line + count) text.lastLine) 0 := by
  induction count generalizing reader line with
  | zero => rw [linesDown, Nat.add_zero, Nat.min_eq_left stands.among, stands.place]
  | succ count ih =>
      have whole := offsetAt_lastLine text
      have place := stands.place
      rw [linesDown, lineAhead_eq_restOfLine reads forward, length_ahead_forward reads forward,
        stands.restOfLine]
      rcases Nat.eq_or_lt_of_le stands.among with rfl | above
      · have last : text.width text.lastLine - 0 = text.length - reader.offset := by
          rw [← place, ← whole, offsetAt, offsetAt]
          omega
        rw [if_pos last, Nat.min_eq_right (Nat.le_add_right _ _), place]
      · have moved := offset_pastLineBreak reads forward
        have next := (stands_start above).inside
        have further : text.width line - 0 ≠ text.length - reader.offset := by
          rw [offsetAt_succ stands.among, offsetAt] at next
          rw [offsetAt] at place
          omega
        rw [stands.nextLineStart above] at moved
        have below := ih reads.pastLineBreak forward (by rw [moved]; exact stands_start above)
        rw [if_neg further, below, Nat.add_right_comm, Nat.add_assoc]

theorem offset_linesDown_start (among : line ≤ text.lastLine) (count : Nat) :
    ((Reader.forward text (text.offsetAt line 0)).linesDown count).offset =
      text.offsetAt (min (line + count) text.lastLine) 0 := by
  have start := stands_start among
  have placed : (Reader.forward text (text.offsetAt line 0)).offset = text.offsetAt line 0 :=
    offset_facing .forward start.inside
  exact offset_linesDown (reads_forward _ _) rfl (by rwa [placed]) count

theorem offset_linesUp (reads : Reads text reader) (backward : reader.direction = .backward)
    (stands : Stands text line 0 reader.offset) (count : Nat) :
    (reader.linesUp count).offset = text.offsetAt (line - count) 0 := by
  induction count generalizing reader line with
  | zero => exact stands.place.symm
  | succ count ih =>
      have place := stands.place
      have ahead := length_ahead_backward reads backward
      simp only [linesUp, List.isEmpty_iff, ← List.length_eq_zero_iff, ahead]
      cases line with
      | zero =>
          have first : reader.offset = 0 := place.symm
          rw [if_pos first, Nat.zero_sub, place]
      | succ line =>
          have above : line ≤ text.lastLine := Nat.le_of_succ_le stands.among
          rw [offsetAt_succ above] at place
          have back : (reader.advance 1).offset = text.offsetAt line (text.width line) := by
            rw [offset_advance_back reads backward]
            omega
          have start := offset_toLineBreak_backward (reads.advance 1) backward
          rw [back, (stands_end above).lineStart] at start
          have found := ih (reads.advance 1).toLineBreak backward
            (by rw [start]; exact stands_start above)
          rw [if_neg (by omega), found, Nat.succ_sub_succ]

theorem takeWhile_lineSpace {held : Text} (unbroken : '\n' ∉ held) (back : List Text) :
    (held ++ back.flatMap ('\n' :: ·)).takeWhile (fun c => c != '\n' && Unicode.isWhitespace c) =
      held.takeWhile Unicode.isWhitespace := by
  induction held with
  | nil => cases back <;> rfl
  | cons c rest ih =>
      have other : (c != '\n') = true := by simpa using (List.ne_of_not_mem_cons unbroken).symm
      rw [List.cons_append, List.takeWhile_cons, List.takeWhile_cons,
        ih (List.not_mem_of_not_mem_cons unbroken), other, Bool.true_and]

/-- The leading white space of a line does not reach past its end. -/
theorem offset_skipLineSpace (among : line ≤ text.lastLine) :
    (Reader.forward text (text.offsetAt line 0)).skipLineSpace.offset =
      text.offsetAt line (text.leadingSpace line) := by
  have stands := stands_start among
  rw [skipLineSpace, offset_skipWhile_from stands.inside, stands.parts.2, List.drop_zero,
    takeWhile_lineSpace (text.unbroken_lineAt line), offsetAt, offsetAt, leadingSpace, Nat.add_zero]

end Readers

end ModalVi.Text
