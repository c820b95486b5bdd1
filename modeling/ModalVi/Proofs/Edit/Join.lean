import ModalVi.Edit.Basic
import ModalVi.Proofs.Text.Column

namespace ModalVi.Text

/-! Lines joined to one.

Joining puts the lines of a text one after the other and takes away nothing but white space.  The first
line keeps its front and the last one its end, so a text of one line stays as it is. -/

variable {text line rest last between : Text} {front row middle : List Text} {c : Char}

/-! ### The final break -/

/-- The text without its final break. -/
def body (text : Text) : Text := (splitFinalBreak text).1

/-- The break that the text ends with, if it does. -/
def finalBreak (text : Text) : Text := if text.getLast? = some '\n' then ['\n'] else []

/-- The characters after the last break, the final one apart. -/
def finalLine (text : Text) : Text := ((body text).reverse.takeWhile (· != '\n')).reverse

theorem body_append_finalBreak (text : Text) : body text ++ finalBreak text = text := by
  by_cases ended : text.getLast? = some '\n'
  · obtain ⟨front, rfl⟩ := List.getLast?_eq_some_iff.mp ended
    simp [body, splitFinalBreak, finalBreak]
  · simp [body, splitFinalBreak, finalBreak, ended]

/-- A break in the body is one before the last character. -/
theorem break_mem_body : '\n' ∈ body text ↔ '\n' ∈ text.dropLast := by
  by_cases ended : text.getLast? = some '\n'
  · simp [body, splitFinalBreak, ended]
  · rw [body, splitFinalBreak, if_neg ended]
    rcases text.eq_nil_or_concat with rfl | ⟨front, c, rfl⟩
    · rfl
    · have other : '\n' ≠ c := by
        rintro rfl
        exact ended (by simp)
      simp [other]

theorem finalBreak_append (given : rest ≠ []) : finalBreak (line ++ rest) = finalBreak rest := by
  rw [finalBreak, finalBreak, List.getLast?_append_of_ne_nil line given]

theorem body_append (given : rest ≠ []) : body (line ++ rest) = line ++ body rest := by
  have whole : body (line ++ rest) ++ finalBreak rest = line ++ body rest ++ finalBreak rest := by
    calc
      body (line ++ rest) ++ finalBreak rest = line ++ rest := by
        rw [← finalBreak_append given, body_append_finalBreak]
      _ = line ++ body rest ++ finalBreak rest := by
        rw [List.append_assoc, body_append_finalBreak]
  exact List.append_cancel_right whole

theorem finalLine_eq (unbroken : '\n' ∉ last) (above : lines (body text) = front ++ [last]) :
    finalLine text = last := by
  have whole := ofLines_lines (body text)
  rw [above, ofLines_append_cons, List.flatMap_nil, List.append_nil] at whole
  have ended : Ended (front.flatMap (· ++ ['\n'])) := ended_flatMap fun held _ => ended_concat_break held
  have accepted : ∀ c ∈ last.reverse, (c != '\n') = true := by
    intro c member
    rw [bne_iff_ne]
    rintro rfl
    exact unbroken (List.mem_reverse.mp member)
  rw [finalLine, ← whole, List.reverse_append, List.takeWhile_append_of_pos accepted,
    ended.takeWhile_reverse, List.append_nil, List.reverse_reverse]

/-! ### What is not white space -/

/-- The characters of a text that are not white space. -/
def solid (text : Text) : Text := text.filter (!Unicode.isWhitespace ·)

theorem solid_append (text rest : Text) : solid (text ++ rest) = solid text ++ solid rest :=
  List.filter_append ..

theorem solid_of_spaces (spaces : ∀ c ∈ text, Unicode.isWhitespace c = true) : solid text = [] := by
  apply List.filter_eq_nil_iff.mpr
  intro c member
  simp [spaces c member]

theorem solid_trimStart (text : Text) : solid (trimStart text) = solid text := by
  have parts : text.takeWhile Unicode.isWhitespace ++ trimStart text = text :=
    List.takeWhile_append_dropWhile
  rw [← parts, solid_append, parts, solid_of_spaces (isWhitespace_of_mem_takeWhile text)]
  rfl

theorem solid_trimEnd (text : Text) : solid (trimEnd text) = solid text := by
  obtain ⟨blanks, parts, spaces⟩ := exists_trimEnd_append text
  nth_rewrite 2 [← parts]
  rw [solid_append, solid_of_spaces spaces, List.append_nil]

theorem solid_trim (text : Text) : solid (trim text) = solid text := by
  rw [trim, solid_trimEnd, solid_trimStart]

theorem solid_intercalate (spaces : ∀ c ∈ between, Unicode.isWhitespace c = true)
    (row : List Text) :
    solid (between.intercalate row) = row.flatMap solid := by
  induction row with
  | nil => rfl
  | cons line row ih =>
      cases row with
      | nil => simp
      | cons next row =>
          rw [List.intercalate_cons_cons, solid_append, solid_append, solid_of_spaces spaces, ih]
          simp

theorem unbroken_intercalate (spaced : '\n' ∉ between) (unbroken : ∀ line ∈ row, '\n' ∉ line) :
    '\n' ∉ between.intercalate row := by
  induction row with
  | nil => simp
  | cons line row ih =>
      cases row with
      | nil => simpa using unbroken
      | cons next row =>
          rw [List.intercalate_cons_cons]
          simp only [List.mem_append, not_or]
          exact ⟨⟨unbroken line List.mem_cons_self, spaced⟩,
            ih fun other member => unbroken other (List.mem_cons_of_mem _ member)⟩

/-! ### Lines one after the other -/

theorem intercalate_concat (given : row ≠ []) (last : Text) :
    between.intercalate (row ++ [last]) = between.intercalate row ++ between ++ last := by
  induction row with
  | nil => exact absurd rfl given
  | cons line row ih =>
      cases row with
      | nil => simp
      | cons next row =>
          have later := ih (by simp)
          simp only [List.cons_append, List.intercalate_cons_cons] at later ⊢
          rw [later]
          simp

theorem trimLaterLines_concat (middle : List Text) (last : Text) :
    trimLaterLines (middle ++ [last]) = middle.map trim ++ [trimStart last] := by
  induction middle with
  | nil => rfl
  | cons line middle ih =>
      cases middle with
      | nil => rfl
      | cons next middle =>
          have onward : trimLaterLines (line :: (next :: middle ++ [last])) =
              trim line :: trimLaterLines (next :: middle ++ [last]) := rfl
          rw [List.cons_append, onward, ih]
          rfl

theorem trimJoints_concat (first : Text) (middle : List Text) (last : Text) :
    trimJoints (first :: (middle ++ [last])) =
      (trimEnd first :: middle.map trim) ++ [trimStart last] := by
  rw [List.cons_append, ← trimLaterLines_concat]
  cases middle <;> rfl

theorem join_eq (text between : Text) :
    join text between =
      (between.intercalate (trimJoints (lines (body text))) ++ finalBreak text,
        (between.intercalate (trimJoints (lines (body text))).dropLast).length) := by
  by_cases ended : text.getLast? = some '\n' <;>
    simp [join, body, finalBreak, splitFinalBreak, ended]

/-- What a line is joined with does not depend on it, and only the end of it is trimmed. -/
theorem join_append_break (unbroken : '\n' ∉ line) (given : rest ≠ []) (between : Text) :
    (join (line ++ '\n' :: rest) between).1 =
      trimEnd line ++
        (between ++ between.intercalate (trimLaterLines (lines (body rest))) ++ finalBreak rest) := by
  have broken : body (['\n'] ++ rest) = ['\n'] ++ body rest := body_append given
  have ends : finalBreak (['\n'] ++ rest) = finalBreak rest := finalBreak_append given
  rw [List.singleton_append] at broken ends
  rw [join_eq, body_append (List.cons_ne_nil _ _), broken, List.singleton_append,
    lines_append unbroken, finalBreak_append (List.cons_ne_nil _ _), ends]
  rcases (lines (body rest)).eq_nil_or_concat with none | ⟨middle, last, more⟩
  · exact absurd none (lines_ne_nil _)
  · rw [List.concat_eq_append] at more
    rw [more, trimJoints_concat, trimLaterLines_concat, List.cons_append]
    cases middle <;> simp

/-- A single line stays as it is. -/
theorem join_of_unbroken (unbroken : '\n' ∉ text.dropLast) (between : Text) :
    (join text between).1 = text := by
  have free : '\n' ∉ body text := fun member => unbroken (break_mem_body.mp member)
  rw [join_eq, lines_of_unbroken free, trimJoints, List.intercalate_singleton,
    body_append_finalBreak]

theorem exists_lines (broken : '\n' ∈ text.dropLast) :
    ∃ first middle last, lines (body text) = first :: (middle ++ [last]) := by
  obtain ⟨first, rest, above⟩ := List.exists_cons_of_ne_nil (lines_ne_nil (body text))
  rcases rest.eq_nil_or_concat with rfl | ⟨middle, last, rfl⟩
  · have member := break_mem_body.mpr broken
    rw [← ofLines_lines (body text), above, ofLines, List.intercalate_singleton] at member
    exact absurd member (unbroken_of_mem_lines (by rw [above]; exact List.mem_cons_self))
  · exact ⟨first, middle, last, by rw [above, List.concat_eq_append]⟩

section Lines

variable {first : Text} (above : lines (body text) = first :: (middle ++ [last]))
include above

theorem join_of_lines (between : Text) :
    join text between =
      (between.intercalate ((trimEnd first :: middle.map trim) ++ [trimStart last]) ++ finalBreak text,
        (between.intercalate (trimEnd first :: middle.map trim)).length) := by
  rw [join_eq, above, trimJoints_concat, List.dropLast_concat]

theorem unbroken_trimmed :
    ∀ line ∈ (trimEnd first :: middle.map trim) ++ [trimStart last], '\n' ∉ line := by
  have unbroken (line : Text) (member : line ∈ first :: (middle ++ [last])) : '\n' ∉ line :=
    unbroken_of_mem_lines (above ▸ member)
  intro line member broken
  simp only [List.mem_append, List.mem_cons, List.mem_map] at member
  rcases member with (rfl | ⟨held, among, rfl⟩) | rfl | none
  · exact unbroken first (by simp) (trimEnd_subset first broken)
  · exact unbroken held (by simp [among]) (trim_subset held broken)
  · exact unbroken last (by simp) ((List.dropWhile_sublist _).subset broken)
  · cases none

theorem solid_join_of_lines (spaces : ∀ c ∈ between, Unicode.isWhitespace c = true) :
    solid (join text between).1 = solid text := by
  have whole : solid text = solid (body text) ++ solid (finalBreak text) := by
    rw [← solid_append, body_append_finalBreak]
  rw [whole, ← ofLines_lines (body text), above, join_of_lines above, solid_append, ofLines,
    solid_intercalate spaces, solid_intercalate (List.forall_mem_singleton.mpr rfl)]
  simp [List.flatMap_map, solid_trimEnd, solid_trim, solid_trimStart]

end Lines

/-! ### Joining a text -/

/-- The text `out` is `text` with its lines joined by `between`, the last of them at `place`. -/
structure Joined (text between out : Text) (place : Nat) : Prop where
  solid : solid out = solid text
  unbroken : '\n' ∉ out.dropLast
  ended : out.getLast? = some '\n' ↔ text.getLast? = some '\n'
  alone : '\n' ∉ text.dropLast → out = text
  inside : '\n' ∈ text.dropLast → place ≤ out.length
  parts : '\n' ∈ text.dropLast →
    out = out.take place ++ between ++ trimStart (finalLine text) ++ finalBreak text

/-- Unbroken text with the final break of another one has just that break. -/
theorem ends_of_unbroken (unbroken : '\n' ∉ line) (text : Text) :
    '\n' ∉ (line ++ finalBreak text).dropLast ∧
      ((line ++ finalBreak text).getLast? = some '\n' ↔ text.getLast? = some '\n') := by
  by_cases ended : text.getLast? = some '\n'
  · simp [finalBreak, ended, unbroken]
  · have other : line.getLast? ≠ some '\n' := fun last => unbroken (List.mem_of_getLast? last)
    rw [finalBreak, if_neg ended, List.append_nil]
    exact ⟨fun member => unbroken (List.dropLast_subset line member), iff_of_false other ended⟩

/-- Joining with spaces, or with nothing, keeps every character that is not white space.  It leaves only a
final break, changes nothing where there is nothing to join, and tells where the last line was put. -/
theorem joined_join (spaces : ∀ c ∈ between, c = ' ') (text : Text) :
    Joined text between (join text between).1 (join text between).2 := by
  have blank : ∀ c ∈ between, Unicode.isWhitespace c = true := by
    intro c member
    rw [spaces c member]
    rfl
  have spaced : '\n' ∉ between := by
    intro member
    cases spaces _ member
  by_cases broken : '\n' ∈ text.dropLast
  · obtain ⟨first, middle, last, above⟩ := exists_lines broken
    have known := join_of_lines above between
    have ends := ends_of_unbroken (unbroken_intercalate spaced (unbroken_trimmed above)) text
    have unbroken : '\n' ∉ last := unbroken_of_mem_lines (by rw [above]; simp)
    have solid := solid_join_of_lines above blank
    have rows : lines (body text) = (first :: middle) ++ [last] := above
    rw [known] at solid ⊢
    refine ⟨solid, ends.1, ends.2, fun free => absurd broken free, fun _ => ?_, fun _ => ?_⟩
    · rw [intercalate_concat (List.cons_ne_nil _ _)]
      simp only [List.length_append]
      omega
    · rw [finalLine_eq unbroken rows,
        intercalate_concat (List.cons_ne_nil _ _)]
      simp only [List.append_assoc, List.take_left]
  · have same := join_of_unbroken broken between
    rw [same]
    exact ⟨rfl, broken, Iff.rfl, fun _ => rfl, fun member => absurd member broken,
      fun member => absurd member broken⟩

/-- Three lines, the one in the middle blank, with white space at their ends. -/
theorem joined_of_blank_line :
    (∀ c ∈ [' '], c = ' ') ∧
      join " a \n \t\n  b c \n".toList [' '] = (" a  b c \n".toList, 3) ∧
      Joined " a \n \t\n  b c \n".toList [' '] " a  b c \n".toList 3 := by
  have spaces : ∀ c ∈ [' '], c = ' ' := List.forall_mem_singleton.mpr rfl
  have joined : join " a \n \t\n  b c \n".toList [' '] = (" a  b c \n".toList, 3) := by
    decide +kernel
  have all := joined_join spaces " a \n \t\n  b c \n".toList
  rw [joined] at all
  exact ⟨spaces, joined, all⟩

end ModalVi.Text
