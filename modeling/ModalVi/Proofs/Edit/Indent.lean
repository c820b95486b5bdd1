import ModalVi.Edit.Basic
import ModalVi.Proofs.Text.BrokenLines
import ModalVi.Proofs.Text.Splice

namespace ModalVi.Text

/-! Lines shifted by one level of indentation.

Lines are shifted one by one, each by itself, and shifting some of them leaves the others as they are.
Shifted inward, the lines of a text are found again in it, so that shifting outward meets the same
lines. -/

variable {α : Type} {text unit line : Text} {first past : Nat} {inward : Bool}

/-- A line with one level of indentation more, if there is anything in it. -/
def indentLine (unit : Text) : Text → Text
  | [] => []
  | c :: rest => if c = '\n' then c :: rest else unit ++ c :: rest

def shiftLine (inward : Bool) (unit line : Text) : Text :=
  if inward then indentLine unit line else unindentLine unit line

/-- The lines of a text with their breaks, of which those from `first` on and before `past` are
shifted. -/
def shiftedLines (inward : Bool) (unit : Text) (first past : Nat) (text : Text) : List Text :=
  (brokenLines text).mapIdx fun line held =>
    if first ≤ line ∧ line < past then shiftLine inward unit held else held

/-- What of a unit is left of it where it was put before a line and one level of indentation was taken
off again: a tab is taken alone. -/
def surplus (unit : Text) : Text := if unit.head? = some '\t' then unit.tail else []

theorem surplus_subset (unit : Text) : surplus unit ⊆ unit := by
  rw [surplus]
  split
  · exact (List.tail_sublist unit).subset
  · exact List.nil_subset unit

/-! ### Line by line -/

/-- Text that does not begin a line continues the line before, and all others are indented. -/
theorem indentFrom_eq (unit text : Text) :
    indentFrom unit false text =
        (brokenLines text).headD [] ++ (brokenLines text).tail.flatMap (indentLine unit) ∧
      indentFrom unit true text = (brokenLines text).flatMap (indentLine unit) := by
  induction text with
  | nil => exact ⟨rfl, rfl⟩
  | cons c rest ih =>
      obtain ⟨continued, begun⟩ := ih
      by_cases broken : c = '\n'
      · subst broken
        rw [brokenLines_cons_break]
        simp [indentFrom, indentLine, begun]
      · have other : (c == '\n') = false := by simpa using broken
        rw [brokenLines_cons broken]
        simp [indentFrom, indentLine, broken, other, continued]

theorem shift_eq (inward : Bool) (text unit : Text) :
    (if inward then text.indent unit else text.unindent unit) =
      (brokenLines text).flatMap (shiftLine inward unit) := by
  cases inward with
  | true => exact (indentFrom_eq unit text).2
  | false => rfl

theorem mapIdx_between (write : α → α) (rows : List α) (ordered : first ≤ past) :
    rows.mapIdx (fun index row => if first ≤ index ∧ index < past then write row else row) =
      rows.take first ++ ((rows.drop first).take (past - first)).map write ++ rows.drop past := by
  -- Both bounds are counted down with the rows; once the first is reached, only the second is.
  induction rows generalizing first past with
  | nil => simp
  | cons row rows ih =>
      rw [List.mapIdx_cons]
      cases past with
      | zero =>
          have kept : rows.mapIdx (fun _ row => row) = rows := List.ext_getElem? fun _ => by simp
          simp [Nat.le_zero.mp ordered, kept]
      | succ past =>
          cases first with
          | zero => simpa using ih (Nat.zero_le past)
          | succ first => simpa using ih (Nat.le_of_succ_le_succ ordered)

theorem splice_shift (inward : Bool) (unit : Text) (ordered : first ≤ past) (text : Text) :
    text.splice (startOfLine first text) (startOfLine past text)
        (if inward then
          (text.slice (startOfLine first text) (startOfLine past text)).indent unit
        else (text.slice (startOfLine first text) (startOfLine past text)).unindent unit) =
      (shiftedLines inward unit first past text).flatten := by
  have count : past = first + (past - first) := by omega
  have held := brokenLines_slice first (past - first) text
  rw [← count] at held
  rw [shift_eq, held, shiftedLines, mapIdx_between _ _ ordered, List.flatten_append,
    List.flatten_append, flatten_take_brokenLines, flatten_drop_brokenLines]
  rfl

/-! ### Inward and outward -/

theorem unindentLine_indentLine (given : unit ≠ []) (unbroken : '\n' ∉ unit) (line : Text) :
    unindentLine unit (indentLine unit line) = indentLine (surplus unit) line := by
  obtain ⟨d, more, rfl⟩ := List.exists_cons_of_ne_nil given
  have other : d ≠ '\n' := fun same => unbroken (same ▸ List.mem_cons_self)
  cases line with
  | nil => rfl
  | cons c rest =>
      by_cases broken : c = '\n'
      · subst broken
        simp [indentLine, unindentLine, List.isPrefixOf, other]
      · simp only [indentLine, if_neg broken]
        by_cases tab : d = '\t'
        · subst tab
          rfl
        · have shown : surplus (d :: more) = [] := by simp [surplus, tab]
          rw [shown]
          simp [unindentLine, tab]

theorem indentLine_eq_self_iff (line : Text) :
    indentLine unit line = line ↔ unit = [] ∨ line = [] ∨ line.head? = some '\n' := by
  cases line with
  | nil => simp [indentLine]
  | cons c rest =>
      by_cases broken : c = '\n' <;> simp [indentLine, broken]

theorem indentLine_append_break (unbroken : '\n' ∉ line) :
    indentLine unit (line ++ ['\n']) = indentLine unit line ++ ['\n'] := by
  cases line with
  | nil => rfl
  | cons c rest =>
      have other : c ≠ '\n' := fun same => unbroken (same ▸ List.mem_cons_self)
      simp [indentLine, other]

theorem indentLine_ne_nil (given : line ≠ []) : indentLine unit line ≠ [] := by
  obtain ⟨c, rest, rfl⟩ := List.exists_cons_of_ne_nil given
  by_cases broken : c = '\n' <;> simp [indentLine, broken]

theorem unbroken_indentLine (plain : '\n' ∉ unit) (unbroken : '\n' ∉ line) :
    '\n' ∉ indentLine unit line := by
  cases line with
  | nil => exact unbroken
  | cons c rest =>
      have other : c ≠ '\n' := fun same => unbroken (same ▸ List.mem_cons_self)
      rw [indentLine, if_neg other, List.mem_append, not_or]
      exact ⟨plain, unbroken⟩

theorem brokenLines_shiftedLines (plain : '\n' ∉ unit) (first past : Nat) (text : Text) :
    brokenLines (shiftedLines true unit first past text).flatten =
      shiftedLines true unit first past text := by
  apply Broken.brokenLines_flatten
  refine (Broken.of_text text).mapIdx (fun index body unbroken => ?_)
    fun index line given unbroken => ?_
  · by_cases within : first ≤ index ∧ index < past
    · rw [if_pos within]
      exact ⟨_, unbroken_indentLine plain unbroken, indentLine_append_break unbroken⟩
    · exact ⟨body, unbroken, if_neg within⟩
  · by_cases within : first ≤ index ∧ index < past
    · rw [if_pos within]
      exact ⟨indentLine_ne_nil given, unbroken_indentLine plain unbroken⟩
    · rw [if_neg within]
      exact ⟨given, unbroken⟩

theorem shiftedLines_undone (given : unit ≠ []) (unbroken : '\n' ∉ unit) (first past : Nat)
    (text : Text) :
    shiftedLines false unit first past (shiftedLines true unit first past text).flatten =
      shiftedLines true (surplus unit) first past text := by
  rw [shiftedLines, brokenLines_shiftedLines unbroken, shiftedLines, shiftedLines, List.mapIdx_mapIdx]
  congr 1
  funext line held
  simp only [Function.comp]
  split
  · exact unindentLine_indentLine given unbroken held
  · rfl

theorem mapIdx_between_eq_self_iff (write : α → α) (rows : List α) (ordered : first ≤ past) :
    rows.mapIdx (fun index row => if first ≤ index ∧ index < past then write row else row) = rows ↔
      ∀ row ∈ (rows.drop first).take (past - first), write row = row := by
  have parts : rows.take first ++ ((rows.drop first).take (past - first)).map id ++ rows.drop past =
      rows := by
    have later : rows.drop past = (rows.drop first).drop (past - first) := by
      rw [List.drop_drop]
      congr 1
      omega
    rw [List.map_id, later, List.append_assoc, List.take_append_drop, List.take_append_drop]
  rw [mapIdx_between write rows ordered]
  calc
    _ ↔ rows.take first ++ ((rows.drop first).take (past - first)).map write ++ rows.drop past =
          rows.take first ++ ((rows.drop first).take (past - first)).map id ++ rows.drop past := by
      rw [parts]
    _ ↔ _ := by
      rw [List.append_left_inj, List.append_right_inj, List.map_inj_left]
      rfl

/-- A text is the same after some of its lines were indented only if these are empty. -/
theorem flatten_shiftedLines_eq_iff (plain : '\n' ∉ unit) (ordered : first ≤ past) (text : Text) :
    (shiftedLines true unit first past text).flatten = text ↔
      unit = [] ∨ ∀ held ∈ ((brokenLines text).drop first).take (past - first), held = ['\n'] := by
  have same : (shiftedLines true unit first past text).flatten = text ↔
      shiftedLines true unit first past text = brokenLines text := by
    refine ⟨fun same => ?_, fun same => by rw [same, flatten_brokenLines]⟩
    rw [← brokenLines_shiftedLines plain, same]
  have each : ∀ held ∈ ((brokenLines text).drop first).take (past - first),
      (shiftLine true unit held = held ↔ unit = [] ∨ held = ['\n']) := by
    intro held member
    have among := List.drop_subset _ _ (List.take_subset _ _ member)
    have begun := (Broken.of_text text).head?_ne_break among
    have given := (Broken.of_text text).ne_nil among
    have kept : shiftLine true unit held = held ↔ _ := indentLine_eq_self_iff held
    rw [kept]
    constructor
    · rintro (none | empty | first)
      · exact .inl none
      · exact absurd empty given
      · exact .inr (begun.resolve_right fun other => other first)
    · rintro (none | rfl)
      · exact .inl none
      · exact .inr (.inr rfl)
  rw [same, shiftedLines, mapIdx_between_eq_self_iff _ _ ordered, forall₂_congr each]
  by_cases none : unit = [] <;> simp [none]

/-! ### Lines around the shifted ones -/

theorem getElem?_shiftedLines (inward : Bool) (unit : Text) (first past index : Nat) (text : Text) :
    (shiftedLines inward unit first past text)[index]? =
      (brokenLines text)[index]?.map fun held =>
        if first ≤ index ∧ index < past then shiftLine inward unit held else held := by
  rw [shiftedLines, List.getElem?_mapIdx]

/-- Of the lines from a place to another one, only the last can be without a character in between. -/
theorem lineOf_between_iff {low high index : Nat} (ordered : low ≤ high)
    (outside : ∀ offset, low ≤ offset → offset < high → text.lineOf offset ≠ index) :
    text.lineOf low ≤ index ∧ index < text.lineOf high + 1 ↔ index = text.lineOf high := by
  constructor
  · rintro ⟨after, before⟩
    rcases Nat.eq_or_lt_of_le ordered with rfl | given
    · omega
    · apply Nat.le_antisymm (Nat.le_of_lt_succ before)
      apply Nat.le_of_not_lt
      intro earlier
      have next := lineOf_succ text (high - 1)
      rw [Nat.sub_add_cancel (by omega)] at next
      have within : index ≤ text.lineOf (high - 1) := by
        split at next <;> omega
      obtain ⟨offset, started, ended, same⟩ := (exists_lineOf_iff given).mp ⟨after, within⟩
      exact outside offset started ended same
  · rintro rfl
    exact ⟨lineOf_mono text ordered, Nat.lt_succ_self _⟩

/-- A line that has nothing of a span is left alone where the span's lines are shifted, unless the span
ends at its start. -/
theorem getElem?_shiftedLines_eq_iff {low high index : Nat} (ordered : low ≤ high)
    (outside : ∀ offset, low ≤ offset → offset < high → text.lineOf offset ≠ index) :
    (shiftedLines inward unit (text.lineOf low) (text.lineOf high + 1) text)[index]? =
        (brokenLines text)[index]? ↔
      index ≠ text.lineOf high ∨
        ∀ held, (brokenLines text)[index]? = some held → shiftLine inward unit held = held := by
  simp only [getElem?_shiftedLines, lineOf_between_iff ordered outside]
  by_cases last : index = text.lineOf high
  · cases (brokenLines text)[index]? <;> simp [last]
  · simp [last]

theorem sameLine_indentEnd {offset : Nat} (inside : offset ≤ text.length) :
    SameLine text offset (text.indentEnd offset) :=
  sameLine_skipWhile rfl inside

end ModalVi.Text
