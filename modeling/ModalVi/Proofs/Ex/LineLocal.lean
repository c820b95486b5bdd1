import Mathlib
import ModalVi.Proofs.Ex.Substitute
import ModalVi.Proofs.Text.BrokenLines
import ModalVi.Regex.Engine

namespace ModalVi.Substitution

/-! Substituting line by line.

A substitution on several lines is one on each of them: what it puts in their place is put together from
what each line alone gives, and so is the number of matches.  The line it reports is the last one with a
match, by the place where it has come to start. -/

open Text (Ended brokenLines startOfLine)

variable {rewrite : LineRewrite} {countOnly : Bool} {first last line offset : Nat}
  {text held : Text}

/-! ### A line -/

def matchesIn (rewrite : LineRewrite) (line : Text) : Nat :=
  (rewrite (Text.splitFinalBreak line).1).1

/-- What comes in place of a line: the line itself if there is no match or matches are only counted,
otherwise its body with the matches replaced, and its break if it has one. -/
def rewriteLine (rewrite : LineRewrite) (countOnly : Bool) (line : Text) : Text :=
  let (body, broken) := Text.splitFinalBreak line
  if countOnly ∨ (rewrite body).1 = 0 then line
  else (rewrite body).2 ++ if broken then ['\n'] else []

theorem rewriteLine_counting (rewrite : LineRewrite) :
    rewriteLine rewrite true = fun line => line := by
  funext line
  simp [rewriteLine]

theorem ended_rewriteLine (rewrite : LineRewrite) (countOnly : Bool) (body : Text) :
    Ended (rewriteLine rewrite countOnly (body ++ ['\n'])) := by
  rw [rewriteLine, Text.splitFinalBreak_concat_break]
  dsimp only
  split
  · exact Text.ended_concat_break body
  · exact Text.ended_concat_break (rewrite body).2

/-! ### Lines one after the other -/

theorem gather_cons (offset : Nat) (line : Text) (rest : List Text) :
    gather rewrite countOnly offset (line :: rest) =
      let later := gather rewrite countOnly (offset + (rewriteLine rewrite countOnly line).length) rest
      (rewriteLine rewrite countOnly line ++ later.1, matchesIn rewrite line + later.2.1,
        later.2.2.or (if countOnly ∨ matchesIn rewrite line = 0 then none else some offset)) := by
  simp only [gather, rewriteLine, matchesIn]
  cases countOnly with
  | true => simp
  | false =>
      by_cases unmatched : (rewrite (Text.splitFinalBreak line).1).1 = 0
      · simp [unmatched]
      · cases (Text.splitFinalBreak line).2 <;> simp [unmatched]

theorem gather_text (offset : Nat) (lines : List Text) :
    (gather rewrite countOnly offset lines).1 = lines.flatMap (rewriteLine rewrite countOnly) := by
  induction lines generalizing offset with
  | nil => rfl
  | cons line rest ih => rw [gather_cons, List.flatMap_cons, ← ih]

theorem gather_count (offset : Nat) (lines : List Text) :
    (gather rewrite countOnly offset lines).2.1 = (lines.map (matchesIn rewrite)).sum := by
  induction lines generalizing offset with
  | nil => rfl
  | cons line rest ih => rw [gather_cons, List.map_cons, List.sum_cons, ← ih]

theorem gather_lastLine_append (offset : Nat) (front back : List Text) :
    (gather rewrite countOnly offset (front ++ back)).2.2 =
      (gather rewrite countOnly
        (offset + (front.flatMap (rewriteLine rewrite countOnly)).length) back).2.2.or
      (gather rewrite countOnly offset front).2.2 := by
  induction front generalizing offset with
  | nil => simp [gather]
  | cons line rest ih =>
      simp only [List.cons_append, gather_cons, ih, List.flatMap_cons, List.length_append,
        Nat.add_assoc, Option.or_assoc]

theorem gather_lastLine_counting (offset : Nat) (lines : List Text) :
    (gather rewrite true offset lines).2.2 = none := by
  induction lines generalizing offset with
  | nil => rfl
  | cons line rest ih => simp [gather_cons, ih]

/-! ### Lines by number -/

theorem take_drop_eq_flatMap {α : Type} (list : List α) (first count : Nat) :
    (list.drop first).take count =
      (List.range' first count).flatMap fun index => list[index]?.toList := by
  induction count with
  | zero => rfl
  | succ count ih =>
      rw [List.take_add_one, List.getElem?_drop, ih, List.range'_concat, List.flatMap_append]
      simp

theorem toList_flatMap (held : Option Text) (write : Text → Text) :
    held.toList.flatMap write = held.elim [] write := by
  cases held <;> simp

theorem gather_lastLine_toList (rewrite : LineRewrite) (offset : Nat) (held : Option Text) :
    (gather rewrite false offset held.toList).2.2 =
      if held.elim 0 (matchesIn rewrite) = 0 then none else some offset := by
  cases held with
  | none => rfl
  | some line => by_cases unmatched : matchesIn rewrite line = 0 <;> simp [gather_cons, gather, unmatched]

theorem gather_lastLine (rewrite : LineRewrite) (offset : Nat) (lines : List Text)
    (first count : Nat) :
    (gather rewrite false offset
        ((List.range' first count).flatMap fun line => lines[line]?.toList)).2.2 =
      ((List.range' first count).filter fun line =>
        lines[line]?.elim 0 (matchesIn rewrite) ≠ 0).getLast?.map
        fun line => offset + ((List.range' first (line - first)).flatMap fun line =>
          lines[line]?.elim [] (rewriteLine rewrite false)).length := by
  -- One more line at the end is the one to report, unless nothing in it matches.
  induction count with
  | zero => rfl
  | succ count ih =>
      rw [List.range'_1_concat, List.flatMap_append, gather_lastLine_append, ih, List.filter_append,
        List.getLast?_append, List.flatMap_assoc, List.flatMap_singleton, gather_lastLine_toList]
      simp only [toList_flatMap]
      by_cases unmatched : lines[first + count]?.elim 0 (matchesIn rewrite) = 0
      · rw [if_pos unmatched, List.filter_cons_of_neg (by simpa using unmatched)]
        rfl
      · rw [if_neg unmatched, List.filter_cons_of_pos (by simpa using unmatched)]
        simp

/-- The numbers from `first` to `last`. -/
def numbers (first last : Nat) : List Nat := List.range' first (last + 1 - first)

theorem mem_numbers (ordered : first ≤ last) :
    line ∈ numbers first last ↔ first ≤ line ∧ line ≤ last := by
  rw [numbers, List.mem_range'_1]
  omega

theorem numbers_eq_append (after : first ≤ line) (before : line ≤ last) :
    numbers first last = List.range' first (line - first) ++ List.range' line (last + 1 - line) := by
  have joined := @List.range'_append_1 first (line - first) (last + 1 - line)
  rw [Nat.add_sub_cancel' after] at joined
  rw [joined, numbers]
  congr 1
  omega

/-- The substitution on one line of a text. -/
def alone (rewrite : LineRewrite) (countOnly : Bool) (text : Text) (line : Nat) :
    SubstitutionResult :=
  executeWith rewrite countOnly line line text

theorem executeWith_of_le (rewrite : LineRewrite) (countOnly : Bool) (ordered : first ≤ last)
    (within : last < text.lineCount) :
    executeWith rewrite countOnly first last text =
      let gathered := gather rewrite countOnly (startOfLine first text)
        ((numbers first last).flatMap fun line => (brokenLines text)[line]?.toList)
      ⟨startOfLine first text, startOfLine (last + 1) text, gathered.1, gathered.2.1, gathered.2.2⟩ := by
  have lastEq : min last (text.lineCount - 1) = last := by omega
  have firstEq : min first last = first := by omega
  have stop : last + 1 = first + (last + 1 - first) := by omega
  have lines := Text.brokenLines_slice first (last + 1 - first) text
  rw [← stop, take_drop_eq_flatMap] at lines
  simp only [executeWith, lastEq, firstEq, lines, numbers]

/-- Only the lines that a text has are substituted on. -/
theorem executeWith_clamped (rewrite : LineRewrite) (countOnly : Bool) (first last : Nat)
    (text : Text) :
    executeWith rewrite countOnly first last text =
      executeWith rewrite countOnly (min first (min last (text.lineCount - 1)))
        (min last (text.lineCount - 1)) text := by
  simp only [executeWith, Nat.min_assoc, Nat.min_self]

theorem alone_eq (rewrite : LineRewrite) (countOnly : Bool) (within : line < text.lineCount) :
    (alone rewrite countOnly text line).text =
        (brokenLines text)[line]?.elim [] (rewriteLine rewrite countOnly) ∧
      (alone rewrite countOnly text line).count =
        (brokenLines text)[line]?.elim 0 (matchesIn rewrite) := by
  have number : numbers line line = [line] := by
    rw [numbers, Nat.add_sub_cancel_left]
    rfl
  rw [alone, executeWith_of_le rewrite countOnly (Nat.le_refl line) within, number]
  simp only [gather_text, gather_count, List.flatMap_singleton]
  cases (brokenLines text)[line]? <;> simp

/-- A line with another one after it still has its break when it was substituted on. -/
theorem ended_alone (rewrite : LineRewrite) (countOnly : Bool)
    (within : line + 1 < text.lineCount) :
    Ended (alone rewrite countOnly text line).text := by
  rw [(alone_eq rewrite countOnly (Nat.lt_of_succ_lt within)).1]
  cases known : (brokenLines text)[line]? with
  | none => exact Text.ended_nil
  | some held =>
      obtain ⟨body, rfl⟩ := Text.exists_of_getElem?_brokenLines known within
      exact ended_rewriteLine rewrite countOnly body

theorem executeWith_text (rewrite : LineRewrite) (countOnly : Bool) (ordered : first ≤ last)
    (within : last < text.lineCount) :
    (executeWith rewrite countOnly first last text).text =
      (numbers first last).flatMap fun line => (alone rewrite countOnly text line).text := by
  rw [executeWith_of_le rewrite countOnly ordered within]
  simp only [gather_text]
  rw [List.flatMap_assoc]
  refine List.flatMap_congr fun line member => ?_
  obtain ⟨_, before⟩ := (mem_numbers ordered).mp member
  rw [(alone_eq rewrite countOnly (Nat.lt_of_le_of_lt before within)).1, toList_flatMap]

theorem executeWith_count (rewrite : LineRewrite) (countOnly : Bool) (ordered : first ≤ last)
    (within : last < text.lineCount) :
    (executeWith rewrite countOnly first last text).count =
      ((numbers first last).map fun line => (alone rewrite countOnly text line).count).sum := by
  have counts : (numbers first last).map (fun line => (alone rewrite countOnly text line).count) =
      (numbers first last).map fun line => (brokenLines text)[line]?.elim 0 (matchesIn rewrite) := by
    refine List.map_congr_left fun line member => ?_
    obtain ⟨_, before⟩ := (mem_numbers ordered).mp member
    exact (alone_eq rewrite countOnly (Nat.lt_of_le_of_lt before within)).2
  rw [executeWith_of_le rewrite countOnly ordered within, counts]
  simp only [gather_count]
  induction numbers first last with
  | nil => rfl
  | cons line rest ih =>
      rw [List.flatMap_cons, List.map_append, List.sum_append, ih, List.map_cons, List.sum_cons]
      cases (brokenLines text)[line]? <;> simp

/-- Where matches are only counted, the lines stay as they are and none is reported. -/
theorem executeWith_counting (rewrite : LineRewrite) (first last : Nat) (text : Text) :
    (executeWith rewrite true first last text).text =
        text.slice (executeWith rewrite true first last text).start
          (executeWith rewrite true first last text).stop ∧
      (executeWith rewrite true first last text).lastLine = none := by
  simp only [executeWith, gather_text, gather_lastLine_counting, rewriteLine_counting,
    List.flatMap_id', Text.flatten_brokenLines, and_self]

/-- The line that is reported is the last one with a match, and it starts behind what came in place of
the lines before it. -/
theorem executeWith_lastLine (rewrite : LineRewrite) (ordered : first ≤ last)
    (within : last < text.lineCount) :
    (executeWith rewrite false first last text).lastLine =
      ((numbers first last).filter fun line => (alone rewrite false text line).count ≠ 0).getLast?.map
        fun line => startOfLine first text +
          ((List.range' first (line - first)).flatMap fun line =>
            (alone rewrite false text line).text).length := by
  have known : ∀ line ≤ last,
      (alone rewrite false text line).text =
          (brokenLines text)[line]?.elim [] (rewriteLine rewrite false) ∧
        (alone rewrite false text line).count =
          (brokenLines text)[line]?.elim 0 (matchesIn rewrite) := fun line before =>
    alone_eq rewrite false (Nat.lt_of_le_of_lt before within)
  have matching : (numbers first last).filter (fun line => (alone rewrite false text line).count ≠ 0) =
      (numbers first last).filter fun line =>
        (brokenLines text)[line]?.elim 0 (matchesIn rewrite) ≠ 0 := by
    refine List.filter_congr fun line member => ?_
    rw [(known line ((mem_numbers ordered).mp member).2).2]
  rw [executeWith_of_le rewrite false ordered within, matching]
  refine (gather_lastLine rewrite _ (brokenLines text) first (last + 1 - first)).trans
    (Option.map_congr fun line reported => ?_)
  have member := (List.mem_filter.mp (List.mem_of_getLast? reported)).1
  have before := ((mem_numbers ordered).mp member).2
  congr 2
  refine List.flatMap_congr fun earlier among => ?_
  have bound := (List.mem_range'_1.mp among).2
  exact ((known earlier (by omega)).1).symm

/-- The line that is reported starts as a line in the new text. -/
theorem lineStart_of_reported (ordered : first ≤ last) (within : last < text.lineCount)
    (reported : (executeWith rewrite countOnly first last text).lastLine = some offset) :
    let result := executeWith rewrite countOnly first last text
    offset ≤ (text.splice result.start result.stop result.text).length ∧
      (text.splice result.start result.stop result.text).lineStart offset = offset := by
  cases countOnly with
  | true =>
      rw [(executeWith_counting rewrite first last text).2] at reported
      cases reported
  | false =>
      rw [executeWith_lastLine rewrite ordered within] at reported
      obtain ⟨line, chosen, rfl⟩ := Option.map_eq_some_iff.mp reported
      have member := (List.mem_filter.mp (List.mem_of_getLast? chosen)).1
      obtain ⟨after, before⟩ := (mem_numbers ordered).mp member
      have new := executeWith_text rewrite false ordered within
      have started : (executeWith rewrite false first last text).start = startOfLine first text := by
        rw [executeWith_of_le rewrite false ordered within]
      have ended : Ended ((List.range' first (line - first)).flatMap fun line =>
          (alone rewrite false text line).text) := by
        refine Text.ended_flatMap fun earlier among => ended_alone rewrite false ?_
        have bound := (List.mem_range'_1.mp among).2
        omega
      dsimp only
      rw [new, started, numbers_eq_append after before, List.flatMap_append]
      exact Text.lineStart_splice (Text.startOfLine_le first text)
        (Text.ended_take_startOfLine (Nat.lt_of_le_of_lt ordered within)) ended _ _

/-! ### The whole substitution -/

/-- What a substitution on the lines from `first` to `last` of a text comes to. -/
structure LineLocal (rewrite : LineRewrite) (countOnly : Bool) (text : Text) (first last : Nat)
    (result : SubstitutionResult) : Prop where
  start : result.start = startOfLine first text
  stop : result.stop = startOfLine (last + 1) text
  new : result.text = (numbers first last).flatMap fun line => (alone rewrite countOnly text line).text
  count : result.count = ((numbers first last).map fun line =>
    (alone rewrite countOnly text line).count).sum
  /-- Alone, a line is rewritten; behind the last break there is nothing to rewrite. -/
  single : ∀ line ∈ numbers first last,
    (alone rewrite countOnly text line).text =
        (brokenLines text)[line]?.elim [] (rewriteLine rewrite countOnly) ∧
      (alone rewrite countOnly text line).count =
        (brokenLines text)[line]?.elim 0 (matchesIn rewrite)
  counting : countOnly = true →
    result.text = text.slice result.start result.stop ∧ result.lastLine = none
  changed : countOnly = false → (result.lastLine.isSome ↔ 0 < result.count)
  lastLine : countOnly = false → result.lastLine =
    ((numbers first last).filter fun line =>
      (alone rewrite countOnly text line).count ≠ 0).getLast?.map fun line =>
        result.start + ((List.range' first (line - first)).flatMap fun line =>
          (alone rewrite countOnly text line).text).length
  lineStart : ∀ offset, result.lastLine = some offset →
    offset ≤ (text.splice result.start result.stop result.text).length ∧
      (text.splice result.start result.stop result.text).lineStart offset = offset

theorem lineLocal_of_le (rewrite : LineRewrite) (countOnly : Bool) (ordered : first ≤ last)
    (within : last < text.lineCount) :
    LineLocal rewrite countOnly text first last (executeWith rewrite countOnly first last text) where
  start := by rw [executeWith_of_le rewrite countOnly ordered within]
  stop := by rw [executeWith_of_le rewrite countOnly ordered within]
  new := executeWith_text rewrite countOnly ordered within
  count := executeWith_count rewrite countOnly ordered within
  single line member := alone_eq rewrite countOnly
    (Nat.lt_of_le_of_lt ((mem_numbers ordered).mp member).2 within)
  counting := by
    rintro rfl
    exact executeWith_counting rewrite first last text
  changed := by
    rintro rfl
    rw [executeWith_lastLine rewrite ordered within, executeWith_count rewrite false ordered within,
      Option.isSome_map, List.getLast?_isSome, List.sum_pos_iff_exists_pos_nat]
    simp [List.filter_eq_nil_iff, Nat.pos_iff_ne_zero]
  lastLine := by
    rintro rfl
    rw [executeWith_lastLine rewrite ordered within, executeWith_of_le rewrite false ordered within]
  lineStart _ reported := lineStart_of_reported ordered within reported

/-- A substitution does to each of its lines what it does to that line alone, whatever rewrites a line,
and a substitution whose pattern is an expression is such a rewriting. -/
theorem execute_lineLocal (library : Library) (first last : Nat) (text : Text) :
    (∀ rewrite countOnly, LineLocal rewrite countOnly text (min first (min last (text.lineCount - 1)))
      (min last (text.lineCount - 1)) (executeWith rewrite countOnly first last text)) ∧
    ∀ (substitution : Substitution) (rewrite : LineRewrite),
      substitution.rewrite library = .ok rewrite →
      substitution.execute library first last text =
        .ok (executeWith rewrite substitution.flags.countOnly first last text) := by
  have lines : 0 < text.lineCount := Nat.succ_pos _
  refine ⟨fun rewrite countOnly => ?_, fun substitution rewrite compiled => ?_⟩
  · rw [executeWith_clamped]
    exact lineLocal_of_le rewrite countOnly (Nat.min_le_right _ _) (by omega)
  · rw [execute, compiled]
    rfl

/-- Two matches in the last line but one, each with a break in what replaces it, and more lines asked for
than there are. -/
theorem execute_lineLocal_of_breaks :
    let substitution : Substitution := ⟨['b'], "x\\ny".toList, ⟨true, false, false⟩⟩
    let text : Text := "ab\n\nb b\n".toList
    let result : SubstitutionResult := ⟨0, 8, "ax\ny\n\nx\ny x\ny\n".toList, 3, some 6⟩
    ∃ rewrite, substitution.rewrite .standard = .ok rewrite ∧
      substitution.execute .standard 0 9 text = .ok result ∧
      LineLocal rewrite false text 0 3 result := by
  intro substitution text result
  obtain ⟨rewrite, compiled⟩ : ∃ rewrite, substitution.rewrite .standard = .ok rewrite :=
    ⟨_, by rfl⟩
  have executed : substitution.execute .standard 0 9 text = .ok result := by decide +kernel
  obtain ⟨lineLocal, same⟩ := execute_lineLocal .standard 0 9 text
  have gathered : executeWith rewrite false 0 9 text = result :=
    Except.ok.inj ((same substitution rewrite compiled).symm.trans executed)
  have known := lineLocal rewrite false
  rw [gathered] at known
  exact ⟨rewrite, compiled, executed, known⟩

end ModalVi.Substitution
