import ModalVi.Proofs.Text.Line

namespace ModalVi.Text

/-! Lines with their breaks.

The lines of a text, each with its break, make up the text, so the lines before a line are as long as its
start is far away.  A line starts wherever the text before is ended, that is empty or with a break at its
end. -/

variable {text rest held : Text} {c : Char} {line offset : Nat}

/-! ### Lines by number -/

theorem brokenLines_cons_break (rest : Text) :
    brokenLines ('\n' :: rest) = ['\n'] :: brokenLines rest := rfl

theorem brokenLines_cons (other : c ≠ '\n') (rest : Text) :
    brokenLines (c :: rest) = (c :: (brokenLines rest).headD []) :: (brokenLines rest).tail := by
  rw [brokenLines, if_neg (by simpa using other)]
  cases brokenLines rest <;> rfl

theorem startOfLine_cons_break (line : Nat) (rest : Text) :
    startOfLine (line + 1) ('\n' :: rest) = startOfLine line rest + 1 := rfl

theorem startOfLine_cons (other : c ≠ '\n') (line : Nat) (rest : Text) :
    startOfLine (line + 1) (c :: rest) = startOfLine (line + 1) rest + 1 := by
  rw [startOfLine, if_neg (by simpa using other)]

theorem brokenLines_take_startOfLine (line : Nat) (text : Text) :
    brokenLines (text.take (startOfLine line text)) = (brokenLines text).take line := by
  induction text generalizing line with
  | nil => cases line <;> rfl
  | cons c rest ih =>
      cases line with
      | zero => rfl
      | succ line =>
          by_cases broken : c = '\n'
          · rw [broken, startOfLine_cons_break, List.take_succ_cons, brokenLines_cons_break,
              brokenLines_cons_break, List.take_succ_cons, ih]
          · rw [startOfLine_cons broken, List.take_succ_cons, brokenLines_cons broken,
              brokenLines_cons broken, List.take_succ_cons, ih]
            cases brokenLines rest with
            | nil => simp
            | cons held others => rfl

theorem brokenLines_drop_startOfLine (line : Nat) (text : Text) :
    brokenLines (text.drop (startOfLine line text)) = (brokenLines text).drop line := by
  induction text generalizing line with
  | nil => cases line <;> rfl
  | cons c rest ih =>
      cases line with
      | zero => rfl
      | succ line =>
          by_cases broken : c = '\n'
          · rw [broken, startOfLine_cons_break, List.drop_succ_cons, brokenLines_cons_break,
              List.drop_succ_cons, ih]
          · rw [startOfLine_cons broken, List.drop_succ_cons, brokenLines_cons broken,
              List.drop_succ_cons, ih, List.drop_tail]

/-- Lines are counted on from the start of a line. -/
theorem startOfLine_add (line more : Nat) (text : Text) :
    startOfLine (line + more) text =
      startOfLine line text + startOfLine more (text.drop (startOfLine line text)) := by
  induction text generalizing line with
  | nil => cases line <;> cases more <;> rfl
  | cons c rest ih =>
      cases line with
      | zero => simp [startOfLine]
      | succ line =>
          rw [Nat.succ_add]
          by_cases broken : c = '\n'
          · rw [broken, startOfLine_cons_break, startOfLine_cons_break, List.drop_succ_cons, ih]
            omega
          · have later := ih (line + 1)
            rw [Nat.succ_add] at later
            rw [startOfLine_cons broken, startOfLine_cons broken, List.drop_succ_cons, later]
            omega

/-- The lines between two line starts are those with the numbers in between. -/
theorem brokenLines_slice (first count : Nat) (text : Text) :
    brokenLines (text.slice (startOfLine first text) (startOfLine (first + count) text)) =
      ((brokenLines text).drop first).take count := by
  rw [slice, startOfLine_add, Nat.add_sub_cancel_left, brokenLines_take_startOfLine,
    brokenLines_drop_startOfLine]

theorem flatten_take_brokenLines (line : Nat) (text : Text) :
    ((brokenLines text).take line).flatten = text.take (startOfLine line text) := by
  rw [← brokenLines_take_startOfLine, flatten_brokenLines]

theorem flatten_drop_brokenLines (line : Nat) (text : Text) :
    ((brokenLines text).drop line).flatten = text.drop (startOfLine line text) := by
  rw [← brokenLines_drop_startOfLine, flatten_brokenLines]

/-! ### Where lines start -/

/-- The text is empty, or it ends in a break. -/
def Ended (text : Text) : Prop := ∀ c, text.getLast? = some c → c = '\n'

theorem ended_nil : Ended [] := by simp [Ended]

theorem Ended.append (front : Ended text) (back : Ended rest) : Ended (text ++ rest) := by
  intro c last
  rw [List.getLast?_append, Option.or_eq_some_iff] at last
  rcases last with inBack | ⟨_, inFront⟩
  · exact back c inBack
  · exact front c inFront

theorem ended_flatMap {α : Type} {list : List α} {write : α → Text}
    (ended : ∀ item ∈ list, Ended (write item)) : Ended (list.flatMap write) := by
  induction list with
  | nil => exact ended_nil
  | cons item list ih =>
      rw [List.flatMap_cons]
      exact (ended item List.mem_cons_self).append
        (ih fun other member => ended other (List.mem_cons_of_mem _ member))

theorem ended_concat_break (body : Text) : Ended (body ++ ['\n']) := by
  intro c last
  rw [List.getLast?_concat] at last
  exact (Option.some.inj last).symm

/-- A line with another one after it has its break. -/
theorem exists_of_getElem?_brokenLines (known : (brokenLines text)[line]? = some held)
    (within : line + 1 < text.lineCount) : ∃ body, held = body ++ ['\n'] := by
  induction text generalizing line held with
  | nil => cases known
  | cons c rest ih =>
      by_cases broken : c = '\n'
      · subst broken
        rw [brokenLines_cons_break] at known
        cases line with
        | zero => exact ⟨[], (Option.some.inj known).symm⟩
        | succ line => exact ih known (by simpa [lineCount] using within)
      · have shorter : line + 1 < lineCount rest := by simpa [lineCount, broken] using within
        rw [brokenLines_cons broken] at known
        cases lines : brokenLines rest with
        | nil =>
            -- Only the empty text has no lines, and it has no line after the first either.
            have nothing := flatten_brokenLines rest
            rw [lines] at nothing
            subst nothing
            simp [lineCount] at shorter
        | cons next others =>
            rw [lines] at known ih
            cases line with
            | zero =>
                obtain ⟨body, rfl⟩ := ih rfl shorter
                exact ⟨c :: body, (Option.some.inj known).symm⟩
            | succ line => exact ih known shorter

theorem ended_take_startOfLine (within : line < text.lineCount) :
    Ended (text.take (startOfLine line text)) := by
  rw [← flatten_take_brokenLines, ← List.flatMap_id']
  refine ended_flatMap fun held member => ?_
  obtain ⟨index, bound, known⟩ := List.mem_iff_getElem.mp member
  rw [List.length_take] at bound
  rw [List.getElem_take] at known
  obtain ⟨body, rfl⟩ := exists_of_getElem?_brokenLines (List.getElem?_eq_some_iff.mpr ⟨_, known⟩)
    (by omega)
  exact ended_concat_break body

theorem Ended.takeWhile_reverse (ended : Ended text) :
    text.reverse.takeWhile (· != '\n') = [] := by
  cases reversed : text.reverse with
  | nil => rfl
  | cons c later =>
      have last : text.getLast? = some c := by
        rw [← List.head?_reverse, reversed]
        rfl
      simp [ended c last]

/-- A line starts where the text before is ended. -/
theorem lineStart_of_ended (inside : offset ≤ text.length) (ended : Ended (text.take offset)) :
    text.lineStart offset = offset := by
  rw [lineStart_eq inside, ended.takeWhile_reverse]
  rfl

/-- Where the text before a span is ended, so is the new text up to a place behind ended text in it. -/
theorem lineStart_splice {start : Nat} {earlier : Text} (inside : start ≤ text.length)
    (before : Ended (text.take start)) (ended : Ended earlier) (stop : Nat) (later : Text) :
    start + earlier.length ≤ (text.splice start stop (earlier ++ later)).length ∧
      (text.splice start stop (earlier ++ later)).lineStart (start + earlier.length) =
        start + earlier.length := by
  have front : (text.take start).length = start := by rw [List.length_take, Nat.min_eq_left inside]
  have place : start + earlier.length = (text.take start ++ earlier).length := by
    rw [List.length_append, front]
  have whole : text.splice start stop (earlier ++ later) =
      text.take start ++ earlier ++ (later ++ text.drop stop) := by
    simp [splice]
  have within : start + earlier.length ≤ (text.splice start stop (earlier ++ later)).length := by
    rw [whole, place]
    exact (List.prefix_append _ _).length_le
  refine ⟨within, lineStart_of_ended within ?_⟩
  rw [whole, place, List.take_left]
  exact before.append ended

/-! ### The line of a place -/

theorem lineOf_cons (c : Char) (rest : Text) (offset : Nat) :
    lineOf (c :: rest) (offset + 1) = rest.lineOf offset + if c = '\n' then 1 else 0 := by
  rw [lineOf, lineOf, List.take_succ_cons, List.count_cons]
  simp only [beq_iff_eq]

theorem startOfLine_lineOf_le (text : Text) (offset : Nat) :
    startOfLine (text.lineOf offset) text ≤ offset := by
  induction text generalizing offset with
  | nil =>
      rw [lineOf, List.take_nil]
      exact Nat.zero_le _
  | cons c rest ih =>
      cases offset with
      | zero => exact Nat.zero_le _
      | succ offset =>
          have within := ih offset
          rw [lineOf_cons]
          by_cases broken : c = '\n'
          · rw [if_pos broken, broken, startOfLine_cons_break]
            exact Nat.succ_le_succ within
          · rw [if_neg broken, Nat.add_zero]
            cases line : lineOf rest offset with
            | zero => exact Nat.zero_le _
            | succ line =>
                rw [line] at within
                rw [startOfLine_cons broken]
                exact Nat.succ_le_succ within

theorem lineOf_startOfLine (within : line < text.lineCount) :
    text.lineOf (startOfLine line text) = line := by
  induction text generalizing line with
  | nil =>
      cases line with
      | zero => rfl
      | succ line => exact absurd within (by simp [lineCount])
  | cons c rest ih =>
      cases line with
      | zero => rfl
      | succ line =>
          by_cases broken : c = '\n'
          · have later : line < lineCount rest := by simpa [lineCount, broken] using within
            rw [broken, startOfLine_cons_break, lineOf_cons, if_pos rfl, ih later]
          · have later : line + 1 < lineCount rest := by simpa [lineCount, broken] using within
            rw [startOfLine_cons broken, lineOf_cons, if_neg broken, ih later, Nat.add_zero]

theorem lineOf_add_count {start stop : Nat} (text : Text) (ordered : start ≤ stop) :
    text.lineOf stop = text.lineOf start + (text.slice start stop).count '\n' := by
  rw [lineOf, lineOf, take_eq_append_slice ordered, List.count_append]

theorem SameLine.lineOf_eq {start stop : Nat} (same : SameLine text start stop) :
    text.lineOf stop = text.lineOf start := by
  rw [lineOf_add_count text same.ordered,
    List.count_eq_zero.mpr fun member => same.unbroken _ member rfl, Nat.add_zero]

/-- What is replaced after a place does not change its line. -/
theorem lineOf_splice (inside : offset ≤ text.length) (stop : Nat) (new : Text) :
    (text.splice offset stop new).lineOf offset = text.lineOf offset := by
  have front : offset ≤ (text.take offset).length := by
    rw [List.length_take]
    omega
  have kept : (text.splice offset stop new).take offset = text.take offset := by
    rw [splice, List.append_assoc, List.take_append_of_le_length front, List.take_take, Nat.min_self]
  rw [lineOf, kept, lineOf]

theorem sameLine_startOfLine (inside : offset ≤ text.length) :
    SameLine text (startOfLine (text.lineOf offset) text) offset := by
  have before := startOfLine_lineOf_le text offset
  have counted := lineOf_add_count text before
  rw [lineOf_startOfLine (lineOf_lt_lineCount text offset)] at counted
  refine ⟨before, inside, fun c member => ?_⟩
  rintro rfl
  have none : (text.slice (startOfLine (text.lineOf offset) text) offset).count '\n' = 0 := by omega
  exact List.count_eq_zero.mp none member

/-- The start of the line of a place, by the line's number. -/
theorem lineStart_eq_startOfLine (inside : offset ≤ text.length) :
    text.lineStart offset = startOfLine (text.lineOf offset) text := by
  rw [← (sameLine_startOfLine inside).lineStart]
  exact lineStart_of_ended (startOfLine_le _ _)
    (ended_take_startOfLine (lineOf_lt_lineCount text offset))

theorem startOfLine_one (text : Text) :
    startOfLine 1 text = min ((text.takeWhile (· != '\n')).length + 1) text.length := by
  induction text with
  | nil => rfl
  | cons c rest ih =>
      by_cases broken : c = '\n'
      · subst broken
        rw [startOfLine_cons_break]
        simp [startOfLine]
      · rw [startOfLine_cons broken, ih, List.takeWhile_cons_of_pos (by simpa using broken)]
        simp only [List.length_cons]
        omega

theorem nextLineStart_startOfLine (line : Nat) (text : Text) :
    text.nextLineStart (startOfLine line text) = startOfLine (line + 1) text := by
  rw [nextLineStart_eq (startOfLine_le line text), startOfLine_add, startOfLine_one, List.length_drop,
    restOfLine]

theorem nextLineStart_eq_startOfLine (inside : offset ≤ text.length) :
    text.nextLineStart offset = startOfLine (text.lineOf offset + 1) text := by
  rw [← (sameLine_startOfLine inside).nextLineStart, nextLineStart_startOfLine]

theorem iterate_nextLineStart_eq_startOfLine (inside : offset ≤ text.length) (count : Nat) :
    text.nextLineStart^[count + 1] offset = startOfLine (text.lineOf offset + (count + 1)) text := by
  induction count with
  | zero => exact nextLineStart_eq_startOfLine inside
  | succ count ih => rw [Function.iterate_succ_apply', ih, nextLineStart_startOfLine]; rfl

/-! ### Lists of lines -/

/-- The texts are the lines of one, each with its break.  Only the last of them may have none. -/
inductive Broken : List Text → Prop where
  | nil : Broken []
  | last {line : Text} (given : line ≠ []) (unbroken : '\n' ∉ line) : Broken [line]
  | cons {body : Text} {rows : List Text} (unbroken : '\n' ∉ body) (more : Broken rows) :
      Broken ((body ++ ['\n']) :: rows)

theorem brokenLines_append_break (unbroken : '\n' ∉ held) (rest : Text) :
    brokenLines (held ++ '\n' :: rest) = (held ++ ['\n']) :: brokenLines rest := by
  induction held with
  | nil => rfl
  | cons c held ih =>
      rw [List.mem_cons, not_or] at unbroken
      rw [List.cons_append, brokenLines_cons (Ne.symm unbroken.1), ih unbroken.2]
      rfl

theorem brokenLines_of_unbroken (given : held ≠ []) (unbroken : '\n' ∉ held) :
    brokenLines held = [held] := by
  induction held with
  | nil => exact absurd rfl given
  | cons c held ih =>
      rw [List.mem_cons, not_or] at unbroken
      rw [brokenLines_cons (Ne.symm unbroken.1)]
      cases held with
      | nil => rfl
      | cons next held => rw [ih (List.cons_ne_nil _ _) unbroken.2]; rfl

namespace Broken

variable {rows : List Text}

/-- The lines of a text are found again in it. -/
theorem brokenLines_flatten (broken : Broken rows) : brokenLines rows.flatten = rows := by
  induction broken with
  | nil => rfl
  | last given unbroken => simpa using brokenLines_of_unbroken given unbroken
  | cons unbroken _ ih =>
      rw [List.flatten_cons, List.append_assoc, List.singleton_append,
        brokenLines_append_break unbroken, ih]

theorem of_text (text : Text) : Broken (brokenLines text) := by
  induction text with
  | nil => exact .nil
  | cons c rest ih =>
      by_cases broken : c = '\n'
      · subst broken
        exact .cons (List.not_mem_nil) ih
      · rw [brokenLines_cons broken]
        generalize brokenLines rest = rows at ih
        cases ih with
        | nil => exact .last (List.cons_ne_nil _ _) (by simpa using Ne.symm broken)
        | last given unbroken =>
            refine .last (List.cons_ne_nil _ _) ?_
            exact fun member => (List.mem_cons.mp member).elim (Ne.symm broken) unbroken
        | @cons body _ unbroken more =>
            have longer : '\n' ∉ c :: body :=
              fun member => (List.mem_cons.mp member).elim (Ne.symm broken) unbroken
            exact .cons longer more

theorem ne_nil (broken : Broken rows) (member : held ∈ rows) : held ≠ [] := by
  induction broken with
  | nil => cases member
  | last given _ =>
      obtain rfl := List.mem_singleton.mp member
      exact given
  | cons _ _ ih =>
      rcases List.mem_cons.mp member with rfl | later
      · exact List.append_ne_nil_of_right_ne_nil _ (List.cons_ne_nil _ _)
      · exact ih later

theorem head?_ne_break (broken : Broken rows) (member : held ∈ rows) :
    held = ['\n'] ∨ held.head? ≠ some '\n' := by
  induction broken with
  | nil => cases member
  | last given unbroken =>
      obtain rfl := List.mem_singleton.mp member
      exact .inr fun first => unbroken (List.mem_of_mem_head? first)
  | @cons body _ unbroken _ ih =>
      rcases List.mem_cons.mp member with rfl | later
      · cases body with
        | nil => exact .inl rfl
        | cons c body => exact .inr fun first => unbroken (List.mem_of_mem_head? first)
      · exact ih later

/-- Writing the lines anew gives lines, if each keeps its break and no other one comes in. -/
theorem mapIdx {write : Nat → Text → Text} (broken : Broken rows)
    (breaks : ∀ index body, '\n' ∉ body →
      ∃ new, '\n' ∉ new ∧ write index (body ++ ['\n']) = new ++ ['\n'])
    (ends : ∀ index line, line ≠ [] → '\n' ∉ line →
      write index line ≠ [] ∧ '\n' ∉ write index line) :
    Broken (rows.mapIdx write) := by
  induction broken generalizing write with
  | nil => exact .nil
  | last given unbroken =>
      obtain ⟨kept, still⟩ := ends 0 _ given unbroken
      exact .last kept still
  | cons unbroken _ ih =>
      obtain ⟨new, still, written⟩ := breaks 0 _ unbroken
      rw [List.mapIdx_cons, written]
      exact .cons still (ih (fun index => breaks (index + 1)) fun index => ends (index + 1))

end Broken

end ModalVi.Text
