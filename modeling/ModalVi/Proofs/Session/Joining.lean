import Mathlib.Data.List.TakeWhile
import ModalVi.Proofs.Edit.Join
import ModalVi.Proofs.Motion.Bounds
import ModalVi.Proofs.Session.Dot
import ModalVi.Proofs.Session.Seeking
import ModalVi.Script

namespace ModalVi

/-! Joining from different places of a line.

Lines are joined from the caret on, so the white space at the end of the caret's line is trimmed only as
far as it is after the caret.  From two places of one line, the same text comes of it unless one of them
is within that white space. -/

namespace Text

variable {text line front rest between : Text} {offset first second count : Nat} {c : Char}

/-! ### White space at the end of a line -/

/-- From the character before a place to the end of its line, there is nothing but white space. -/
def InTrailingSpace (text : Text) (offset : Nat) : Prop :=
  ∀ c ∈ text.slice (offset - 1) (text.lineEnd offset), Unicode.isWhitespace c = true

instance : Decidable (InTrailingSpace text offset) :=
  List.decidableBAll _ _

theorem trimEnd_append (front line : Text) :
    trimEnd (front ++ line) =
      if trimEnd line = [] then trimEnd front else front ++ trimEnd line := by
  simp only [trimEnd, trimStart, List.reverse_append, List.dropWhile_append, List.reverse_eq_nil_iff,
    List.isEmpty_iff]
  split
  · rfl
  · rw [List.reverse_append, List.reverse_reverse]

theorem trimEnd_eq_nil : trimEnd line = [] ↔ ∀ c ∈ line, Unicode.isWhitespace c = true := by
  simp only [trimEnd, trimStart, List.reverse_eq_nil_iff, List.dropWhile_eq_nil_iff, List.mem_reverse]

/-- What stands before a line is trimmed with it where only white space is left from its last character
on. -/
theorem trimEnd_append_eq_iff :
    trimEnd (front ++ [c] ++ line) = front ++ [c] ++ trimEnd line ↔
      ¬ ∀ d ∈ c :: line, Unicode.isWhitespace d = true := by
  rw [trimEnd_append, List.forall_mem_cons, ← trimEnd_eq_nil]
  by_cases blank : trimEnd line = []
  · rw [if_pos blank, blank, List.append_nil, trimEnd_append]
    cases space : Unicode.isWhitespace c with
    | true =>
        obtain ⟨blanks, parts, _⟩ := exists_trimEnd_append front
        have shorter := congrArg List.length parts
        have trimmed : trimEnd [c] = [] := trimEnd_eq_nil.mpr (by simpa using space)
        rw [if_pos trimmed]
        refine iff_of_false (fun same => ?_) (by simp)
        have longer := congrArg List.length same
        simp only [List.length_append, List.length_singleton] at shorter longer
        omega
    | false =>
        have kept : trimEnd [c] = [c] := by simp [trimEnd, trimStart, space]
        simp [kept]
  · simp [blank]

/-! ### Joining from a place on -/

/-- The text with `count` lines joined by `between`, of which the first begins at the place. -/
def joinedFrom (text between : Text) (offset count : Nat) : Text :=
  let stop := text.nextLineStart^[count] offset
  text.splice offset stop (join (text.slice offset stop) between).1

theorem slice_of_length_le (beyond : text.length ≤ offset) (stop : Nat) :
    text.slice offset stop = [] := by
  rw [slice, List.drop_of_length_le beyond, List.take_nil]

theorem unbroken_of_last (last : text.nextLineStart offset = text.length) :
    '\n' ∉ (text.slice offset text.length).dropLast := by
  rcases Nat.lt_or_ge offset text.length with before | beyond
  · have same := sameLine_last before
    rw [last] at same
    have front : (text.slice offset text.length).dropLast = text.slice offset (text.length - 1) := by
      rw [slice, slice, List.dropLast_eq_take, List.take_take, List.length_take, List.length_drop]
      congr 1
      omega
    intro member
    rw [front] at member
    exact same.unbroken _ member rfl
  · rw [slice_of_length_le beyond]
    exact List.not_mem_nil

theorem exists_line_break {stop : Nat} (inside : offset ≤ text.length)
    (below : text.nextLineStart offset < text.length) (further : text.nextLineStart offset < stop) :
    ∃ rest, rest ≠ [] ∧
      text.slice offset stop = text.slice offset (text.lineEnd offset) ++ '\n' :: rest := by
  have next := nextLineStart_eq inside
  have ends : text.nextLineStart offset = text.lineEnd offset + 1 := by
    rw [lineEnd]
    omega
  have within : text.lineEnd offset < text.length := by omega
  have broken : text[text.lineEnd offset] = '\n' := by
    have known := getElem?_lineEnd within
    rwa [List.getElem?_eq_getElem within, Option.some.injEq] at known
  refine ⟨text.slice (text.lineEnd offset + 1) stop, ?_, ?_⟩
  · apply List.ne_nil_of_length_pos
    rw [slice, List.length_take, List.length_drop]
    omega
  · rw [← slice_append (le_lineEnd text offset) (by omega : text.lineEnd offset ≤ stop),
      slice_eq_cons within (by omega), broken]

theorem joinedFrom_eq_iff_join (line : SameLine text first second) (given : 1 ≤ count) :
    text.joinedFrom between first count = text.joinedFrom between second count ↔
      (join (text.slice first second ++ text.slice second (text.nextLineStart^[count] second))
          between).1 =
        text.slice first second ++
          (join (text.slice second (text.nextLineStart^[count] second)) between).1 := by
  obtain ⟨more, rfl⟩ := Nat.exists_eq_add_of_le' given
  have stop : text.nextLineStart^[more + 1] first = text.nextLineStart^[more + 1] second := by
    rw [Function.iterate_succ_apply, line.nextLineStart, ← Function.iterate_succ_apply]
  rw [joinedFrom, joinedFrom, stop, splice, splice, take_eq_append_slice line.ordered,
    slice_append line.ordered (le_iterate_nextLineStart line.bounded _), List.append_assoc,
    List.append_assoc, List.append_assoc, List.append_right_inj, ← List.append_assoc,
    List.append_left_inj]

theorem trimEnd_append_slice_iff (line : SameLine text first second) :
    trimEnd (text.slice first second ++ text.slice second (text.lineEnd second)) =
        text.slice first second ++ trimEnd (text.slice second (text.lineEnd second)) ↔
      first = second ∨ ¬ InTrailingSpace text second := by
  rcases Nat.eq_or_lt_of_le line.ordered with rfl | before
  · simp
  · have bounded := line.bounded
    have within : second - 1 < text.length := by omega
    have last : text.slice (second - 1) second = [text[second - 1]] := by
      rw [slice_eq_cons within (by omega), Nat.sub_add_cancel (by omega), slice_self]
    rw [← slice_append (by omega : first ≤ second - 1) (Nat.sub_le second 1), last,
      trimEnd_append_eq_iff, InTrailingSpace,
      ← slice_append (Nat.sub_le second 1) (le_lineEnd text second), last, List.singleton_append]
    simp only [Nat.ne_of_lt before, false_or]

/-- Two places of one line give the same joined text exactly if there is no line to join, or the
second place is not within white space at the end of the line. -/
theorem joinedFrom_eq_iff (line : SameLine text first second) (more : 2 ≤ count) :
    text.joinedFrom between first count = text.joinedFrom between second count ↔
      first = second ∨ text.nextLineStart second = text.length ∨ ¬ InTrailingSpace text second := by
  rw [joinedFrom_eq_iff_join line (Nat.le_of_succ_le more)]
  have unbroken : '\n' ∉ text.slice first second := fun member => line.unbroken _ member rfl
  obtain ⟨count, rfl⟩ := Nat.exists_eq_add_of_le' more
  rw [Function.iterate_succ_apply, Function.iterate_succ_apply]
  rcases Nat.eq_or_lt_of_le (nextLineStart_le line.bounded) with last | below
  -- Nothing is joined to the last line.
  · refine iff_of_true ?_ (.inr (.inl last))
    rw [last, nextLineStart_length, Function.iterate_fixed text.nextLineStart_length]
    have first := unbroken_of_last (line.nextLineStart.trans last)
    rw [← slice_append line.ordered line.bounded] at first
    rw [join_of_unbroken first, join_of_unbroken (unbroken_of_last last)]
  · have further := Nat.lt_of_lt_of_le (lt_nextLineStart below)
      (le_iterate_nextLineStart (nextLineStart_le (Nat.le_of_lt below)) count)
    obtain ⟨rest, given, parts⟩ := exists_line_break line.bounded below further
    have here : '\n' ∉ text.slice second (text.lineEnd second) := fun member =>
      (sameLine_add line.bounded (Nat.le_refl _)).unbroken _ member rfl
    have whole : '\n' ∉ text.slice first second ++ text.slice second (text.lineEnd second) := by
      simp only [List.mem_append, not_or]
      exact ⟨unbroken, here⟩
    have trimmed := trimEnd_append_slice_iff line
    -- What is joined to the line is the same for both places, so only the trimmed ends can differ.
    rw [parts, ← List.append_assoc, join_append_break whole given, join_append_break here given,
      ← List.append_assoc (text.slice first second), List.append_left_inj, trimmed]
    have distinct : text.nextLineStart second ≠ text.length := Nat.ne_of_lt below
    simp only [distinct, false_or]

end Text

/-! ### The keys -/

def joinKeys (spaced : Bool) : List Char := if spaced then ['J'] else ['g', 'J']

/-- What the keys put between two lines. -/
def joint (spaced : Bool) : Text := if spaced then [' '] else []

namespace Counting

variable {digits : List Char} {count : Nat}

/-- Without a count, two lines are joined, as with 1. -/
theorem parse_join (counting : Counting digits count) (spaced : Bool) :
    ∃ asked, Command.parse (digits ++ joinKeys spaced) = .ok (asked, .join (joint spaced)) ∧
      max asked 2 = max count 2 := by
  have ended : ∀ c, (joinKeys spaced).head? = some c → c.isDigit = false := by
    cases spaced <;> simp [joinKeys, Char.isDigit]
  obtain ⟨counted, read, alone⟩ := counting.readCount ended
  rw [Command.parse, read]
  cases counted with
  | true => cases spaced <;> exact ⟨count, rfl, rfl⟩
  | false =>
      rw [alone rfl]
      cases spaced <;> exact ⟨2, rfl, rfl⟩

theorem exists_joinKeys (counting : Counting digits count) (spaced : Bool) :
    ∃ held c, digits ++ joinKeys spaced = held ++ [c] ∧ Legible .command held := by
  cases spaced with
  | true => exact ⟨digits, 'J', rfl, counting.legible⟩
  | false =>
      obtain ⟨_, read, _⟩ := counting.readCount_cons (rfl : 'g'.isDigit = false) []
      have unfinished : Command.parse (digits ++ ['g']) = .error .incomplete := by
        rw [Command.parse, read]
        rfl
      refine ⟨digits ++ ['g'], 'J', ?_, counting.legible.snoc unfinished⟩
      rw [List.append_assoc]
      rfl

end Counting

namespace Session

variable {library : Library} {session earlier later : Session library} {digits : List Char}
  {count : Nat}

theorem text_join (between : Text) (count : Nat) (session : Session library) :
    (session.join between count).text =
      if session.surface.verdicts 0 then session.text.joinedFrom between session.caret (max count 2)
      else session.text := by
  have inside := session.caret_le_length
  have reads : Reader.Reads session.text (Reader.forward session.text session.caret) :=
    .facing .forward _
  have below := reads.linesDown (max count 2 - 1)
  have begun : (Reader.forward session.text session.caret).offset = session.caret :=
    Reader.offset_facing .forward inside
  have stop := Text.nextLineStart_linesDown reads rfl (max count 2 - 1)
  rw [← Text.offset_pastLineBreak below (Text.direction_linesDown _ _), begun,
    Nat.sub_add_cancel (by omega)] at stop
  have replaced := text_replace (Text.le_iterate_nextLineStart inside (max count 2))
    (stop ▸ below.pastLineBreak.offset_le)
    (Text.join (session.text.slice session.caret
      (session.text.nextLineStart^[max count 2] session.caret)) between).1 false
  rw [Text.joinedFrom, ← replaced, join]
  dsimp only
  rw [stop]
  generalize replace _ _ _ _ session = attempt
  obtain ⟨_ | _, next⟩ := attempt <;> rfl

theorem press_join (mode : session.mode = .command) (fresh : session.keys = [])
    (counting : Counting digits count) (spaced : Bool) :
    ∃ after, session.press ((digits ++ joinKeys spaced).map .char) = (.ok (), after) ∧
      after.text =
        if session.surface.verdicts 0 then
          session.text.joinedFrom (joint spaced) session.caret (max count 2)
        else session.text := by
  obtain ⟨asked, read, same⟩ := counting.parse_join spaced
  obtain ⟨held, c, keys, legible⟩ := counting.exists_joinKeys spaced
  rw [keys] at read
  obtain ⟨last, pressed⟩ := press_of_acted mode fresh legible read rfl rfl
  rw [keys, pressed]
  refine ⟨_, rfl, ?_⟩
  have joined :=
    text_join (joint spaced) asked ({ session with changed := false } : Session library)
  rw [same] at joined
  exact joined

/-- Two places of a line give the same joined text unless the later one is within white space at the
end of the line, which is trimmed only as far as the caret is before it. -/
theorem join_eq_iff_of_sameLine
    (modes : earlier.mode = .command ∧ later.mode = .command)
    (fresh : earlier.keys = [] ∧ later.keys = []) (text : later.text = earlier.text)
    (host : later.surface.verdicts 0 = earlier.surface.verdicts 0)
    (line : Text.SameLine earlier.text earlier.caret later.caret)
    (counting : Counting digits count) (spaced : Bool) :
    ∃ first second, earlier.press ((digits ++ joinKeys spaced).map .char) = (.ok (), first) ∧
      later.press ((digits ++ joinKeys spaced).map .char) = (.ok (), second) ∧
      (first.text = second.text ↔
        earlier.surface.verdicts 0 = false ∨ earlier.caret = later.caret ∨
          earlier.text.nextLineStart later.caret = earlier.text.length ∨
            ¬ Text.InTrailingSpace earlier.text later.caret) := by
  obtain ⟨first, pressed, begun⟩ := press_join modes.1 fresh.1 counting spaced
  obtain ⟨second, typed, ended⟩ := press_join modes.2 fresh.2 counting spaced
  refine ⟨first, second, pressed, typed, ?_⟩
  rw [begun, ended, text, host]
  cases accepted : earlier.surface.verdicts 0 with
  | false => simp
  | true => simpa using Text.joinedFrom_eq_iff line (Nat.le_max_right count 2)

/-- One caret is at the first character of a line, the other before the white space at its end. -/
theorem join_alike_before_space :
    let text := "foo \t\n bar\nbaz".toList
    let earlier := Script.begin .standard text {} []
    let later := (Script.begin .standard text {} []).setCursor 3
    (earlier.mode = .command ∧ later.mode = .command) ∧ (earlier.keys = [] ∧ later.keys = []) ∧
      later.text = earlier.text ∧ later.surface.verdicts 0 = earlier.surface.verdicts 0 ∧
      Text.SameLine earlier.text earlier.caret later.caret ∧ Counting ['3'] 3 ∧
      ∃ first second, earlier.press ((['3'] ++ joinKeys false).map .char) = (.ok (), first) ∧
        later.press ((['3'] ++ joinKeys false).map .char) = (.ok (), second) ∧
        first.text = "foobarbaz".toList ∧ second.text = first.text := by
  intro text earlier later
  have line : Text.SameLine earlier.text earlier.caret later.caret :=
    ⟨by decide, by decide, List.forall_mem_ne'.mpr (by decide)⟩
  have counting : Counting (Nat.toDigits 10 3) 3 := .toDigits (by decide) (by decide)
  have modes : earlier.mode = .command ∧ later.mode = .command := ⟨rfl, rfl⟩
  have fresh : earlier.keys = [] ∧ later.keys = [] := ⟨rfl, rfl⟩
  obtain ⟨first, second, pressed, typed, alike⟩ :=
    join_eq_iff_of_sameLine modes fresh rfl rfl line counting false
  have pressed : earlier.press ((['3'] ++ joinKeys false).map .char) = (.ok (), first) := pressed
  have joined : (earlier.press ((['3'] ++ joinKeys false).map .char)).2.text = "foobarbaz".toList := by
    decide +kernel
  rw [pressed] at joined
  have same : first.text = second.text := alike.mpr (.inr (.inr (.inr (by decide +kernel))))
  exact ⟨modes, fresh, rfl, rfl, line, counting, first, second, pressed, typed, joined,
    same.symm⟩

/-- White space before the caret stays between the lines. -/
theorem join_differs_within_space :
    let text := "foo  \nbar".toList
    let earlier := Script.begin .standard text {} []
    let later := (Script.begin .standard text {} []).setCursor 5
    Text.SameLine text earlier.caret later.caret ∧
      (earlier.key (.char 'J')).2.text = "foo bar".toList ∧
      (later.key (.char 'J')).2.text = "foo   bar".toList := by
  intro text earlier later
  exact ⟨⟨by decide, by decide, List.forall_mem_ne'.mpr (by decide)⟩, by decide +kernel,
    by decide +kernel⟩

end Session

end ModalVi
