import ModalVi.Proofs.Edit.Indent
import ModalVi.Proofs.Session.Dot
import ModalVi.Proofs.Session.Seeking
import ModalVi.Proofs.Session.WholeLines

namespace ModalVi

/-! Shifting lines from the keyboard.

Whatever a motion covers is shifted by whole lines, and the caret stays in its line or goes to the first of
them.  Shifting outward takes a tab off rather than a unit that begins with one, so it undoes shifting
inward only where the unit is that tab or begins with something else. -/

def shiftKeys (inward : Bool) : List Char := if inward then ['>', '>'] else ['<', '<']

namespace Counting

variable {digits : List Char} {count : Nat}

theorem parse_shift (counting : Counting digits count) (inward : Bool) :
    Command.parse (digits ++ shiftKeys inward) = .ok (count, .shift inward .wholeLines) := by
  have ended : ∀ c, (shiftKeys inward).head? = some c → c.isDigit = false := by
    cases inward <;> simp [shiftKeys, Char.isDigit]
  obtain ⟨_, read, _⟩ := counting.readCount ended
  rw [Command.parse, read]
  cases inward <;> rfl

theorem exists_shiftKeys (counting : Counting digits count) (inward : Bool) :
    ∃ held c, digits ++ shiftKeys inward = held ++ [c] ∧ Legible .command held := by
  let angle : Char := if inward then '>' else '<'
  have other : angle.isDigit = false := by cases inward <;> rfl
  obtain ⟨_, read, _⟩ := counting.readCount_cons other []
  have unfinished : Command.parse (digits ++ [angle]) = .error .incomplete := by
    rw [Command.parse, read]
    cases inward <;> rfl
  refine ⟨digits ++ [angle], angle, ?_, counting.legible.snoc unfinished⟩
  rw [List.append_assoc]
  cases inward <;> rfl

end Counting

namespace Session

variable {library : Library} {session before after : Session library} {digits : List Char}
  {count first past : Nat}
  {inward : Bool} {cursor : Cursor}

/-- The lines from `first` on and before `past` are shifted, and the caret stays in its line. -/
structure Shifts (inward : Bool) (first past : Nat) (before after : Session library) : Prop where
  text : after.text =
    if before.surface.verdicts 0 then
      (Text.shiftedLines inward before.options.indentUnit first past before.text).flatten
    else before.text
  line : before.text.lineOf before.caret = first → after.text.lineOf after.caret = first
  options : after.options = before.options
  host : before.surface.Follows after.surface

theorem lineOf_setCursor (offset : Nat) (session : Session library) :
    session.text.lineOf (session.setCursor offset).caret = session.text.lineOf offset := by
  have place : (session.setCursor offset).caret =
      min (min offset session.text.length) session.text.length := rfl
  rw [place, Text.lineOf_min_length, Text.lineOf_min_length]

theorem shifts_shift {whole : Bool} (ordered : first ≤ past)
    (within : first < session.text.lineCount)
    (begins : session.text.lineStart cursor.low = Text.startOfLine first session.text)
    (ends : (if whole then cursor.high else session.text.nextLineStart cursor.high) =
      Text.startOfLine past session.text) :
    Shifts inward first past session (session.shift inward whole cursor) := by
  have between := Text.startOfLine_mono session.text ordered
  have bounded := Text.startOfLine_le past session.text
  have host := (replaces_shift inward whole cursor session).commanded.host
  have spliced : session.text.splice _ _ (session.shifted inward _ _) = _ :=
    Text.splice_shift inward session.options.indentUnit ordered session.text
  simp only [shift, begins, ends] at host ⊢
  generalize session.shifted inward _ _ = new at host spliced ⊢
  have text := text_replace between bounded new false
  generalize made : session.replace _ _ new false = attempt at host text ⊢
  obtain ⟨_ | _, next⟩ := attempt
  · rw [spliced] at text
    rcases eq_of_replace_eq_false made with rfl | rfl <;> exact ⟨text, id, rfl, host⟩
  -- The caret is put behind the blanks at the start of the first line, so it is still in that line.
  · obtain ⟨_, _, _, _, _, accepted, replaced⟩ := eq_replaced_of_replace made
    have options : next.options = session.options := by rw [replaced]; rfl
    rw [if_pos accepted] at text
    refine ⟨?_, fun _ => ?_, options, host⟩
    · rw [if_pos accepted, ← spliced]
      exact text
    · have inside : Text.startOfLine first session.text ≤ next.text.length := by
        have longer := Text.start_add_length_le_splice new between bounded
        rw [← text] at longer
        exact Nat.le_of_add_right_le longer
      calc
        next.text.lineOf (next.setCursor _).caret = _ := lineOf_setCursor _ next
        _ = next.text.lineOf (Text.startOfLine first session.text) :=
          (Text.sameLine_indentEnd inside).lineOf_eq
        _ = session.text.lineOf (Text.startOfLine first session.text) := by
          rw [text, Text.lineOf_splice (Text.startOfLine_le first session.text)]
        _ = first := Text.lineOf_startOfLine within

theorem act_shift {motion : Motion} {found : Cursor}
    (resolved : (Standpoint.ofCaret library.isPunctuation session.text session.caret).resolve
      session.charSearch count motion = .ok found) (inward : Bool) :
    session.act (.shift inward motion) count =
      (.ok (),
        ({ session with charSearch := motion.remember session.charSearch } : Session library).shift
        inward (motion == .wholeLines) found) := by
  simp only [act, withTarget, target_of_resolved false (by simp) resolved]

theorem act_shift_of_error {motion : Motion} {error : ParseError}
    (failed : (Standpoint.ofCaret library.isPunctuation session.text session.caret).resolve
      session.charSearch count motion = .error error) (inward : Bool) :
    session.act (.shift inward motion) count =
      (.error (.parse error), { session with charSearch := motion.remember session.charSearch }) := by
  simp only [act, withTarget, target, Standpoint.resolve_change false (by simp), failed]

theorem press_shift (mode : session.mode = .command) (fresh : session.keys = [])
    (counting : Counting digits count) (inward : Bool) :
    ∃ last, session.press ((digits ++ shiftKeys inward).map .char) =
      (.ok (), ({ ({ session with changed := false } : Session library).shift inward true
        (lineCursor session.text session.caret count) with last } :
          Session library).dropKeys.settled) := by
  obtain ⟨held, c, keys, legible⟩ := counting.exists_shiftKeys inward
  have read := counting.parse_shift inward
  let begun : Session library := { session with changed := false }
  have resolved : (Standpoint.ofCaret library.isPunctuation begun.text begun.caret).resolve
      begun.charSearch count .wholeLines = .ok (lineCursor session.text session.caret count) :=
    resolve_wholeLines library.isPunctuation _ session.caret_le_length count
  have acted : begun.act (.shift inward .wholeLines) count =
      (.ok (), begun.shift inward true (lineCursor session.text session.caret count)) :=
    act_shift resolved inward
  rw [keys] at read ⊢
  exact press_of_acted mode fresh legible read rfl acted

/-- Typing the keys shifts as many lines as they say from the caret's on. -/
theorem shifts_of_press (mode : session.mode = .command) (fresh : session.keys = [])
    (counting : Counting digits count) (inward : Bool) :
    ∃ after, session.press ((digits ++ shiftKeys inward).map .char) = (.ok (), after) ∧
      after.mode = .command ∧ after.keys = [] ∧
      Shifts inward (session.text.lineOf session.caret) (session.text.lineOf session.caret + count)
        session after := by
  have inside := session.caret_le_length
  let asked : Session library := { session with changed := false }
  let lines := lineCursor session.text session.caret count
  obtain ⟨low, high⟩ := ends_lineCursor inside count
  have begins : asked.text.lineStart lines.low =
      Text.startOfLine (session.text.lineOf session.caret) asked.text := by
    rw [low]
    exact (Text.lineStart_lineStart inside).trans (Text.lineStart_eq_startOfLine inside)
  have ends : (if true then lines.high else asked.text.nextLineStart lines.high) =
      Text.startOfLine (session.text.lineOf session.caret + count) asked.text := by
    obtain ⟨more, rfl⟩ := Nat.exists_eq_add_of_le' counting.positive
    rw [if_pos rfl, high]
    exact Text.iterate_nextLineStart_eq_startOfLine inside more
  have shifts : Shifts inward _ _ asked (asked.shift inward true lines) :=
    shifts_shift (Nat.le_add_right _ count) (Text.lineOf_lt_lineCount _ _) begins ends
  have beside := (replaces_shift inward true lines asked).beside
  obtain ⟨last, pressed⟩ := press_shift mode fresh counting inward
  -- Otherwise the unifier evaluates the lines that are shifted.
  generalize asked.shift inward true lines = done at pressed shifts beside
  exact ⟨_, pressed, beside.mode.trans mode, rfl,
    ⟨shifts.text, shifts.line, shifts.options, shifts.host⟩⟩

/-- Shifting inward and back leaves what is left of the unit before every line that is not empty.  So the
text is the same again exactly if nothing is left of the unit or all of these lines are empty. -/
theorem text_of_shift_and_back (mode : session.mode = .command) (fresh : session.keys = [])
    (accepts : session.surface.Accepts) (given : session.options.indentUnit ≠ [])
    (plain : '\n' ∉ session.options.indentUnit) (counting : Counting digits count) :
    let first := session.text.lineOf session.caret
    let left := Text.surplus session.options.indentUnit
    ∃ shifted after, session.press ((digits ++ shiftKeys true).map .char) = (.ok (), shifted) ∧
      shifted.press ((digits ++ shiftKeys false).map .char) = (.ok (), after) ∧
      after.text = (Text.shiftedLines true left first (first + count) session.text).flatten ∧
      (after.text = session.text ↔
        left = [] ∨ ∀ held ∈ ((Text.brokenLines session.text).drop first).take count, held = ['\n']) := by
  intro first left
  obtain ⟨shifted, pressed, still, free, inward⟩ := shifts_of_press mode fresh counting true
  obtain ⟨after, typed, _, _, outward⟩ := shifts_of_press still free counting false
  have there := inward.text
  have back := outward.text
  rw [if_pos (accepts 0)] at there
  rw [if_pos (accepts.follows inward.host 0), inward.line rfl, inward.options, there,
    Text.shiftedLines_undone given plain] at back
  refine ⟨shifted, after, pressed, typed, back, ?_⟩
  have lines : first + count - first = count := Nat.add_sub_cancel_left _ _
  have plainRest : '\n' ∉ left := fun member => plain (Text.surplus_subset _ member)
  have same := Text.flatten_shiftedLines_eq_iff plainRest (Nat.le_add_right first count) session.text
  rw [lines] at same
  rw [back]
  exact same

/-- A tab of the unit is taken off alone, and the empty line was never indented. -/
theorem text_of_three_lines_and_back :
    let session := Script.begin .standard "a\n\nb\nc".toList { indentUnit := ['\t', ' '] } []
    session.mode = .command ∧ session.keys = [] ∧ session.surface.Accepts ∧
      session.options.indentUnit ≠ [] ∧ '\n' ∉ session.options.indentUnit ∧
      Counting (Nat.toDigits 10 3) 3 ∧
      ∃ shifted after,
        session.press ((Nat.toDigits 10 3 ++ shiftKeys true).map .char) = (.ok (), shifted) ∧
        shifted.press ((Nat.toDigits 10 3 ++ shiftKeys false).map .char) = (.ok (), after) ∧
        shifted.text = "\t a\n\n\t b\nc".toList ∧ after.text = " a\n\n b\nc".toList ∧
        after.text ≠ session.text := by
  intro session
  have accepts : session.surface.Accepts := fun _ => rfl
  have given : session.options.indentUnit ≠ [] := by decide
  have plain : '\n' ∉ session.options.indentUnit := by decide
  have counting : Counting (Nat.toDigits 10 3) 3 := .toDigits (by decide) (by decide)
  obtain ⟨shifted, after, pressed, typed, text, same⟩ :=
    text_of_shift_and_back (rfl : session.mode = .command) rfl accepts given plain counting
  have indented : (session.press ((Nat.toDigits 10 3 ++ shiftKeys true).map .char)).2.text =
      "\t a\n\n\t b\nc".toList := by decide +kernel
  rw [pressed] at indented
  exact ⟨rfl, rfl, accepts, given, plain, counting, shifted, after, pressed, typed, indented,
    text.trans (by decide), fun restored => absurd (same.mp restored) (by decide)⟩

/-- Of a unit of two tabs only the first is taken off again. -/
theorem text_of_two_tabs_and_back :
    let session := Script.begin .standard "a".toList { indentUnit := ['\t', '\t'] } []
    let shifted := (session.press (['>', '>'].map .char)).2
    shifted.text = "\t\ta".toList ∧
      (shifted.press (['<', '<'].map .char)).2.text = "\ta".toList := by
  decide

/-! ### Lines of an object -/

/-- The lines of the text after those from that of `low` to that of `high` were shifted, if the host
accepts that. -/
def linesShifted (inward : Bool) (low high : Nat) (session : Session library) : List Text :=
  if session.surface.verdicts 0 then
    Text.shiftedLines inward session.options.indentUnit (session.text.lineOf low)
      (session.text.lineOf high + 1) session.text
  else Text.brokenLines session.text

/-- The lines from that of the object's start to that of its end are shifted.  A line with nothing of the
object in it is among them only where the object ends at its start. -/
theorem lines_of_shifted_object {c : Char} {around : Bool} {object : TextObject}
    (mode : session.mode = .command)
    (read : Command.parse (session.keys ++ [c]) =
      .ok (count, .shift inward (.object around object))) :
    (∀ error, (Standpoint.ofCaret library.isPunctuation session.text session.caret).resolve
      session.charSearch count (.object around object) = .error error →
      ∃ after, session.key (.char c) = (.error (.parse error), after) ∧ after.text = session.text) ∧
    ∀ found, (Standpoint.ofCaret library.isPunctuation session.text session.caret).resolve
      session.charSearch count (.object around object) = .ok found →
      ∃ after, session.key (.char c) = (.ok .handled, after) ∧
        after.text = (session.linesShifted inward found.low found.high).flatten ∧
        ∀ line, (∀ offset, found.low ≤ offset → offset < found.high →
            session.text.lineOf offset ≠ line) →
          ((session.linesShifted inward found.low found.high)[line]? =
              (Text.brokenLines session.text)[line]? ↔
            session.surface.verdicts 0 = false ∨ line ≠ session.text.lineOf found.high ∨
              ∀ held, (Text.brokenLines session.text)[line]? = some held →
                Text.shiftLine inward session.options.indentUnit held = held) := by
  let begun : Session library := { session.holding (session.keys ++ [c]) with changed := false }
  let asked : Session library :=
    { begun with charSearch := (Motion.object around object).remember session.charSearch }
  have edits : (Command.shift inward (.object around object)).edits = true := rfl
  refine ⟨fun error failed => ?_, fun found resolved => ?_⟩
  · have missing : (Standpoint.ofCaret library.isPunctuation begun.text begun.caret).resolve
      begun.charSearch count (.object around object) = .error error := failed
    have acted : begun.act (.shift inward (.object around object)) count =
        (.error (.parse error), asked) := act_shift_of_error missing inward
    rw [key_of_edits mode read edits, run_of_edits _ edits, acted]
    exact ⟨_, rfl, rfl⟩
  · have reached : (Standpoint.ofCaret library.isPunctuation begun.text begun.caret).resolve
      begun.charSearch count (.object around object) = .ok found := resolved
    have acted : begun.act (.shift inward (.object around object)) count =
        (.ok (), asked.shift inward false found) := act_shift reached inward
    have within := Standpoint.within_of_resolve resolved
      (Standpoint.within_ofCaret session.caret_le_length)
    have high := within.high_le
    have ordered := found.low_le_high
    have shifts : Shifts inward _ _ asked (asked.shift inward false found) :=
      shifts_shift (Nat.le_succ_of_le (Text.lineOf_mono _ ordered)) (Text.lineOf_lt_lineCount _ _)
        (Text.lineStart_eq_startOfLine (Nat.le_trans ordered high))
        (Text.nextLineStart_eq_startOfLine high)
    generalize asked.shift inward false found = done at acted shifts
    obtain ⟨last, pressed⟩ := key_of_acted mode read edits acted
    refine ⟨_, pressed, ?_, fun line outside => ?_⟩
    · have text : done.text = if session.surface.verdicts 0 then _ else session.text := shifts.text
      rw [linesShifted, apply_ite List.flatten, Text.flatten_brokenLines]
      exact text
    · rw [linesShifted]
      cases session.surface.verdicts 0 with
      | false => simp
      | true => simpa using Text.getElem?_shiftedLines_eq_iff ordered outside

/-- What is between brackets takes two lines of four, and these are shifted. -/
theorem lines_of_shifted_block :
    let press (session : Session .standard) (c : Char) : Session .standard := (session.key (.char c)).2
    let session :=
      press (press ((Script.begin .standard "x\na (\n b)\nc".toList {} []).setCursor 6) '>') 'i'
    session.mode = .command ∧
      Command.parse (session.keys ++ ['(']) = .ok (1, .shift true (.object false (.block '(' ')'))) ∧
      (Standpoint.ofCaret Unicode.isPunctuation session.text session.caret).resolve session.charSearch 1
        (.object false (.block '(' ')')) = .ok (.spanning 5 8 .forward) ∧
      ∃ after, session.key (.char '(') = (.ok .handled, after) ∧
        after.text = "x\n\ta (\n\t b)\nc".toList ∧
        (session.linesShifted true 5 8)[0]? = some "x\n".toList ∧
        (session.linesShifted true 5 8)[3]? = some ['c'] := by
  intro press session
  have mode : session.mode = .command := by decide
  have read : Command.parse (session.keys ++ ['(']) =
      .ok (1, .shift true (.object false (.block '(' ')'))) := by decide
  have text : session.text = "x\na (\n b)\nc".toList := by decide
  have resolved : (Standpoint.ofCaret Unicode.isPunctuation session.text session.caret).resolve
      session.charSearch 1
      (.object false (.block '(' ')')) = .ok (.spanning 5 8 .forward) := by decide +kernel
  have indented : (session.linesShifted true 5 8).flatten = "x\n\ta (\n\t b)\nc".toList := by
    decide +kernel
  clear_value session
  obtain ⟨after, pressed, shifted, kept⟩ := (lines_of_shifted_object mode read).2 _ resolved
  have begun : session.text.lineOf 5 = 1 := by rw [text]; decide
  have ended : session.text.lineOf 8 = 2 := by rw [text]; decide
  have above : ∀ offset, 5 ≤ offset → offset < 8 → session.text.lineOf offset ≠ 0 := by
    intro offset after _
    have later := Text.lineOf_mono session.text after
    omega
  have below : ∀ offset, 5 ≤ offset → offset < 8 → session.text.lineOf offset ≠ 3 := by
    intro offset _ before
    have earlier := Text.lineOf_mono session.text (Nat.le_of_lt before)
    omega
  have first : (session.linesShifted true 5 8)[0]? = _ :=
    (kept 0 above).mpr (.inr (.inl fun same => absurd (same.trans ended) (by decide)))
  have last : (session.linesShifted true 5 8)[3]? = _ :=
    (kept 3 below).mpr (.inr (.inl fun same => absurd (same.trans ended) (by decide)))
  rw [text] at first last
  exact ⟨mode, read, resolved, after, pressed, shifted.trans indented, first.trans (by decide),
    last.trans (by decide)⟩

/-- The object ends where the next line starts, and that line is shifted as well. -/
theorem lines_of_shifted_word :
    let press (session : Session .standard) (c : Char) : Session .standard := (session.key (.char c)).2
    let session := press (press (Script.begin .standard "foo\nbar".toList {} []) '>') 'a'
    Command.parse (session.keys ++ ['w']) = .ok (1, .shift true (.object true .word)) ∧
      (Standpoint.ofCaret Unicode.isPunctuation session.text session.caret).resolve session.charSearch 1
        (.object true .word) = .ok (.spanning 0 4 .forward) ∧
      (∀ offset < 4, session.text.lineOf offset ≠ 1) ∧
      (Text.brokenLines session.text)[1]? = some "bar".toList ∧
      (session.key (.char 'w')).2.text = "\tfoo\n\tbar".toList := by
  intro press session
  exact ⟨by decide +kernel, by decide +kernel, by decide +kernel, by decide +kernel, by decide +kernel⟩

end Session

end ModalVi
