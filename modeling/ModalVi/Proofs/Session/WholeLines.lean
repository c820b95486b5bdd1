import ModalVi.Proofs.Count
import ModalVi.Proofs.Session.Operator
import ModalVi.Proofs.Text.Line

namespace ModalVi

/-! A doubled operator does what it does to a selection of whole lines.

The one counts line breaks from the caret on.  The other selects the caret's line and moves the end of
the selection down, for which it steps back into the last line, keeps the column and selects whole
lines again.  Both come to the start of the caret's line and to the same line start below it. -/

variable {digits front : List Char} {operator : Operator}

/-! ### Keys -/

theorem Numeral.readOperand_prefix (numeral : Numeral digits) (isPrefix : front <+: digits) :
    readOperand none (.ofKeys front) = .error .incomplete := by
  by_cases given : front = []
  · rw [given, readOperand_nil]
  · rw [readOperand, readMotionCount_ofKeys, (numeral.of_prefix isPrefix given).readCount_alone]
    rfl

/-- A count and `j` move down by as many lines. -/
theorem Numeral.spelled_down (numeral : Numeral digits) :
    Motion.Spelled (digits ++ ['j']) (decimalValue digits) .down where
  read := by
    rw [readOperand, readMotionCount_ofKeys, numeral.readCount (by rintro c ⟨⟩; rfl)]
    rfl
  unread length within := by
    rw [List.length_append, List.length_singleton] at within
    rw [List.take_append_of_le_length (by omega)]
    exact numeral.readOperand_prefix (List.take_prefix length digits)

/-- The operators that whole lines are given to by doubling their key. -/
def Operator.Doubles (operator : Operator) : Prop := operator = .delete ∨ operator = .yank

theorem Numeral.parse_doubled (numeral : Numeral digits) (doubles : operator.Doubles) :
    Command.parse (digits ++ operator.spelling ++ operator.spelling) =
      .ok (decimalValue digits, operator.command .wholeLines) := by
  rcases doubles with rfl | rfl
  · rw [List.append_assoc, Command.parse, numeral.readCount (by rintro c ⟨⟩; rfl)]
    rfl
  · rw [List.append_assoc, Command.parse, numeral.readCount (by rintro c ⟨⟩; rfl)]
    rfl

theorem Numeral.legible_operator (numeral : Numeral digits) (doubles : operator.Doubles) :
    Legible .command (digits ++ operator.spelling) := by
  rcases doubles with rfl | rfl
  · have unfinished : Command.parse (digits ++ ['d']) = .error .incomplete := by
      rw [Command.parse, numeral.readCount (by rintro c ⟨⟩; rfl)]
      rfl
    exact numeral.legible.snoc unfinished
  · have unfinished : Command.parse (digits ++ ['y']) = .error .incomplete := by
      rw [Command.parse, numeral.readCount (by rintro c ⟨⟩; rfl)]
      rfl
    exact numeral.legible.snoc unfinished

/-! ### Spans -/

section Spans

variable {text : Text} {caret : Nat}

/-- From the start of the caret's line to the start of the line `count` lines below. -/
def lineCursor (text : Text) (caret count : Nat) : Cursor :=
  ⟨text.nextLineStart^[count] caret, text.lineStart caret⟩

theorem ends_lineCursor (inside : caret ≤ text.length) (count : Nat) :
    (lineCursor text caret count).low = text.lineStart caret ∧
      (lineCursor text caret count).high = text.nextLineStart^[count] caret := by
  have ordered := Nat.le_trans (Text.lineStart_le inside) (Text.le_iterate_nextLineStart inside count)
  exact ⟨Nat.min_eq_right ordered, Nat.max_eq_left ordered⟩

theorem resolve_wholeLines (marks : Char → Bool) (memory : Option CharSearch)
    (inside : caret ≤ text.length) (count : Nat) :
    (Standpoint.ofCaret marks text caret).resolve memory count .wholeLines =
      .ok (lineCursor text caret count) := by
  have stepped := Text.offset_steps_pastLineBreak (.facing .forward caret : Reader.Reads text _) rfl
    count
  rw [Reader.offset_facing .forward inside] at stepped
  exact congrArg (fun stop => Except.ok (Cursor.mk stop (text.lineStart caret))) stepped

theorem Standpoint.sameLine_sameColumn (point : Standpoint) {lineStart : Nat}
    (inside : lineStart ≤ point.text.length) :
    Text.SameLine point.text lineStart (point.sameColumn lineStart) :=
  Text.sameLine_advanceInLine inside _

theorem Session.wholeLines_of_le {start stop : Nat} (line : text.lineStart start = start)
    (ordered : start ≤ stop) :
    Session.wholeLines text ⟨stop, start⟩ = ⟨text.nextLineStart stop, start⟩ := by
  simp [Session.wholeLines, Cursor.low, Cursor.high, Cursor.direction, Cursor.isForward,
    Cursor.spanning, ordered, line]

/-- Moving down from the end of the caret's line and taking whole lines again. -/
theorem wholeLines_of_down (memory : Option CharSearch) (inside : caret ≤ text.length)
    (count : Nat) :
    ∃ offset, Standpoint.resolve
        ⟨text, ⟨caret + text.restOfLine caret, text.lineStart caret⟩, true, false, marks⟩ memory count
        .down = .ok ⟨offset, text.lineStart caret⟩ ∧
      Session.wholeLines text ⟨offset, text.lineStart caret⟩ =
        lineCursor text caret (count + 1) := by
  have ended : Text.SameLine text caret (caret + text.restOfLine caret) :=
    Text.sameLine_add inside (Nat.le_refl _)
  have begun := Text.sameLine_lineStart inside
  have placed : Reader.Reads text (Reader.forward text (text.lineStart caret)) := .facing .forward _
  have start : (Reader.forward text (text.lineStart caret)).offset = text.lineStart caret :=
    Reader.offset_facing .forward (Nat.le_trans begun.ordered inside)
  have below : (Reader.forward text (text.lineStart caret)).offset ≤ _ :=
    Text.le_offset_linesDown rfl count
  have next := Text.nextLineStart_linesDown placed rfl count
  have within := (placed.linesDown count).offset_le
  rw [start] at below next
  rw [Function.iterate_succ_apply, begun.nextLineStart, ← Function.iterate_succ_apply] at next
  let point : Standpoint :=
    ⟨text, ⟨caret + text.restOfLine caret, text.lineStart caret⟩, true, false, marks⟩
  have column := point.sameLine_sameColumn within
  refine ⟨point.sameColumn ((Reader.forward text (text.lineStart caret)).linesDown count).offset,
    ?_, ?_⟩
  · have lineStart : point.lineStart = text.lineStart caret := ended.lineStart.symm
    simp only [Standpoint.resolve, Standpoint.moveTo]
    rw [show Standpoint.lineStart _ = _ from lineStart]
  · rw [Session.wholeLines_of_le (Text.lineStart_lineStart inside)
      (Nat.le_trans below column.ordered)]
    exact congrArg (fun stop => Cursor.mk stop (text.lineStart caret))
      (column.nextLineStart.symm.trans next)

end Spans

namespace Session

variable {library : Library} {session begun done : Session library} {count : Nat}

theorem within_firstSelection (kind : VisualKind) (session : Session library) :
    (session.firstSelection kind).Within session.text := by
  have inside := session.caret_le_length
  cases kind with
  | characters => exact ⟨inside, inside⟩
  | lines =>
      have start := Text.lineStart_le inside
      exact ⟨Text.nextLineStart_le inside, by simp only [firstSelection]; omega⟩

/-- The end of a selection of the caret's line, without the break, is the end of that line. -/
theorem visualBase_of_line
    (selecting : Selecting .lines (session.firstSelection .lines) session begun) :
    begun.visualBase = ⟨session.caret + session.text.restOfLine session.caret,
      session.text.lineStart session.caret⟩ := by
  have inside := session.caret_le_length
  have start := Text.lineStart_le inside
  have rest := session.text.restOfLine_le session.caret
  have next := Text.nextLineStart_eq inside
  have selected := selecting.selected (within_firstSelection .lines session)
  have isLines : begun.mode.isVisualLine = true := by rw [selecting.mode]; rfl
  have ends : (firstSelection .lines session).low = session.text.lineStart session.caret ∧
      (firstSelection .lines session).high = session.text.nextLineStart session.caret := by
    simp only [firstSelection, Cursor.low, Cursor.high]
    omega
  have forward : (firstSelection .lines session).isForward = true := by
    have ordered : session.text.lineStart session.caret ≤
        session.text.nextLineStart session.caret := by omega
    exact decide_eq_true ordered
  simp only [visualBase, selected, isLines, Bool.true_and, ← selecting.text, ends.1, ends.2,
    forward, if_true]
  by_cases shorter : session.text.restOfLine session.caret < session.text.length - session.caret
  · have broken := Text.getElem?_restOfLine shorter
    have stop : session.text.nextLineStart session.caret =
        session.caret + session.text.restOfLine session.caret + 1 := by omega
    have nonempty : session.text.lineStart session.caret <
        session.caret + session.text.restOfLine session.caret + 1 := by omega
    simp [stop, nonempty, broken, firstSelection]
  · have stop : session.text.nextLineStart session.caret =
        session.caret + session.text.restOfLine session.caret := by omega
    have last : session.text.lineStart session.caret < session.text.nextLineStart session.caret →
        session.text[session.text.nextLineStart session.caret - 1]? ≠ some '\n' := by
      intro nonempty
      by_cases before : session.text.nextLineStart session.caret - 1 < session.caret
      · exact (Text.sameLine_lineStart inside).getElem?_ne (by omega) before
      · exact (Text.sameLine_add inside (Nat.le_refl _)).getElem?_ne (by omega) (by omega)
    split
    · rename_i broken
      simp only [Bool.and_eq_true, decide_eq_true_eq, beq_iff_eq] at broken
      exact absurd broken.2 (last broken.1)
    · simp only [firstSelection, stop]

/-! ### Both ways -/

/-- The keys that carry a selection of the caret's line down over `count` more lines. -/
def downKeys (count : Nat) : List Char :=
  if count = 0 then [] else Nat.toDigits 10 count ++ ['j']

theorem selecting_of_downKeys (mode : session.mode = .command) (fresh : session.keys = [])
    (possible : count < countLimit) :
    ∃ selected, session.press (('V' :: downKeys count).map .char) = (.ok (), selected) ∧
      Selecting .lines (lineCursor session.text session.caret (count + 1)) session selected := by
  have inside := session.caret_le_length
  obtain ⟨begun, began, selecting, _⟩ := selecting_of_selectKey mode fresh .lines
  by_cases none : count = 0
  · rw [none]
    exact ⟨begun, began, selecting⟩
  · have numeral := numeral_toDigits (Nat.pos_of_ne_zero none) possible
    have spelled := numeral.spelled_down
    rw [decimalValue_toDigits] at spelled
    obtain ⟨offset, resolved, lines⟩ := wholeLines_of_down begun.charSearch inside count
    rw [← visualBase_of_line selecting, selecting.text] at resolved
    obtain ⟨extended, moved, selectingLines⟩ := selecting_of_motion selecting spelled resolved
    have opened : session.press (['V'].map .char) = (.ok (), begun) := began
    refine ⟨extended, ?_, ?_⟩
    · rw [← List.singleton_append, List.map_append, press_append opened, downKeys, if_neg none]
      exact moved
    · rw [if_pos rfl, ← selecting.text, lines] at selectingLines
      exact selectingLines

theorem ends_of_doubled (mode : session.mode = .command) (fresh : session.keys = [])
    (doubles : operator.Doubles) (positive : 0 < count) (possible : count < countLimit)
    (works : operator = .yank → session.clipboard.faults 0 = none)
    (performed : session.perform operator (lineCursor session.text session.caret count) =
      (.ok (), done)) :
    ∃ doubled, session.press
        ((Nat.toDigits 10 count ++ operator.spelling ++ operator.spelling).map .char) =
          (.ok (), doubled) ∧ Ends operator done doubled := by
  have numeral := numeral_toDigits positive possible
  have legible := numeral.legible_operator doubles
  have read := numeral.parse_doubled doubles
  rw [decimalValue_toDigits] at read
  have notWord : operator = .change → ∀ big, Motion.wholeLines ≠ .wordForward big := by simp
  obtain ⟨c, spelling⟩ : ∃ c, operator.spelling = [c] := by
    rcases doubles with rfl | rfl <;> exact ⟨_, rfl⟩
  rw [spelling] at legible read ⊢
  exact ends_of_command mode fresh legible read notWord
    (resolve_wholeLines library.isPunctuation _ session.caret_le_length count) works performed

/-- `V`, then `j` with a count unless that is zero, and then `d` or `y` leads where the doubled operator
with a count greater by one leads, as long as there is such a count.  It does not matter how many lines
there are, how the last of them ends, or whether the caret is on an empty last line. -/
theorem sameView_of_lines (mode : session.mode = .command) (fresh : session.keys = [])
    (doubles : operator.Doubles) (possible : count + 1 < countLimit)
    (works : operator = .yank → session.clipboard.faults 0 = none) :
    ∃ doubled selected,
      session.press ((Nat.toDigits 10 (count + 1) ++ operator.spelling ++ operator.spelling).map
        .char) = (.ok (), doubled) ∧
      session.press (('V' :: downKeys count ++ operator.spelling).map .char) =
        (.ok (), selected) ∧
      SameView doubled selected := by
  obtain ⟨done, _, performed, _⟩ := sameCaret_of_perform (Alike.refl session) works
    (lineCursor session.text session.caret (count + 1))
  obtain ⟨doubled, pressed, ends⟩ := ends_of_doubled mode fresh doubles (Nat.succ_pos count)
    possible works performed
  obtain ⟨extended, opened, selecting⟩ :=
    selecting_of_downKeys mode fresh (Nat.lt_of_succ_lt possible)
  have within : (lineCursor session.text session.caret (count + 1)).Within session.text :=
    Standpoint.within_of_resolve
      (resolve_wholeLines library.isPunctuation session.charSearch session.caret_le_length (count + 1))
      (Standpoint.within_ofCaret session.caret_le_length)
  obtain ⟨selected, operated, endsAlso⟩ := ends_of_selecting selecting within works performed
  refine ⟨doubled, selected, pressed, ?_, ends.sameView endsAlso⟩
  rw [List.map_append, press_append opened]
  exact operated

theorem sameView_of_lines_at_end :
    let session := (Script.begin .standard "a\nb\n".toList {} []).setCursor 2
    session.mode = .command ∧ session.keys = [] ∧ 2 + 1 < countLimit ∧
      session.clipboard.faults 0 = none ∧
      ∃ doubled selected, session.press (['3', 'y', 'y'].map .char) = (.ok (), doubled) ∧
        session.press (['V', '2', 'j', 'y'].map .char) = (.ok (), selected) ∧
        SameView doubled selected ∧ doubled.clipboard.content = "b\n".toList := by
  intro session
  have possible : 2 + 1 < countLimit := by decide
  have mode : session.mode = .command := rfl
  have works : Operator.yank = .yank → session.clipboard.faults 0 = none := fun _ => rfl
  obtain ⟨doubled, selected, pressed, pressedAlso, same⟩ :=
    sameView_of_lines mode rfl (.inr rfl) possible works
  have copied : (session.press (['3', 'y', 'y'].map .char)).2.clipboard.content = "b\n".toList := by
    decide
  have typing : session.press (['3', 'y', 'y'].map .char) = (.ok (), doubled) := pressed
  rw [typing] at copied
  exact ⟨mode, rfl, possible, rfl, doubled, selected, pressed, pressedAlso, same, copied⟩

/-- The greatest count has no successor that could be typed: its last digit is refused, and what is
doubled after that has no count. -/
theorem lines_differ_at_countLimit :
    let session := Script.begin .standard "a\nb".toList {} []
    let after (keys : List Char) : Session .standard :=
      keys.foldl (fun session c => (session.key (.char c)).2) session
    countLimit - 1 + 1 = countLimit ∧
      (after ('V' :: downKeys (countLimit - 1) ++ ['d'])).text = [] ∧
      (after (Nat.toDigits 10 countLimit ++ ['d', 'd'])).text = ['b'] := by
  intro session after
  refine ⟨by decide, ?_, by decide⟩
  decide +kernel

end Session

end ModalVi
