import ModalVi.Proofs.Session.Shifting
import ModalVi.Proofs.Text.Splice

namespace ModalVi

/-! Two first non-blanks of a line.

A motion goes past any white space at the start of a line.  Commands that place the caret by themselves
go past spaces and tabs only.  The two places are the same where no other white space follows those. -/

namespace Text

variable {text : Text} {offset : Nat}

theorem length_takeWhile_eq_iff {fewer more : Char → Bool}
    (weaker : ∀ c, fewer c = true → more c = true) (list : List Char) :
    (list.takeWhile fewer).length = (list.takeWhile more).length ↔
      ∀ c, list[(list.takeWhile fewer).length]? = some c → more c = false := by
  induction list with
  | nil => simp
  | cons c rest ih =>
      rw [List.takeWhile_cons, List.takeWhile_cons]
      cases skipped : fewer c with
      | true =>
          rw [if_pos rfl, if_pos (weaker c skipped), List.length_cons, List.length_cons,
            Nat.add_right_cancel_iff, ih]
          rfl
      | false =>
          cases further : more c with
          | true => simp [further]
          | false => simp [further]

/-- Behind the spaces and tabs at the start of the line, the line ends or goes on with something other
than white space. -/
def PlainIndent (text : Text) (offset : Nat) : Prop :=
  ∀ c ∈ text[text.indentEnd (text.lineStart offset)]?, c = '\n' ∨ Unicode.isWhitespace c = false

theorem all_eq_true_iff_plainIndent :
    (text[text.indentEnd (text.lineStart offset)]?).all
        (fun c => c == '\n' || !Unicode.isWhitespace c) = true ↔ PlainIndent text offset := by
  simp [PlainIndent, Option.all_eq_true]

instance : Decidable (PlainIndent text offset) :=
  decidable_of_iff _ all_eq_true_iff_plainIndent

/-- The first place from `start` on that is not before white space, or the end of the line. -/
def lineSpaceEnd (text : Text) (start : Nat) : Nat :=
  (Reader.forward text start).skipLineSpace.offset

theorem indentEnd_eq_iff {start : Nat} (inside : start ≤ text.length) :
    text.indentEnd start = text.lineSpaceEnd start ↔
      ∀ c ∈ text[text.indentEnd start]?, c = '\n' ∨ Unicode.isWhitespace c = false := by
  have blanks : text.indentEnd start = _ := Reader.offset_skipWhile_from inside _
  have spaces : text.lineSpaceEnd start = _ := Reader.offset_skipWhile_from inside _
  have weaker : ∀ c : Char, (c == ' ' || c == '\t') = true →
      (c != '\n' && Unicode.isWhitespace c) = true := by
    intro c blank
    rcases Bool.or_eq_true_iff.mp blank with space | tab
    · rw [beq_iff_eq.mp space]
      decide
    · rw [beq_iff_eq.mp tab]
      decide
  have same := length_takeWhile_eq_iff weaker (text.drop start)
  rw [blanks, spaces, Nat.add_left_cancel_iff, same]
  simp only [List.getElem?_drop, Option.mem_def, Bool.and_eq_false_iff, bne_eq_false_iff_eq]

theorem collapsed_indentEnd_eq_iff (inside : offset ≤ text.length) :
    Cursor.collapsed (text.indentEnd (text.lineStart offset)) =
        Cursor.collapsed (text.lineSpaceEnd (text.lineStart offset)) ↔
      PlainIndent text offset := by
  have begun : text.lineStart offset ≤ text.length := Nat.le_trans (lineStart_le inside) inside
  have places := indentEnd_eq_iff begun
  exact ⟨fun same => places.mp (congrArg Cursor.caret same),
    fun plain => congrArg Cursor.collapsed (places.mpr plain)⟩

theorem sameLine_lineSpaceEnd {start : Nat} (inside : start ≤ text.length) :
    SameLine text start (text.lineSpaceEnd start) :=
  sameLine_skipWhile rfl inside

end Text

namespace Session

variable {library : Library} {session : Session library} {digits : List Char} {count : Nat}
  {inward : Bool}

/-! ### Single keys -/

theorem press_insertAtIndent (mode : session.mode = .command) (fresh : session.keys = []) :
    ∃ after, session.press [.char 'I'] = (.ok (), after) ∧
      after.cursor = Cursor.collapsed
        (session.text.indentEnd (session.text.lineStart session.caret)) := by
  have start := Nat.le_trans (Text.lineStart_le session.caret_le_length) session.caret_le_length
  have bounded := (Text.sameLine_indentEnd start).bounded
  have ran : (session.holding ['I']).runKeys ['I'] = (.ok .done, (Session.setCursor
    (session.text.indentEnd (session.text.lineStart session.caret))
      { session.holding ['I'] with changed := false }).toInsert) := rfl
  generalize session.text.indentEnd _ = place at bounded ran ⊢
  exact ⟨_, press_alone mode fresh ran, congrArg Cursor.collapsed (Nat.min_eq_left bounded)⟩

theorem press_insert (mode : session.mode = .command) (fresh : session.keys = []) :
    ∃ after, session.press [.char 'i'] = (.ok (), after) ∧ after.cursor = session.cursor :=
  ⟨_, press_alone mode fresh rfl, rfl⟩

theorem press_firstNonBlank (mode : session.mode = .command) (fresh : session.keys = []) :
    ∃ after, session.press [.char '^'] = (.ok (), after) ∧ after.mode = .command ∧
      after.keys = [] ∧
      after.cursor = Cursor.collapsed
        (session.text.lineSpaceEnd (session.text.lineStart session.caret)) := by
  have start := Nat.le_trans (Text.lineStart_le session.caret_le_length) session.caret_le_length
  have bounded := (Text.sameLine_lineSpaceEnd start).bounded
  have ran : (session.holding ['^']).runKeys ['^'] = (.ok .done, Session.setCursor
    (session.text.lineSpaceEnd (session.text.lineStart session.caret))
      { session.holding ['^'] with changed := false }) := rfl
  generalize session.text.lineSpaceEnd _ = place at bounded ran ⊢
  exact ⟨_, press_alone mode fresh ran, mode, rfl,
    congrArg Cursor.collapsed (Nat.min_eq_left bounded)⟩

/-! ### Shifting -/

/-- What is replaced from the start of a line on leaves that line starting there. -/
theorem lineStart_of_replace {start stop : Nat} {new : Text} {next : Session library}
    (ordered : start ≤ stop) (bounded : stop ≤ session.text.length)
    (begins : session.text.lineStart start = start)
    (made : session.replace start stop new false = (true, next)) :
    start ≤ next.text.length ∧ next.text.lineStart start = start := by
  have inside := Nat.le_trans ordered bounded
  have text := text_replace ordered bounded new false
  obtain ⟨_, _, _, _, _, accepted, _⟩ := eq_replaced_of_replace made
  rw [made, if_pos accepted] at text
  have longer := Text.start_add_length_le_splice new ordered bounded
  rw [← text] at longer
  have within : start ≤ next.text.length := Nat.le_of_add_right_le longer
  have ended : Text.Ended (next.text.take start) := by
    rw [text, Text.take_splice inside, ← begins, Text.lineStart_eq_startOfLine inside]
    exact Text.ended_take_startOfLine (Text.lineOf_lt_lineCount _ _)
  exact ⟨within, Text.lineStart_of_ended within ended⟩

/-- Where shifting lines has changed the text, the caret is behind the blanks of its line. -/
theorem cursor_of_shift {cursor : Cursor} (inward : Bool)
    (begins : session.text.lineStart cursor.low = cursor.low)
    (bounded : cursor.high ≤ session.text.length) :
    let after := session.shift inward true cursor
    after.text ≠ session.text →
      after.cursor = Cursor.collapsed (after.text.indentEnd (after.text.lineStart after.caret)) := by
  have ordered := cursor.low_le_high
  simp only [shift, begins, if_true]
  generalize session.shifted inward cursor.low cursor.high = new
  cases made : session.replace cursor.low cursor.high new false with
  | mk replaced next =>
      intro changed
      cases replaced with
      | false =>
          rcases eq_of_replace_eq_false made with rfl | rfl <;> exact absurd rfl changed
      | true =>
          obtain ⟨within, same⟩ := lineStart_of_replace ordered bounded begins made
          have blanks := Text.sameLine_indentEnd within
          have start : next.text.lineStart (next.setCursor (next.text.indentEnd cursor.low)).caret =
              cursor.low := by
            rw [caret_setCursor blanks.bounded, ← blanks.lineStart, same]
          calc
            Cursor.collapsed (min (next.text.indentEnd cursor.low) next.text.length) =
                Cursor.collapsed (next.text.indentEnd cursor.low) :=
              congrArg Cursor.collapsed (Nat.min_eq_left blanks.bounded)
            _ = _ := congrArg (fun place => Cursor.collapsed (next.text.indentEnd place)) start.symm

/-- Where shifting from the keyboard has changed the text, the caret is behind the blanks of its line. -/
theorem cursor_of_press_shift (mode : session.mode = .command) (fresh : session.keys = [])
    (counting : Counting digits count) (inward : Bool) :
    ∃ after, session.press ((digits ++ shiftKeys inward).map .char) = (.ok (), after) ∧
      after.mode = .command ∧ after.keys = [] ∧
      (after.text ≠ session.text →
        after.cursor = Cursor.collapsed (after.text.indentEnd (after.text.lineStart after.caret))) := by
  have inside := session.caret_le_length
  let begun : Session library := { session with changed := false }
  let lines := lineCursor session.text session.caret count
  obtain ⟨low, high⟩ := ends_lineCursor inside count
  have begins : begun.text.lineStart lines.low = lines.low := by
    rw [low]
    exact Text.lineStart_lineStart inside
  have bounded : lines.high ≤ begun.text.length := by
    obtain ⟨more, rfl⟩ := Nat.exists_eq_add_of_le' counting.positive
    rw [high, Text.iterate_nextLineStart_eq_startOfLine inside]
    exact Text.startOfLine_le _ _
  have placed := cursor_of_shift inward begins bounded
  have beside := (replaces_shift inward true lines begun).beside
  obtain ⟨last, pressed⟩ := press_shift mode fresh counting inward
  -- Otherwise the unifier evaluates the lines that are shifted.
  generalize begun.shift inward true lines = done at pressed placed beside
  exact ⟨_, pressed, beside.mode.trans mode, rfl, placed⟩

/-! ### Both -/

/-- Starting to insert at the indent and moving to the first non-blank before inserting agree exactly if
the indent is plain.  The caret that shifting lines leaves is where the motion puts it exactly if the
indent is plain then. -/
theorem firstNonBlank_alike_iff (mode : session.mode = .command) (fresh : session.keys = [])
    (counting : Counting digits count) (inward : Bool) :
    (∃ first second, session.press [.char 'I'] = (.ok (), first) ∧
      session.press [.char '^', .char 'i'] = (.ok (), second) ∧
      (first.cursor = second.cursor ↔ Text.PlainIndent session.text session.caret)) ∧
    ∃ after moved, session.press ((digits ++ shiftKeys inward).map .char) = (.ok (), after) ∧
      after.press [.char '^'] = (.ok (), moved) ∧
      (after.text ≠ session.text →
        (after.cursor = moved.cursor ↔ Text.PlainIndent after.text after.caret)) := by
  refine ⟨?_, ?_⟩
  · obtain ⟨first, pressed, indented⟩ := press_insertAtIndent mode fresh
    obtain ⟨moved, typed, still, free, placed⟩ := press_firstNonBlank mode fresh
    obtain ⟨second, inserted, kept⟩ := press_insert still free
    refine ⟨first, second, pressed, (press_append typed [.char 'i']).trans inserted, ?_⟩
    rw [indented, kept, placed, Text.collapsed_indentEnd_eq_iff session.caret_le_length]
  · obtain ⟨after, pressed, still, free, shifted⟩ :=
      cursor_of_press_shift mode fresh counting inward
    obtain ⟨moved, typed, _, _, placed⟩ := press_firstNonBlank still free
    refine ⟨after, moved, pressed, typed, fun changed => ?_⟩
    rw [shifted changed, placed, Text.collapsed_indentEnd_eq_iff after.caret_le_length]

/-- The tab that is put before the spaces is passed by both. -/
theorem firstNonBlank_alike_of_spaces :
    let session := (Script.begin .standard "x\n  a\n b".toList {} []).setCursor 4
    session.mode = .command ∧ session.keys = [] ∧ Counting (Nat.toDigits 10 2) 2 ∧
      (∃ first second, session.press [.char 'I'] = (.ok (), first) ∧
        session.press [.char '^', .char 'i'] = (.ok (), second) ∧ first.cursor = second.cursor) ∧
      ∃ after moved,
        session.press ((Nat.toDigits 10 2 ++ shiftKeys true).map .char) = (.ok (), after) ∧
        after.press [.char '^'] = (.ok (), moved) ∧ after.text = "x\n\t  a\n\t b".toList ∧
        after.text ≠ session.text ∧ after.cursor = moved.cursor := by
  intro session
  have mode : session.mode = .command := rfl
  have counting : Counting (Nat.toDigits 10 2) 2 := .toDigits (by decide) (by decide)
  obtain ⟨⟨first, second, pressed, typed, alike⟩, after, moved, shifted, reached, same⟩ :=
    firstNonBlank_alike_iff mode rfl counting true
  have plain : Text.PlainIndent session.text session.caret := by decide +kernel
  have text : (session.press ((Nat.toDigits 10 2 ++ shiftKeys true).map .char)).2.text =
      "x\n\t  a\n\t b".toList := by decide +kernel
  have caret : (session.press ((Nat.toDigits 10 2 ++ shiftKeys true).map .char)).2.caret = 5 := by
    decide +kernel
  rw [shifted] at text caret
  have changed : after.text ≠ session.text := by
    rw [text]
    decide
  have indented : Text.PlainIndent after.text after.caret := by
    rw [text, caret]
    decide +kernel
  exact ⟨mode, rfl, counting, ⟨first, second, pressed, typed, alike.mpr plain⟩, after, moved,
    shifted, reached, text, changed, (same changed).mpr indented⟩

/-- An ideographic space is white space, but no space or tab. -/
theorem firstNonBlank_apart_of_ideographic_space :
    let session := Script.begin .standard "\u3000a".toList {} []
    let shifted := (session.press [.char '>', .char '>']).2
    (session.press [.char 'I']).2.cursor = Cursor.collapsed 0 ∧
      (session.press [.char '^', .char 'i']).2.cursor = Cursor.collapsed 1 ∧
      shifted.text = "\t\u3000a".toList ∧ shifted.text ≠ session.text ∧
      shifted.cursor = Cursor.collapsed 1 ∧
      (shifted.press [.char '^']).2.cursor = Cursor.collapsed 2 := by
  decide +kernel

end Session

end ModalVi
