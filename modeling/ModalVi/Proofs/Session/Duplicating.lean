import ModalVi.Proofs.Session.Dot
import ModalVi.Proofs.Session.WholeLines
import ModalVi.Proofs.Text.Column

namespace ModalVi

/-! A line that is yanked and put below itself.

The clipboard holds nothing but text, and whether that is whole lines is told by its last character.  A
line that ends in a break is yanked with it, and so it is put on a line of its own.  The last line of a
text has no break to yank. -/

namespace Text

variable {text held : Text} {line : Nat}

/-- A line with its break, put where a line starts, is one more line there. -/
theorem lines_splice_line (above : line < text.lastLine) (unbroken : '\n' ∉ held) :
    lines (text.splice (text.offsetAt (line + 1) 0) (text.offsetAt (line + 1) 0) (held ++ ['\n'])) =
      (lines text).take (line + 1) ++ held :: (lines text).drop (line + 1) := by
  obtain ⟨before, after⟩ := (stands_start above).parts
  have whole : text.splice (text.offsetAt (line + 1) 0) (text.offsetAt (line + 1) 0)
      (held ++ ['\n']) =
        ofLines ((lines text).take (line + 1) ++ held :: (lines text).drop (line + 1)) := by
    rw [splice, before, after, ofLines_append_cons, drop_lines above, List.flatMap_cons,
      linesAbove]
    simp
  rw [whole]
  refine lines_ofLines (by simp) fun other member => ?_
  rcases List.mem_append.mp member with front | back
  · exact unbroken_of_mem_lines (List.mem_of_mem_take front)
  · rcases List.mem_cons.mp back with rfl | later
    · exact unbroken
    · exact unbroken_of_mem_lines (List.mem_of_mem_drop later)

/-- A list of lines without its last one if that is empty. -/
def dropEmptyLast (list : List Text) : List Text :=
  if list.getLast? = some [] then list.dropLast else list

theorem dropEmptyLast_append (front : List Text) {back : List Text} (given : back ≠ []) :
    dropEmptyLast (front ++ back) = front ++ dropEmptyLast back := by
  rw [dropEmptyLast, dropEmptyLast, List.getLast?_append_of_ne_nil front given,
    List.dropLast_append_of_ne_nil given]
  split <;> rfl

/-- The lines down to one above the last are all in the list. -/
theorem dropEmptyLast_lines (above : line < text.lastLine) :
    dropEmptyLast (lines text) =
      (lines text).take (line + 1) ++ dropEmptyLast ((lines text).drop (line + 1)) := by
  have given : (lines text).drop (line + 1) ≠ [] := by simp [drop_lines above]
  rw [← dropEmptyLast_append _ given, List.take_append_drop]

theorem dropEmptyLast_insert (above : line < text.lastLine) {later : Text}
    (more : lines later = (lines text).take (line + 1) ++ held :: (lines text).drop (line + 1)) :
    dropEmptyLast (lines later) =
      (dropEmptyLast (lines text)).take (line + 1) ++
        held :: (dropEmptyLast (lines text)).drop (line + 1) := by
  have given : (lines text).drop (line + 1) ≠ [] := by simp [drop_lines above]
  have front : ((lines text).take (line + 1)).length = line + 1 :=
    List.length_take_of_le (lt_length_lines (Nat.le_of_lt above))
  rw [List.append_cons] at more
  rw [more, dropEmptyLast_append _ given, dropEmptyLast_lines above, List.take_left' front,
    List.drop_left' front, List.append_assoc, List.singleton_append]

theorem getElem?_dropEmptyLast (above : line < text.lastLine) :
    (dropEmptyLast (lines text))[line]? = some (text.lineAt line) := by
  have inside := lt_length_lines (Nat.le_of_lt above)
  have among : line < ((lines text).take (line + 1)).length := by
    rw [List.length_take]
    omega
  rw [dropEmptyLast_lines above, List.getElem?_append_left among,
    List.getElem?_take_of_lt (Nat.lt_succ_self line), List.getElem?_eq_getElem inside,
    lineAt_eq inside]

end Text

namespace Session

variable {library : Library} {session : Session library} {content : Text}

/-! ### The clipboard -/

theorem copy_of_works (works : session.clipboard.faults 0 = none) (content : Text) :
    session.copy content =
      (.ok (), { session with clipboard := { session.clipboard.accessed with content } }) := by
  rw [copy, Clipboard.write, works]

theorem paste_of_works (works : session.clipboard.faults 0 = none) :
    session.paste =
      (.ok session.clipboard.content, { session with clipboard := session.clipboard.accessed }) := by
  rw [paste, Clipboard.read, works]

/-! ### Yanking a line -/

/-- The caret's line with its break, or the last line. -/
def lineHeld (session : Session library) : Text :=
  session.text.slice (session.text.lineStart session.caret) (session.text.nextLineStart session.caret)

theorem act_yankLine (works : session.clipboard.faults 0 = none) :
    session.act (.yank .wholeLines) 1 =
      (.ok (), Session.setCursor (session.text.lineStart session.caret)
        { session with
          clipboard := { session.clipboard.accessed with content := session.lineHeld } }) := by
  have inside := session.caret_le_length
  have resolved := resolve_wholeLines library.isPunctuation session.charSearch inside 1
  obtain ⟨low, high⟩ := ends_lineCursor inside 1
  have performed : session.perform .yank (lineCursor session.text session.caret 1) =
      (.ok (), Session.setCursor (session.text.lineStart session.caret)
        { session with
          clipboard := { session.clipboard.accessed with content := session.lineHeld } }) := by
    rw [perform, low, high, copy_of_works works]
    rfl
  exact act_of_performed (by simp) resolved performed

/-- The caret's line was yanked and nothing else happened but that the caret went to its start. -/
structure Yanks (before after : Session library) : Prop where
  text : after.text = before.text
  cursor : after.cursor = Cursor.collapsed (before.text.lineStart before.caret)
  content : after.clipboard.content = before.lineHeld
  access : after.clipboard.faults 0 = before.clipboard.faults 1
  host : after.surface.verdicts = before.surface.verdicts
  mode : after.mode = before.mode

theorem Yanks.caret {before after : Session library} (yanks : Yanks before after) :
    after.caret = before.text.lineStart before.caret := by
  have start := Text.lineStart_le before.caret_le_length
  have inside := before.caret_le_length
  rw [Session.caret, yanks.cursor, yanks.text]
  exact Nat.min_eq_left (Nat.le_trans start inside)

theorem yanks_copied (session : Session library) :
    Yanks session (Session.setCursor (session.text.lineStart session.caret)
      { session with
        clipboard := { session.clipboard.accessed with content := session.lineHeld } }) := by
  let copied : Session library :=
    { session with clipboard := { session.clipboard.accessed with content := session.lineHeld } }
  have bounded : session.text.lineStart session.caret ≤ copied.text.length :=
    Nat.le_trans (Text.lineStart_le session.caret_le_length) session.caret_le_length
  have alike := Alike.setCursor (session.text.lineStart session.caret) copied
  have aside := aside_setCursor (session.text.lineStart session.caret) copied
  exact ⟨alike.text.symm, congrArg Cursor.collapsed (Nat.min_eq_left bounded),
    congrArg Clipboard.content alike.clipboard.symm,
    congrArg (fun clipboard => clipboard.faults 0) alike.clipboard.symm, alike.verdicts.symm,
    aside.mode⟩

theorem yanks_of_press (mode : session.mode = .command) (fresh : session.keys = [])
    (works : session.clipboard.faults 0 = none) :
    ∃ after, session.press (['y', 'y'].map .char) = (.ok (), after) ∧ after.keys = [] ∧
      Yanks session after := by
  let asked : Session library := { session.holding ['y', 'y'] with changed := false }
  have acted := act_yankLine (show asked.clipboard.faults 0 = none from works)
  have yanks := yanks_copied asked
  generalize Session.setCursor _ _ = next at acted yanks
  obtain ⟨last, ran⟩ := run_of_acted (by simp) (by simp) ['y', 'y'] acted
  have legible : Legible .command ['y'] := (Legible.nil .command).snoc rfl
  have typed : (session.holding (['y'] ++ ['y'])).runKeys (['y'] ++ ['y']) = _ := ran
  have pressed := press_of_ran mode fresh legible typed
  exact ⟨_, pressed, rfl, yanks.text, yanks.cursor, yanks.content, yanks.access, yanks.host,
    yanks.mode⟩

/-! ### Putting it back -/

/-- Whole lines are put where the next line starts. -/
theorem putText_lines (session : Session library) (accepted : session.surface.verdicts 0 = true)
    (broken : session.text[session.text.lineEnd session.caret]? = some '\n')
    (whole : content.getLast? = some '\n') :
    let below := session.text.nextLineStart session.caret
    (session.putText true content).text = session.text.splice below below content ∧
      (session.putText true content).cursor = Cursor.collapsed below := by
  intro below
  have inside := session.caret_le_length
  have bounded : below ≤ session.text.length := Text.nextLineStart_le inside
  obtain ⟨peeked, past⟩ := Text.peek_toLineBreak inside
  have put : session.putText true content =
      Session.setCursor below (session.put below below content) := by
    rw [putText, if_pos whole, if_pos rfl]
    dsimp only
    rw [if_pos (peeked.trans broken), past]
  obtain ⟨text, cursor, _⟩ := setCursor_put_of_accepted accepted (Nat.le_refl below) bounded
    (Nat.le_add_right below content.length)
  rw [put]
  exact ⟨text, cursor⟩

/-- Anything else is put behind the character at the caret. -/
theorem putText_beside (session : Session library) (accepted : session.surface.verdicts 0 = true)
    (inside : session.caret < session.text.length)
    (other : session.text[session.caret]? ≠ some '\n')
    (given : content ≠ []) (part : content.getLast? ≠ some '\n') :
    (session.putText true content).text =
        session.text.splice (session.caret + 1) (session.caret + 1) content ∧
      (session.putText true content).cursor =
        Cursor.collapsed (session.caret + content.length) := by
  have beside : (session.text[session.caret]?).any (· != '\n') = true := by
    rw [List.getElem?_eq_getElem inside] at other ⊢
    simpa using other
  have length := List.length_pos_iff.mpr given
  have last : session.caret + 1 + (content.length - 1) = session.caret + content.length := by omega
  have put : session.putText true content =
      Session.setCursor (session.caret + content.length)
        (session.put (session.caret + 1) (session.caret + 1) content) := by
    rw [putText, if_neg part]
    dsimp only
    rw [Bool.true_and, if_pos beside, last]
  have within : session.caret + content.length ≤ session.caret + 1 + content.length := by omega
  obtain ⟨text, cursor, _⟩ :=
    setCursor_put_of_accepted accepted (Nat.le_refl (session.caret + 1)) inside within
  rw [put]
  exact ⟨text, cursor⟩

/-- The session with the clipboard read once more. -/
def pasted (session : Session library) : Session library :=
  { session with clipboard := session.clipboard.accessed }

theorem act_put (works : session.clipboard.faults 0 = none) :
    session.act (.put true) 1 =
      (.ok (), if session.clipboard.content = [] then session.pasted
        else session.pasted.putText true session.clipboard.content) := by
  rw [act, putClipboard, paste_of_works works]
  cases session.clipboard.content with
  | nil => rfl
  | cons c rest => simp [pasted]

theorem press_put {done : Session library} (mode : session.mode = .command) (fresh : session.keys = [])
    (acted : ({ session with changed := false } : Session library).act (.put true) 1 = (.ok (), done)) :
    ∃ after, session.press [.char 'p'] = (.ok (), after) ∧ after.text = done.text ∧
      after.cursor = done.cursor := by
  have read : Command.parse ([] ++ ['p']) = .ok (1, .put true) := rfl
  obtain ⟨last, pressed⟩ := press_of_acted mode fresh (.nil _) read rfl acted
  exact ⟨_, pressed, rfl, rfl⟩

theorem press_put_nothing (mode : session.mode = .command) (fresh : session.keys = [])
    (works : session.clipboard.faults 0 = none) (nothing : session.clipboard.content = []) :
    ∃ after, session.press [.char 'p'] = (.ok (), after) ∧ after.text = session.text ∧
      after.cursor = session.cursor := by
  let asked : Session library := { session with changed := false }
  have acted := act_put (show asked.clipboard.faults 0 = none from works)
  rw [if_pos nothing] at acted
  obtain ⟨after, pressed, text, cursor⟩ := press_put mode fresh acted
  exact ⟨after, pressed, text, cursor⟩

theorem press_put_lines (mode : session.mode = .command) (fresh : session.keys = [])
    (works : session.clipboard.faults 0 = none) (accepted : session.surface.verdicts 0 = true)
    (broken : session.text[session.text.lineEnd session.caret]? = some '\n')
    (whole : session.clipboard.content.getLast? = some '\n') :
    let below := session.text.nextLineStart session.caret
    ∃ after, session.press [.char 'p'] = (.ok (), after) ∧
      after.text = session.text.splice below below session.clipboard.content ∧
      after.cursor = Cursor.collapsed below := by
  let asked : Session library := { session with changed := false }
  have given : session.clipboard.content ≠ [] := by
    rintro nothing
    simp [nothing] at whole
  have acted := act_put (show asked.clipboard.faults 0 = none from works)
  have put := putText_lines asked.pasted accepted broken whole
  rw [if_neg given] at acted
  generalize asked.pasted.putText true _ = done at acted put
  obtain ⟨after, pressed, text, cursor⟩ := press_put mode fresh acted
  exact ⟨after, pressed, text.trans put.1, cursor.trans put.2⟩

theorem press_put_beside (mode : session.mode = .command) (fresh : session.keys = [])
    (works : session.clipboard.faults 0 = none) (accepted : session.surface.verdicts 0 = true)
    (inside : session.caret < session.text.length)
    (other : session.text[session.caret]? ≠ some '\n')
    (given : session.clipboard.content ≠ [])
    (part : session.clipboard.content.getLast? ≠ some '\n') :
    ∃ after, session.press [.char 'p'] = (.ok (), after) ∧
      after.text =
        session.text.splice (session.caret + 1) (session.caret + 1) session.clipboard.content ∧
      after.cursor = Cursor.collapsed (session.caret + session.clipboard.content.length) := by
  let asked : Session library := { session with changed := false }
  have acted := act_put (show asked.clipboard.faults 0 = none from works)
  have put := putText_beside asked.pasted accepted inside other given part
  rw [if_neg given] at acted
  generalize asked.pasted.putText true _ = done at acted put
  obtain ⟨after, pressed, text, cursor⟩ := press_put mode fresh acted
  exact ⟨after, pressed, text.trans put.1, cursor.trans put.2⟩

/-! ### Both -/

/-- A line with another one below it is put below itself. -/
theorem duplicated_above (mode : session.mode = .command) (fresh : session.keys = [])
    (works : session.clipboard.faults 0 = none ∧ session.clipboard.faults 1 = none)
    (accepted : session.surface.verdicts 0 = true)
    (above : session.text.lineOf session.caret < session.text.lastLine) :
    let line := session.text.lineOf session.caret
    let below := session.text.offsetAt (line + 1) 0
    ∃ after, session.press (['y', 'y', 'p'].map .char) = (.ok (), after) ∧
      after.text = session.text.splice below below (session.text.lineAt line ++ ['\n']) ∧
      after.cursor = Cursor.collapsed below := by
  intro line below
  obtain ⟨column, stands⟩ := Text.exists_column session.caret_le_length
  have begins := Text.stands_start (Nat.le_of_lt above)
  have held : session.lineHeld = session.text.lineAt line ++ ['\n'] := by
    rw [lineHeld, stands.lineStart, stands.nextLineStart above]
    exact Text.slice_line above
  obtain ⟨yanked, yanking, free, yanks⟩ := yanks_of_press mode fresh works.1
  have content : yanked.clipboard.content = session.text.lineAt line ++ ['\n'] :=
    yanks.content.trans held
  have caret : yanked.caret = session.text.offsetAt line 0 := yanks.caret.trans stands.lineStart
  have broken : yanked.text[yanked.text.lineEnd yanked.caret]? = some '\n' := by
    have inside := (Text.stands_start above).inside
    rw [Text.offsetAt_succ (Nat.le_of_lt above)] at inside
    rw [yanks.text, caret]
    apply Text.getElem?_lineEnd
    rw [Text.lineEnd, begins.restOfLine]
    exact inside
  obtain ⟨after, putting, put⟩ := press_put_lines (yanks.mode.trans mode) free
    (yanks.access.trans works.2) (yanks.host ▸ accepted) broken (by simp [content])
  rw [yanks.text, caret, content, begins.nextLineStart above] at put
  exact ⟨after, (press_append yanking [.char 'p']).trans putting, put⟩

/-- The last line is put behind its first character, if it has one. -/
theorem duplicated_last (mode : session.mode = .command) (fresh : session.keys = [])
    (works : session.clipboard.faults 0 = none ∧ session.clipboard.faults 1 = none)
    (accepted : session.surface.verdicts 0 = true)
    (last : session.text.lineOf session.caret = session.text.lastLine) :
    let place := session.text.lineStart session.caret + 1
    ∃ after, session.press (['y', 'y', 'p'].map .char) = (.ok (), after) ∧
      after.text =
        session.text.splice place place (session.text.lineAt (session.text.lineOf session.caret)) ∧
      after.cursor = Cursor.collapsed session.text.length := by
  intro place
  rw [last]
  obtain ⟨column, stands⟩ := Text.exists_column session.caret_le_length
  rw [last] at stands
  have whole := Text.offsetAt_lastLine session.text
  have held : session.lineHeld = session.text.lineAt session.text.lastLine := by
    rw [lineHeld, stands.lineStart, stands.nextLineStart_last, whole, Text.slice,
      ← List.length_drop, List.take_length, Text.drop_lastLine]
  obtain ⟨yanked, yanking, free, yanks⟩ := yanks_of_press mode fresh works.1
  have content := yanks.content.trans held
  have still := yanks.mode.trans mode
  have reads := yanks.access.trans works.2
  by_cases empty : session.text.lineAt session.text.lastLine = []
  · obtain ⟨after, putting, put⟩ := press_put_nothing still free reads (content.trans empty)
    have start : session.text.lineStart session.caret = session.text.length := by
      rw [stands.lineStart, ← whole, Text.width, empty]
      rfl
    have beyond : session.text.length ≤ place := Nat.le_of_lt (start ▸ Nat.lt_succ_self _)
    rw [yanks.text, yanks.cursor, start] at put
    refine ⟨after, (press_append yanking [.char 'p']).trans putting, ?_, put.2⟩
    rw [put.1, empty, Text.splice, List.take_of_length_le beyond, List.drop_of_length_le beyond,
      List.append_nil, List.append_nil]
  · have unbroken := session.text.unbroken_lineAt session.text.lastLine
    have caret : yanked.caret = session.text.offsetAt session.text.lastLine 0 :=
      yanks.caret.trans stands.lineStart
    have length := List.length_pos_iff.mpr empty
    have inside : yanked.caret < yanked.text.length := by
      rw [yanks.text, caret, ← whole, Text.offsetAt, Text.offsetAt, Text.width]
      omega
    have other : yanked.text[yanked.caret]? ≠ some '\n' := by
      rw [yanks.text, caret, ← List.head?_drop, Text.drop_lastLine]
      exact fun first => unbroken (List.mem_of_mem_head? first)
    have part : yanked.clipboard.content.getLast? ≠ some '\n' := by
      rw [content]
      exact fun ended => unbroken (List.mem_of_getLast? ended)
    obtain ⟨after, putting, put⟩ := press_put_beside still free reads (yanks.host ▸ accepted)
      inside other (content ▸ empty) part
    have stop : session.text.lineStart session.caret +
        (session.text.lineAt session.text.lastLine).length = session.text.length := by
      rw [stands.lineStart]
      exact whole
    rw [yanks.text, yanks.caret, content, stop] at put
    exact ⟨after, (press_append yanking [.char 'p']).trans putting, put⟩

/-- `yy` and `p` put the caret's line below itself and go to it, unless it is the last one.  That has no
break, so that it goes behind its own first character. -/
theorem lines_of_duplicated (mode : session.mode = .command) (fresh : session.keys = [])
    (works : session.clipboard.faults 0 = none ∧ session.clipboard.faults 1 = none)
    (accepted : session.surface.verdicts 0 = true) :
    let line := session.text.lineOf session.caret
    let held := session.text.lineAt line
    let listed (text : Text) := Text.dropEmptyLast (Text.lines text)
    ∃ after, session.press (['y', 'y', 'p'].map .char) = (.ok (), after) ∧
      if line < session.text.lastLine then
        listed after.text =
            (listed session.text).take (line + 1) ++ held :: (listed session.text).drop (line + 1) ∧
          (listed session.text)[line]? = some held ∧
          after.cursor = Cursor.collapsed (after.text.offsetAt (line + 1) 0)
      else
        let place := session.text.lineStart session.caret + 1
        after.text = session.text.splice place place held ∧
          after.cursor = Cursor.collapsed session.text.length := by
  intro line held listed
  by_cases above : line < session.text.lastLine
  · obtain ⟨after, pressed, text, cursor⟩ := duplicated_above mode fresh works accepted above
    have unbroken := session.text.unbroken_lineAt line
    have more := Text.lines_splice_line above unbroken
    rw [← text] at more
    refine ⟨after, pressed, ?_⟩
    rw [if_pos above]
    refine ⟨Text.dropEmptyLast_insert above more, Text.getElem?_dropEmptyLast above, ?_⟩
    have front : ((Text.lines session.text).take (line + 1)).length = line + 1 :=
      List.length_take_of_le (Text.lt_length_lines (Nat.le_of_lt above))
    rw [cursor, Text.offsetAt, Text.offsetAt, Text.linesAbove, Text.linesAbove, more,
      List.take_left' front]
  · have last : line = session.text.lastLine :=
      Nat.le_antisymm (Nat.le_of_lt_succ (Text.lineOf_lt_lineCount _ _)) (Nat.le_of_not_lt above)
    obtain ⟨after, pressed, text, cursor⟩ := duplicated_last mode fresh works accepted last
    refine ⟨after, pressed, ?_⟩
    rw [if_neg above]
    exact ⟨text, cursor⟩

/-- The copy of the second line is the third one, and the empty last line is still below it. -/
theorem lines_of_duplicated_second :
    let session := (Script.begin .standard "a\nbc\n".toList {} []).setCursor 3
    session.mode = .command ∧ session.keys = [] ∧
      (session.clipboard.faults 0 = none ∧ session.clipboard.faults 1 = none) ∧
      session.surface.verdicts 0 = true ∧
      ∃ after, session.press (['y', 'y', 'p'].map .char) = (.ok (), after) ∧
        Text.dropEmptyLast (Text.lines after.text) =
          ["a".toList, "bc".toList, "bc".toList] ∧
        after.text = "a\nbc\nbc\n".toList ∧
        after.cursor = Cursor.collapsed (after.text.offsetAt 2 0) := by
  intro session
  have mode : session.mode = .command := rfl
  have works : session.clipboard.faults 0 = none ∧ session.clipboard.faults 1 = none := ⟨rfl, rfl⟩
  obtain ⟨after, pressed, duplicated⟩ := lines_of_duplicated mode rfl works rfl
  rw [if_pos (by decide)] at duplicated
  obtain ⟨listed, _, cursor⟩ := duplicated
  have text : (session.press (['y', 'y', 'p'].map .char)).2.text = "a\nbc\nbc\n".toList := by
    decide +kernel
  rw [pressed] at text
  exact ⟨mode, rfl, works, rfl, after, pressed, listed.trans (by decide +kernel), text, cursor⟩

/-- Without a break, the line is put beside its own first character. -/
theorem lines_of_duplicated_alone :
    let before := Script.begin .standard "a".toList {} []
    let after := (before.press (['y', 'y', 'p'].map .char)).2
    before.surface.verdicts 0 = true ∧ after.text = "aa".toList ∧
      Text.dropEmptyLast (Text.lines after.text) ≠
        (Text.dropEmptyLast (Text.lines before.text)).take 1 ++
          before.text.lineAt 0 :: (Text.dropEmptyLast (Text.lines before.text)).drop 1 := by
  decide +kernel

end Session

end ModalVi
