import ModalVi.Proofs.History.Noting
import ModalVi.Proofs.Session.Dot
import ModalVi.Proofs.Session.Operator
import ModalVi.Proofs.Session.Seeking
import ModalVi.Proofs.Text.Line

namespace ModalVi

/-! Commands that are short for others.

A short command finds the span it works on by itself, where the long one asks a motion.  Both come to
the same span, so that the sessions afterwards differ in nothing but the keys to repeat. -/

theorem History.settle_close_settle (caret : Nat) (history : History) :
    (history.settle caret).close.settle caret = history.close.settle caret := by
  obtain ⟨undoable, redoable, merging⟩ := history
  cases undoable with
  | nil => rfl
  | cons top rest =>
      obtain ⟨start, stop, old, new, caretBefore, caretAfter⟩ := top
      cases caretAfter <;> rfl

/-- A command of one key that does what an operator and one more key do. -/
inductive Shorthand where
  | deleteAhead
  | deleteBehind
  | substitute
  | changeLines
  | deleteToLineEnd
  | changeToLineEnd
deriving DecidableEq, Repr

namespace Shorthand

def brief : Shorthand → Char
  | deleteAhead => 'x'
  | deleteBehind => 'X'
  | substitute => 's'
  | changeLines => 'S'
  | deleteToLineEnd => 'D'
  | changeToLineEnd => 'C'

/-- The key of the operator. -/
def operator : Shorthand → Char
  | deleteAhead | deleteBehind | deleteToLineEnd => 'd'
  | substitute | changeLines | changeToLineEnd => 'c'

/-- The key after that of the operator. -/
def operand : Shorthand → Char
  | deleteAhead | substitute => 'l'
  | deleteBehind => 'h'
  | changeLines => 'c'
  | deleteToLineEnd | changeToLineEnd => '$'

/-- Whether both ways take a count.  The motion to the line end takes none. -/
def counted : Shorthand → Bool
  | deleteToLineEnd | changeToLineEnd => false
  | _ => true

def command : Shorthand → Command
  | deleteAhead => .deleteAhead false
  | deleteBehind => .deleteBehind
  | substitute => .deleteAhead true
  | changeLines => .changeLines
  | deleteToLineEnd => .deleteToLineEnd false
  | changeToLineEnd => .deleteToLineEnd true

def long : Shorthand → Command
  | deleteAhead => .delete .right
  | deleteBehind => .delete .left
  | substitute => .change .right
  | changeLines => .changeLines
  | deleteToLineEnd => .delete .lineEnd
  | changeToLineEnd => .change .lineEnd

end Shorthand

namespace Counting

variable {digits : List Char} {count : Nat}

theorem parse_brief (counting : Counting digits count) (shorthand : Shorthand) :
    Command.parse (digits ++ [shorthand.brief]) = .ok (count, shorthand.command) := by
  have other : shorthand.brief.isDigit = false := by cases shorthand <;> rfl
  obtain ⟨_, read, _⟩ := counting.readCount_cons other []
  rw [Command.parse, read]
  cases shorthand <;> rfl

theorem legible_operator (counting : Counting digits count) (shorthand : Shorthand) :
    Legible .command (digits ++ [shorthand.operator]) := by
  have other : shorthand.operator.isDigit = false := by cases shorthand <;> rfl
  obtain ⟨_, read, _⟩ := counting.readCount_cons other []
  have unfinished : Command.parse (digits ++ [shorthand.operator]) = .error .incomplete := by
    rw [Command.parse, read]
    cases shorthand <;> rfl
  exact counting.legible.snoc unfinished

theorem parse_long (counting : Counting digits count) (shorthand : Shorthand)
    (alone : shorthand.counted = false → count = 1) :
    Command.parse (digits ++ [shorthand.operator] ++ [shorthand.operand]) =
      .ok (count, shorthand.long) := by
  have other : shorthand.operator.isDigit = false := by cases shorthand <;> rfl
  obtain ⟨_, read, _⟩ := counting.readCount_cons other [shorthand.operand]
  rw [List.append_assoc, List.singleton_append, Command.parse, read]
  cases shorthand with
  | deleteToLineEnd | changeToLineEnd =>
      rw [alone rfl]
      rfl
  | _ => rfl

end Counting

namespace Session

variable {library : Library} {session : Session library} {digits : List Char} {count : Nat}
  {motion : Motion}

/-! ### What is deleted -/

/-- Deletes a span, for typing in its place or not. -/
def cut (inserting : Bool) (low high : Nat) (session : Session library) : Session library :=
  if inserting then (session.erase low high).toInsert else session.erase low high

/-- A motion that leads from one end of a span to the other deletes that span. -/
theorem act_span {found : Cursor} {start stop : Nat} (ordered : start ≤ stop)
    (notWord : ∀ big, motion ≠ .wordForward big)
    (forgets : motion.remember session.charSearch = session.charSearch)
    (resolved : (Standpoint.ofCaret library.isPunctuation session.text session.caret).resolve
      session.charSearch count motion = .ok found)
    (ends : found = ⟨stop, start⟩ ∨ found = ⟨start, stop⟩) :
    session.act (.delete motion) count = (.ok (), session.cut false start stop) ∧
      session.act (.change motion) count = (.ok (), session.cut true start stop) := by
  have low : found.low = start := by
    rcases ends with rfl | rfl
    · exact Nat.min_eq_right ordered
    · exact Nat.min_eq_left ordered
  have high : found.high = stop := by
    rcases ends with rfl | rfl
    · exact Nat.max_eq_left ordered
    · exact Nat.max_eq_right ordered
  have deleted : ({ session with charSearch := motion.remember session.charSearch } :
      Session library).perform .delete found = (.ok (), session.erase start stop) := by
    rw [forgets, ← low, ← high]
    rfl
  have changed : ({ session with charSearch := motion.remember session.charSearch } :
      Session library).perform .change found = (.ok (), session.erase start stop) := deleted
  exact ⟨act_of_performed (by simp) resolved deleted,
    act_of_performed (fun _ => notWord) resolved changed⟩

theorem act_right (count : Nat) (session : Session library) :
    session.act (.delete .right) count = session.act (.deleteAhead false) count ∧
      session.act (.change .right) count = session.act (.deleteAhead true) count := by
  have ordered := (Reader.Onward.advanceInLine count
    (Reader.forward session.text session.caret)).le_offset rfl
  have start : (Reader.forward session.text session.caret).offset = session.caret :=
    Reader.offset_facing .forward session.caret_le_length
  rw [start] at ordered
  exact act_span ordered (by simp) rfl rfl (.inl rfl)

theorem act_left (count : Nat) (session : Session library) :
    session.act (.delete .left) count = session.act .deleteBehind count := by
  have ordered := (Reader.Onward.advanceInLine count
    (Reader.backward session.text session.caret)).offset_le rfl
  have start : (Reader.backward session.text session.caret).offset = session.caret :=
    Reader.offset_facing .backward session.caret_le_length
  rw [start] at ordered
  exact (act_span ordered (by simp) rfl rfl (.inr rfl)).1

theorem act_lineEnd (session : Session library) :
    session.act (.delete .lineEnd) 1 = session.act (.deleteToLineEnd false) 1 ∧
      session.act (.change .lineEnd) 1 = session.act (.deleteToLineEnd true) 1 := by
  have ordered := (Reader.Onward.toLineBreak
    (Reader.forward session.text session.caret)).le_offset rfl
  have start : (Reader.forward session.text session.caret).offset = session.caret :=
    Reader.offset_facing .forward session.caret_le_length
  rw [start] at ordered
  exact act_span ordered (by simp) rfl rfl (.inl rfl)

/-- The long command does what the short one does. -/
theorem act_long (shorthand : Shorthand) (alone : shorthand.counted = false → count = 1)
    (session : Session library) :
    session.act shorthand.long count = session.act shorthand.command count := by
  cases shorthand with
  | deleteAhead => exact (act_right count session).1
  | deleteBehind => exact act_left count session
  | substitute => exact (act_right count session).2
  | changeLines => rfl
  | deleteToLineEnd =>
      rw [alone rfl]
      exact (act_lineEnd session).1
  | changeToLineEnd =>
      rw [alone rfl]
      exact (act_lineEnd session).2

/-! ### Typing either -/

/-- Both ways to type a command succeed, and what is different then is at most what is remembered for
repetition. -/
def EndsAlike (session : Session library) (brief full : List Char) : Prop :=
  ∃ first second, session.press (brief.map .char) = (.ok (), first) ∧
    session.press (full.map .char) = (.ok (), second) ∧
    second = { first with last := second.last }

theorem endsAlike_of_shorthand (mode : session.mode = .command) (fresh : session.keys = [])
    (counting : Counting digits count) (shorthand : Shorthand)
    (alone : shorthand.counted = false → count = 1) :
    session.EndsAlike (digits ++ [shorthand.brief])
      (digits ++ [shorthand.operator] ++ [shorthand.operand]) := by
  let begun : Session library := { session with changed := false }
  have same := act_long shorthand alone begun
  obtain ⟨next, acted⟩ : ∃ next, begun.act shorthand.command count = (.ok (), next) := by
    cases shorthand <;> exact ⟨_, rfl⟩
  rw [acted] at same
  obtain ⟨short, first⟩ := press_of_acted mode fresh counting.legible
    (counting.parse_brief shorthand) (by cases shorthand <;> rfl) acted
  obtain ⟨long, second⟩ := press_of_acted mode fresh (counting.legible_operator shorthand)
    (counting.parse_long shorthand alone) (by cases shorthand <;> rfl) same
  exact ⟨_, _, first, second, rfl⟩

/-! ### The end of the line -/

theorem press_appendAtLineEnd (mode : session.mode = .command) (fresh : session.keys = []) :
    session.press [.char 'A'] = (.ok (),
      (session.begun.setCursor (session.text.lineEnd session.caret)).toInsert.settled) := by
  have ran : (session.holding ['A']).runKeys ['A'] = (.ok .done, (Session.setCursor
    (Reader.forward session.text session.caret).toLineBreak.offset
      { session.holding ['A'] with changed := false }).toInsert) := rfl
  rw [Text.offset_toLineBreak session.caret_le_length] at ran
  generalize session.text.lineEnd session.caret = stop at ran ⊢
  have pressed := press_alone mode fresh ran
  exact pressed

theorem press_lineEnd (mode : session.mode = .command) (fresh : session.keys = []) :
    session.press [.char '$'] =
      (.ok (), (session.begun.setCursor (session.text.lineEnd session.caret)).settled) := by
  have ran : (session.holding ['$']).runKeys ['$'] = (.ok .done, Session.setCursor
    (Reader.forward session.text session.caret).toLineBreak.offset
      { session.holding ['$'] with changed := false }) := rfl
  rw [Text.offset_toLineBreak session.caret_le_length] at ran
  generalize session.text.lineEnd session.caret = stop at ran ⊢
  have pressed := press_alone mode fresh ran
  exact pressed

theorem press_append_of_stays (mode : session.mode = .command) (fresh : session.keys = [])
    (stays : ((Reader.forward session.text session.caret).advanceInLine 1).offset =
      session.caret) :
    session.press [.char 'a'] =
      (.ok (), (session.begun.setCursor session.caret).toInsert.settled) := by
  have ran : (session.holding ['a']).runKeys ['a'] = (.ok .done, (Session.setCursor
    ((Reader.forward session.text session.caret).advanceInLine 1).offset
      { session.holding ['a'] with changed := false }).toInsert) := rfl
  rw [stays] at ran
  generalize session.caret = stop at ran ⊢
  have pressed := press_alone mode fresh ran
  exact pressed

/-- Handing over for typing does not ask whether the caret was noted before. -/
theorem toInsert_settled (session : Session library) :
    session.settled.toInsert.settled =
      { session.toInsert.settled with last := session.settled.toInsert.settled.last } := by
  simp only [settled, toInsert, notice, History.settle_close_settle]
  rfl

/-- Going to the end of the line and appending there. -/
theorem endsAlike_of_append (mode : session.mode = .command) (fresh : session.keys = []) :
    session.EndsAlike ['A'] ['$', 'a'] := by
  have first := press_appendAtLineEnd mode fresh
  have moved := press_lineEnd mode fresh
  have inside := Text.lineEnd_le session.caret_le_length
  have stays := Text.advanceInLine_of_lineEnd session.caret_le_length 1
  generalize session.text.lineEnd session.caret = stop at *
  let ended : Session library := session.begun.setCursor stop
  have still : ended.settled.mode = .command := mode
  have caret : ended.settled.caret = stop := caret_setCursor inside
  have appended := press_append_of_stays still rfl (caret.symm ▸ stays)
  have again : ended.settled.begun.setCursor stop = ended.settled := rfl
  rw [caret, again] at appended
  have second : session.press ([.char '$'] ++ [.char 'a']) = _ :=
    (press_append moved [.char 'a']).trans appended
  exact ⟨_, _, first, second, toInsert_settled ended⟩

/-- A short command ends as its long form does, whatever the text, the caret, the host and what the
session remembers. -/
theorem endsAlike_of_long_form (mode : session.mode = .command) (fresh : session.keys = []) :
    (∀ {digits : List Char} {count : Nat}, Counting digits count → ∀ shorthand : Shorthand,
      (shorthand.counted = false → count = 1) →
        session.EndsAlike (digits ++ [shorthand.brief])
          (digits ++ [shorthand.operator] ++ [shorthand.operand])) ∧
      session.EndsAlike ['A'] ['$', 'a'] :=
  ⟨fun counting shorthand alone => endsAlike_of_shorthand mode fresh counting shorthand alone,
    endsAlike_of_append mode fresh⟩

/-- More characters are asked for than the line has. -/
theorem endsAlike_of_three_characters :
    let session := (Script.begin .standard "abc\nd".toList {} []).setCursor 1
    session.mode = .command ∧ session.keys = [] ∧ Counting ['3'] 3 ∧
      ∃ first second, session.press ("3s".toList.map .char) = (.ok (), first) ∧
        session.press ("3cl".toList.map .char) = (.ok (), second) ∧
        first.text = "a\nd".toList ∧ second = { first with last := second.last } := by
  intro session
  have counting : Counting (Nat.toDigits 10 3) 3 := .toDigits (by decide) (by decide)
  have mode : session.mode = .command := rfl
  obtain ⟨shorthands, _⟩ := endsAlike_of_long_form mode rfl
  obtain ⟨first, second, short, long, same⟩ := shorthands counting .substitute nofun
  have short : session.press ("3s".toList.map .char) = (.ok (), first) := short
  have left : (session.press ("3s".toList.map .char)).2.text = "a\nd".toList := by decide +kernel
  rw [short] at left
  exact ⟨mode, rfl, counting, first, second, short, long, left, same⟩

end Session

end ModalVi
