import ModalVi.Proofs.Session.Dot
import ModalVi.Proofs.Session.Seeking
import ModalVi.Proofs.Text.Line

namespace ModalVi

/-! Swapping case from the keyboard.

A character never becomes nothing in the other case, but it may become several characters.  The caret is
put behind as many characters as there were before, so it is behind all that was swapped only where each
of them stayed one character. -/

/-! ### Lengths -/

namespace Unicode

theorem caseSequence_getD_ne_nil {sequences : List (Nat × List Nat)}
    (given : ∀ sequence ∈ sequences, sequence.2 ≠ []) (c other : Char) :
    (caseSequence sequences c).getD [other] ≠ [] := by
  rw [caseSequence]
  cases found : sequences.lookup c.toNat with
  | none => exact List.cons_ne_nil _ _
  | some points =>
      obtain ⟨earlier, later, parts, _⟩ := List.lookup_eq_some_iff.mp found
      have among : (c.toNat, points) ∈ sequences := by
        rw [parts]
        exact List.mem_append_right _ List.mem_cons_self
      have kept : points ≠ [] := given _ among
      simpa using kept

theorem lowered_ne_nil (c : Char) : lowered c ≠ [] :=
  caseSequence_getD_ne_nil (by decide) c _

theorem raised_ne_nil (c : Char) : raised c ≠ [] :=
  caseSequence_getD_ne_nil (by decide) c _

end Unicode

theorem length_swappedCase_pos (c : Char) : 0 < (swappedCase c).length := by
  rw [swappedCase]
  split
  · exact List.length_pos_iff.mpr (Unicode.lowered_ne_nil c)
  · split
    · exact List.length_pos_iff.mpr (Unicode.raised_ne_nil c)
    · exact Nat.one_pos

namespace Text

theorem length_le_swapCase (text : Text) : text.length ≤ text.swapCase.length := by
  induction text with
  | nil => exact Nat.le_refl _
  | cons c rest ih =>
      have longer := length_swappedCase_pos c
      rw [swapCase, List.flatMap_cons, List.length_append, List.length_cons]
      rw [swapCase] at ih
      omega

/-- A text is as long in the other case exactly if each of its characters is one character there. -/
theorem length_swapCase_eq_iff (text : Text) :
    text.swapCase.length = text.length ↔ ∀ c ∈ text, (swappedCase c).length = 1 := by
  induction text with
  | nil => simp [swapCase]
  | cons c rest ih =>
      have longer := length_swappedCase_pos c
      have further := length_le_swapCase rest
      rw [List.forall_mem_cons, ← ih]
      rw [swapCase] at further ⊢
      rw [swapCase, List.flatMap_cons, List.length_append, List.length_cons]
      omega

end Text

namespace Counting

variable {digits : List Char} {count : Nat}

theorem parse_swapCase (counting : Counting digits count) :
    Command.parse (digits ++ ['~']) = .ok (count, .swapCase) := by
  obtain ⟨_, read, _⟩ := counting.readCount_cons (rfl : '~'.isDigit = false) []
  rw [Command.parse, read]
  rfl

end Counting

namespace Session

variable {library : Library} {session : Session library} {digits : List Char} {count : Nat}

/-- Where the `count` characters after the caret end, of which there are none beyond its line. -/
def swapEnd (count : Nat) (session : Session library) : Nat :=
  session.caret + min count (session.text.restOfLine session.caret)

theorem caret_le_swapEnd (count : Nat) (session : Session library) :
    session.caret ≤ session.swapEnd count :=
  Nat.le_add_right _ _

theorem swapEnd_le_length (count : Nat) (session : Session library) :
    session.swapEnd count ≤ session.text.length := by
  have inside := session.caret_le_length
  have rest := session.text.restOfLine_le session.caret
  rw [swapEnd]
  omega

/-- The caret ends where the characters that were swapped ended before. -/
theorem swapCase_accepted (session : Session library) (accepted : session.surface.verdicts 0 = true)
    (count : Nat) :
    (session.swapCase count).text =
        session.text.splice session.caret (session.swapEnd count)
          (session.text.slice session.caret (session.swapEnd count)).swapCase ∧
      (session.swapCase count).cursor = Cursor.collapsed (session.swapEnd count) ∧
      (session.swapCase count).caret = session.swapEnd count := by
  have ordered := session.caret_le_swapEnd count
  have bounded := session.swapEnd_le_length count
  have stop : ((Reader.forward session.text session.caret).advanceInLine count).offset =
      session.swapEnd count := Text.offset_advanceInLine session.caret_le_length count
  rw [swapCase, stop]
  have longer := Text.length_le_swapCase (session.text.slice session.caret (session.swapEnd count))
  rw [Text.length_slice ordered bounded] at longer
  generalize (session.text.slice session.caret (session.swapEnd count)).swapCase = new at longer ⊢
  have within : session.swapEnd count ≤ session.caret + new.length := by omega
  exact setCursor_put_of_accepted accepted ordered bounded within

/-- What was before the caret stays as it was, and so does what followed the characters that were
swapped.  After the caret there is besides that whatever these characters have become longer by. -/
theorem rest_of_swapped_case (mode : session.mode = .command) (fresh : session.keys = [])
    (accepted : session.surface.verdicts 0 = true) (counting : Counting digits count) :
    let swapped := session.text.slice session.caret (session.swapEnd count)
    let followed := session.text.drop (session.swapEnd count)
    ∃ after, session.press ((digits ++ ['~']).map .char) = (.ok (), after) ∧
      after.text.take session.caret = session.text.take session.caret ∧
      after.cursor = Cursor.collapsed (session.caret + swapped.length) ∧
      after.text.drop after.caret = swapped.swapCase.drop swapped.length ++ followed ∧
      (after.text.drop after.caret = followed ↔ ∀ c ∈ swapped, (swappedCase c).length = 1) := by
  intro swapped followed
  have length : swapped.length = session.swapEnd count - session.caret :=
    Text.length_slice (session.caret_le_swapEnd count) (session.swapEnd_le_length count)
  have stop : session.swapEnd count = session.caret + swapped.length := by
    have ordered := session.caret_le_swapEnd count
    omega
  have longer : swapped.length ≤ swapped.swapCase.length := Text.length_le_swapCase swapped
  obtain ⟨last, pressed⟩ := press_of_acted mode fresh counting.legible counting.parse_swapCase rfl rfl
  have effect :=
    swapCase_accepted ({ session with changed := false } : Session library) accepted count
  generalize ({ session with changed := false } : Session library).swapCase count = done
    at pressed effect
  have text : done.text =
      session.text.splice session.caret (session.swapEnd count) swapped.swapCase := effect.1
  have cursor : done.cursor = Cursor.collapsed (session.swapEnd count) := effect.2.1
  have caret : done.caret = session.swapEnd count := effect.2.2
  have rest : done.text.drop done.caret = swapped.swapCase.drop swapped.length ++ followed := by
    rw [caret, stop, text]
    exact Text.drop_splice session.caret_le_length longer (session.swapEnd count)
  refine ⟨_, pressed, ?_, stop ▸ cursor, rest, ?_⟩
  · change done.text.take session.caret = _
    rw [text]
    exact Text.take_splice session.caret_le_length _ _
  · change done.text.drop done.caret = followed ↔ _
    rw [rest, List.append_left_eq_self, List.drop_eq_nil_iff, ← Text.length_swapCase_eq_iff]
    exact ⟨fun most => Nat.le_antisymm most longer, Nat.le_of_eq⟩

/-- The two characters from the caret to the end of the line, though nine are asked for. -/
theorem rest_of_swapped_word :
    let session := (Script.begin .standard "aÉS\nx".toList {} []).setCursor 1
    session.mode = .command ∧ session.keys = [] ∧ session.surface.verdicts 0 = true ∧
      Counting ['9'] 9 ∧
      ∃ after, session.press ((['9'] ++ ['~']).map .char) = (.ok (), after) ∧
        after.cursor = Cursor.collapsed 3 ∧ after.text.take 1 = "a".toList ∧
        after.text.drop after.caret = "\nx".toList := by
  intro session
  have counting : Counting (Nat.toDigits 10 9) 9 := .toDigits (by decide) (by decide)
  have mode : session.mode = .command := rfl
  obtain ⟨after, pressed, front, cursor, _, rest⟩ := rest_of_swapped_case mode rfl rfl counting
  have single := (Text.length_swapCase_eq_iff
    (session.text.slice session.caret (session.swapEnd 9))).mp (by decide +kernel)
  exact ⟨mode, rfl, rfl, counting, after, pressed, cursor, front, rest.mpr single⟩

/-- `ß` is `SS` in upper case, and the caret ends between the two. -/
theorem rest_of_swapped_sharp_s :
    let before := Script.begin .standard "ßx".toList {} []
    let after := (before.press [.char '~']).2
    before.surface.verdicts 0 = true ∧ after.text = "SSx".toList ∧
      after.text.drop after.caret = "Sx".toList ∧
      after.text.drop after.caret ≠ before.text.drop (before.swapEnd 1) := by
  decide +kernel

end Session

end ModalVi
