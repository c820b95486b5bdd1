import ModalVi.Motion.Resolve

namespace ModalVi

/-! How motions fail.

A motion that was read leads somewhere or is no motion here; it never asks for more keys. -/

variable {error : ParseError}

theorem TextObject.select_error {object : TextObject} {marks : Char → Bool} {around : Bool}
    {count : Nat} {extent : TextObject.Extent}
    (failed : object.select marks around count extent = .error error) :
    ∃ fault, error = .invalidMotion fault := by
  cases object with
  | word | bigWord | sentence | paragraph => cases failed
  | quoted mark =>
      simp only [TextObject.select] at failed
      split at failed <;> cases failed
      exact ⟨_, rfl⟩
  | block opening closing =>
      simp only [TextObject.select] at failed
      split at failed <;> cases failed
      exact ⟨_, rfl⟩

namespace Standpoint

variable {point : Standpoint} {count : Nat}

theorem searchCharacter_error {search : CharSearch} {repeated : Bool}
    (failed : point.searchCharacter search repeated count = .error error) :
    ∃ fault, error = .invalidMotion fault := by
  simp only [searchCharacter] at failed
  split at failed <;> cases failed
  exact ⟨_, rfl⟩

theorem resolve_error {memory : Option CharSearch} {motion : Motion}
    (failed : point.resolve memory count motion = .error error) :
    ∃ fault, error = .invalidMotion fault := by
  cases motion with
  | charSearch search => exact searchCharacter_error failed
  | searchAgain reversed =>
      simp only [resolve] at failed
      split at failed
      · cases failed
        exact ⟨_, rfl⟩
      · exact searchCharacter_error failed
  | object around object =>
      simp only [resolve] at failed
      cases selected : object.select point.marks around count
          (TextObject.Extent.atOffset point.text point.cursor.caret) with
      | error fault =>
          rw [selected] at failed
          cases failed
          exact TextObject.select_error selected
      | ok extent =>
          rw [selected] at failed
          cases failed
  | matchingBracket =>
      simp only [resolve] at failed
      split at failed <;> cases failed
      exact ⟨_, rfl⟩
  | _ => cases failed

end Standpoint

end ModalVi
