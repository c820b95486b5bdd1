import ModalVi.Proofs.Motion.Bounds
import ModalVi.Unicode.Punctuation

namespace ModalVi.Standpoint

/-! Where the keys of a motion lead.

The keys are read first and the motion that they name is carried out then, with the count that was read
before them.  Wherever that leads, it is in the text. -/

variable {point : Standpoint} {memory : Option CharSearch} {lineKey : Option Char}
  {buffer : KeyBuffer} {motion : Motion} {found : Cursor}

/-- Where the motion at the front of the keys leads, with the count read before it. -/
def follow (point : Standpoint) (memory : Option CharSearch) (lineKey : Option Char)
    (buffer : KeyBuffer) : Except ParseError Cursor := do
  let motion ← Motion.parse lineKey buffer
  point.resolve memory buffer.count motion

theorem follow_of_parse (parsed : Motion.parse lineKey buffer = .ok motion) :
    point.follow memory lineKey buffer = point.resolve memory buffer.count motion := by
  rw [follow, parsed]
  rfl

theorem exists_motion_of_follow (followed : point.follow memory lineKey buffer = .ok found) :
    ∃ motion, Motion.parse lineKey buffer = .ok motion ∧
      point.resolve memory buffer.count motion = .ok found := by
  cases parsed : Motion.parse lineKey buffer with
  | error error =>
      rw [follow, parsed] at followed
      cases followed
  | ok motion =>
      rw [follow_of_parse parsed] at followed
      exact ⟨motion, rfl, followed⟩

/-- From a cursor in the text, the keys of a motion lead to a cursor in the text.  The anchor stays where
it is, unless they name an object or are the line key. -/
theorem within_of_follow (within : point.cursor.Within point.text)
    (followed : point.follow memory lineKey buffer = .ok found) :
    found.Within point.text ∧
      ∃ motion, Motion.parse lineKey buffer = .ok motion ∧
        (found.anchor = point.cursor.anchor ∨ motion = .wholeLines ∨
          ∃ around object, motion = .object around object) := by
  obtain ⟨motion, parsed, resolved⟩ := exists_motion_of_follow followed
  refine ⟨within_of_resolve resolved within, motion, parsed, ?_⟩
  by_cases lines : motion = .wholeLines
  · exact .inr (.inl lines)
  · cases leads : motion.leads with
    | true => exact .inl (anchor_of_resolve leads lines resolved)
    | false =>
        cases motion with
        | object around object => exact .inr (.inr ⟨around, object, rfl⟩)
        | _ => cases leads

/-- An object that reaches to the end of the text takes the anchor along. -/
theorem within_of_follow_in_brackets :
    let point : Standpoint := ⟨"f(ab)".toList, ⟨3, 5⟩, true, false, Unicode.isPunctuation⟩
    point.cursor.Within point.text ∧
      point.follow none (some 'd') (.ofKeys ['a', '(']) = .ok ⟨5, 1⟩ ∧
      (⟨5, 1⟩ : Cursor).Within point.text := by
  intro point
  have within : point.cursor.Within point.text := ⟨by decide, by decide⟩
  have followed : point.follow none (some 'd') (.ofKeys ['a', '(']) = .ok ⟨5, 1⟩ := rfl
  exact ⟨within, followed, (within_of_follow within followed).1⟩

end ModalVi.Standpoint
