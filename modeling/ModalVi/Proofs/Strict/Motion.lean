import ModalVi.Proofs.Motion.Bounds
import ModalVi.Proofs.Strict.Text

namespace ModalVi.Strict

/-! Motions with every access checked.

All motions read with readers, whose accesses are checked for all of them at once, but for the one to
a matching bracket: that one looks characters up by their place. -/

variable {text : Text} {inner target : Char} {index depth : Nat}

/-- As `firstUnmatched`, for the characters before `index`, nearest first.  The answer is the place of
the character. -/
def unmatchedBefore (text : Text) (inner target : Char) : (index depth : Nat) → Option (Option Nat)
  | 0, _ => some none
  | index + 1, depth => do
      let c ← text[index]?
      if c == inner then unmatchedBefore text inner target index (depth + 1)
      else if c == target then
        if depth = 0 then some (some index)
        else do
          let outer ← back depth 1
          unmatchedBefore text inner target index outer
      else unmatchedBefore text inner target index depth

def bracketPartner (text : Text) (place : Nat) : Option (Option Nat) :=
  match text[place]? with
  | none => some none
  | some c =>
      match bracketPairs.find? (·.1 == c) with
      | some (opening, closing) => do
          let rest ← slice text (place + 1) text.length
          some ((firstUnmatched opening closing 0 rest).map (place + 1 + ·))
      | none =>
          match bracketPairs.find? (·.2 == c) with
          | some (opening, closing) => unmatchedBefore text closing opening place 0
          | none => some none

def matchingBracket (text : Text) (place : Nat) : Option (Option Nat) :=
  bracketPartner text
    ((Reader.forward text place).skipWhile fun c => c != '\n' && !isBracket c).offset

def resolve (point : Standpoint) (memory : Option CharSearch) (count : Nat) (motion : Motion) :
    Option (Except ParseError Cursor) :=
  match motion with
  | .matchingBracket => do
      match ← matchingBracket point.text point.cursor.caret with
      | some place => some (.ok (point.moveTo place))
      | none => some (.error (.invalidMotion .noMatchingBracket))
  | motion => some (point.resolve memory count motion)

theorem unmatchedBefore_eq (bounded : index ≤ text.length) (depth : Nat) :
    unmatchedBefore text inner target index depth =
      some ((firstUnmatched inner target depth (text.take index).reverse).map (index - 1 - ·)) := by
  induction index generalizing depth with
  | zero => rfl
  | succ index ih =>
      have inside : index < text.length := bounded
      have nearest : (text.take (index + 1)).reverse = text[index] :: (text.take index).reverse := by
        rw [List.take_succ_eq_append_getElem inside, List.reverse_append]
        rfl
      have further (found : Option Nat) :
          (found.map (· + 1)).map (index - ·) = found.map (index - 1 - ·) := by
        rw [Option.map_map]
        congr 1
        funext position
        simp only [Function.comp_apply]
        omega
      have before (depth : Nat) : unmatchedBefore text inner target index depth =
          some (((firstUnmatched inner target depth (text.take index).reverse).map (· + 1)).map
            (index - ·)) := by
        rw [further]
        exact ih (Nat.le_of_lt inside) depth
      rw [nearest]
      simp only [unmatchedBefore, firstUnmatched, List.getElem?_eq_getElem inside,
        Option.bind_eq_bind, Option.bind_some, Nat.add_sub_cancel]
      split
      · exact before _
      · split
        · cases depth with
          | zero => rfl
          | succ depth =>
              rw [if_neg (Nat.succ_ne_zero depth), back_eq (Nat.le_add_left 1 depth)]
              exact before depth
        · exact before depth

theorem bracketPartner_eq (text : Text) (place : Nat) :
    bracketPartner text place = some (ModalVi.bracketPartner text place) := by
  simp only [bracketPartner, ModalVi.bracketPartner]
  cases held : text[place]? with
  | none => rfl
  | some c =>
      have inside : place < text.length := (List.getElem?_eq_some_iff.mp held).1
      dsimp only
      cases bracketPairs.find? (·.1 == c) with
      | some pair =>
          have rest : text.slice (place + 1) text.length = text.drop (place + 1) :=
            List.take_of_length_le (by simp)
          simp only [slice_eq inside (Nat.le_refl _), rest, Option.bind_eq_bind, Option.bind_some]
      | none =>
          cases bracketPairs.find? (·.2 == c) with
          | some pair => exact unmatchedBefore_eq (Nat.le_of_lt inside) 0
          | none => rfl

/-- With its accesses checked, a motion leads where it leads without. -/
theorem resolve_eq (point : Standpoint) (memory : Option CharSearch) (count : Nat)
    (motion : Motion) :
    resolve point memory count motion = some (point.resolve memory count motion) := by
  cases motion with
  | matchingBracket =>
      simp only [resolve, matchingBracket, bracketPartner_eq, Standpoint.resolve,
        ModalVi.matchingBracket, Option.bind_eq_bind, Option.bind_some]
      generalize ModalVi.bracketPartner point.text _ = partner
      cases partner <;> rfl
  | _ => rfl

end ModalVi.Strict
