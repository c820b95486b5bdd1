import ModalVi.Text.Reader

namespace ModalVi

/-! Brackets and their partners. -/

def bracketPairs : List (Char × Char) := [('(', ')'), ('\x7b', '\x7d'), ('[', ']'), ('<', '>')]

def isBracket (c : Char) : Bool :=
  bracketPairs.any fun (opening, closing) => c == opening || c == closing

/-- The position of the first `target` that does not close a pair begun by an `inner` after it was
begun `depth` times. -/
def firstUnmatched (inner target : Char) : (depth : Nat) → List Char → Option Nat
  | _, [] => none
  | depth, c :: rest =>
      if c == inner then (firstUnmatched inner target (depth + 1) rest).map (· + 1)
      else if c == target then
        match depth with
        | 0 => some 0
        | depth + 1 => (firstUnmatched inner target depth rest).map (· + 1)
      else (firstUnmatched inner target depth rest).map (· + 1)

def bracketPartner (text : Text) (offset : Nat) : Option Nat :=
  match text[offset]? with
  | none => none
  | some c =>
      match bracketPairs.find? (·.1 == c) with
      | some (opening, closing) =>
          (firstUnmatched opening closing 0 (text.drop (offset + 1))).map (offset + 1 + ·)
      | none =>
          match bracketPairs.find? (·.2 == c) with
          | some (opening, closing) =>
              (firstUnmatched closing opening 0 (text.take offset).reverse).map (offset - 1 - ·)
          | none => none

/-- The partner of the first bracket from `offset` on in its line. -/
def matchingBracket (text : Text) (offset : Nat) : Option Nat :=
  bracketPartner text
    ((Reader.forward text offset).skipWhile fun c => c != '\n' && !isBracket c).offset

end ModalVi
