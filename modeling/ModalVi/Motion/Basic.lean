import ModalVi.Cursor
import ModalVi.KeyBuffer
import ModalVi.Motion.CharSearch
import ModalVi.Motion.TextObject

namespace ModalVi

/-! Motions: what the keys name, apart from where they lead. -/

/-- A motion, without its count. -/
inductive Motion where
  /-- `0` -/
  | lineStart
  /-- `$` -/
  | lineEnd
  /-- `^` -/
  | firstNonBlank
  /-- `-` -/
  | lineAbove
  /-- `+` -/
  | lineBelow
  /-- `w`, and `W` for big words. -/
  | wordForward (big : Bool)
  /-- `b`, and `B` for big words. -/
  | wordBackward (big : Bool)
  /-- `e`, and `E` for big words. -/
  | wordEnd (big : Bool)
  /-- `h` -/
  | left
  /-- `l` -/
  | right
  /-- `j` -/
  | down
  /-- `k` -/
  | up
  /-- `(` -/
  | sentenceBackward
  /-- `)` -/
  | sentenceForward
  /-- `f`, `t`, `F` and `T` with their character. -/
  | charSearch (search : CharSearch)
  /-- `;`, and `,` for the other direction. -/
  | searchAgain (reversed : Bool)
  /-- `i` and `a` with the key of an object. -/
  | object (around : Bool) (object : TextObject)
  /-- `G` without a count. -/
  | lastCharacter
  /-- `G` with a count. -/
  | line
  /-- `%` -/
  | matchingBracket
  /-- `{` -/
  | paragraphBackward
  /-- `}` -/
  | paragraphForward
  /-- The key of an operator, doubled. -/
  | wholeLines
deriving DecidableEq, Repr

namespace Motion

/-- Reads a motion after its count.  The key `lineKey` selects whole lines, unless it is the key of
another motion. -/
def parse (lineKey : Option Char) (buffer : KeyBuffer) : Except ParseError Motion := do
  let (key, rest) ← buffer.next
  match key with
  | '0' => .ok .lineStart
  | '$' =>
      buffer.refuseCount
      .ok .lineEnd
  | '^' => .ok .firstNonBlank
  | '-' => .ok .lineAbove
  | '+' => .ok .lineBelow
  | 'w' => .ok (.wordForward false)
  | 'W' => .ok (.wordForward true)
  | 'b' => .ok (.wordBackward false)
  | 'B' => .ok (.wordBackward true)
  | 'e' => .ok (.wordEnd false)
  | 'E' => .ok (.wordEnd true)
  | 'h' => .ok .left
  | 'l' => .ok .right
  | 'j' => .ok .down
  | 'k' => .ok .up
  | '(' => .ok .sentenceBackward
  | ')' => .ok .sentenceForward
  | 'f' | 't' =>
      let (target, _) ← rest.next
      .ok (.charSearch ⟨target, .forward, key == 't'⟩)
  | 'F' | 'T' =>
      let (target, _) ← rest.next
      .ok (.charSearch ⟨target, .backward, key == 'T'⟩)
  | ';' => .ok (.searchAgain false)
  | ',' => .ok (.searchAgain true)
  | 'i' | 'a' =>
      let (name, _) ← rest.next
      let object ← TextObject.ofKey name
      .ok (.object (key == 'a') object)
  | 'G' => .ok (if buffer.counted then .line else .lastCharacter)
  | '%' =>
      buffer.refuseCount
      .ok .matchingBracket
  | '\x7b' => .ok .paragraphBackward
  | '\x7d' => .ok .paragraphForward
  | _ => if some key = lineKey then .ok .wholeLines else .error (.invalidMotion .unknownMotion)

/-- The character search that is remembered once the motion was tried. -/
def remember (motion : Motion) (memory : Option CharSearch) : Option CharSearch :=
  match motion with
  | .charSearch search => some search
  | _ => memory

end Motion

end ModalVi
