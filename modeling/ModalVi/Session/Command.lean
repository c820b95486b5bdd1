import ModalVi.Mode
import ModalVi.Motion.Basic
import ModalVi.Prompt

namespace ModalVi

/-! Commands: what the keys typed in command mode and in visual mode ask for.

Reading a command looks at the keys alone.  Either more keys are needed, or no further key can help,
or the command is complete. -/

/-- A command of command mode, without its count. -/
inductive Command where
  /-- `i` -/
  | insert
  /-- `I` -/
  | insertAtIndent
  /-- `a` -/
  | append
  /-- `A` -/
  | appendAtLineEnd
  /-- `o` -/
  | openBelow
  /-- `O` -/
  | openAbove
  /-- `x`, and `s` if typing follows. -/
  | deleteAhead (inserting : Bool)
  /-- `X` -/
  | deleteBehind
  /-- `D`, and `C` if typing follows. -/
  | deleteToLineEnd (inserting : Bool)
  /-- `S` and `cc` -/
  | changeLines
  /-- `d` -/
  | delete (motion : Motion)
  /-- `c` -/
  | change (motion : Motion)
  /-- `y` -/
  | yank (motion : Motion)
  /-- `Y` -/
  | yankLines
  /-- `p`, and `P` before the caret. -/
  | put (after : Bool)
  /-- `>`, and `<` outward. -/
  | shift (inward : Bool) (motion : Motion)
  /-- `J`, and `gJ` with nothing in between. -/
  | join (between : Text)
  /-- `gq` -/
  | reflow (motion : Motion)
  /-- `~` -/
  | swapCase
  /-- `v` and `V` -/
  | visual (kind : VisualKind)
  /-- `*` and `#` -/
  | searchWord (direction : Direction)
  /-- `n`, and `N` against the direction of the search. -/
  | searchNext (reversed : Bool)
  /-- `/` and `?` -/
  | searchPrompt (kind : PromptKind)
  /-- `:` -/
  | exPrompt
  /-- `.` -/
  | repeatLast
  /-- `u` -/
  | undo
  /-- A motion of the caret. -/
  | move (motion : Motion)
deriving DecidableEq, Repr

/-- Reads the count and the motion after an operator. -/
def readOperand (lineKey : Option Char) (buffer : KeyBuffer) :
    Except ParseError (Nat × Motion) := do
  let buffer ← buffer.readMotionCount
  let motion ← Motion.parse lineKey buffer
  .ok (buffer.count, motion)

namespace Command

/-- Reads what follows `g`. -/
def parseG (buffer : KeyBuffer) : Except ParseError (Nat × Command) := do
  let (key, rest) ← buffer.next
  match key with
  | 'J' => .ok ((buffer.withDefault 2).count, .join [])
  | 'q' =>
      let (count, motion) ← readOperand (some 'q') rest
      .ok (count, .reflow motion)
  | _ => .error (.invalidCommand .unknownG)

/-- Reads what follows `c`.  The key doubled changes lines whatever stands after it. -/
def parseChange (buffer : KeyBuffer) : Except ParseError (Nat × Command) := do
  let buffer ← buffer.readMotionCount
  if buffer.peek = some 'c' then .ok (buffer.count, .changeLines)
  else
    let motion ← Motion.parse none buffer
    .ok (buffer.count, .change motion)

/-- Reads a command and its count. -/
def parse (keys : List Char) : Except ParseError (Nat × Command) := do
  let buffer ← (KeyBuffer.ofKeys keys).readCount
  let (key, rest) ← buffer.next
  let plain (command : Command) : Except ParseError (Nat × Command) := .ok (buffer.count, command)
  let operator (make : Motion → Command) : Except ParseError (Nat × Command) := do
    let (count, motion) ← readOperand (some key) rest
    .ok (count, make motion)
  match key with
  | 'i' => plain .insert
  | 'I' => plain .insertAtIndent
  | 'a' => plain .append
  | 'A' => plain .appendAtLineEnd
  | 'o' => plain .openBelow
  | 'O' => plain .openAbove
  | 'x' => plain (.deleteAhead false)
  | 's' => plain (.deleteAhead true)
  | 'X' => plain .deleteBehind
  | 'D' => plain (.deleteToLineEnd false)
  | 'C' => plain (.deleteToLineEnd true)
  | 'S' => plain .changeLines
  | 'd' => operator .delete
  | 'c' => parseChange rest
  | 'y' => operator .yank
  | 'Y' => plain .yankLines
  | 'p' => plain (.put true)
  | 'P' => plain (.put false)
  | '>' => operator (.shift true)
  | '<' => operator (.shift false)
  | 'J' => .ok ((buffer.withDefault 2).count, .join [' '])
  | 'g' => parseG rest
  | '~' => plain .swapCase
  | 'v' => plain (.visual .characters)
  | 'V' => plain (.visual .lines)
  | '*' => plain (.searchWord .forward)
  | '#' => plain (.searchWord .backward)
  | 'n' => plain (.searchNext false)
  | 'N' => plain (.searchNext true)
  | '/' => plain (.searchPrompt .searchForward)
  | '?' => plain (.searchPrompt .searchBackward)
  | ':' => plain .exPrompt
  | '.' => plain .repeatLast
  | 'u' => plain .undo
  | _ => do
      let motion ← Motion.parse none buffer
      .ok (buffer.count, .move motion)

end Command

/-- A command of visual mode, without its count. -/
inductive VisualCommand where
  /-- `v` -/
  | selectCharacters
  /-- `V` -/
  | selectLines
  /-- `o` -/
  | swapEnds
  /-- `d` -/
  | delete
  /-- `c` and `s` -/
  | change
  /-- `y` -/
  | yank
  /-- `p` -/
  | put
  /-- `>`, and `<` outward. -/
  | shift (inward : Bool)
  /-- `J`, and `gJ` with nothing in between. -/
  | join (between : Text)
  /-- `gq` -/
  | reflow
  /-- `~` -/
  | swapCase
  /-- `:` -/
  | exPrompt
  /-- A motion of the caret's end of the selection. -/
  | extend (motion : Motion)
deriving DecidableEq, Repr

namespace VisualCommand

/-- Reads a command and its count. -/
def parse (keys : List Char) : Except ParseError (Nat × VisualCommand) := do
  let buffer ← (KeyBuffer.ofKeys keys).readCount
  let (key, rest) ← buffer.next
  let plain (command : VisualCommand) : Except ParseError (Nat × VisualCommand) :=
    .ok (buffer.count, command)
  match key with
  | 'v' => plain .selectCharacters
  | 'V' => plain .selectLines
  | 'o' => plain .swapEnds
  | 'd' => plain .delete
  | 'c' | 's' => plain .change
  | 'y' => plain .yank
  | 'p' => plain .put
  | '>' => plain (.shift true)
  | '<' => plain (.shift false)
  | 'J' => plain (.join [' '])
  | '~' => plain .swapCase
  | 'g' =>
      let (key, _) ← rest.next
      match key with
      | 'J' => plain (.join [])
      | 'q' => plain .reflow
      | _ => .error (.invalidCommand .unknownG)
  | ':' => plain .exPrompt
  | _ =>
      let motion ← Motion.parse none buffer
      .ok (buffer.count, .extend motion)

end VisualCommand

/-- How far a control key scrolls. -/
inductive Scroll where
  /-- Half a page, `Ctrl-d` and `Ctrl-u`. -/
  | halfPage (direction : Direction)
  /-- A page, `Ctrl-f` and `Ctrl-b`. -/
  | page (direction : Direction)
  /-- As many lines as the count says, `Ctrl-e` and `Ctrl-y`. -/
  | lines (direction : Direction)
deriving DecidableEq, Repr

/-- What a control key asks for. -/
inductive ControlCommand where
  /-- `Ctrl-r` -/
  | redo
  | scroll (amount : Scroll)
deriving DecidableEq, Repr

namespace ControlCommand

/-- Reads a control key after its count.  Only command mode can redo. -/
def parse (redoing : Bool) (keys : List Char) : Except ParseError (Nat × ControlCommand) := do
  let buffer ← (KeyBuffer.ofKeys keys).readCount
  let (key, _) ← buffer.next
  let scroll (amount : Scroll) : Except ParseError (Nat × ControlCommand) :=
    .ok (buffer.count, .scroll amount)
  match key with
  | 'd' => scroll (.halfPage .forward)
  | 'u' => scroll (.halfPage .backward)
  | 'f' => scroll (.page .forward)
  | 'b' => scroll (.page .backward)
  | 'e' => scroll (.lines .forward)
  | 'y' => scroll (.lines .backward)
  | 'r' =>
      if redoing then .ok (buffer.count, .redo) else .error (.invalidCommand .unknownControl)
  | _ => .error (.invalidCommand .unknownControl)

end ControlCommand

end ModalVi
