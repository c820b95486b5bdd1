import ModalVi.Surface

namespace ModalVi

/-! Undo and redo.

Every edit is remembered as the span it replaced, the text that was there and the text that came.
Undoing writes the old text over the new, redoing the new over the old, and any new edit makes what
was undone unreachable.  While the merge window is open, an insertion right after the newest edit's
new text is added to that edit, so that a burst of typing is undone at once. -/

/-- One edit, and the caret before and after it where they are known. -/
structure Change where
  start : Nat
  stop : Nat
  old : Text
  new : Text
  caretBefore : Option Nat
  caretAfter : Option Nat
deriving DecidableEq, Repr

namespace Change

def commonLength : List Char → List Char → Nat
  | a :: rest, b :: others => if a == b then commonLength rest others + 1 else 0
  | _, _ => 0

/-- The smallest single edit that turns `old` into `new`: what lies between their common beginning
and their common end.  There is none if they are equal. -/
def between? (old new : Text) : Option Change :=
  let start := commonLength old new
  let oldRest := old.drop start
  let newRest := new.drop start
  if oldRest.isEmpty && newRest.isEmpty then none
  else
    let kept := commonLength oldRest.reverse newRest.reverse
    some
      { start
        stop := old.length - kept
        old := oldRest.take (oldRest.length - kept)
        new := newRest.take (newRest.length - kept)
        caretBefore := none
        caretAfter := none }

/-- The caret to show once the change is undone: where it was before, or after the old text. -/
def undoCaret (change : Change) : Nat := change.caretBefore.getD (change.start + change.old.length)

/-- The caret to show once the change is made again: where it was after, or after the new text. -/
def redoCaret (change : Change) : Nat := change.caretAfter.getD (change.start + change.new.length)

end Change

/-- The changes that can be undone and redone, newest first, and whether the merge window is
open. -/
structure History where
  undoable : List Change
  redoable : List Change
  merging : Bool
deriving DecidableEq, Repr, Inhabited

namespace History

/-- A history without changes. -/
def empty : History := ⟨[], [], false⟩

def joins (history : History) (start stop : Nat) (merging : Bool) (top : Change) : Bool :=
  history.merging && merging && history.redoable.isEmpty && start == stop &&
    top.start + top.new.length == start

/-- Remembers that the span from `start` to `stop`, which held `old`, was replaced by `new` while the
caret was at `caret`.  The merge window is open afterwards if `merging` is set.  The first component
tells whether the edit joined the newest change. -/
def record (start stop : Nat) (old new : Text) (caret : Nat) (merging : Bool)
    (history : History) : Bool × History :=
  let fresh : Change := ⟨start, stop, old, new, some caret, none⟩
  match history.undoable with
  | [] => (false, ⟨[fresh], [], merging⟩)
  | top :: rest =>
      if history.joins start stop merging top then
        let grown :=
          { top with new := top.new ++ new, caretAfter := some (start + new.length) }
        (true, ⟨grown :: rest, [], merging⟩)
      else (false, ⟨fresh :: top :: rest, [], merging⟩)

/-- Remembers a change that the host made on its own, and closes the merge window. -/
def push (change : Change) (history : History) : History :=
  ⟨change :: history.undoable, [], false⟩

/-- Notes the caret after the newest change, unless it is known. -/
def settle (caret : Nat) (history : History) : History :=
  match history.undoable with
  | [] => history
  | top :: rest =>
      if top.caretAfter.isNone then
        { history with undoable := { top with caretAfter := some caret } :: rest }
      else history

def close (history : History) : History := { history with merging := false }

/-- Undoes the newest change on `surface`.  The first component is the caret to show, or nothing if
there is no change or the host refuses. -/
def undo (history : History) (surface : Surface) : Option Nat × History × Surface :=
  match history.undoable with
  | [] => (none, history.close, surface)
  | change :: rest =>
      match surface.edit change.start (change.start + change.new.length) change.old with
      | (true, surface) =>
          (some change.undoCaret, ⟨rest, change :: history.redoable, false⟩, surface)
      | (false, surface) => (none, history.close, surface)

/-- Makes the change undone last again. -/
def redo (history : History) (surface : Surface) : Option Nat × History × Surface :=
  match history.redoable with
  | [] => (none, history.close, surface)
  | change :: rest =>
      match surface.edit change.start (change.start + change.old.length) change.new with
      | (true, surface) =>
          (some change.redoCaret, ⟨change :: history.undoable, rest, false⟩, surface)
      | (false, surface) => (none, history.close, surface)

/-- The changes made since there were `mark` of them, oldest first. -/
def since (mark : Nat) (history : History) : List Change := history.undoable.reverse.drop mark

end History

end ModalVi
