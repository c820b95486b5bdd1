import ModalVi.Clipboard
import ModalVi.Ex.Command
import ModalVi.History
import ModalVi.LastChange
import ModalVi.Mode
import ModalVi.Motion.CharSearch
import ModalVi.Prompt
import ModalVi.Search
import ModalVi.Surface

namespace ModalVi

/-! The state of an editing session over one text field, and the steps that cannot fail. -/

/-- What a host can set. -/
structure Options where
  /-- Filled lines are shorter than this. -/
  textWidth : Nat := 78
  /-- The markers repeated before the lines of a filled paragraph. -/
  linePrefixes : List Text := [['#'], ['>'], ['/', '/']]
  /-- Pixels in a line, for scrolling by lines. -/
  lineHeight : Int := 20
  /-- One level of indentation. -/
  indentUnit : Text := ['\t']
  /-- Whether to log every key. -/
  debug : Bool := false
deriving DecidableEq, Repr, Inhabited

/-- A session with the library that it was built with. -/
structure Session (library : Library) where
  surface : Surface
  clipboard : Clipboard
  prompt : Prompt
  options : Options
  mode : Mode
  cursor : Cursor
  /-- The keys of the command being typed. -/
  keys : List Char
  history : History
  last : LastChange
  search : Search
  charSearch : Option CharSearch
  prompts : PromptHistory
  lastSubstitution : Option Substitution
  /-- The text after the last edit that the session made or saw. -/
  known : Text
  /-- Whether the command being carried out has changed the text. -/
  changed : Bool
  /-- Whether Tab types a tab in insert mode instead of leaving the field. -/
  tabArmed : Bool

/-- What became of a key. -/
inductive Outcome where
  /-- It was used. -/
  | handled
  /-- More keys are needed. -/
  | pending
  /-- The host should do with it what it does on its own. -/
  | passThrough
  /-- It was used, and the user should see a message. -/
  | report (message : String)
deriving DecidableEq, Repr

/-- How a command ended. -/
inductive Flow where
  | done
  /-- The last change is to be repeated. -/
  | again (count : Nat)
  | report (message : String)
deriving DecidableEq, Repr

/-- An answer, or why there is none, with the session that is left behind either way. -/
abbrev Attempt (library : Library) (α : Type) := Except EditError α × Session library

namespace Session

variable {library : Library}

/-- A session that begins in insert mode. -/
def start (library : Library) (surface : Surface) (clipboard : Clipboard) (prompt : Prompt)
    (options : Options) : Session library where
  surface
  clipboard
  prompt
  options
  mode := .insert
  cursor := surface.selection.toCursor
  keys := []
  history := .empty
  last := .empty
  search := .empty
  charSearch := none
  prompts := .empty
  lastSubstitution := none
  known := surface.text
  changed := false
  tabArmed := false

def text (session : Session library) : Text := session.surface.text

def caret (session : Session library) : Nat := min session.cursor.caret session.text.length

/-! ### Text and caret -/

/-- Puts the caret at `offset` and drops the selection. -/
def setCursor (offset : Nat) (session : Session library) : Session library :=
  let offset := min offset session.text.length
  { session with
    cursor := Cursor.collapsed offset
    surface := session.surface.select (Selection.caret offset) }

def showCursor (session : Session library) : Session library :=
  { session with surface := session.surface.select (Selection.ofCursor session.cursor) }

/-- Replaces a span of the text, and remembers that.  The first component is false if nothing
changed: the text was there already, or the host refused. -/
def replace (low high : Nat) (new : Text) (merging : Bool) (session : Session library) :
    Bool × Session library :=
  let high := min high session.text.length
  let low := min low high
  let old := session.text.slice low high
  if old = new then (false, session)
  else
    match session.surface.edit low high new with
    | (false, surface) => (false, { session with surface })
    | (true, surface) =>
        let (_, history) :=
          session.history.record low high old new session.cursor.caret merging
        (true, { session with surface, history, known := surface.text, changed := true })

/-- Replaces a span of the text whether or not that succeeds. -/
def put (low high : Nat) (new : Text) (session : Session library) : Session library :=
  (session.replace low high new false).2

def undoTimes : (count : Nat) → Session library → Session library
  | 0, session => session
  | count + 1, session =>
      let (caret, history, surface) := session.history.undo session.surface
      let session := { session with history, surface }
      match caret with
      | some caret => undoTimes count (session.setCursor caret)
      | none => session

/-- Makes up to `count` undone changes again. -/
def redoTimes : (count : Nat) → Session library → Session library
  | 0, session => session
  | count + 1, session =>
      let (caret, history, surface) := session.history.redo session.surface
      let session := { session with history, surface }
      match caret with
      | some caret => redoTimes count (session.setCursor caret)
      | none => session

def notice (session : Session library) : Session library := { session with known := session.text }

/-- Undoes up to `count` changes and takes the text for known. -/
def undo (count : Nat) (session : Session library) :
    Session library := (session.undoTimes count).notice

/-- Makes up to `count` undone changes again and takes the text for known. -/
def redo (count : Nat) (session : Session library) :
    Session library := (session.redoTimes count).notice

/-! ### Modes -/

/-- Hands the text to the host for typing. -/
def toInsert (session : Session library) : Session library :=
  let history := session.history.close
  { session.notice with
    history
    last := session.last.beginTyping history.undoable.length
    mode := .insert }

/-- Back to commands, with the selection dropped at the caret. -/
def toCommand (session : Session library) : Session library :=
  { session with mode := .command }.setCursor session.cursor.caret

/-- Remembers what the host did to the text as one change. -/
def reconcile (session : Session library) : Session library :=
  match Change.between? session.known session.text with
  | some change => { session.notice with history := session.history.push change }
  | none => session.notice

/-- Takes over from the host: its edits, its selection, and what it typed for the last command. -/
def enter (session : Session library) : Session library :=
  let mark := session.last.mark.getD session.history.undoable.length
  let session := session.reconcile
  let typed := (session.history.since mark).flatMap (·.new)
  let cursor := session.surface.selection.toCursor
  { session with
    last := session.last.finishTyping typed
    cursor
    history := session.history.settle cursor.caret
    keys := []
    tabArmed := true
    mode := if cursor.isEmpty then .command else .visual .characters }

/-- Gives control back to the host. -/
def release (session : Session library) : Session library :=
  { session.notice with keys := [], history := session.history.close, mode := .insert }

/-- The field lost focus: gives control back, and lets Tab leave the field again. -/
def blur (session : Session library) : Session library := { session.release with tabArmed := false }

/-- Takes the selection over after the mouse was used.  Outside insert mode, an empty selection leads
to commands and a new one to visual mode. -/
def mouseSelection (session : Session library) : Session library :=
  if !session.mode.isEngineOwned then session
  else
    let cursor := session.surface.selection.toCursor
    let session := { session with keys := [] }
    if cursor.isEmpty then { session with cursor, mode := .command }
    else if cursor ≠ session.cursor then { session with cursor, mode := .visual .characters }
    else session

/-- Types `new` over the selection of the field.  Typing without a pause is one change.  The first
component is false if there was nothing to type or the host refused. -/
def insertText (new : Text) (session : Session library) : Bool × Session library :=
  if new.isEmpty then (false, session)
  else
    let session := session.reconcile
    let selection := session.surface.selection
    let session := { session with cursor := Cursor.collapsed selection.start }
    match session.replace selection.start selection.stop new true with
    | (false, session) => (false, session)
    | (true, session) =>
        let session := session.setCursor (selection.start + new.length)
        (true, { session with history := session.history.settle session.cursor.caret })

/-- Turns the logging of keys on or off. -/
def setDebug (debug : Bool) (session : Session library) : Session library :=
  { session with options := { session.options with debug } }

end Session

end ModalVi
