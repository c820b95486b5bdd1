import ModalVi.Session.Run

namespace ModalVi.Session

/-! Carrying out commands in visual mode. -/

variable {library : Library}

def selected (session : Session library) : Cursor := session.cursor.clamped session.text.length

/-- Where motions start from.  A selection of whole lines is taken without the break it ends with, so
that motions start in its last line. -/
def visualBase (session : Session library) : Cursor :=
  let cursor := session.selected
  let endsInBreak :=
    session.mode.isVisualLine && cursor.low < cursor.high &&
      session.text[cursor.high - 1]? == some '\n'
  if endsInBreak then
    if cursor.isForward then { cursor with caret := cursor.high - 1 }
    else { cursor with anchor := cursor.high - 1 }
  else cursor

/-- The whole lines from one end of a selection to the other. -/
def wholeLines (text : Text) (cursor : Cursor) : Cursor :=
  Cursor.spanning (text.lineStart cursor.low) (text.nextLineStart cursor.high) cursor.direction

/-- Moves the caret's end of the selection. -/
def extend (motion : Motion) (count : Nat) (session : Session library) : Attempt library Unit :=
  let text := session.text
  let point : Standpoint := ⟨text, session.visualBase, true, false, library.isPunctuation⟩
  let result := point.resolve session.charSearch count motion
  let session := { session with charSearch := motion.remember session.charSearch }
  match result with
  | .error error => (.error (.parse error), session)
  | .ok cursor =>
      let cursor := if session.mode.isVisualLine then wholeLines text cursor else cursor
      (.ok (), { session with cursor }.showCursor)

def joinSelection (between : Text) (low high : Nat) (session : Session library) : Session library :=
  let (joined, place) := (session.text.slice low high).join between
  match session.replace low high joined false with
  | (true, session) => session.setCursor (low + place)
  | (false, session) => session.setCursor low

/-- Indents or unindents the selected lines and puts the caret on the first of them. -/
def shiftSelection (inward : Bool) (low high : Nat) (session : Session library) : Session library :=
  let start := session.text.lineStart low
  let session := session.put start high (session.shifted inward start high)
  session.setCursor (session.text.indentEnd start)

/-- Asks for a command line for the selection, which ends visual mode. -/
def visualExPrompt (session : Session library) : Attempt library Flow :=
  let (flow, session) := session.exPrompt (some session.selected)
  (flow, if session.mode.isVisual then session.toCommand else session)

/-- Carries out a command of visual mode. -/
def runVisual (command : VisualCommand) (count : Nat) (session : Session library) :
    Attempt library Flow :=
  let text := session.text
  let cursor := session.selected
  let low := cursor.low
  let high := cursor.high
  let ended (session : Session library) : Attempt library Flow := (.ok .done, session.toCommand)
  match command with
  | .selectCharacters => (.ok .done, { session with mode := .visual .characters })
  | .selectLines =>
      let (start, stop) := session.lineSpan cursor
      let cursor := Cursor.spanning start stop cursor.direction
      (.ok .done, { session with cursor, mode := .visual .lines }.showCursor)
  | .swapEnds => (.ok .done, { session with cursor := cursor.swapped }.showCursor)
  | .delete => ended (session.erase low high)
  | .change => (.ok .done, (session.erase low high).toInsert)
  | .yank =>
      match session.copy (text.slice low high) with
      | (.ok (), session) => ended (session.setCursor low)
      | (.error error, session) => (.error error, session)
  | .put =>
      match session.paste with
      | (.ok new, session) => ended ((session.put low high new).setCursor low)
      | (.error error, session) => (.error error, session)
  | .shift inward => ended (session.shiftSelection inward low high)
  | .join between => ended (session.joinSelection between low high)
  | .reflow =>
      let (start, stop) := session.lineSpan cursor
      ended (session.reflow start stop)
  | .swapCase => ended ((session.put low high (text.slice low high).swapCase).setCursor low)
  | .exPrompt => session.visualExPrompt
  | .extend motion =>
      match session.extend motion count with
      | (.ok (), session) => (.ok .done, session)
      | (.error error, session) => (.error error, session)

/-- Reads keys as a command of visual mode and carries it out. -/
def runVisualKeys (keys : List Char) (session : Session library) : Attempt library Flow :=
  match VisualCommand.parse keys with
  | .error error => (.error (.parse error), session)
  | .ok (count, command) => session.runVisual command count

end ModalVi.Session
