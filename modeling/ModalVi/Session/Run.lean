import ModalVi.Edit.Basic
import ModalVi.Edit.Reflow
import ModalVi.Motion.Resolve
import ModalVi.Session.Command
import ModalVi.Session.Prompted

namespace ModalVi.Session

/-! Carrying out commands in command mode. -/

variable {library : Library}

/-- Where a motion from the caret leads.  A character search is remembered even if it fails. -/
def target (change : Bool) (motion : Motion) (count : Nat) (session : Session library) :
    Attempt library Cursor :=
  let point : Standpoint :=
    { Standpoint.ofCaret library.isPunctuation session.text session.caret with change }
  let result := point.resolve session.charSearch count motion
  let session := { session with charSearch := motion.remember session.charSearch }
  match result with
  | .ok cursor => (.ok cursor, session)
  | .error error => (.error (.parse error), session)

/-- Goes on from where a motion leads. -/
def withTarget (change : Bool) (motion : Motion) (count : Nat)
    (act : Cursor → Session library → Attempt library Unit) (session : Session library) :
    Attempt library Unit :=
  match session.target change motion count with
  | (.ok cursor, session) => act cursor session
  | (.error error, session) => (.error error, session)

/-- Puts a text on the clipboard. -/
def copy (text : Text) (session : Session library) : Attempt library Unit :=
  let (result, clipboard) := session.clipboard.write text
  let session := { session with clipboard }
  match result with
  | .ok () => (.ok (), session)
  | .error error => (.error (.clipboard error), session)

/-- Takes the text from the clipboard. -/
def paste (session : Session library) : Attempt library Text :=
  let (result, clipboard) := session.clipboard.read
  let session := { session with clipboard }
  match result with
  | .ok text => (.ok text, session)
  | .error error => (.error (.clipboard error), session)

/-- Empties a span and puts the caret there. -/
def erase (low high : Nat) (session : Session library) : Session library :=
  (session.put low high []).setCursor low

/-- Empties `count` lines from the caret's on, down to the last break, and hands over for typing. -/
def changeLines (count : Nat) (session : Session library) : Session library :=
  let text := session.text
  let start := text.lineStart session.caret
  (session.erase start (text.nthLineEnd session.caret count)).toInsert

/-- Opens a line below the caret's and hands over for typing. -/
def openBelow (session : Session library) : Session library :=
  let reader := (Reader.forward session.text session.caret).toLineBreak
  let offset := (reader.advance 1).offset
  let opened := if reader.peek = some '\n' then offset else offset + 1
  ((session.put offset offset ['\n']).setCursor opened).toInsert

/-- Opens a line above the caret's and hands over for typing. -/
def openAbove (session : Session library) : Session library :=
  let offset := session.text.lineStart session.caret
  ((session.put offset offset ['\n']).setCursor offset).toInsert

/-- Indents or unindents the lines from `start` to `stop`. -/
def shifted (inward : Bool) (start stop : Nat) (session : Session library) : Text :=
  let lines := session.text.slice start stop
  let unit := session.options.indentUnit
  if inward then lines.indent unit else lines.unindent unit

/-- Indents or unindents the lines that a motion covers, and puts the caret on the first of them if
that changed anything. -/
def shift (inward whole : Bool) (cursor : Cursor) (session : Session library) : Session library :=
  let text := session.text
  let start := text.lineStart cursor.low
  let stop := if whole then cursor.high else text.nextLineStart cursor.high
  match session.replace start stop (session.shifted inward start stop) false with
  | (true, session) => session.setCursor (session.text.indentEnd start)
  | (false, session) => session

/-- Joins `count` lines, at least two, from the caret on. -/
def join (between : Text) (count : Nat) (session : Session library) : Session library :=
  let caret := session.caret
  let reader := (Reader.forward session.text caret).linesDown (max count 2 - 1)
  let stop := reader.pastLineBreak.offset
  let (joined, place) := (session.text.slice caret stop).join between
  match session.replace caret stop joined false with
  | (true, session) => session.setCursor (caret + place)
  | (false, session) => session

/-- Fills the paragraphs from `start` to `stop` again and puts the caret after them. -/
def reflow (start stop : Nat) (session : Session library) : Session library :=
  let filled :=
    (session.text.slice start stop).reflow session.options.textWidth session.options.linePrefixes
  (session.put start stop filled).setCursor (start + filled.length)

/-- The start of the first and the end of the last line that a selection touches. -/
def lineSpan (cursor : Cursor) (session : Session library) : Nat × Nat :=
  (session.text.lineStart cursor.low,
    session.text.nextLineStart (max (cursor.high - 1) cursor.low))

/-- Puts `text` into the text at the caret.  Whole lines go on lines of their own. -/
def putText (after : Bool) (text : Text) (session : Session library) : Session library :=
  let caret := session.caret
  if text.getLast? = some '\n' then
    if after then
      let reader := (Reader.forward session.text caret).toLineBreak
      let offset := (reader.advance 1).offset
      if reader.peek = some '\n' then (session.put offset offset text).setCursor offset
      else (session.put offset offset ('\n' :: text)).setCursor (offset + 1)
    else
      let offset := session.text.lineStart caret
      (session.put offset offset text).setCursor offset
  else
    let beside := after && (session.text[caret]?).any (· != '\n')
    let offset := if beside then caret + 1 else caret
    (session.put offset offset text).setCursor (offset + (text.length - 1))

/-- Puts the text of the clipboard into the text, `count` times over. -/
def putClipboard (after : Bool) (count : Nat) (session : Session library) : Attempt library Unit :=
  match session.paste with
  | (.error error, session) => (.error error, session)
  | (.ok [], session) => (.ok (), session)
  | (.ok text, session) => (.ok (), session.putText after (List.replicate count text).flatten)

/-- Swaps the case of `count` characters of the line and puts the caret after them. -/
def swapCase (count : Nat) (session : Session library) : Session library :=
  let caret := session.caret
  let stop := ((Reader.forward session.text caret).advanceInLine count).offset
  (session.put caret stop (session.text.slice caret stop).swapCase).setCursor stop

def beginVisual (kind : VisualKind) (session : Session library) : Session library :=
  let text := session.text
  let caret := session.caret
  let cursor :=
    match kind with
    | .characters => Cursor.collapsed caret
    | .lines => ⟨text.nextLineStart caret, text.lineStart caret⟩
  { session with cursor, mode := .visual kind }.showCursor

/-- Carries out a command that neither asks for a command line nor repeats the last change. -/
def act (command : Command) (count : Nat) (session : Session library) : Attempt library Unit :=
  let text := session.text
  let caret := session.caret
  let ahead := Reader.forward text caret
  let behind := Reader.backward text caret
  match command with
  | .insert => (.ok (), session.toInsert)
  | .insertAtIndent =>
      (.ok (), (session.setCursor (text.indentEnd (text.lineStart caret))).toInsert)
  | .append => (.ok (), (session.setCursor (ahead.advanceInLine 1).offset).toInsert)
  | .appendAtLineEnd => (.ok (), (session.setCursor ahead.toLineBreak.offset).toInsert)
  | .openBelow => (.ok (), session.openBelow)
  | .openAbove => (.ok (), session.openAbove)
  | .deleteAhead inserting =>
      let session := session.erase caret (ahead.advanceInLine count).offset
      (.ok (), if inserting then session.toInsert else session)
  | .deleteBehind => (.ok (), session.erase (behind.advanceInLine count).offset caret)
  | .deleteToLineEnd inserting =>
      let session := session.erase caret (text.nthLineEnd caret count)
      (.ok (), if inserting then session.toInsert else session)
  | .changeLines => (.ok (), session.changeLines count)
  | .delete motion =>
      session.withTarget false motion count fun cursor session =>
        (.ok (), session.erase cursor.low cursor.high)
  | .change motion =>
      session.withTarget true motion count fun cursor session =>
        (.ok (), (session.erase cursor.low cursor.high).toInsert)
  | .yank motion =>
      session.withTarget false motion count fun cursor session =>
        match session.copy (text.slice cursor.low cursor.high) with
        | (.ok (), session) => (.ok (), session.setCursor cursor.low)
        | failed => failed
  | .yankLines =>
      let stop := (ahead.steps Reader.pastLineBreak count).offset
      session.copy (text.slice (text.lineStart caret) stop)
  | .put after => session.putClipboard after count
  | .shift inward motion =>
      session.withTarget false motion count fun cursor session =>
        (.ok (), session.shift inward (motion == .wholeLines) cursor)
  | .join between => (.ok (), session.join between count)
  | .reflow motion =>
      session.withTarget false motion count fun cursor session =>
        let (start, stop) := session.lineSpan cursor
        (.ok (), session.reflow start stop)
  | .swapCase => (.ok (), session.swapCase count)
  | .visual kind => (.ok (), session.beginVisual kind)
  | .searchWord direction => session.searchWord direction count
  | .searchNext reversed => session.searchMove reversed count
  | .searchPrompt kind => session.searchPrompt kind
  | .undo => (.ok (), session.undo count)
  | .move motion =>
      session.withTarget false motion count fun cursor session =>
        (.ok (), session.setCursor cursor.caret)
  | .exPrompt | .repeatLast => (.ok (), session)

/-- Carries out a command.  One that changed the text becomes the change to repeat, with the keys it
was typed as. -/
def run (keys : List Char) (command : Command) (count : Nat) (session : Session library) :
    Attempt library Flow :=
  let session := { session with changed := false }
  match command with
  | .exPrompt => session.exPrompt none
  | .repeatLast => (.ok (.again count), session)
  | command =>
      match session.act command count with
      | (.error error, session) => (.error error, session)
      | (.ok (), session) =>
          (.ok .done,
            if session.changed then
              { session with last := session.last.recordCommand keys (session.mode == .insert) }
            else session)

/-- Reads keys as a command and carries it out. -/
def runKeys (keys : List Char) (session : Session library) : Attempt library Flow :=
  match Command.parse keys with
  | .error error => (.error (.parse error), session)
  | .ok (count, command) => session.run keys command count

end ModalVi.Session
