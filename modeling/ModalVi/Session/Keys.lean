import ModalVi.Session.Visual

namespace ModalVi.Session

/-! Handling keys.

In command mode and in visual mode every key is added to those before it, and all of them are read
again.  They are kept while more keys are needed, and dropped once a command was carried out or
cannot come of them. -/

variable {library : Library}

/-- The least and the greatest number of pixels to scroll by. -/
def scrollLimit : Int := 2147483648

/-- How many pixels a key scrolls down. -/
def scrollPixels (count : Nat) (amount : Scroll) (session : Session library) : Int :=
  let page := session.surface.height
  let lines :=
    max (-scrollLimit)
      (min (scrollLimit - 1) (min (count : Int) (scrollLimit - 1) * session.options.lineHeight))
  let toward (direction : Direction) (pixels : Int) : Int :=
    match direction with
    | .forward => pixels
    | .backward => -pixels
  match amount with
  | .halfPage direction => toward direction (page.tdiv 2)
  | .page direction => toward direction page
  | .lines direction => toward direction lines

/-- Reads keys that end in a control key and carries the command out. -/
def runControl (keys : List Char) (session : Session library) : Attempt library Flow :=
  match ControlCommand.parse (!session.mode.isVisual) keys with
  | .error error => (.error (.parse error), session)
  | .ok (count, .redo) => (.ok .done, { session with changed := false }.redo count)
  | .ok (count, .scroll amount) =>
      (.ok .done,
        { session with surface := session.surface.scrollBy (session.scrollPixels count amount) })

/-- Makes the last change once more: its command, and then the text typed after it. -/
def repeatOnce (last : LastChange) (session : Session library) : Attempt library Unit :=
  let (result, session) :=
    if last.keys.isEmpty then (.ok .done, session) else session.runKeys last.keys
  match result with
  | .error error => (.error error, session)
  | .ok _ =>
      let session :=
        if last.typed.isEmpty then session
        else
          let offset := session.cursor.caret
          (session.put offset offset last.typed).setCursor (offset + last.typed.length)
      (.ok (), { session with history := session.history.close, mode := .command })

/-- Makes the last change `count` times, or until it fails. -/
def repeatTimes (last : LastChange) : (count : Nat) → Session library → Attempt library Unit
  | 0, session => (.ok (), session)
  | count + 1, session =>
      match session.repeatOnce last with
      | (.ok (), session) => repeatTimes last count session
      | failed => failed

/-- Makes the last change `count` times.  It stays the last change. -/
def repeatLast (count : Nat) (session : Session library) : Attempt library Unit :=
  let last := session.last
  if last.isEmpty then (.ok (), session)
  else
    let (result, session) := session.repeatTimes last count
    (result, { session with last }.notice)

/-- Notes the caret after a command with the change it made. -/
def settled (session : Session library) : Session library :=
  { session with history := session.history.settle session.cursor.caret }

def dropKeys (session : Session library) : Session library := { session with keys := [] }

/-- Ends a command. -/
def finish (flow : Flow) (session : Session library) : Attempt library Outcome :=
  match flow with
  | .done => (.ok .handled, session.settled)
  | .report message => (.ok (.report message), session.settled)
  | .again count =>
      match session.repeatLast count with
      | (.ok (), session) => (.ok .handled, session.settled)
      | (.error error, session) => (.error error, session)

/-- Adds a character to the keys and carries out the command they make, if they make one. -/
def dispatch (c : Char) (control : Bool) (session : Session library) : Attempt library Outcome :=
  let keys := session.keys ++ [c]
  let session := { session with keys }
  let (result, session) :=
    if control then session.runControl keys
    else if session.mode.isVisual then session.runVisualKeys keys
    else session.runKeys keys
  match result with
  | .ok flow => session.dropKeys.finish flow
  | .error (.parse .incomplete) => (.ok .pending, session)
  | .error error => (.error error, session.dropKeys)

/-- Handles a key in insert mode, where only an escape and a tab matter. -/
def insertKey (key : Key) (session : Session library) : Outcome × Session library :=
  if key.isEscape then (.handled, session.enter)
  else if key = .tab ∧ session.tabArmed ∧ session.surface.multiline then
    (.handled, (session.insertText ['\t']).2)
  else (.passThrough, session)

def key (key : Key) (session : Session library) : Attempt library Outcome :=
  if session.mode = .insert then
    let (outcome, session) := session.insertKey key
    (.ok outcome, session)
  else if key.isEscape then (.ok .handled, session.dropKeys.toCommand)
  else
    match key with
    | .char c => session.dispatch c false
    | .ctrl c =>
        if c = 'h' then (.ok .handled, session)
        else if session.keys.all Char.isDigit then session.dispatch c true
        else (.error (.parse (.invalidCommand .controlInsideCommand)), session.dropKeys)
    | .tab =>
        if session.keys.isEmpty then (.ok .passThrough, session.release)
        else (.ok .pending, session)
    | .escape | .other => (.ok .handled, session)

/-- Handles a key as a host does that types what is passed through: a character goes into the text
while the mode is insert mode. -/
def typeKey (pressed : Key) (session : Session library) : Attempt library (Outcome × Option Bool) :=
  match session.key pressed with
  | (.error error, session) => (.error error, session)
  | (.ok outcome, session) =>
      match outcome, pressed with
      | .passThrough, .char c =>
          if session.mode = .insert then
            let (typed, session) := session.insertText [c]
            (.ok (outcome, some typed), session)
          else (.ok (outcome, none), session)
      | _, _ => (.ok (outcome, none), session)

end ModalVi.Session
