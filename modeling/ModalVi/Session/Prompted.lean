import ModalVi.Ex.Substitute
import ModalVi.Session.State

namespace ModalVi.Session

/-! Searching, and the commands that ask for a line. -/

variable {library : Library}

/-- The place reached by finding the pattern `count` times, each time from the last place.  Finding it
where the search began means that there is no other place to go to. -/
def findTimes (library : Library) (text : Text) (reversed : Bool) : (count offset : Nat) → Search →
    Except EditError Nat × Search
  | 0, offset, search => (.ok offset, search)
  | count + 1, offset, search =>
      match search.find library text offset reversed with
      | (.error error, search) => (.error error, search)
      | (.ok none, search) => (.error (.parse (.invalidMotion .patternNotFound)), search)
      | (.ok (some (start, _)), search) =>
          if start = offset then (.ok start, search)
          else findTimes library text reversed count start search

/-- Moves the caret to the `count`th next match. -/
def searchMove (reversed : Bool) (count : Nat) (session : Session library) : Attempt library Unit :=
  let (found, search) :=
    findTimes library session.text reversed count session.cursor.caret session.search
  let session := { session with search }
  match found with
  | .ok offset => (.ok (), session.setCursor offset)
  | .error error => (.error error, session)

/-- Searches for the word at the caret.  The search starts from the start of that word, so that a
backward search passes it. -/
def searchWord (direction : Direction) (count : Nat) (session : Session library) :
    Attempt library Unit :=
  let text := session.text
  let (low, high) := text.wordAround library.isPunctuation session.caret
  if low = high then (.error (.parse (.invalidCommand .noWord)), session)
  else
    let search := session.search.set (.wholeWord library (text.slice low high)) direction
    { session with search, cursor := Cursor.collapsed low }.searchMove false count

/-- Asks the host for a line and remembers it. -/
def ask (kind : PromptKind) (session : Session library) : Option Text × Session library :=
  let (line, prompt) := session.prompt.ask kind (session.prompts.list kind)
  let session := { session with prompt }
  match line with
  | some line => (some line, { session with prompts := session.prompts.push kind line })
  | none => (none, session)

def promptDirection : PromptKind → Direction
  | .searchBackward => .backward
  | _ => .forward

/-- Asks for a pattern and searches for it.  An empty line searches for the pattern before in the
direction of this prompt. -/
def searchPrompt (kind : PromptKind) (session : Session library) : Attempt library Unit :=
  let direction := promptDirection kind
  match session.ask kind with
  | (none, session) => (.ok (), session)
  | (some [], session) =>
      if session.search.hasPattern then
        { session with search := session.search.setDirection direction }.searchMove false 1
      else (.error (.parse (.invalidCommand .noPreviousSearch)), session)
  | (some line, session) =>
      { session with search := session.search.set (.entered line) direction }.searchMove false 1

/-- The first and the last line of a range.  `selection` is what was selected when the line was asked
for; a selection that ends after a line break ends with that break's line. -/
def linesOf (range : LineRange) (selection : Option Cursor) (session : Session library) :
    Nat × Nat :=
  let text := session.text
  let current := text.lineOf session.cursor.caret
  match range with
  | .current => (current, current)
  | .all => (0, text.lineCount - 1)
  | .lines first last => (min first last, max first last)
  | .visual =>
      match selection with
      | none => (current, current)
      | some cursor =>
          let first := text.lineOf cursor.low
          let last := text.lineOf cursor.high
          let afterBreak := first < last && text[cursor.high - 1]? == some '\n'
          (first, if afterBreak then last - 1 else last)

def substitutionOf (command : ExCommand) (session : Session library) :
    Except EditError Substitution :=
  match command with
  | .substitute _ substitution => .ok substitution
  | .substituteAgain _ =>
      match session.lastSubstitution with
      | some substitution => .ok substitution
      | none => .error (.substitute .noPrevious)

/-- Carries out an entered line. -/
def runEx (line : Text) (selection : Option Cursor) (session : Session library) :
    Attempt library Flow :=
  match ExCommand.parse line with
  | .error error => (.error (.parse error), session)
  | .ok command =>
      match session.substitutionOf command with
      | .error error => (.error error, session)
      | .ok substitution =>
          let (first, last) := session.linesOf command.range selection
          match substitution.execute library first last session.text with
          | .error fault => (.error (.searchPattern fault), session)
          | .ok result =>
              let session := { session with lastSubstitution := some substitution }
              if result.count = 0 then
                (.error (.substitute (.patternNotFound substitution.pattern)), session)
              else if substitution.flags.countOnly then
                (.ok (.report s!"{result.count} matches"), session)
              else
                let session := session.put result.start result.stop result.text
                let session :=
                  match result.lastLine with
                  | some offset => session.setCursor offset
                  | none => session
                (.ok (.report s!"{result.count} substitutions"), session)

/-- Asks for a command line and carries it out. -/
def exPrompt (selection : Option Cursor) (session : Session library) : Attempt library Flow :=
  match session.ask .ex with
  | (none, session) => (.ok .done, session)
  | (some line, session) => session.runEx line selection

end ModalVi.Session
