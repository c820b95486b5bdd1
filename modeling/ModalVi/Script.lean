import ModalVi.Session.Keys

namespace ModalVi

/-! Running a key script in a session whose prompts take their lines from the same script. -/

namespace Script

variable {library : Library}

/-- The name the program reports errors under. -/
def programName : String := "vi-surface"

def reportLines (key : Key) : Except EditError (Outcome × Option Bool) → List String
  | .ok (.report message, _) => [message]
  | .ok _ => []
  | .error error =>
      [programName ++ ": " ++ String.ofList key.spelling ++ ": " ++ error.message]

/-- A session that takes over a text at once, with the keys of a script to come. -/
def begin (library : Library) (text : Text) (options : Options) (keys : List Key) :
    Session library :=
  (Session.start library (Surface.ofText text) (Clipboard.ofText []) (.inline keys) options).enter

/-- Handles the coming keys of the script, as many as `fuel` allows, and gathers what to show.  A key
that fails does not stop the script. -/
def runFrom : (fuel : Nat) → Session library → List String × Session library
  | 0, session => ([], session)
  | fuel + 1, session =>
      match session.prompt with
      | .inline (key :: rest) =>
          let (result, session) := { session with prompt := .inline rest }.typeKey key
          let (lines, session) := runFrom fuel session
          (reportLines key result ++ lines, session)
      | _ => ([], session)

/-- Runs a script on a text: what to show, and the session at the end. -/
def run (library : Library) (text : Text) (options : Options) (keys : List Key) :
    List String × Session library :=
  runFrom keys.length (begin library text options keys)

end Script

end ModalVi
