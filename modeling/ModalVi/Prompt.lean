import ModalVi.Key

namespace ModalVi

/-! Prompts for one line of input, and the lines entered before. -/

/-- What a line is asked for. -/
inductive PromptKind where
  | searchForward
  | searchBackward
  | ex
deriving DecidableEq, Repr

namespace PromptKind

/-- The character shown before the input. -/
def sign : PromptKind → Char
  | .searchForward => '/'
  | .searchBackward => '?'
  | .ex => ':'

/-- Whether a search pattern is asked for. -/
def isSearch : PromptKind → Bool
  | .ex => false
  | _ => true

end PromptKind

/-- The lines entered so far, oldest first.  Both search prompts share one list. -/
structure PromptHistory where
  search : List Text
  ex : List Text
deriving DecidableEq, Repr, Inhabited

namespace PromptHistory

/-- No lines. -/
def empty : PromptHistory := ⟨[], []⟩

def list (kind : PromptKind) (history : PromptHistory) : List Text :=
  if kind.isSearch then history.search else history.ex

/-- A list with a line added, unless the line is empty or the newest one again. -/
def added (line : Text) (list : List Text) : List Text :=
  if line.isEmpty || list.getLast? == some line then list else list ++ [line]

/-- Remembers an entered line. -/
def push (kind : PromptKind) (line : Text) (history : PromptHistory) : PromptHistory :=
  if kind.isSearch then { history with search := added line history.search }
  else { history with ex := added line history.ex }

end PromptHistory

/-- How the host answers prompts. -/
inductive Prompt where
  /-- Every prompt is cancelled. -/
  | silent
  /-- The next answer of a queue, where nothing stands for a cancellation; what was asked is kept
  with the lines shown, newest first.  An empty queue cancels. -/
  | scripted (answers : List (Option Text)) (asked : List (PromptKind × List Text))
  /-- The coming keys of a script. -/
  | inline (keys : List Key)
deriving DecidableEq, Repr

namespace Prompt

/-- The line that a prompt takes from a script, and the keys after it.  The line goes up to a line
break or the end of the script, an escape cancels it, and keys that type nothing are dropped. -/
def lineOfKeys : (line : Text) → List Key → Option Text × List Key
  | line, [] => (some line, [])
  | line, key :: rest =>
      match key with
      | .char '\n' => (some line, rest)
      | .char c => lineOfKeys (line ++ [c]) rest
      | .tab => lineOfKeys (line ++ ['\t']) rest
      | .ctrl _ | .escape | .other =>
          if key.isEscape then (none, rest) else lineOfKeys line rest

/-- Asks for a line while showing the lines entered before. -/
def ask (kind : PromptKind) (shown : List Text) : Prompt → Option Text × Prompt
  | .silent => (none, .silent)
  | .scripted answers asked =>
      (answers.head?.join, .scripted answers.tail ((kind, shown) :: asked))
  | .inline keys =>
      let (line, rest) := lineOfKeys [] keys
      (line, .inline rest)

end Prompt

end ModalVi
