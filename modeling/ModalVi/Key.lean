import ModalVi.Text.Basic

namespace ModalVi

/-! Keys and their notation.

A key script writes most keys as themselves and the others as names in angle brackets, such as
`<Esc>` or `<C-r>`.  An angle bracket that opens no known name stands for itself. -/

/-- A key as the host reports it. -/
inductive Key where
  | char (c : Char)
  | ctrl (c : Char)
  | escape
  | tab
  /-- A key without a meaning here, such as an arrow. -/
  | other
deriving DecidableEq, Repr, Inhabited

namespace Key

/-- Whether the key leaves a mode: escape, or a control chord that stands for it. -/
def isEscape : Key → Bool
  | .escape => true
  | .ctrl c => c == '[' || c == '{'
  | _ => false

def spelling : Key → Text
  | .char '<' => "<lt>".toList
  | .char '\n' => "<CR>".toList
  | .char c => [c]
  | .ctrl c => "<C-".toList ++ [c, '>']
  | .escape => "<Esc>".toList
  | .tab => "<Tab>".toList
  | .other => "<?>".toList

/-- The names in angle brackets, in lower case. -/
def names : List (Text × Key) :=
  [("esc".toList, .escape), ("tab".toList, .tab), ("cr".toList, .char '\n'),
    ("enter".toList, .char '\n'), ("return".toList, .char '\n'), ("lt".toList, .char '<'),
    ("space".toList, .char ' '), ("bs".toList, .other), ("del".toList, .other),
    ("up".toList, .other), ("down".toList, .other), ("left".toList, .other),
    ("right".toList, .other)]

/-- The key that a name in angle brackets stands for.  Case does not matter, except in the
character of a control chord. -/
def named (name : Text) : Option Key :=
  match names.lookup (name.map Char.toLower), name with
  | some key, _ => some key
  | none, [chord, '-', c] => if chord == 'c' || chord == 'C' then some (.ctrl c) else none
  | none, _ => none

/-- The key at the front of a script, and how many characters spell it after the first. -/
def front (first : Char) (rest : Text) : Key × Nat :=
  if first == '<' && rest.contains '>' then
    let name := rest.takeWhile (· != '>')
    match named name with
    | some key => (key, name.length + 1)
    | none => (.char first, 0)
  else (.char first, 0)

/-- The keys of a script after its first `skipped` characters. -/
def parseAfter : (skipped : Nat) → Text → List Key
  | _, [] => []
  | skipped + 1, _ :: rest => parseAfter skipped rest
  | 0, first :: rest =>
      let (key, length) := front first rest
      key :: parseAfter length rest

def parse (script : Text) : List Key := parseAfter 0 script

end Key

end ModalVi
