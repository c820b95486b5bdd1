import ModalVi.Text.Basic

namespace ModalVi.Replacement

/-! What a substitution puts in place of a match.

It is written with `&` for the match and `\1` for a group, turned into a template with `$` signs, and
expanded for every match. -/

/-- The template that inserts a group. -/
def reference (digit : Char) : Text := ['$', '\x7b', digit, '\x7d']

/-- The template that inserts a character. -/
def verbatim (c : Char) : Text := if c == '$' then ['$', '$'] else [c]

/-- The character that a backslash before `c` stands for. -/
def escaped (c : Char) : Char :=
  match c with
  | 'n' => '\n'
  | 't' => '\t'
  | _ => c

/-- The template of a replacement. -/
def translate : Text → Text
  | [] => []
  | ['\\'] => ['\\']
  | '\\' :: c :: rest =>
      (if c.isDigit then reference c else verbatim (escaped c)) ++ translate rest
  | c :: rest => (if c == '&' then reference '0' else verbatim c) ++ translate rest

def groupNumber? (name : Text) : Option Nat :=
  if name.isEmpty || !name.all Char.isDigit then none
  else some (name.foldl (fun value digit => 10 * value + (digit.toNat - '0'.toNat)) 0)

/-- Expands a template after its first `skipped` characters.  Two dollar signs are one, a number in
braces after a dollar sign inserts that group, or nothing if there is no such text, and everything
else stands for itself. -/
def expandAfter (group : Nat → Option Text) : (skipped : Nat) → Text → Text
  | _, [] => []
  | skipped + 1, _ :: rest => expandAfter group skipped rest
  | 0, c :: rest =>
      if c != '$' then c :: expandAfter group 0 rest
      else
        match rest with
        | '$' :: _ => '$' :: expandAfter group 1 rest
        | '\x7b' :: inside =>
            let name := inside.takeWhile (· != '\x7d')
            if name.length < inside.length then
              (((groupNumber? name).bind group).getD []) ++
                expandAfter group (name.length + 2) rest
            else c :: expandAfter group 0 rest
        | _ => c :: expandAfter group 0 rest

def expand (group : Nat → Option Text) (template : Text) : Text := expandAfter group 0 template

end ModalVi.Replacement
