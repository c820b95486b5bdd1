import ModalVi.Ex.Replacement
import ModalVi.Library
import ModalVi.Regex.Parser
import ModalVi.Unicode.Punctuation

namespace ModalVi

/-! A library to run the editor with: the punctuation of Unicode, and the expressions of this project.

Expressions may be of any size and nested to any depth, and of the properties of characters they know
the general categories, the scripts and a few more. -/

namespace Regex

/-! ### All matches in a text -/

/-- The matches found by `find` from `offset` on, one after the other.  A match without characters
right after the last one is passed over for the next match that starts later. -/
def matchesFrom (find : Nat → Option Match) : (fuel offset : Nat) → (lastStop : Option Nat) →
    List Match
  | 0, _, _ => []
  | fuel + 1, offset, lastStop =>
      let found :=
        match find offset with
        | some found =>
            if found.isEmpty && lastStop == some found.stop then find (offset + 1) else some found
        | none => none
      match found with
      | some found => found :: matchesFrom find fuel found.stop (some found.stop)
      | none => []

/-- All matches of an expression in a text, without overlap.  Every one of them ends further on than
the one before, so there is at most one for each place. -/
def Pattern.allMatches (pattern : Pattern) (text : Text) : List Match :=
  matchesFrom (pattern.findAt text) (text.length + 1) 0 none

def replaceMatches (text : Text) (replacement : Match → Text) : (offset : Nat) → List Match → Text
  | offset, [] => text.drop offset
  | offset, found :: rest =>
      text.slice offset found.start ++ replacement found ++
        replaceMatches text replacement found.stop rest

/-- The text of a group in a match, or nothing if the group took no part in it. -/
def Match.groupText (text : Text) (found : Match) (index : Nat) : Option Text :=
  (found.group index).map fun (start, stop) => text.slice start stop

/-! ### Expressions -/

def Pattern.expression (pattern : Pattern) : Expression where
  find text offset := (pattern.findAt text offset).map fun found => (found.start, found.stop)
  isMatch text := (pattern.findAt text 0).isSome
  count text := (pattern.allMatches text).length
  replace limit template text :=
    let all := pattern.allMatches text
    let inserted (found : Match) : Text := Replacement.expand (found.groupText text) template
    replaceMatches text inserted 0 (if limit = 0 then all else all.take limit)

end Regex

def Library.standard : Library where
  isPunctuation := Unicode.isPunctuation
  escape := Regex.quote
  build ignoreCase source :=
    match Regex.parse ignoreCase source with
    | some pattern => .ok pattern.expression
    | none => .error "not a regular expression"

end ModalVi
