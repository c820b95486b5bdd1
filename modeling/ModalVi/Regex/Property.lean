import ModalVi.Unicode.Basic
import ModalVi.Unicode.Casing
import ModalVi.Unicode.Category
import ModalVi.Unicode.Script

namespace ModalVi.Regex

/-! Properties of characters that expressions ask for by name. -/

inductive Property where
  | any
  | ascii
  | assigned
  /-- A general category by its first letter, or by both. -/
  | category (major : Char) (minor : Option Char)
  /-- An uppercase, lowercase or titlecase letter. -/
  | casedLetter
  /-- A script by its place among the names, counted from one. -/
  | script (place : Nat)
  | alphabetic
  | uppercase
  | lowercase
  | whitespace
deriving DecidableEq, Repr

namespace Property

def holds (c : Char) : Property → Bool
  | .any => true
  | .ascii => c.toNat < 0x80
  | .assigned => Unicode.generalCategory c != ('C', 'n')
  | .category major minor =>
      let (first, second) := Unicode.generalCategory c
      first == major && minor.all (· == second)
  | .casedLetter =>
      let (first, second) := Unicode.generalCategory c
      first == 'L' && (second == 'u' || second == 'l' || second == 't')
  | .script place => Unicode.scriptOf c == place
  | .alphabetic => Unicode.isAlphabetic c
  | .uppercase => Unicode.isUppercase c
  | .lowercase => Unicode.isLowercase c
  | .whitespace => Unicode.isWhitespace c

/-- A name without the differences that do not count: case, spaces, hyphens, underscores, and `is`
in front. -/
def normalized (name : List Char) : List Char :=
  let lower := name.map Char.toLower
  let bare := if ['i', 's'].isPrefixOf lower then lower.drop 2 else lower
  let short := bare.filter fun c => c != ' ' && c != '-' && c != '_' && c.toNat < 0x80
  if ['i', 's'].isPrefixOf lower && short == ['c'] then "isc".toList else short

/-- The properties that are not values of another one. -/
def binaryNames : List (String × Property) :=
  [("alphabetic", .alphabetic), ("alpha", .alphabetic), ("uppercase", .uppercase),
    ("upper", .uppercase), ("lowercase", .lowercase), ("lower", .lowercase),
    ("whitespace", .whitespace), ("wspace", .whitespace), ("space", .whitespace)]

def categoryNames : List (String × Property) :=
  [("any", .any), ("ascii", .ascii), ("assigned", .assigned), ("lc", .casedLetter),
    ("casedletter", .casedLetter),
    ("l", .category 'L' none), ("letter", .category 'L' none),
    ("lu", .category 'L' 'u'), ("uppercaseletter", .category 'L' 'u'),
    ("ll", .category 'L' 'l'), ("lowercaseletter", .category 'L' 'l'),
    ("lt", .category 'L' 't'), ("titlecaseletter", .category 'L' 't'),
    ("lm", .category 'L' 'm'), ("modifierletter", .category 'L' 'm'),
    ("lo", .category 'L' 'o'), ("otherletter", .category 'L' 'o'),
    ("m", .category 'M' none), ("mark", .category 'M' none),
    ("combiningmark", .category 'M' none),
    ("mn", .category 'M' 'n'), ("nonspacingmark", .category 'M' 'n'),
    ("mc", .category 'M' 'c'), ("spacingmark", .category 'M' 'c'),
    ("me", .category 'M' 'e'), ("enclosingmark", .category 'M' 'e'),
    ("n", .category 'N' none), ("number", .category 'N' none),
    ("nd", .category 'N' 'd'), ("decimalnumber", .category 'N' 'd'),
    ("digit", .category 'N' 'd'),
    ("nl", .category 'N' 'l'), ("letternumber", .category 'N' 'l'),
    ("no", .category 'N' 'o'), ("othernumber", .category 'N' 'o'),
    ("p", .category 'P' none), ("punctuation", .category 'P' none),
    ("punct", .category 'P' none),
    ("pc", .category 'P' 'c'), ("connectorpunctuation", .category 'P' 'c'),
    ("pd", .category 'P' 'd'), ("dashpunctuation", .category 'P' 'd'),
    ("ps", .category 'P' 's'), ("openpunctuation", .category 'P' 's'),
    ("pe", .category 'P' 'e'), ("closepunctuation", .category 'P' 'e'),
    ("pi", .category 'P' 'i'), ("initialpunctuation", .category 'P' 'i'),
    ("pf", .category 'P' 'f'), ("finalpunctuation", .category 'P' 'f'),
    ("po", .category 'P' 'o'), ("otherpunctuation", .category 'P' 'o'),
    ("s", .category 'S' none), ("symbol", .category 'S' none),
    ("sm", .category 'S' 'm'), ("mathsymbol", .category 'S' 'm'),
    ("sc", .category 'S' 'c'), ("currencysymbol", .category 'S' 'c'),
    ("sk", .category 'S' 'k'), ("modifiersymbol", .category 'S' 'k'),
    ("so", .category 'S' 'o'), ("othersymbol", .category 'S' 'o'),
    ("z", .category 'Z' none), ("separator", .category 'Z' none),
    ("zs", .category 'Z' 's'), ("spaceseparator", .category 'Z' 's'),
    ("zl", .category 'Z' 'l'), ("lineseparator", .category 'Z' 'l'),
    ("zp", .category 'Z' 'p'), ("paragraphseparator", .category 'Z' 'p'),
    ("c", .category 'C' none), ("other", .category 'C' none),
    ("cc", .category 'C' 'c'), ("control", .category 'C' 'c'), ("cntrl", .category 'C' 'c'),
    ("cf", .category 'C' 'f'), ("format", .category 'C' 'f'),
    ("co", .category 'C' 'o'), ("privateuse", .category 'C' 'o'),
    ("cs", .category 'C' 's'), ("surrogate", .category 'C' 's'),
    ("cn", .category 'C' 'n'), ("unassigned", .category 'C' 'n')]

def scriptNamed (name : List Char) : Option Property :=
  (Unicode.scriptNames.findIdx? fun names =>
    names.any fun other => normalized other.toList == name).map fun place => .script (place + 1)

def categoryNamed (name : List Char) : Option Property :=
  categoryNames.lookup (String.ofList name)

/-- The property that a lone name names: one without values, a general category, or a script. -/
def named (name : List Char) : Option Property :=
  let name := normalized name
  ((binaryNames.lookup (String.ofList name)).or (categoryNamed name)).or (scriptNamed name)

def valued (name value : List Char) : Option Property :=
  match String.ofList (normalized name) with
  | "generalcategory" | "gc" => categoryNamed (normalized value)
  | "script" | "sc" => scriptNamed (normalized value)
  | _ => none

end Property

end ModalVi.Regex
