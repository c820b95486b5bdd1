import ModalVi.Script
import ModalVi.Unicode.Category

namespace ModalVi.CommandLine

/-! The command line: runs a key script on a file and shows the text, or writes it back. -/

/-- What the arguments ask for. -/
structure Invocation where
  path : String
  keys : Option String
  width : Option Nat
  debug : Bool
  write : Bool
deriving DecidableEq, Repr

/-- Why text is no number. -/
inductive NumberFault where
  | empty
  | badDigit
  | tooLarge
deriving DecidableEq, Repr

def NumberFault.message : NumberFault → String
  | .empty => "cannot parse integer from empty string"
  | .badDigit => "invalid digit found in string"
  | .tooLarge => "number too large to fit in target type"

/-- Reads decimal digits from the left.  The first thing that is wrong counts. -/
def readDigits : (value : Nat) → List Char → Except NumberFault Nat
  | value, [] => .ok value
  | value, c :: rest =>
      let next := 10 * value + (c.toNat - '0'.toNat)
      if !c.isDigit then .error .badDigit
      else if countLimit ≤ next then .error .tooLarge
      else readDigits next rest

/-- Reads a number, which may begin with a plus sign. -/
def readNumber (text : List Char) : Except NumberFault Nat :=
  match text with
  | [] => .error .empty
  | ['+'] => .error .badDigit
  | '+' :: rest => readDigits 0 rest
  | _ => readDigits 0 text

def hexadecimal (number : Nat) : List Char := Nat.toDigits 16 number

/-- Whether a character can be shown as it is between quotation marks. -/
def isShown (c : Char) : Bool :=
  match Unicode.generalCategory c with
  | ('C', _) | ('Z', 'l') | ('Z', 'p') => false
  | ('Z', 's') => c == ' '
  | ('M', kind) => kind == 'c'
  | _ => true

def quotedCharacter (c : Char) : List Char :=
  match c with
  | '\x00' => ['\\', '0']
  | '\t' => ['\\', 't']
  | '\r' => ['\\', 'r']
  | '\n' => ['\\', 'n']
  | '"' => ['\\', '"']
  | '\\' => ['\\', '\\']
  | _ =>
      if isShown c then [c]
      else ['\\', 'u', '\x7b'] ++ hexadecimal c.toNat ++ ['\x7d']

def quoted (text : String) : String :=
  String.ofList (['"'] ++ text.toList.flatMap quotedCharacter ++ ['"'])

/-- Why a file cannot be read or written. -/
inductive FileFault where
  | notFound
  | isDirectory
  | notDirectory
  | permissionDenied
  | invalidText
  | other (text : String)
deriving DecidableEq, Repr

def FileFault.message : FileFault → String
  | .notFound => "No such file or directory (os error 2)"
  | .isDirectory => "Is a directory (os error 21)"
  | .notDirectory => "Not a directory (os error 20)"
  | .permissionDenied => "Permission denied (os error 13)"
  | .invalidText => "stream did not contain valid UTF-8"
  | .other text => text

/-- Why nothing was run, or the result could not be written. -/
inductive Failure where
  | widthMissing
  | widthInvalid (text : String) (fault : NumberFault)
  | widthTooSmall
  | keysMissing
  | unknownOption (option : String)
  | secondFile
  | noFile
  | reading (path : String) (fault : FileFault)
  | readingKeys (fault : FileFault)
  | writing (path : String) (fault : FileFault)
deriving DecidableEq, Repr

def Failure.message : Failure → String
  | .widthMissing => "--width needs a value"
  | .widthInvalid text fault => "bad width " ++ quoted text ++ ": " ++ fault.message
  | .widthTooSmall => "width must be at least 2"
  | .keysMissing => "--keys needs a value"
  | .unknownOption option => "unknown option " ++ option
  | .secondFile => "only one file can be given"
  | .noFile =>
      "usage: vi-surface [--debug] [--width N] [--no-clipboard] [--write] FILE [--keys KEYS]"
  | .reading path fault => "reading " ++ path ++ ": " ++ fault.message
  | .readingKeys fault => "reading keys from stdin: " ++ fault.message
  | .writing path fault => "writing " ++ path ++ ": " ++ fault.message

/-- The value of the width option. -/
def readWidth (text : String) : Except Failure Nat :=
  match readNumber text.toList with
  | .error fault => .error (.widthInvalid text fault)
  | .ok width => if width < 2 then .error .widthTooSmall else .ok width

/-- Reads arguments; `path` is the file, once it was given.  A later option overrides an earlier
one. -/
def parseFrom : (path : Option String) → Invocation → List String → Except Failure Invocation
  | some path, invocation, [] => .ok { invocation with path }
  | none, _, [] => .error .noFile
  | path, invocation, argument :: rest =>
      if argument = "--debug" then parseFrom path { invocation with debug := true } rest
      else if argument = "--no-clipboard" then parseFrom path invocation rest
      else if argument = "--write" ∨ argument = "-w" then
        parseFrom path { invocation with write := true } rest
      else if argument = "--width" then
        match rest with
        | [] => .error .widthMissing
        | value :: rest =>
            match readWidth value with
            | .error failure => .error failure
            | .ok width => parseFrom path { invocation with width := some width } rest
      else if argument = "--keys" ∨ argument = "-k" then
        match rest with
        | [] => .error .keysMissing
        | value :: rest => parseFrom path { invocation with keys := some value } rest
      else if argument.toList.head? = some '-' then .error (.unknownOption argument)
      else if path.isSome then .error .secondFile
      else parseFrom (some argument) invocation rest

def parse (arguments : List String) : Except Failure Invocation :=
  parseFrom none ⟨"", none, none, false, false⟩ arguments

/-- The settings that the arguments ask for. -/
def Invocation.options (invocation : Invocation) : Options :=
  let options : Options := { debug := invocation.debug }
  match invocation.width with
  | some textWidth => { options with textWidth }
  | none => options

/-- What the program needs of the system it runs on. -/
structure Host (m : Type → Type) where
  load : String → m (Except FileFault ByteArray)
  input : m (Except FileFault ByteArray)
  save : String → String → m (Except FileFault Unit)
  /-- Shows text as the result. -/
  print : String → m Unit
  /-- Shows a line to the user. -/
  report : String → m Unit

/-- The text that bytes encode. -/
def decode (bytes : Except FileFault ByteArray) : Except FileFault String := do
  let bytes ← bytes
  match String.fromUTF8? bytes with
  | some text => .ok text
  | none => .error .invalidText

/-- The keys of a script read from input, without the line breaks at its end. -/
def inputKeys (input : String) : Text := (input.toList.reverse.dropWhile (· == '\n')).reverse

/-- The script that the arguments name. -/
def readScript {m : Type → Type} [Monad m] (host : Host m) (invocation : Invocation) :
    m (Except Failure Text) :=
  match invocation.keys with
  | some keys => pure (.ok keys.toList)
  | none => do
      match decode (← host.input) with
      | .ok input => pure (.ok (inputKeys input))
      | .error fault => pure (.error (.readingKeys fault))

def carryOut {m : Type → Type} [Monad m] (library : Library) (host : Host m)
    (invocation : Invocation) : m (Except Failure Unit) := do
  match decode (← host.load invocation.path) with
  | .error fault => pure (.error (.reading invocation.path fault))
  | .ok text =>
      match ← readScript host invocation with
      | .error failure => pure (.error failure)
      | .ok script =>
          let (lines, session) :=
            Script.run library text.toList invocation.options (Key.parse script)
          lines.forM host.report
          let result := String.ofList session.text
          if invocation.write then
            match ← host.save invocation.path result with
            | .ok () => pure (.ok ())
            | .error fault => pure (.error (.writing invocation.path fault))
          else
            host.print result
            pure (.ok ())

/-- Runs the program and gives its exit status. -/
def run {m : Type → Type} [Monad m] (library : Library) (host : Host m) (arguments : List String) :
    m UInt32 := do
  let result ←
    match parse arguments with
    | .error failure => pure (.error failure)
    | .ok invocation => carryOut library host invocation
  match result with
  | .ok () => pure 0
  | .error failure =>
      host.report (Script.programName ++ ": " ++ failure.message)
      pure 1

end ModalVi.CommandLine
