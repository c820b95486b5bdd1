namespace ModalVi

/-! What can go wrong, by cause, and the words for it.

A key buffer fails to parse in one of two ways: it needs more keys (`incomplete`), or no further key
can turn it into a command.  The session waits in the first case and drops the buffer in the
second. -/

instance decidableEqExcept {ε α : Type} [DecidableEq ε] [DecidableEq α] :
    DecidableEq (Except ε α)
  | .ok value, .ok other => decidable_of_iff (value = other) ⟨congrArg _, Except.ok.inj⟩
  | .error fault, .error other => decidable_of_iff (fault = other) ⟨congrArg _, Except.error.inj⟩
  | .ok _, .error _ => isFalse nofun
  | .error _, .ok _ => isFalse nofun

/-- Why there is no such motion, or why it finds no target. -/
inductive MotionFault where
  | noCharSearch
  | unknownMotion
  | noMatchingBracket
  | characterNotFound
  | noEnclosingQuote
  | noEnclosingBracket
  | tagObject
  | unknownObject
  | patternNotFound
deriving DecidableEq, Repr

/-- The reason in words. -/
def MotionFault.message : MotionFault → String
  | .noCharSearch => "no previous character search"
  | .unknownMotion => "unknown motion"
  | .noMatchingBracket => "no matching bracket"
  | .characterNotFound => "character not found"
  | .noEnclosingQuote => "no enclosing quote"
  | .noEnclosingBracket => "no enclosing bracket"
  | .tagObject => "tag objects are not supported"
  | .unknownObject => "unknown text object"
  | .patternNotFound => "pattern not found"

/-- Why keys or a line are no command. -/
inductive CommandFault where
  | controlInsideCommand
  | unknownControl
  | unknownG
  | noWord
  | noPreviousSearch
  | unknownEx
  | badDelimiter
  | emptyPattern
  | unknownFlag
deriving DecidableEq, Repr

/-- The reason in words. -/
def CommandFault.message : CommandFault → String
  | .controlInsideCommand => "control key inside a command"
  | .unknownControl => "unknown control key"
  | .unknownG => "unknown g command"
  | .noWord => "no word under cursor"
  | .noPreviousSearch => "no previous search"
  | .unknownEx => "unknown ex command"
  | .badDelimiter => "bad substitute delimiter"
  | .emptyPattern => "empty substitute pattern"
  | .unknownFlag => "unknown substitute flag"

/-- Why keys cannot be carried out. -/
inductive ParseError where
  /-- More keys are needed. -/
  | incomplete
  | invalidNumber
  | noNumberAllowed
  | invalidMotion (fault : MotionFault)
  | invalidCommand (fault : CommandFault)
deriving DecidableEq, Repr

def ParseError.message : ParseError → String
  | .incomplete => "incomplete command"
  | .invalidNumber => "bad number"
  | .noNumberAllowed => "no count allowed"
  | .invalidMotion fault => "bad motion: " ++ fault.message
  | .invalidCommand fault => "bad command: " ++ fault.message

/-- Why the host's clipboard cannot be used. -/
inductive ClipboardError where
  | unavailable
  | permissionDenied
  | platform (text : String)
deriving DecidableEq, Repr

def ClipboardError.message : ClipboardError → String
  | .unavailable => "clipboard not available"
  | .permissionDenied => "clipboard permission denied"
  | .platform text => text

/-- Why a substitution does nothing. -/
inductive SubstituteError where
  | noPrevious
  | patternNotFound (pattern : List Char)
deriving DecidableEq, Repr

def SubstituteError.message : SubstituteError → String
  | .noPrevious => "no previous substitution"
  | .patternNotFound pattern => "pattern not found: " ++ String.ofList pattern

/-- What a session tells its host about a key that failed. -/
inductive EditError where
  | parse (error : ParseError)
  | clipboard (error : ClipboardError)
  /-- What the library said of an expression that it could not build. -/
  | searchPattern (fault : String)
  | substitute (error : SubstituteError)
deriving DecidableEq, Repr

def EditError.message : EditError → String
  | .parse error => error.message
  | .clipboard error => "clipboard: " ++ error.message
  | .searchPattern fault => "search pattern: " ++ fault
  | .substitute error => "substitute: " ++ error.message

end ModalVi
