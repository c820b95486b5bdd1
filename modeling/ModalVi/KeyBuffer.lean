import ModalVi.Error

namespace ModalVi

/-! The characters of a command typed so far, read from the front.

A count starts with a digit from one to nine; a leading zero is the motion to the line start.
Counts lie below `countLimit`, and a count given again between an operator and its motion
multiplies the one before the operator. -/

def countLimit : Nat := UInt64.size

def decimalValue (digits : List Char) : Nat :=
  digits.foldl (fun value digit => 10 * value + (digit.toNat - '0'.toNat)) 0

/-- The number that decimal digits write, if it is a possible count. -/
def countValue? (digits : List Char) : Option Nat :=
  if decimalValue digits < countLimit then some (decimalValue digits) else none

/-- Keys still to be read, and the count read so far. -/
structure KeyBuffer where
  rest : List Char
  count : Nat
  /-- Whether a count was typed. -/
  counted : Bool
deriving DecidableEq, Repr

namespace KeyBuffer

/-- A buffer of which nothing was read. -/
def ofKeys (keys : List Char) : KeyBuffer := ⟨keys, 1, false⟩

/-- The digits of the count at the front. -/
def digits (buffer : KeyBuffer) : List Char :=
  match buffer.rest with
  | '0' :: _ => []
  | keys => keys.takeWhile Char.isDigit

/-- The buffer without the count at the front. -/
def dropDigits (buffer : KeyBuffer) : KeyBuffer :=
  { buffer with rest := buffer.rest.drop buffer.digits.length }

/-- Reads the count at the front, if there is one, and joins it to the count so far. -/
def readNumber (join : Nat → Nat → Option Nat) (buffer : KeyBuffer) :
    Except ParseError KeyBuffer :=
  if buffer.digits.isEmpty then .ok buffer
  else
    match (countValue? buffer.digits).bind (join buffer.count) with
    | some count => .ok { buffer.dropDigits with count := count, counted := true }
    | none => .error .invalidNumber

def readCount : KeyBuffer → Except ParseError KeyBuffer := readNumber fun _ typed => some typed

def readMotionCount : KeyBuffer → Except ParseError KeyBuffer :=
  readNumber fun count typed => if count * typed < countLimit then some (count * typed) else none

def refuseCount (buffer : KeyBuffer) : Except ParseError Unit :=
  if buffer.count = 1 then .ok () else .error .noNumberAllowed

def withDefault (count : Nat) (buffer : KeyBuffer) : KeyBuffer :=
  if buffer.counted then buffer else { buffer with count := count }

def peek (buffer : KeyBuffer) : Option Char := buffer.rest.head?

/-- The next key and the buffer after it; more keys are needed if there is none. -/
def next (buffer : KeyBuffer) : Except ParseError (Char × KeyBuffer) :=
  match buffer.rest with
  | [] => .error .incomplete
  | key :: rest => .ok (key, { buffer with rest := rest })

/-- Whether everything was read. -/
def isDone (buffer : KeyBuffer) : Bool := buffer.rest.isEmpty

end KeyBuffer

end ModalVi
