import ModalVi.Cursor
import ModalVi.Text.Basic

namespace ModalVi

/-! A place in a text together with a direction to read in.

A reader splits the text at its offset: `ahead` holds the unread characters in reading order, and
`behind` the others, nearest first.  Reading moves characters from the one to the other, whichever
way the reader faces, so every operation is stated once for both directions. -/

/-- A place in a text from which characters are read in one direction. -/
structure Reader where
  direction : Direction
  /-- The offset at which reading started. -/
  origin : Nat
  /-- The number of characters read so far. -/
  consumed : Nat
  /-- The unread characters, next first. -/
  ahead : List Char
  /-- The characters on the other side, nearest first. -/
  behind : List Char
deriving DecidableEq, Repr

namespace Reader

def facing (direction : Direction) (text : Text) (offset : Nat) : Reader :=
  let before := (text.take offset).reverse
  let after := text.drop offset
  match direction with
  | .forward => ⟨.forward, min offset text.length, 0, after, before⟩
  | .backward => ⟨.backward, min offset text.length, 0, before, after⟩

def forward (text : Text) (offset : Nat) : Reader := facing .forward text offset

def backward (text : Text) (offset : Nat) : Reader := facing .backward text offset

def text (reader : Reader) : Text :=
  match reader.direction with
  | .forward => reader.behind.reverse ++ reader.ahead
  | .backward => reader.ahead.reverse ++ reader.behind

def offset (reader : Reader) : Nat :=
  match reader.direction with
  | .forward => reader.origin + reader.consumed
  | .backward => reader.origin - reader.consumed

/-- A fresh reader at the current offset. -/
def turn (direction : Direction) (reader : Reader) : Reader :=
  if reader.direction = direction then { reader with origin := reader.offset, consumed := 0 }
  else ⟨direction, reader.offset, 0, reader.behind, reader.ahead⟩

def peek (reader : Reader) : Option Char := reader.ahead.head?

/-- The reader after the next `count` characters, or after all of them if there are fewer. -/
def advance (count : Nat) (reader : Reader) : Reader :=
  let read := reader.ahead.take count
  { reader with
    consumed := reader.consumed + read.length
    ahead := reader.ahead.drop count
    behind := read.reverse ++ reader.behind }

/-- The reader with the last `count` characters given back, or all that it has read. -/
def giveBack (count : Nat) (reader : Reader) : Reader :=
  let returned := min count reader.consumed
  { reader with
    consumed := reader.consumed - returned
    ahead := (reader.behind.take returned).reverse ++ reader.ahead
    behind := reader.behind.drop returned }

/-! ### Lines -/

/-- The characters up to the next line break. -/
def lineAhead (reader : Reader) : Text := reader.ahead.takeWhile (· != '\n')

/-- The reader before the next line break, or at the end of the text. -/
def toLineBreak (reader : Reader) : Reader := reader.advance reader.lineAhead.length

/-- The reader after the next line break, or at the end of the text. -/
def pastLineBreak (reader : Reader) : Reader := reader.advance (reader.lineAhead.length + 1)

/-- The reader after the next `count` characters of the line, or before its break if there are
fewer. -/
def advanceInLine (count : Nat) (reader : Reader) : Reader :=
  reader.advance (min count reader.lineAhead.length)

/-! ### Runs -/

def skipWhile (accept : Char → Bool) (reader : Reader) : Reader :=
  reader.advance (reader.ahead.takeWhile accept).length

/-- Whether some character ahead is refused by `accept`. -/
def meetsEnd (accept : Char → Bool) (reader : Reader) : Bool :=
  reader.ahead.any fun c => !accept c

def skipThrough (accept : Char → Bool) (reader : Reader) : Reader :=
  reader.advance ((reader.ahead.takeWhile accept).length + 1)

/-- The position of the first window of `size` characters that `accept` refuses.  Windows are tried
in reading order, each once, and `accept` may remember those it has seen. -/
def firstRefused {σ : Type} (size : Nat) (accept : σ → List Char → Bool × σ) :
    σ → List Char → Option Nat
  | state, characters =>
      let window := characters.take size
      if window.length < size then none
      else
        match accept state window with
        | (false, _) => some 0
        | (true, state) =>
            match characters with
            | [] => none
            | _ :: rest => (firstRefused size accept state rest).map (· + 1)

/-- Reads to the first window that `accept` refuses, or past it if `around` is set.  Without such a
window everything is read, and the answer is `false`. -/
def skipWindows {σ : Type} (size : Nat) (around : Bool) (accept : σ → List Char → Bool × σ)
    (state : σ) (reader : Reader) : Bool × Reader :=
  match firstRefused size accept state reader.ahead with
  | some position => (true, reader.advance (if around then position + size else position))
  | none => (false, reader.advance reader.ahead.length)

/-- Reads to the first pair of neighbours that `stop` holds for, or to the end of the text. -/
def toPair (stop : Char → Char → Bool) (reader : Reader) : Reader :=
  (reader.skipWindows 2 false
    (fun (_ : Unit) window =>
      match window with
      | [first, second] => (!stop first second, ())
      | _ => (true, ())) ()).2

/-- Reads past the first pair of neighbours that `stop` holds for, or to the end of the text. -/
def pastPair (stop : Char → Char → Bool) (reader : Reader) : Reader :=
  (reader.skipWindows 2 true
    (fun (_ : Unit) window =>
      match window with
      | [first, second] => (!stop first second, ())
      | _ => (true, ())) ()).2

/-! ### Repetition -/

/-- Takes up to `count` steps, and no more once a step leaves the offset as it is. -/
def steps (step : Reader → Reader) : (count : Nat) → Reader → Reader
  | 0, reader => reader
  | count + 1, reader =>
      let moved := step reader
      if moved.offset = reader.offset then moved else steps step count moved

/-! ### What moving does to the parts -/

@[simp] theorem ahead_advance (count : Nat) (reader : Reader) :
    (reader.advance count).ahead = reader.ahead.drop count := rfl

@[simp] theorem consumed_advance (count : Nat) (reader : Reader) :
    (reader.advance count).consumed = reader.consumed + min count reader.ahead.length := by
  simp [advance, List.length_take]

@[simp] theorem direction_advance (count : Nat) (reader : Reader) :
    (reader.advance count).direction = reader.direction := rfl

/-- Moving never changes the text. -/
@[simp] theorem text_advance (count : Nat) (reader : Reader) :
    (reader.advance count).text = reader.text := by
  cases direction : reader.direction with
  | forward => simp only [text, advance, direction, List.reverse_append, List.reverse_reverse,
      List.append_assoc, List.take_append_drop]
  | backward =>
      have rejoined :
          (reader.ahead.drop count).reverse ++ (reader.ahead.take count).reverse =
            reader.ahead.reverse := by
        rw [← List.reverse_append, List.take_append_drop]
      simp [text, advance, direction, ← rejoined]

end Reader

end ModalVi
