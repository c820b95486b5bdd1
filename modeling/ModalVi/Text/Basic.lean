import ModalVi.Unicode.Basic

namespace ModalVi

/-! Texts as lists of characters.

Offsets count characters, and only the line feed breaks a line.  A text with `k` breaks has `k + 1`
lines, the last of them possibly empty. -/

abbrev Text := List Char

namespace Text

/-- The characters from offset `start` up to, but not including, offset `stop`. -/
def slice (text : Text) (start stop : Nat) : Text := (text.drop start).take (stop - start)

def splice (text : Text) (start stop : Nat) (new : Text) : Text :=
  text.take start ++ new ++ text.drop stop

/-- The text without leading white space. -/
def trimStart (text : Text) : Text := text.dropWhile Unicode.isWhitespace

/-- The text without trailing white space. -/
def trimEnd (text : Text) : Text := (trimStart text.reverse).reverse

/-- The text without white space at either end. -/
def trim (text : Text) : Text := trimEnd (trimStart text)

/-- The words of a text, apart from the white space between them.  A word is a longest run without
white space. -/
def words : Text → List Text
  | [] => []
  | c :: rest =>
      if Unicode.isWhitespace c then words rest
      else
        match rest with
        | [] => [[c]]
        | next :: _ =>
            if Unicode.isWhitespace next then [c] :: words rest
            else
              match words rest with
              | [] => [[c]]
              | word :: others => (c :: word) :: others

/-- The lines of a text, without their breaks. -/
def lines : Text → List Text
  | [] => [[]]
  | c :: rest =>
      if c == '\n' then [] :: lines rest
      else
        match lines rest with
        | [] => [[c]]
        | line :: others => (c :: line) :: others

/-- The lines of a text with their breaks.  Nothing follows a final break. -/
def brokenLines : Text → List Text
  | [] => []
  | c :: rest =>
      if c == '\n' then [c] :: brokenLines rest
      else
        match brokenLines rest with
        | [] => [[c]]
        | line :: others => (c :: line) :: others

/-- The text whose lines are the given ones. -/
def ofLines (lines : List Text) : Text := List.intercalate ['\n'] lines

def splitFinalBreak (text : Text) : Text × Bool :=
  if text.getLast? = some '\n' then (text.dropLast, true) else (text, false)

theorem splitFinalBreak_concat_break (body : Text) :
    splitFinalBreak (body ++ ['\n']) = (body, true) := by
  simp [splitFinalBreak]

theorem length_slice {text : Text} {start stop : Nat} (ordered : start ≤ stop)
    (bounded : stop ≤ text.length) : (text.slice start stop).length = stop - start := by
  simp only [slice, List.length_take, List.length_drop]
  omega

theorem length_splice {text : Text} {start stop : Nat} (new : Text) (ordered : start ≤ stop)
    (bounded : stop ≤ text.length) :
    (text.splice start stop new).length = text.length - (stop - start) + new.length := by
  simp only [splice, List.length_append, List.length_take, List.length_drop]
  omega

/-- Putting back what a span held restores the text. -/
theorem splice_slice (text : Text) {start stop : Nat} (ordered : start ≤ stop) :
    text.splice start stop (text.slice start stop) = text := by
  have rejoined : text.slice start stop ++ text.drop stop = text.drop start := by
    have dropped : text.drop stop = (text.drop start).drop (stop - start) := by
      rw [List.drop_drop]
      congr 1
      omega
    rw [dropped]
    exact List.take_append_drop _ _
  rw [splice, List.append_assoc, rejoined]
  exact List.take_append_drop _ _

/-- The lines with their breaks make up the text. -/
theorem flatten_brokenLines (text : Text) : (brokenLines text).flatten = text := by
  induction text with
  | nil => rfl
  | cons c rest inductionHypothesis =>
      simp only [brokenLines]
      split
      · simp [inductionHypothesis]
      · split
        · rename_i noLine
          rw [noLine] at inductionHypothesis
          simp [← inductionHypothesis]
        · rename_i line others someLine
          rw [someLine] at inductionHypothesis
          simp [← inductionHypothesis]

end Text

end ModalVi
