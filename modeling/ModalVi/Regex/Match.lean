import ModalVi.Regex.Pattern
import ModalVi.Text.Basic

namespace ModalVi.Regex

/-! Matching.

Of all matches that start earliest, the preferred one counts: an alternative is preferred to those
after it, and a repetition to more or fewer turns as it is greedy or not.  A text is read once from
the start of the match on.  Between two characters the ways to go on are kept as threads in the order
of preference; each of them is what remains to be matched. -/

/-- The noted places, newest first. -/
abbrev Slots := List (Nat × Nat)

/-- A place between two characters of a text. -/
structure Place where
  before : Option Char
  after : Option Char
  offset : Nat
deriving Repr

/-- A way on from a place: over a character of a set to what then remains, or without a character. -/
inductive Way where
  | over (set : CharSet) (rest : List Pattern) (slots : Slots)
  | through (slots : Slots)
deriving DecidableEq, Repr

namespace Way

/-- Continues every way that needs no character. -/
def continued (next : Slots → List Way) (ways : List Way) : List Way :=
  ways.flatMap fun way =>
    match way with
    | .over set rest slots => [.over set rest slots]
    | .through slots => next slots

/-- Whether the way needs no character. -/
def isThrough : Way → Bool
  | .over .. => false
  | .through _ => true

/-- Without all but the first way that needs no character: the others lead nowhere else. -/
def distinct : List Way → List Way
  | [] => []
  | .over set rest slots :: ways => .over set rest slots :: distinct ways
  | .through slots :: ways => .through slots :: ways.filter (!·.isThrough)

/-- The ways through a repetition that may end here: taking another turn, or ending. -/
def offered (greedy : Bool) (turn : List Way) (slots : Slots) : List Way :=
  distinct (if greedy then turn ++ [.through slots] else .through slots :: turn)

/-- The ways through up to `more` turns of a body. -/
def upTo (turn : List Pattern → Slots → List Way) (body : Pattern) (greedy : Bool) :
    (more : Nat) → List Pattern → Slots → List Way
  | 0, _, slots => [.through slots]
  | more + 1, rest, slots =>
      let taken := turn (.repeated body 0 (some more) greedy :: rest) slots
      offered greedy (continued (upTo turn body greedy more rest) taken) slots

/-- The ways through at least `min` turns of a body.  A turn without a character ends a repetition
that has no limit. -/
def atLeast (turn : List Pattern → Slots → List Way) (body : Pattern) (greedy : Bool) :
    (min : Nat) → List Pattern → Slots → List Way
  | 0, rest, slots => offered greedy (turn (.loop body greedy :: rest) slots) slots
  | 1, rest, slots => turn (.loop body greedy :: rest) slots
  | min + 2, rest, slots =>
      continued (atLeast turn body greedy (min + 1) rest)
        (turn (.repeated body (min + 1) none greedy :: rest) slots)

/-- The ways through `min` turns of a body and up to `more` further ones. -/
def between (turn : List Pattern → Slots → List Way) (body : Pattern) (greedy : Bool) (more : Nat) :
    (min : Nat) → List Pattern → Slots → List Way
  | 0, rest, slots => upTo turn body greedy more rest slots
  | min + 1, rest, slots =>
      continued (between turn body greedy more min rest)
        (turn (.repeated body min (some more) greedy :: rest) slots)

end Way

/-- The ways through an expression that is followed by `rest`, in the order of preference. -/
def Pattern.ways (place : Place) : Pattern → List Pattern → Slots → List Way
  | .empty, _, slots => [.through slots]
  | .oneOf set, rest, slots => [.over set rest slots]
  | .look condition, _, slots =>
      if condition.holds place.before place.after then [.through slots] else []
  | .mark slot, _, slots => [.through ((slot, place.offset) :: slots)]
  | .seq first second, rest, slots =>
      Way.continued (second.ways place rest) (first.ways place (second :: rest) slots)
  | .alt first second, rest, slots =>
      Way.distinct (first.ways place rest slots ++ second.ways place rest slots)
  | .repeated body min none greedy, rest, slots =>
      Way.atLeast (body.ways place) body greedy min rest slots
  | .repeated body min (some more) greedy, rest, slots =>
      Way.between (body.ways place) body greedy more min rest slots
  | .loop body greedy, rest, slots =>
      let turn := (body.ways place (.loop body greedy :: rest) slots).filter (!·.isThrough)
      Way.offered greedy turn slots

/-- The ways through one expression after the other. -/
def waysThrough (place : Place) : List Pattern → Slots → List Way
  | [], slots => [.through slots]
  | pattern :: rest, slots =>
      Way.continued (waysThrough place rest) (pattern.ways place rest slots)

/-- What remains to be matched on one way, and the places noted on it. -/
structure Thread where
  rest : List Pattern
  slots : Slots
deriving Repr

/-- The ways up to the first that needs no character, and the places noted on that one. -/
def Way.preferred : List Way → List Way × Option Slots
  | [] => ([], none)
  | .over set rest slots :: ways =>
      let (kept, found) := preferred ways
      (.over set rest slots :: kept, found)
  | .through slots :: _ => ([], some slots)

/-- The thread after a way was taken over `c`, if `c` belongs to its set. -/
def Way.take? (c : Char) : Way → Option Thread
  | .over set rest slots => if set.contains c then some ⟨rest, slots⟩ else none
  | .through _ => none

/-- Without threads on which the same remains as on an earlier one. -/
def distinctThreads (threads : List Thread) : List Thread :=
  (threads.foldl
    (fun kept thread => if kept.any (·.rest == thread.rest) then kept else thread :: kept)
    []).reverse

/-- The end of the preferred match of the threads and the places noted on it.  `found` is the match
that counts unless a thread ends in one. -/
def follow : (threads : List Thread) → (before : Option Char) → (unread : List Char) →
    (offset : Nat) → (found : Option (Nat × Slots)) → Option (Nat × Slots)
  | threads, before, unread, offset, found =>
      let place : Place := ⟨before, unread.head?, offset⟩
      let (ways, ended) :=
        Way.preferred (threads.flatMap fun thread => waysThrough place thread.rest thread.slots)
      let found := (ended.map fun slots => (offset, slots)).or found
      match unread with
      | [] => found
      | c :: unread =>
          let threads := distinctThreads (ways.filterMap (Way.take? c))
          if threads.isEmpty then found else follow threads (some c) unread (offset + 1) found

/-- A match: the span it covers and the places noted on it. -/
structure Match where
  start : Nat
  stop : Nat
  slots : Slots
deriving DecidableEq, Repr

namespace Match

/-- Whether the match covers no character. -/
def isEmpty (found : Match) : Bool := found.start == found.stop

/-- The span of a group, if it took part in the match; group zero is the match itself. -/
def group (index : Nat) (found : Match) : Option (Nat × Nat) :=
  if index = 0 then some (found.start, found.stop)
  else
    match found.slots.lookup (2 * index), found.slots.lookup (2 * index + 1) with
    | some start, some stop => some (start, stop)
    | _, _ => none

end Match

def Pattern.matchHere (pattern : Pattern) (before : Option Char) (unread : List Char)
    (offset : Nat) : Option Match :=
  (follow [⟨[pattern], []⟩] before unread offset none).map fun (stop, slots) =>
    ⟨offset, stop, slots⟩

/-- The first match from the place between `before` and `unread` on. -/
def Pattern.search (pattern : Pattern) : (before : Option Char) → (unread : List Char) →
    (offset : Nat) → Option Match
  | before, unread, offset =>
      match pattern.matchHere before unread offset with
      | some found => some found
      | none =>
          match unread with
          | [] => none
          | c :: unread => pattern.search (some c) unread (offset + 1)

/-- The first match in `text` that starts at `offset` or later.  Conditions look at the whole of
`text`. -/
def Pattern.findAt (pattern : Pattern) (text : Text) (offset : Nat) : Option Match :=
  if text.length < offset then none
  else
    pattern.search (if offset = 0 then none else text[offset - 1]?) (text.drop offset) offset

end ModalVi.Regex
