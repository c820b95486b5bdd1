import ModalVi.Proofs.Search.Cache
import ModalVi.Proofs.Session.Press
import ModalVi.Proofs.Session.Repetition

namespace ModalVi

/-! Seeking a match several times.

A command that seeks puts the caret where the last of its matches starts, each of them sought from
the start of the one before.  It fails as a whole if one of them is missing. -/

/-- The digits that a count is typed as.  None stand for 1. -/
inductive Counting : List Char → Nat → Prop where
  | once : Counting [] 1
  | numeral {digits : List Char} (numeral : Numeral digits) :
      Counting digits (decimalValue digits)

/-- The key that seeks the pattern once more. -/
def nextKey (reversed : Bool) : Char := if reversed then 'N' else 'n'

/-- The key that seeks the word at the caret. -/
def wordKey : Direction → Char
  | .forward => '*'
  | .backward => '#'

namespace Counting

variable {digits : List Char} {count : Nat}

theorem positive (counting : Counting digits count) : 0 < count := by
  cases counting with
  | once => exact Nat.one_pos
  | numeral numeral => exact numeral.decimalValue_pos

theorem toDigits (positive : 0 < count) (possible : count < countLimit) :
    Counting (Nat.toDigits 10 count) count := by
  have counting := Counting.numeral (numeral_toDigits positive possible)
  rwa [decimalValue_toDigits] at counting

theorem legible (counting : Counting digits count) : Legible .command digits := by
  cases counting with
  | once => exact .nil _
  | numeral numeral => exact numeral.legible

/-- The digits are read as the count where something else follows. -/
theorem readCount {rest : List Char} (counting : Counting digits count)
    (ended : ∀ c, rest.head? = some c → c.isDigit = false) :
    ∃ counted, (KeyBuffer.ofKeys (digits ++ rest)).readCount = .ok ⟨rest, count, counted⟩ ∧
      (counted = false → count = 1) := by
  cases counting with
  | once =>
      refine ⟨false, ?_, fun _ => rfl⟩
      cases rest with
      | nil => rfl
      | cons c rest =>
          have other : c.isDigit = false := ended c rfl
          have none : (KeyBuffer.ofKeys (c :: rest)).digits = [] := by
            simp only [KeyBuffer.digits, KeyBuffer.ofKeys]
            split
            · rfl
            · simp [other]
          rw [List.nil_append, KeyBuffer.readCount, KeyBuffer.readNumber, none]
          rfl
  | numeral numeral => exact ⟨true, numeral.readCount ended, by simp⟩

/-- No key but a digit goes on with a count. -/
theorem readCount_cons {c : Char} (counting : Counting digits count) (other : c.isDigit = false)
    (rest : List Char) :
    ∃ counted, (KeyBuffer.ofKeys (digits ++ c :: rest)).readCount =
      .ok ⟨c :: rest, count, counted⟩ ∧ (counted = false → count = 1) := by
  apply counting.readCount
  rintro _ ⟨⟩
  exact other

theorem parse_searchNext (counting : Counting digits count) (reversed : Bool) :
    Command.parse (digits ++ [nextKey reversed]) = .ok (count, .searchNext reversed) := by
  have other : (nextKey reversed).isDigit = false := by cases reversed <;> rfl
  obtain ⟨_, read, _⟩ := counting.readCount_cons other []
  rw [Command.parse, read]
  cases reversed <;> rfl

theorem parse_searchWord (counting : Counting digits count) (direction : Direction) :
    Command.parse (digits ++ [wordKey direction]) = .ok (count, .searchWord direction) := by
  have other : (wordKey direction).isDigit = false := by cases direction <;> rfl
  obtain ⟨_, read, _⟩ := counting.readCount_cons other []
  rw [Command.parse, read]
  cases direction <;> rfl

end Counting

namespace Finder

variable {find : Finder} {direction : Direction} {text : Text} {caret : Nat}

/-- Where the next match starts. -/
def next (find : Finder) (direction : Direction) (text : Text) (caret : Nat) : Option Nat :=
  (find.toward direction text caret).map Prod.fst

/-- Where the `count`th next match starts. -/
def nth (find : Finder) (direction : Direction) (text : Text) : (count caret : Nat) → Option Nat
  | 0, caret => some caret
  | count + 1, caret => (find.next direction text caret).bind (find.nth direction text count)

theorem nth_of_fixed (fixed : find.next direction text caret = some caret) (count : Nat) :
    find.nth direction text count caret = some caret := by
  induction count with
  | zero => rfl
  | succ count ih => rw [nth, fixed, Option.bind_some, ih]

theorem next_of_nth {place count : Nat}
    (found : find.nth direction text (count + 1) caret = some place) :
    ∃ middle, find.next direction text middle = some place := by
  induction count generalizing caret with
  | zero =>
      obtain ⟨start, next, same⟩ := Option.bind_eq_some_iff.mp found
      cases same
      exact ⟨caret, next⟩
  | succ count ih =>
      obtain ⟨start, _, onward⟩ := Option.bind_eq_some_iff.mp found
      exact ih onward

end Finder

namespace Session

variable {library : Library} {session : Session library} {find : Finder} {search : Search}
  {digits : List Char} {count : Nat}
  {reversed : Bool} {c : Char} {command : Command}

/-- Puts the caret where the match starts that was found, if one was. -/
def land (place? : Option Nat) (session : Session library) : Attempt library Unit :=
  match place? with
  | some place => (.ok (), session.setCursor place)
  | none => (.error (.parse (.invalidMotion .patternNotFound)), session)

theorem findTimes_of_seeks (seeks : search.Seeks library find) (text : Text) (reversed : Bool)
    (count caret : Nat) :
    findTimes library text reversed count caret search =
      ((find.nth (search.toward reversed) text count caret).elim
          (.error (.parse (.invalidMotion .patternNotFound))) .ok,
        if count = 0 then search else search.asked library) := by
  induction count generalizing caret search with
  | zero => rfl
  | succ count ih =>
      have onward := ih seeks.asked
      simp only [Search.asked_asked, Search.toward_asked, ite_self] at onward
      rw [findTimes, seeks.find_eq, Finder.nth, Finder.next, if_neg (Nat.succ_ne_zero count)]
      cases found : find.toward (search.toward reversed) text caret with
      | none => rfl
      | some span =>
          obtain ⟨start, stop⟩ := span
          simp only [Option.map_some, Option.bind_some, onward]
          split
          -- Where the search stays at its place, so do all later ones.
          · rename_i fixed
            have again : find.next (search.toward reversed) text start = some start := by
              rw [Finder.next, fixed, found, ← fixed]
              rfl
            rw [Finder.nth_of_fixed again]
            rfl
          · rfl

theorem searchMove_of_seeks (seeks : session.search.Seeks library find) (positive : 0 < count) :
    session.searchMove reversed count =
      ({ session with search := session.search.asked library } : Session library).land
        (find.nth (session.search.toward reversed) session.text count session.cursor.caret) := by
  rw [searchMove, findTimes_of_seeks seeks, if_neg (Nat.ne_of_gt positive)]
  cases find.nth (session.search.toward reversed) session.text count session.cursor.caret <;> rfl

/-! ### Pressing the keys -/

/-- The command only moves the caret: it does not look at the keys and edits nothing. -/
structure Moves (library : Library) (act : Session library → Attempt library Unit) : Prop where
  blind : ∀ held session, act (session.holding held) = attempting held (act session)
  complete : ∀ session, (act session).1 ≠ .error (.parse .incomplete)
  unchanged : ∀ session, (act session).2.changed = session.changed

theorem moves_searchMove (reversed : Bool) (count : Nat) :
    Moves library (searchMove reversed count) where
  blind held session := by
    have text : (session.holding held).text = session.text := rfl
    have cursor : (session.holding held).cursor = session.cursor := rfl
    have search : (session.holding held).search = session.search := rfl
    simp only [searchMove, text, cursor, search]
    generalize findTimes _ _ _ _ _ _ = answer
    obtain ⟨error | place, search⟩ := answer <;> rfl
  complete session failed := by
    simp only [searchMove] at failed
    generalize found : findTimes _ _ _ _ _ _ = answer at failed
    obtain ⟨error | place, search⟩ := answer
    · cases failed
      exact findTimes_error found rfl
    · cases failed
  unchanged session := (aside_of_searchMove (Prod.eta _).symm).changed

theorem moves_searchWord (direction : Direction) (count : Nat) :
    Moves library (searchWord direction count) where
  blind held session := by
    have text : (session.holding held).text = session.text := rfl
    have caret : (session.holding held).caret = session.caret := rfl
    rw [searchWord, searchWord, text, caret]
    dsimp only
    split
    · rfl
    · rw [← (moves_searchMove false count).blind held]
      rfl
  complete session failed := by
    simp only [searchWord] at failed
    split at failed
    · cases failed
    · exact (moves_searchMove false count).complete _ failed
  unchanged session := (aside_of_searchWord (Prod.eta _).symm).changed

/-- What the keys of a command that only moves the caret come to. -/
theorem press_moves (moves : Moves library fun session => session.act command count)
    (notAsks : command ≠ .exPrompt) (notAgain : command ≠ .repeatLast)
    (mode : session.mode = .command) (fresh : session.keys = []) (legible : Legible .command digits)
    (read : Command.parse (digits ++ [c]) = .ok (count, command)) :
    session.press ((digits ++ [c]).map .char) =
      match session.begun.act command count with
      | (.error error, after) => (.error error, after)
      | (.ok (), after) => (.ok (), after.settled) := by
  let held : Session library := session.holding (digits ++ [c])
  have owned : session.mode ≠ .insert := by simp [mode]
  have still : held.mode = .command := mode
  have begun : ({ held with changed := false } : Session library) =
      session.begun.holding (digits ++ [c]) := rfl
  have ran := run_of_acts notAsks notAgain (digits ++ [c]) count held
  have dropped : session.begun.act command count = _ := moves.blind [] session.begun
  have complete := moves.complete session.begun
  have unchanged := moves.unchanged session.begun
  rw [begun, moves.blind] at ran
  rw [press_typed owned fresh (mode ▸ legible), carryOut_of_command still, runKeys, read]
  dsimp only
  rw [ran]
  generalize session.begun.act command count = attempt at dropped complete unchanged ⊢
  obtain ⟨error | done, after⟩ := attempt
  all_goals
    have keyless : (after.holding (digits ++ [c])).dropKeys = after :=
      (congrArg Prod.snd dropped).symm
  · simp only [attempting, conclude_error (fun same => complete (congrArg _ same)), keyless]
  · have steady : (after.holding (digits ++ [c])).changed = false := unchanged
    simp only [attempting, steady, Bool.false_eq_true, if_false, conclude, finish, keyless]

/-- Ends a command that seeks where the match starts that was found, if one was. -/
def arrive (place? : Option Nat) (session : Session library) : Attempt library Unit :=
  match place? with
  | some place => (.ok (), (session.setCursor place).settled)
  | none => (.error (.parse (.invalidMotion .patternNotFound)), session)

/-- The session once its search was asked for a match. -/
def seeking (session : Session library) : Session library :=
  { session.begun with search := session.search.asked library }

theorem press_next (seeks : session.search.Seeks library find) (mode : session.mode = .command)
    (fresh : session.keys = []) (counting : Counting digits count) (reversed : Bool) :
    session.press ((digits ++ [nextKey reversed]).map .char) = session.seeking.arrive
      (find.nth (session.search.toward reversed) session.text count session.cursor.caret) := by
  have moves : Moves library fun session => session.act (.searchNext reversed) count :=
    moves_searchMove reversed count
  have begun : session.begun.search.Seeks library find := seeks
  have acted : session.begun.act (.searchNext reversed) count = session.seeking.land
      (find.nth (session.search.toward reversed) session.text count session.cursor.caret) :=
    searchMove_of_seeks begun counting.positive
  rw [press_moves moves (by simp) (by simp) mode fresh counting.legible
    (counting.parse_searchNext reversed), acted]
  cases find.nth (session.search.toward reversed) session.text count session.cursor.caret <;> rfl

/-- The caret was put where a match starts.  Only which carets the history has noted is left open. -/
structure Landed (before : Session library) (place : Nat) (after : Session library) : Prop where
  mode : after.mode = before.mode
  fresh : after.keys = []
  search : after.search = before.search.asked library
  cursor : after.cursor = Cursor.collapsed place
  surface : after.surface = before.surface.select (Selection.caret place)

theorem Landed.trans {middle after : Session library} {place other : Nat}
    (first : Landed session place middle) (second : Landed middle other after) :
    Landed session other after where
  mode := second.mode.trans first.mode
  fresh := second.fresh
  search := by rw [second.search, first.search, Search.asked_asked]
  cursor := second.cursor
  surface := by
    rw [second.surface, first.surface]
    rfl

theorem landed_next (seeks : session.search.Seeks library find) (mode : session.mode = .command)
    (fresh : session.keys = []) (counting : Counting digits count) (reversed : Bool) {place : Nat}
    (found : find.nth (session.search.toward reversed) session.text count session.cursor.caret =
      some place)
    (inside : place ≤ session.text.length) :
    ∃ after, session.press ((digits ++ [nextKey reversed]).map .char) = (.ok (), after) ∧
      Landed session place after := by
  have pressed := press_next seeks mode fresh counting reversed
  rw [found] at pressed
  refine ⟨_, pressed, rfl, rfl, rfl, ?_, ?_⟩
  · exact congrArg Cursor.collapsed (Nat.min_eq_left inside)
  · show session.surface.select (Selection.caret (min place session.text.length)) = _
    rw [Nat.min_eq_left inside]

/-- Single presses lead where one with their number as its count does. -/
theorem landed_presses (seeks : session.search.Seeks library find) (mode : session.mode = .command)
    (fresh : session.keys = []) (reversed : Bool)
    (inside : ∀ caret place,
      find.next (session.search.toward reversed) session.text caret = some place →
        place ≤ session.text.length)
    {place : Nat}
    (found : find.nth (session.search.toward reversed) session.text (count + 1)
      session.cursor.caret = some place) :
    ∃ after, session.press (List.replicate (count + 1) (.char (nextKey reversed))) =
        (.ok (), after) ∧
      Landed session place after := by
  induction count generalizing session with
  | zero =>
      obtain ⟨middle, next⟩ := Finder.next_of_nth found
      exact landed_next seeks mode fresh .once reversed found (inside middle place next)
  | succ count ih =>
      obtain ⟨start, next, onward⟩ := Option.bind_eq_some_iff.mp found
      have single : find.nth (session.search.toward reversed) session.text 1
          session.cursor.caret = some start := by
        rw [Finder.nth, next]
        rfl
      obtain ⟨middle, pressed, landed⟩ :=
        landed_next seeks mode fresh .once reversed single (inside _ _ next)
      have seeksOn : middle.search.Seeks library find := landed.search ▸ seeks.asked
      have toward : middle.search.toward reversed = session.search.toward reversed := by
        rw [landed.search, Search.toward_asked]
      have text : middle.text = session.text := by
        rw [Session.text, landed.surface]
        rfl
      have caret : middle.cursor.caret = start := congrArg Cursor.caret landed.cursor
      rw [← toward, ← text] at inside
      rw [← toward, ← text, ← caret] at onward
      obtain ⟨after, rest, landedOn⟩ :=
        ih seeksOn (landed.mode.trans mode) landed.fresh inside onward
      refine ⟨after, ?_, landed.trans landedOn⟩
      rw [List.replicate_succ]
      exact (press_append pressed _).trans rest

end Session

end ModalVi
