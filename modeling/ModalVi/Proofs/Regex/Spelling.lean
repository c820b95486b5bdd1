import ModalVi.Regex.Engine

namespace ModalVi

/-! Expressions that spell a text.

A quoted character is read as itself and then matches nothing but itself.  An expression of quoted
characters and of word boundaries so matches in one way at most, and where its match ends is told by
going through it once (`Atom.stopAt`), whatever the matcher tries and in which order. -/

namespace Text

/-- The character right before an offset, if there is one. -/
def before? (text : Text) (offset : Nat) : Option Char :=
  if offset = 0 then none else text[offset - 1]?

/-- Whether a word begins or ends at the offset: exactly one of the two characters around it may be
part of one. -/
def atEdge (text : Text) (isWord : Char → Bool) (offset : Nat) : Bool :=
  (text.before? offset).any isWord != text[offset]?.any isWord

end Text

namespace Regex

variable {c : Char} {level : Level} {text : Text} {offset : Nat}

/-! ### Atoms -/

/-- What an expression can be spelled with: a character, or a word boundary. -/
inductive Atom where
  | character (c : Char)
  | edge
deriving DecidableEq, Repr

namespace Atom

def pattern : Atom → Pattern
  | .character c => .oneOf (.single c)
  | .edge => .look (.word .boundary false)

/-- How the atom is written in an expression. -/
def spelling : Atom → Text
  | .character c => quote [c]
  | .edge => ['\\', 'b']

/-- Where the match of the atoms that starts at an offset ends, if there is one. -/
def stopAt (text : Text) : List Atom → (offset : Nat) → Option Nat
  | [], offset => some offset
  | .character c :: atoms, offset =>
      if text[offset]? = some c then stopAt text atoms (offset + 1) else none
  | .edge :: atoms, offset =>
      if text.atEdge Unicode.isWordCharacter offset then stopAt text atoms offset else none

end Atom

theorem quote_eq_spelling (text : Text) :
    quote text = (text.map Atom.character).flatMap Atom.spelling := by
  rw [List.flatMap_map]
  simp [quote, Atom.spelling]

/-! ### Reading what is spelled -/

theorem quote_special (special : c ∈ metaCharacters) : quote [c] = ['\\', c] := by
  have found : metaCharacters.contains c = true := List.contains_iff_mem.mpr special
  simp only [quote, List.flatMap_cons, List.flatMap_nil, found, if_true, List.append_nil]

theorem quote_ordinary (ordinary : c ∉ metaCharacters) : quote [c] = [c] := by
  have missed : ¬ metaCharacters.contains c = true := fun found =>
    ordinary (List.contains_iff_mem.mp found)
  simp only [quote, List.flatMap_cons, List.flatMap_nil, if_neg missed, List.append_nil]

theorem read_special (special : c ∈ metaCharacters) (rest : Text) :
    Escape.read {} (c :: rest) = some (.literal c, rest) := by
  have listed : metaCharacters =
      ['\\', '.', '+', '*', '?', '(', ')', '|', '[', ']', '\x7b', '\x7d', '^', '$', '#', '&', '-',
        '~'] := by
    decide
  rw [listed] at special
  simp only [List.mem_cons, List.not_mem_nil, or_false] at special
  rcases special with rfl | rfl | rfl | rfl | rfl | rfl | rfl | rfl | rfl | rfl | rfl | rfl | rfl |
    rfl | rfl | rfl | rfl | rfl <;> rfl

theorem addCharacter_eq (plain : level.flags = {}) (c : Char) :
    level.addCharacter c = level.add (Atom.character c).pattern := by
  rw [Level.addCharacter, plain]
  rfl

/-- A quoted character is read as itself. -/
theorem parseFrom_character (plain : level.flags = {}) (c : Char) (fuel : Nat) (groups : Groups)
    (outer : List OpenGroup) (rest : Text) :
    parseFrom (fuel + 1) groups outer level (quote [c] ++ rest) =
      parseFrom fuel groups outer (level.add (Atom.character c).pattern) rest := by
  rw [← addCharacter_eq plain]
  by_cases special : c ∈ metaCharacters
  · simp [quote_special special, parseFrom, plain, Flags.skip, read_special special rest]
  · rw [quote_ordinary special, List.singleton_append]
    simp only [parseFrom, plain, Flags.skip, Bool.false_eq_true, if_false]
    split
    · rename_i nothing
      cases nothing
    all_goals
      rename_i same
      cases same
      first | exact absurd (by decide) special | rfl

theorem parseFrom_edge (plain : level.flags = {}) (fuel : Nat) (groups : Groups)
    (outer : List OpenGroup) {rest : Text} (alone : rest.head? ≠ some '\x7b') :
    parseFrom (fuel + 1) groups outer level (['\\', 'b'] ++ rest) =
      parseFrom fuel groups outer (level.add Atom.edge.pattern) rest := by
  have read : Escape.read {} ('b' :: rest) = some (.look (.word .boundary false), rest) := by
    show Escape.readEdge {} rest = _
    simp only [Escape.readEdge]
    split
    · exact absurd rfl alone
    · rfl
  simp [parseFrom, plain, Flags.skip, read, Atom.pattern]

theorem head?_spelled (atoms : List Atom) :
    (atoms.flatMap Atom.spelling).head? ≠ some '\x7b' := by
  cases atoms with
  | nil => simp
  | cons atom atoms =>
      cases atom with
      | edge => simp [Atom.spelling]
      | character c =>
          rw [List.flatMap_cons, Atom.spelling]
          by_cases special : c ∈ metaCharacters
          · simp [quote_special special]
          · rw [quote_ordinary special]
            rintro ⟨⟩
            exact special (by decide)

theorem parseFrom_spelled (plain : level.flags = {}) (atoms : List Atom) (fuel : Nat)
    (groups : Groups) (outer : List OpenGroup) :
    parseFrom (atoms.length + fuel) groups outer level (atoms.flatMap Atom.spelling) =
      parseFrom fuel groups outer
        { level with parts := (atoms.map fun atom => some atom.pattern).reverse ++ level.parts }
        [] := by
  induction atoms generalizing level with
  | nil => simp
  | cons atom atoms ih =>
      have step : parseFrom (atoms.length + fuel + 1) groups outer level
            (atom.spelling ++ atoms.flatMap Atom.spelling) =
          parseFrom (atoms.length + fuel) groups outer (level.add atom.pattern)
            (atoms.flatMap Atom.spelling) := by
        cases atom with
        | character c => exact parseFrom_character plain c _ groups outer _
        | edge => exact parseFrom_edge plain _ groups outer (head?_spelled atoms)
      have still : (level.add atom.pattern).flags = {} := plain
      rw [List.length_cons, Nat.add_right_comm, List.flatMap_cons, step, ih still]
      simp [Level.add]

theorem length_le_spelled (atoms : List Atom) :
    atoms.length ≤ (atoms.flatMap Atom.spelling).length := by
  induction atoms with
  | nil => exact Nat.le_refl 0
  | cons atom atoms ih =>
      have given : 0 < atom.spelling.length := by
        cases atom with
        | edge => exact Nat.two_pos
        | character c =>
            by_cases special : c ∈ metaCharacters
            · rw [Atom.spelling, quote_special special]
              exact Nat.two_pos
            · rw [Atom.spelling, quote_ordinary special]
              exact Nat.one_pos
      rw [List.length_cons, List.flatMap_cons, List.length_append]
      omega

theorem parse_spelled (atoms : List Atom) :
    parse false (atoms.flatMap Atom.spelling) =
      some (Pattern.sequence (atoms.map Atom.pattern)) := by
  obtain ⟨fuel, enough⟩ := Nat.exists_eq_add_of_le (length_le_spelled atoms)
  have plain : (⟨{}, [], []⟩ : Level).flags = {} := rfl
  rw [parse, enough, Nat.add_assoc]
  show parseFrom (atoms.length + (fuel + 1)) ⟨0, []⟩ [] ⟨{}, [], []⟩ _ = _
  rw [parseFrom_spelled plain]
  simp [parseFrom, Flags.skip, Level.pattern, Level.current, Pattern.choice]

/-! ### Matching what is spelled -/

/-- What remains to be matched of the atoms. -/
def Atom.remaining : List Atom → List Pattern
  | [] => []
  | atoms => [Pattern.sequence (atoms.map Atom.pattern)]

open Atom

theorem continued_through (ways : List Way) :
    Way.continued (fun slots => [.through slots]) ways = ways := by
  induction ways with
  | nil => rfl
  | cons way ways ih =>
      rw [Way.continued, List.flatMap_cons, ← Way.continued, ih]
      cases way <;> rfl

theorem waysThrough_alone (place : Place) (pattern : Pattern) (slots : Slots) :
    waysThrough place [pattern] slots = pattern.ways place [] slots :=
  continued_through _

theorem waysThrough_sequence (place : Place) (atoms : List Atom) (slots : Slots) :
    waysThrough place [Pattern.sequence (atoms.map Atom.pattern)] slots =
      waysThrough place (remaining atoms) slots := by
  cases atoms with
  | nil => rfl
  | cons atom atoms => rfl

theorem waysThrough_character (place : Place) (c : Char) (atoms : List Atom) (slots : Slots) :
    waysThrough place (remaining (.character c :: atoms)) slots =
      [.over (.single c) (remaining atoms) slots] := by
  rw [remaining, waysThrough_alone]
  cases atoms with
  | nil => rfl
  | cons atom atoms => rfl
  · simp

theorem waysThrough_edge (place : Place) (atoms : List Atom) (slots : Slots) :
    waysThrough place (remaining (.edge :: atoms)) slots =
      if (Look.word .boundary false).holds place.before place.after then
        waysThrough place (remaining atoms) slots
      else [] := by
  cases atoms with
  | nil => exact waysThrough_alone place _ slots
  | cons atom atoms =>
      have first : waysThrough place (remaining (.edge :: atom :: atoms)) slots =
          Way.continued
            ((Pattern.sequence ((atom :: atoms).map Atom.pattern)).ways place [])
            (if (Look.word .boundary false).holds place.before place.after then [.through slots]
            else []) :=
        waysThrough_alone place _ slots
      rw [first, remaining, waysThrough_alone]
      · split
        · exact List.append_nil _
        · rfl
      · simp

section

variable {rest : List Pattern} {slots : Slots} {before : Option Char} {unread : List Char}

theorem follow_congr {other : List Pattern} (found : Option (Nat × Slots))
    (same : waysThrough ⟨before, unread.head?, offset⟩ rest slots =
      waysThrough ⟨before, unread.head?, offset⟩ other slots) :
    follow [⟨rest, slots⟩] before unread offset found =
      follow [⟨other, slots⟩] before unread offset found := by
  cases unread <;> rw [follow, follow] <;> simp only [List.flatMap_singleton, same]

theorem follow_nowhere (nowhere : waysThrough ⟨before, unread.head?, offset⟩ rest slots = []) :
    follow [⟨rest, slots⟩] before unread offset none = none := by
  cases unread <;> rw [follow] <;> simp only [List.flatMap_singleton, nowhere] <;> rfl

theorem follow_through
    (through : waysThrough ⟨before, unread.head?, offset⟩ rest slots = [.through slots]) :
    follow [⟨rest, slots⟩] before unread offset none = some (offset, slots) := by
  cases unread <;> rw [follow] <;> simp only [List.flatMap_singleton, through] <;> rfl

theorem follow_across_nil {set : CharSet} {later : List Pattern}
    (across : waysThrough ⟨before, none, offset⟩ rest slots = [.over set later slots]) :
    follow [⟨rest, slots⟩] before [] offset none = none := by
  rw [follow]
  simp only [List.flatMap_singleton, List.head?_nil, across]
  rfl

theorem follow_across_cons {set : CharSet} {later : List Pattern} {c : Char}
    (across : waysThrough ⟨before, some c, offset⟩ rest slots = [.over set later slots]) :
    follow [⟨rest, slots⟩] before (c :: unread) offset none =
      if set.contains c then follow [⟨later, slots⟩] (some c) unread (offset + 1) none
      else none := by
  rw [follow]
  simp only [List.flatMap_singleton, List.head?_cons, across]
  cases taken : set.contains c <;> simp [Way.preferred, Way.take?, taken, distinctThreads]

end

/-- The matcher finds the match of the atoms where there is one. -/
theorem follow_remaining (inside : offset ≤ text.length) (atoms : List Atom) (slots : Slots) :
    follow [⟨remaining atoms, slots⟩] (text.before? offset) (text.drop offset) offset none =
      (stopAt text atoms offset).map (·, slots) := by
  induction atoms generalizing offset with
  | nil => exact follow_through rfl
  | cons atom atoms ih =>
      cases atom with
      | edge =>
          have ways := waysThrough_edge ⟨text.before? offset, (text.drop offset).head?, offset⟩
            atoms slots
          have place : (Look.word .boundary false).holds (text.before? offset)
              (text.drop offset).head? = text.atEdge Unicode.isWordCharacter offset := by
            rw [List.head?_drop]
            rfl
          rw [place] at ways
          rw [stopAt]
          split
          · rename_i atEdge
            rw [if_pos atEdge] at ways
            rw [follow_congr none ways, ih inside]
          · rename_i within
            rw [if_neg within] at ways
            exact follow_nowhere ways
      | character c =>
          rw [stopAt]
          rcases Nat.lt_or_eq_of_le inside with more | rfl
          · have next : text.before? (offset + 1) = some text[offset] := by
              simp [Text.before?, more]
            rw [List.drop_eq_getElem_cons more, List.getElem?_eq_getElem more,
              follow_across_cons (waysThrough_character _ c atoms slots)]
            simp only [CharSet.contains_single, beq_iff_eq, Option.some.injEq]
            split
            · rw [← next, ih more]
            · rfl
          · rw [List.drop_length, List.getElem?_eq_none (Nat.le_refl _),
              follow_across_nil (waysThrough_character _ c atoms slots)]
            rfl

theorem matchHere_sequence (inside : offset ≤ text.length) (atoms : List Atom) :
    (Pattern.sequence (atoms.map Atom.pattern)).matchHere (text.before? offset) (text.drop offset)
        offset =
      (stopAt text atoms offset).map fun stop => ⟨offset, stop, []⟩ := by
  have same : follow [⟨[Pattern.sequence (atoms.map Atom.pattern)], []⟩] (text.before? offset)
        (text.drop offset) offset none =
      follow [⟨remaining atoms, []⟩] (text.before? offset) (text.drop offset) offset none :=
    follow_congr none (waysThrough_sequence _ atoms [])
  rw [Pattern.matchHere, same, follow_remaining inside, Option.map_map]
  rfl

/-- Characters are matched where they stand. -/
theorem stopAt_characters (word : Text) (atoms : List Atom) :
    stopAt text (word.map .character ++ atoms) offset =
      if word <+: text.drop offset then stopAt text atoms (offset + word.length) else none := by
  induction word generalizing offset with
  | nil => simp
  | cons c word ih =>
      have begins : c :: word <+: text.drop offset ↔
          text[offset]? = some c ∧ word <+: text.drop (offset + 1) := by
        rcases Nat.lt_or_ge offset text.length with more | ended
        · rw [List.drop_eq_getElem_cons more, List.cons_prefix_cons, List.getElem?_eq_getElem more,
            Option.some.injEq, eq_comm]
        · simp [List.drop_eq_nil_of_le ended, List.getElem?_eq_none ended]
      rw [List.map_cons, List.cons_append, stopAt, ih, List.length_cons, Nat.add_right_comm]
      by_cases first : text[offset]? = some c <;> simp [begins, first, Nat.add_assoc]

theorem stopAt_wholeWord (text word : Text) (start : Nat) :
    stopAt text (.edge :: word.map .character ++ [.edge]) start =
      if text.atEdge Unicode.isWordCharacter start ∧ word <+: text.drop start ∧
          text.atEdge Unicode.isWordCharacter (start + word.length) then
        some (start + word.length)
      else none := by
  rw [List.cons_append, stopAt, stopAt_characters, stopAt, stopAt]
  by_cases first : text.atEdge Unicode.isWordCharacter start <;>
    by_cases held : word <+: text.drop start <;>
    simp [first, held]

end Regex

end ModalVi
