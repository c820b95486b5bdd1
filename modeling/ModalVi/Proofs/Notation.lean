import ModalVi.Key

namespace ModalVi.Key

/-! Keys written one after the other and read back.

No key's spelling runs into that of the next: a bracket that opens a name is closed within the same
spelling, and the key `<` itself is spelled by a name.  So a script is read key by key, and what a key
is read back as does not depend on what follows.  Two keys do not come back: a key without a meaning
has no name, and the name of the chord of `>` ends at the character of the chord. -/

variable {key : Key} {name plain rest : Text} {c : Char}

/-- The keys that the spelling of a key is read as. -/
def readBack (key : Key) : List Key :=
  if key = .ctrl '>' ∨ key = .other then key.spelling.map .char else [key]

theorem readBack_of_kept (notChord : key ≠ .ctrl '>') (meaningful : key ≠ .other) :
    key.readBack = [key] := by
  simp [readBack, notChord, meaningful]

/-- A key that does not come back is read as its opening bracket first. -/
theorem readBack_of_lost (lost : key = .ctrl '>' ∨ key = .other) :
    ∃ later, key.readBack = .char '<' :: later := by
  rw [readBack, if_pos lost]
  rcases lost with rfl | rfl <;> exact ⟨_, rfl⟩

/-! ### Reading one name -/

theorem parse_cons (first : Char) (rest : Text) :
    parse (first :: rest) = (front first rest).1 :: parseAfter (front first rest).2 rest := rfl

theorem parseAfter_length (skipped rest : Text) :
    parseAfter skipped.length (skipped ++ rest) = parse rest := by
  induction skipped with
  | nil => rfl
  | cons c skipped ih => exact ih

/-- Characters that open no name stand for themselves. -/
theorem parse_plain (closed : '<' ∉ plain) (rest : Text) :
    parse (plain ++ rest) = plain.map .char ++ parse rest := by
  induction plain with
  | nil => rfl
  | cons c plain ih =>
      rw [List.mem_cons, not_or] at closed
      have itself : front c (plain ++ rest) = (.char c, 0) := by
        simp [front, Ne.symm closed.1]
      rw [List.cons_append, parse_cons, itself]
      exact congrArg (.char c :: ·) (ih closed.2)

theorem takeWhile_name (closed : '>' ∉ name) (rest : Text) :
    (name ++ '>' :: rest).takeWhile (· != '>') = name := by
  have inside : ∀ c ∈ name, (c != '>') = true := by
    intro c member
    have apart : c ≠ '>' := fun same => closed (same ▸ member)
    simpa using apart
  rw [List.takeWhile_append_of_pos inside, List.takeWhile_cons_of_neg (by decide), List.append_nil]

/-- A name in brackets is read as its key, whatever follows. -/
theorem parse_named (name : Text) (closed : '>' ∉ name) (known : named name = some key)
    (rest : Text) :
    parse ('<' :: name ++ '>' :: rest) = key :: parse rest := by
  have opened : front '<' (name ++ '>' :: rest) = (key, name.length + 1) := by
    simp [front, takeWhile_name closed, known]
  have spelled : (name ++ ['>']).length = name.length + 1 := by simp
  have whole : name ++ '>' :: rest = name ++ ['>'] ++ rest := by simp
  rw [List.cons_append, parse_cons, opened, whole, ← spelled, parseAfter_length]

/-- The bracket before a name that there is not stands for itself. -/
theorem parse_unnamed (name : Text) (closed : '>' ∉ name) (unknown : named name = none)
    (rest : Text) :
    parse ('<' :: name ++ '>' :: rest) = .char '<' :: parse (name ++ '>' :: rest) := by
  have opened : front '<' (name ++ '>' :: rest) = (.char '<', 0) := by
    simp [front, takeWhile_name closed, unknown]
  rw [List.cons_append, parse_cons, opened]
  rfl

/-- No other name looks like that of a chord. -/
theorem named_chord (c : Char) : named ['C', '-', c] = some (.ctrl c) := by
  have other : names.lookup (['C', '-', c].map Char.toLower) = none := rfl
  simp only [named, other]
  rfl

/-! ### Reading a script -/

/-- What is written for a key is read back alike before anything else. -/
theorem parse_spelling_append (key : Key) (rest : Text) :
    parse (key.spelling ++ rest) = key.readBack ++ parse rest := by
  cases key with
  | char c =>
      by_cases bracket : c = '<'
      · subst bracket
        exact parse_named ['l', 't'] (by decide) (by decide) rest
      · by_cases line : c = '\n'
        · subst line
          exact parse_named ['C', 'R'] (by decide) (by decide) rest
        · have spelled : (char c).spelling = [c] := by
            simp only [spelling]
          rw [spelled]
          exact parse_plain (by simpa using Ne.symm bracket) rest
  | ctrl c =>
      by_cases bracket : c = '>'
      · subst bracket
        have unread : parse ((ctrl '>').spelling ++ rest) =
            .char '<' :: parse ("C->>".toList ++ rest) :=
          parse_unnamed ['C', '-'] (by decide) (by decide) ('>' :: rest)
        rw [unread, parse_plain (by decide)]
        rfl
      · have itself : (ctrl c).readBack = [ctrl c] := readBack_of_kept (by simpa using bracket) nofun
        rw [itself]
        exact parse_named ['C', '-', c] (by simpa using Ne.symm bracket)
          (named_chord c) rest
  | escape => exact parse_named ['E', 's', 'c'] (by decide) (by decide) rest
  | tab => exact parse_named ['T', 'a', 'b'] (by decide) (by decide) rest
  | other =>
      have unread : parse (other.spelling ++ rest) = .char '<' :: parse ("?>".toList ++ rest) :=
        parse_unnamed ['?'] (by decide) (by decide) rest
      rw [unread, parse_plain (by decide)]
      rfl

theorem parse_flatMap_spelling (keys : List Key) :
    parse (keys.flatMap spelling) = keys.flatMap readBack := by
  induction keys with
  | nil => rfl
  | cons key keys ih => rw [List.flatMap_cons, parse_spelling_append, ih, List.flatMap_cons]

/-- Written keys are read one by one as they are spelled, and come back as themselves exactly if none of
them is the chord of `>` or a key without a meaning. -/
theorem parse_eq_iff_of_spelled (keys : List Key) :
    parse (keys.flatMap spelling) = keys.flatMap readBack ∧
      (parse (keys.flatMap spelling) = keys ↔ .ctrl '>' ∉ keys ∧ .other ∉ keys) := by
  refine ⟨parse_flatMap_spelling keys, ?_⟩
  rw [parse_flatMap_spelling]
  induction keys with
  | nil => simp
  | cons key keys ih =>
      rw [List.flatMap_cons]
      by_cases lost : key = .ctrl '>' ∨ key = .other
      · obtain ⟨later, read⟩ := readBack_of_lost lost
        rw [read]
        rcases lost with rfl | rfl <;> simp
      · rw [not_or] at lost
        rw [readBack_of_kept lost.1 lost.2, List.singleton_append, List.cons_inj_right, ih]
        simp [Ne.symm lost.1, Ne.symm lost.2]

/-- The chord of `>` comes back as the five characters that spell it. -/
theorem parse_chord_of_bracket :
    parse ([ctrl '>'].flatMap spelling) = [.char '<', .char 'C', .char '-', .char '>', .char '>'] ∧
      parse ([ctrl '>'].flatMap spelling) ≠ [ctrl '>'] ∧ .other ∉ [ctrl '>'] := by
  decide

end ModalVi.Key
