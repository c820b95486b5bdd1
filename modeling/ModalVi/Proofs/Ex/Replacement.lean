import ModalVi.Ex.Replacement

namespace ModalVi.Replacement

/-! What a replacement inserts.

A replacement says what it inserts character by character.  It is not read that way for each match but
turned into a template once, and the template is expanded.  Whatever the groups hold, that inserts the
same: every dollar sign of a template begins a pair of them or a group in braces. -/

variable {group : Nat → Option Text} {expansion : Text → Text}

/-- What a replacement inserts, read from the left. -/
def meaning (group : Nat → Option Text) : Text → Text
  | [] => []
  | ['\\'] => ['\\']
  | '\\' :: c :: rest =>
      (if c.isDigit then (group (c.toNat - '0'.toNat)).getD []
      else if c = 'n' then ['\n']
      else if c = 't' then ['\t']
      else [c]) ++ meaning group rest
  | c :: rest => (if c = '&' then (group 0).getD [] else [c]) ++ meaning group rest

/-- The rules for templates: a digit in braces after a dollar sign is a group, two dollar signs are one,
and any other character stands for itself. -/
structure Expands (group : Nat → Option Text) (expansion : Text → Text) : Prop where
  nothing : expansion [] = []
  reference : ∀ digit rest, digit.isDigit = true →
    expansion ('$' :: '\x7b' :: digit :: '\x7d' :: rest) =
      (group (digit.toNat - '0'.toNat)).getD [] ++ expansion rest
  dollar : ∀ rest, expansion ('$' :: '$' :: rest) = '$' :: expansion rest
  other : ∀ c rest, c ≠ '$' → expansion (c :: rest) = c :: expansion rest

theorem escaped_eq (c : Char) :
    escaped c = if c = 'n' then '\n' else if c = 't' then '\t' else c := by
  rw [escaped.eq_def]
  split
  · rfl
  · rfl
  · rename_i notBreak notTab
    rw [if_neg notBreak, if_neg notTab]

namespace Expands

theorem verbatim (expands : Expands group expansion) (c : Char) (rest : Text) :
    expansion (verbatim c ++ rest) = c :: expansion rest := by
  by_cases dollar : c = '$'
  · subst dollar
    exact expands.dollar rest
  · have alone : Replacement.verbatim c = [c] := if_neg (by simpa using dollar)
    rw [alone]
    exact expands.other c rest dollar

theorem escaped (expands : Expands group expansion) (c : Char) (rest : Text) :
    expansion (Replacement.verbatim (escaped c) ++ rest) =
      (if c = 'n' then ['\n'] else if c = 't' then ['\t'] else [c]) ++ expansion rest := by
  rw [expands.verbatim, escaped_eq]
  split
  · rfl
  · split <;> rfl

/-- By these rules the template of a replacement inserts what the replacement says. -/
theorem expansion_translate (expands : Expands group expansion) (replacement : Text) :
    expansion (translate replacement) = meaning group replacement := by
  induction replacement using translate.induct with
  | case1 => exact expands.nothing
  | case2 => exact (expands.other '\\' [] (by decide)).trans (congrArg _ expands.nothing)
  | case3 c rest ih =>
      rw [translate, meaning]
      by_cases digit : c.isDigit = true
      · rw [if_pos digit, if_pos digit, ← ih]
        exact expands.reference c _ digit
      · rw [if_neg digit, if_neg digit, expands.escaped, ih]
  | case4 c rest _ _ ih =>
      rw [translate, meaning]
      · by_cases whole : c = '&'
        · subst whole
          rw [if_pos rfl, ← ih]
          exact expands.reference '0' _ rfl
        · rw [if_neg (by simpa using whole), if_neg whole, expands.verbatim, ih]
          rfl
      all_goals assumption

end Expands

theorem groupNumber?_digit {digit : Char} (isDigit : digit.isDigit = true) :
    groupNumber? [digit] = some (digit.toNat - '0'.toNat) := by
  simp [groupNumber?, isDigit]

/-- Templates are expanded by these rules. -/
theorem expands_expand (group : Nat → Option Text) : Expands group (expand group) where
  nothing := rfl
  reference digit rest isDigit := by
    have inside : (digit != '\x7d') = true := by
      simp only [bne_iff_ne, ne_eq]
      rintro rfl
      exact absurd isDigit (by decide)
    simp [expand, expandAfter, inside, groupNumber?_digit isDigit]
  dollar _ := rfl
  other c rest notDollar := by
    simp [expand, expandAfter, notDollar]

/-- A template inserts what its replacement says, whatever the groups hold and however it is expanded by
the rules. -/
theorem expand_translate (group : Nat → Option Text) (replacement : Text) :
    expand group (translate replacement) = meaning group replacement ∧
      ∀ expansion, Expands group expansion →
        expansion (translate replacement) = meaning group replacement :=
  ⟨(expands_expand group).expansion_translate replacement,
    fun _ expands => expands.expansion_translate replacement⟩

/-- Dollar signs, braces and digits beside groups, one of which took no part in the match. -/
theorem expand_translate_of_dollars :
    let group (index : Nat) : Option Text := [some "ab".toList, some ['$'], none][index]?.join
    let replacement : Text := "$&\\1\x7b1\x7d\\2$\\$1\\n\\\\&\\&\\".toList
    let result : Text := "$ab$\x7b1\x7d$$1\n\\ab&\\".toList
    Expands group (expand group) ∧ meaning group replacement = result ∧
      expand group (translate replacement) = result := by
  intro group replacement result
  have meant : meaning group replacement = result := by decide
  have inserted := (expand_translate group replacement).2 (expand group) (expands_expand group)
  exact ⟨expands_expand group, meant, inserted.trans meant⟩

end ModalVi.Replacement
