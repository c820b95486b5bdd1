import ModalVi.Ex.Substitute

namespace ModalVi

/-! What a substitution reports, and how its line fails to be read. -/

namespace Substitution

theorem gather_lastLine_isSome {rewrite : LineRewrite} {offset : Nat} {lines : List Text}
    (counted : (gather rewrite false offset lines).2.1 ≠ 0) :
    (gather rewrite false offset lines).2.2.isSome := by
  induction lines generalizing offset with
  | nil => exact absurd rfl counted
  | cons line rest ih =>
      simp only [gather] at counted ⊢
      generalize (rewrite (Text.splitFinalBreak line).1) = rewritten at counted ⊢
      obtain ⟨count, replaced⟩ := rewritten
      simp only at counted ⊢
      rw [Option.isSome_or]
      by_cases here : count = 0
      · subst here
        rw [ih (by simpa using counted), Bool.true_or]
      · simp [here]

variable {library : Library} {substitution : Substitution} {first last : Nat} {text : Text}
  {result : SubstitutionResult}

theorem execute_eq_ok : substitution.execute library first last text = .ok result ↔
    ∃ rewrite, substitution.rewrite library = .ok rewrite ∧
      executeWith rewrite substitution.flags.countOnly first last text = result := by
  rw [execute]
  cases substitution.rewrite library <;> simp [Except.map]

/-- A substitution that changed lines tells where the last of them starts. -/
theorem execute_lastLine_isSome
    (executed : substitution.execute library first last text = .ok result)
    (counted : result.count ≠ 0) (rewriting : substitution.flags.countOnly = false) :
    result.lastLine.isSome := by
  obtain ⟨rewrite, _, rfl⟩ := execute_eq_ok.mp executed
  rw [rewriting] at counted ⊢
  exact gather_lastLine_isSome counted

end Substitution

namespace ExCommand

theorem readFlags_error {line : Text} {error : ParseError}
    (failed : readFlags line = .error error) :
    error = .invalidCommand .unknownFlag := by
  simp only [readFlags] at failed
  generalize (⟨false, false, false⟩ : SubstitutionFlags) = flags at failed
  generalize Text.trim line = letters at failed
  induction letters generalizing flags with
  | nil => cases failed
  | cons letter rest ih =>
      rw [List.foldlM_cons] at failed
      split at failed
      · exact ih _ failed
      · exact ih _ failed
      · exact ih _ failed
      · cases failed
        rfl

/-- A line that is no command says so; it never asks for more keys. -/
theorem parse_error {line : Text} {error : ParseError} (failed : parse line = .error error) :
    ∃ fault, error = .invalidCommand fault := by
  simp only [parse] at failed
  split at failed
  · rename_i range body _
    cases body with
    | nil => cases failed
    | cons delimiter rest =>
        simp only [readBody] at failed
        split at failed
        · cases failed
          exact ⟨_, rfl⟩
        · split at failed
          · cases failed
            exact ⟨_, rfl⟩
          · cases read : readFlags ((splitAtDelimiter delimiter false
                ((splitAtDelimiter delimiter false rest).getD (rest, [])).2).getD
                (((splitAtDelimiter delimiter false rest).getD (rest, [])).2, [])).2 with
            | ok flags =>
                rw [read] at failed
                cases failed
            | error fault =>
                rw [read] at failed
                cases failed
                exact ⟨_, readFlags_error read⟩
  · cases failed
    exact ⟨_, rfl⟩

end ExCommand

end ModalVi
