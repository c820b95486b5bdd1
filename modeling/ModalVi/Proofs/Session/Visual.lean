import ModalVi.Proofs.Session.Command

namespace ModalVi.Session

/-! What commands of visual mode do.

They are orderly like those of command mode, but for the command line: when that fails, visual mode
has ended all the same. -/

variable {library : Library} {session after : Session library}

theorem kept_of_extend {motion : Motion} {count : Nat}
    (done : session.extend motion count = (.ok (), after)) : Kept session after := by
  simp only [extend] at done
  split at done
  · cases done
  · have remembered : Untouched session
        { session with charSearch := motion.remember session.charSearch } := .memory ..
    obtain ⟨-, rfl⟩ := Prod.mk.inj done
    exact remembered.kept.trans (kept_showCursor _ _ _)

theorem untouched_of_extend {motion : Motion} {count : Nat} {error : EditError}
    (failed : session.extend motion count = (.error error, after)) :
    error ≠ .parse .incomplete ∧ Untouched session after := by
  simp only [extend] at failed
  split at failed
  · rename_i unresolved
    cases failed
    obtain ⟨fault, rfl⟩ := Standpoint.resolve_error unresolved
    exact ⟨by simp, .memory ..⟩
  · cases failed

theorem replaces_joinSelection (between : Text) (low high : Nat) (session : Session library) :
    Replaces session (session.joinSelection between low high) := by
  simp only [joinSelection]
  split
  · rename_i made
    exact .placed made _
  · rename_i refused
    exact .placed refused _

theorem commanded_shiftSelection (inward : Bool) (low high : Nat) (session : Session library) :
    Commanded session (session.shiftSelection inward low high) :=
  commanded_put ..

/-- A command of visual mode that asks for no line is orderly. -/
theorem orderly_runVisual {command : VisualCommand} (notEx : command ≠ .exPrompt) (count : Nat)
    (session : Session library) : Orderly session (session.runVisual command count) := by
  cases command with
  | selectCharacters => exact .inl ⟨⟨rfl, rfl, rfl, .refl _⟩, rfl, rfl, rfl, .inl rfl, .inl rfl⟩
  | selectLines => exact .inl (kept_showCursor _ _ session)
  | swapEnds => exact .inl (kept_showCursor _ session.mode session)
  | delete => exact (commanded_erase ..).toCommand
  | change => exact (commanded_erase ..).toInsert
  | yank =>
      have copied := orderly_copy (session.text.slice session.selected.low session.selected.high)
        session
      simp only [runVisual]
      split
      · rename_i next done
        rw [done] at copied
        exact (Commanded.setCursor copied _).toCommand
      · rename_i error next failed
        rw [failed] at copied
        exact copied
  | put =>
      simp only [runVisual]
      split
      · rename_i content next pasted
        obtain ⟨untouched, cursor, _⟩ := untouched_paste pasted
        exact ((commanded_put ..).of_untouched untouched cursor).toCommand
      · rename_i error next pasted
        obtain ⟨untouched, _, noPrefix⟩ := untouched_paste pasted
        exact ⟨fun same => noPrefix (congrArg Except.error same), untouched⟩
  | shift inward => exact (commanded_shiftSelection ..).toCommand
  | join between => exact (replaces_joinSelection ..).commanded.toCommand
  | reflow => exact (commanded_reflow ..).toCommand
  | swapCase => exact (commanded_put ..).toCommand
  | exPrompt => exact absurd rfl notEx
  | extend motion =>
      simp only [runVisual]
      split
      · rename_i done
        exact .inl (kept_of_extend done)
      · rename_i failed
        exact untouched_of_extend failed

/-- The command line of visual mode: it edits like the one of command mode, and when it fails, only
visual mode has ended. -/
theorem visualExPrompt_cases {result : Except EditError Flow}
    (asked : session.visualExPrompt = (result, after)) :
    (∃ flow, result = .ok flow ∧ Commanded session after) ∨
      ∃ error middle, result = .error error ∧ error ≠ .parse .incomplete ∧
        Untouched session middle ∧
        after = if session.mode.isVisual then middle.toCommand else middle := by
  have prompted := orderly_exPrompt (some session.selected) session
  simp only [visualExPrompt] at asked
  generalize session.exPrompt (some session.selected) = attempt at asked prompted
  obtain ⟨answer, middle⟩ := attempt
  cases answer with
  | ok flow =>
      cases asked
      refine .inl ⟨flow, rfl, ?_⟩
      split
      · exact Commanded.toCommand prompted
      · exact prompted
  | error error =>
      cases asked
      refine .inr ⟨error, middle, rfl, prompted.1, prompted.2, ?_⟩
      rw [prompted.2.mode]

end ModalVi.Session
