import ModalVi.Proofs.Ex.Substitute
import ModalVi.Proofs.Motion.Failure
import ModalVi.Proofs.Session.Effect

namespace ModalVi.Session

/-! What commands do, and what they leave alone when they fail.

Everything a command reads, asks for or looks up comes before its first edit.  So a command that fails
left the session `Untouched`, and one that was carried out was `Commanded`. -/

variable {library : Library} {before middle session : Session library} {α : Type}

/-- The attempt was carried out with at most one edit, or it failed and touched nothing.  No attempt
fails for want of keys: the keys were read before. -/
def Orderly (before : Session library) : Attempt library α → Prop
  | (.ok _, after) => Commanded before after
  | (.error error, after) => error ≠ .parse .incomplete ∧ Untouched before after

theorem Orderly.of_untouched {attempt : Attempt library α} (orderly : Orderly middle attempt)
    (untouched : Untouched before middle) (cursor : middle.cursor = before.cursor) :
    Orderly before attempt := by
  obtain ⟨result, after⟩ := attempt
  cases result with
  | ok answer => exact Commanded.of_untouched orderly untouched cursor
  | error error => exact ⟨orderly.1, untouched.trans orderly.2⟩

/-! ### Motions -/

/-- A command with a motion is orderly if it is once the motion is resolved. -/
theorem orderly_withTarget {change : Bool} {motion : Motion} {count : Nat}
    {act : Cursor → Session library → Attempt library Unit}
    (acts : ∀ cursor session, Orderly session (act cursor session)) :
    Orderly session (session.withTarget change motion count act) := by
  simp only [withTarget, target]
  split
  · rename_i cursor remembering resolved
    split at resolved
    · cases resolved
      have acted := acts cursor { session with charSearch := motion.remember session.charSearch }
      exact acted.of_untouched (.memory ..) rfl
    · cases resolved
  · rename_i error remembering resolved
    split at resolved
    · cases resolved
    · rename_i fault unresolved
      cases resolved
      obtain ⟨fault, rfl⟩ := Standpoint.resolve_error unresolved
      exact ⟨by simp, .memory ..⟩

/-! ### The clipboard -/

theorem orderly_copy (content : Text) (session : Session library) :
    Orderly session (session.copy content) := by
  cases fault : session.clipboard.faults 0 with
  | some error =>
      simp only [copy, Clipboard.write, fault]
      exact ⟨by simp, rfl, rfl, rfl, rfl, rfl, rfl, rfl, rfl, rfl⟩
  | none =>
      simp only [copy, Clipboard.write, fault]
      exact .inl ⟨⟨rfl, rfl, rfl, 0, fun _ => rfl⟩, rfl, rfl, rfl, .inl rfl, .inl rfl⟩

theorem orderly_copy_setCursor (content : Text) (offset : Nat) (session : Session library) :
    Orderly session
      (match session.copy content with
        | (.ok (), session) => (.ok (), session.setCursor offset)
        | failed => failed) := by
  have copied := orderly_copy content session
  split
  · rename_i after done
    rw [done] at copied
    exact Commanded.setCursor copied offset
  · exact copied

theorem untouched_paste {result : Except EditError Text} {after : Session library}
    (pasted : session.paste = (result, after)) :
    Untouched session after ∧ after.cursor = session.cursor ∧
      result ≠ .error (.parse .incomplete) := by
  cases fault : session.clipboard.faults 0 with
  | some error =>
      simp only [paste, Clipboard.read, fault] at pasted
      cases pasted
      exact ⟨⟨rfl, rfl, rfl, rfl, rfl, rfl, rfl, rfl, rfl⟩, rfl, by simp⟩
  | none =>
      simp only [paste, Clipboard.read, fault] at pasted
      cases pasted
      exact ⟨⟨rfl, rfl, rfl, rfl, rfl, rfl, rfl, rfl, rfl⟩, rfl, by simp⟩

/-! ### Searches -/

/-- A search that finds nothing fails with what was wrong, never for want of keys. -/
theorem findTimes_error {text : Text} {reversed : Bool} {count offset : Nat}
    {search later : Search} {error : EditError}
    (failed : findTimes library text reversed count offset search = (.error error, later)) :
    error ≠ .parse .incomplete := by
  induction count generalizing offset search with
  | zero => cases failed
  | succ count ih =>
      simp only [findTimes] at failed
      split at failed
      · rename_i fault searched found
        cases failed
        simp only [Search.find] at found
        split at found
        · cases found
        · split at found
          · cases found
            simp
          · split at found <;> cases found
      · cases failed
        simp
      · split at failed
        · cases failed
        · exact ih failed

theorem orderly_searchMove (untouched : Untouched before session) (reversed : Bool) (count : Nat) :
    Orderly before (session.searchMove reversed count) := by
  simp only [searchMove]
  cases found : findTimes library session.text reversed count session.cursor.caret session.search with
  | mk result search =>
      have searched : Untouched before { session with search } :=
        untouched.trans (.memory ..)
      cases result with
      | ok offset => exact .inl (searched.kept.trans (kept_setCursor offset _))
      | error error => exact ⟨findTimes_error found, searched⟩

theorem orderly_searchWord (direction : Direction) (count : Nat) (session : Session library) :
    Orderly session (session.searchWord direction count) := by
  simp only [searchWord]
  split
  · exact ⟨by simp, .refl session⟩
  · apply orderly_searchMove
    apply Untouched.memory

/-! ### Prompts -/

theorem untouched_ask {kind : PromptKind} {line : Option Text} {after : Session library}
    (asked : session.ask kind = (line, after)) :
    Untouched session after ∧ after.cursor = session.cursor := by
  simp only [ask] at asked
  split at asked <;> cases asked <;> exact ⟨.memory .., rfl⟩

theorem orderly_searchPrompt (kind : PromptKind) (session : Session library) :
    Orderly session (session.searchPrompt kind) := by
  simp only [searchPrompt]
  split
  · rename_i after asked
    exact .inl (untouched_ask asked).1.kept
  · rename_i after asked
    have untouched := (untouched_ask asked).1
    split
    · apply orderly_searchMove
      exact untouched.trans (.memory ..)
    · exact ⟨by simp, untouched⟩
  · rename_i line after _ asked
    have untouched := (untouched_ask asked).1
    apply orderly_searchMove
    exact untouched.trans (.memory ..)

/-- The substitution to carry out is missing only where there is none to repeat. -/
theorem substitutionOf_error {command : ExCommand} {error : EditError}
    (missing : session.substitutionOf command = .error error) :
    error = .substitute .noPrevious := by
  cases command with
  | substitute range substitution => cases missing
  | substituteAgain range =>
      simp only [substitutionOf] at missing
      split at missing <;> cases missing
      rfl

/-- An entered line replaces the lines it is for once, or fails before that. -/
theorem orderly_runEx (line : Text) (selection : Option Cursor) (session : Session library) :
    Orderly session (session.runEx line selection) := by
  simp only [runEx]
  split
  · rename_i error unread
    obtain ⟨fault, rfl⟩ := ExCommand.parse_error unread
    exact ⟨by simp, .refl session⟩
  · rename_i command read
    split
    · rename_i error missing
      rw [substitutionOf_error missing]
      exact ⟨by simp, .refl session⟩
    · rename_i substitution chosen
      split
      · exact ⟨by simp, .refl session⟩
      · rename_i result executed
        split
        · exact ⟨by simp, .memory ..⟩
        · rename_i counted
          split
          · exact .inl (Untouched.memory ..).kept
          · rename_i rewriting
            obtain ⟨offset, lastLine⟩ := Option.isSome_iff_exists.mp
              (Substitution.execute_lastLine_isSome executed counted (by simpa using rewriting))
            rw [lastLine]
            let known : Session library := { session with lastSubstitution := some substitution }
            have put := commanded_put result.start result.stop result.text offset known
            exact put.of_untouched (.memory ..) rfl

theorem orderly_exPrompt (selection : Option Cursor) (session : Session library) :
    Orderly session (session.exPrompt selection) := by
  simp only [exPrompt]
  split
  · rename_i after asked
    exact .inl (untouched_ask asked).1.kept
  · rename_i line after asked
    obtain ⟨untouched, cursor⟩ := untouched_ask asked
    exact (orderly_runEx line selection after).of_untouched untouched cursor

/-! ### Commands of command mode -/

theorem commanded_openBelow (session : Session library) : Commanded session session.openBelow := by
  simp only [openBelow]
  exact (commanded_put ..).toInsert

theorem replaces_putText (after : Bool) (content : Text) (session : Session library) :
    Replaces session (session.putText after content) := by
  simp only [putText]
  split
  · split
    · split <;> exact replaces_put ..
    · exact replaces_put ..
  · exact replaces_put ..

theorem orderly_putClipboard (after : Bool) (count : Nat) (session : Session library) :
    Orderly session (session.putClipboard after count) := by
  simp only [putClipboard]
  split
  · rename_i error next pasted
    obtain ⟨untouched, _, noPrefix⟩ := untouched_paste pasted
    exact ⟨fun same => noPrefix (congrArg Except.error same), untouched⟩
  · rename_i next pasted
    exact .inl (untouched_paste pasted).1.kept
  · rename_i content next _ pasted
    obtain ⟨untouched, cursor, _⟩ := untouched_paste pasted
    exact (replaces_putText after _ next).commanded.of_untouched untouched cursor

theorem replaces_shift (inward whole : Bool) (cursor : Cursor) (session : Session library) :
    Replaces session (session.shift inward whole cursor) := by
  simp only [shift]
  split
  · rename_i made
    exact .placed made _
  · rename_i refused
    exact .refused refused

theorem replaces_join (between : Text) (count : Nat) (session : Session library) :
    Replaces session (session.join between count) := by
  simp only [join]
  split
  · rename_i made
    exact .placed made _
  · rename_i refused
    exact .refused refused

theorem commanded_reflow (start stop : Nat) (session : Session library) :
    Commanded session (session.reflow start stop) :=
  commanded_put ..

theorem orderly_act {command : Command} (notUndo : command ≠ .undo) (count : Nat)
    (session : Session library) : Orderly session (session.act command count) := by
  cases command with
  | insert => exact .inl (kept_toInsert session)
  | insertAtIndent | append | appendAtLineEnd =>
      exact .inl ((kept_setCursor _ session).trans (kept_toInsert _))
  | openBelow => exact commanded_openBelow session
  | openAbove => exact (commanded_put ..).toInsert
  | deleteAhead inserting | deleteToLineEnd inserting =>
      cases inserting with
      | false => exact commanded_erase ..
      | true => exact (commanded_erase ..).toInsert
  | deleteBehind => exact commanded_erase ..
  | changeLines => exact (commanded_erase ..).toInsert
  | delete motion => exact orderly_withTarget fun _ _ => commanded_erase ..
  | change motion => exact orderly_withTarget fun _ _ => (commanded_erase ..).toInsert
  | yank motion => exact orderly_withTarget fun _ _ => orderly_copy_setCursor ..
  | yankLines => exact orderly_copy _ session
  | put after => exact orderly_putClipboard after count session
  | shift inward motion => exact orderly_withTarget fun _ _ => (replaces_shift ..).commanded
  | join between => exact (replaces_join between count session).commanded
  | reflow motion => exact orderly_withTarget fun _ _ => commanded_reflow ..
  | swapCase => exact commanded_put ..
  | visual kind => exact .inl (kept_showCursor _ _ session)
  | searchWord direction => exact orderly_searchWord direction count session
  | searchNext reversed => exact orderly_searchMove (.refl session) reversed count
  | searchPrompt kind => exact orderly_searchPrompt kind session
  | undo => exact absurd rfl notUndo
  | move motion => exact orderly_withTarget fun _ session => .inl (kept_setCursor _ session)
  | exPrompt | repeatLast => exact .inl (.refl session)

/-- Carrying a command out and remembering it is orderly. -/
theorem orderly_run {command : Command} (notUndo : command ≠ .undo) (keys : List Char) (count : Nat)
    (session : Session library) : Orderly session (session.run keys command count) := by
  let begun : Session library := { session with changed := false }
  have fresh : Untouched session begun := .memory ..
  have acted := orderly_act notUndo count begun
  simp only [run]
  split
  · exact (orderly_exPrompt none _).of_untouched fresh rfl
  · exact .inl fresh.kept
  · split
    · rename_i error after failed
      rw [failed] at acted
      exact acted.of_untouched fresh rfl
    · rename_i after done
      rw [done] at acted
      have commanded := Commanded.of_untouched acted fresh rfl
      split
      · exact commanded.recorded _
      · exact commanded

end ModalVi.Session
