import ModalVi.Proofs.Ex.LineLocal
import ModalVi.Proofs.Session.Repetition
import ModalVi.Proofs.Session.TakingBack

namespace ModalVi

/-! Substitutions that were carried out.

The line that a host enters names lines by the caret, by number or by the selection.  Whatever it finds
there, it leaves the text before these lines and after them alone, remembers one change if there is one,
and puts the caret where the last line with a match has come to start. -/

open Substitution (alone executeWith numbers)
open Text (startOfLine)

namespace Session

variable {library : Library} {session after : Session library} {first last count : Nat}

/-! ### Lines that a range names -/

/-- What is selected when a key asks for a line. -/
def offered (session : Session library) : Option Cursor :=
  if session.mode.isVisual then some session.selected else none

/-- The range names the line: that of the caret, any line, one from the lower number to the higher one
as far as the text goes, or one with a character of the selection in it.  Where nothing is selected, the
line of the caret is named. -/
def Addresses (session : Session library) (range : LineRange) (line : Nat) : Prop :=
  let text := session.text
  let lastLine := text.lineCount - 1
  match range with
  | .current => line = text.lineOf session.caret
  | .all => line ≤ lastLine
  | .lines first last => min (min first last) lastLine ≤ line ∧ line ≤ min (max first last) lastLine
  | .visual =>
      if session.mode.isVisual ∧ session.selected.low < session.selected.high then
        ∃ offset, session.selected.low ≤ offset ∧ offset < session.selected.high ∧
          text.lineOf offset = line
      else line = text.lineOf session.caret

/-- The lines of a selection are those from its first to its last character. -/
theorem linesOf_selected {cursor : Cursor} (given : cursor.low < cursor.high)
    (session : Session library) :
    session.linesOf .visual (some cursor) =
      (session.text.lineOf cursor.low, session.text.lineOf (cursor.high - 1)) := by
  have next := Text.lineOf_succ session.text (cursor.high - 1)
  rw [Nat.sub_add_cancel (Nat.zero_lt_of_lt given)] at next
  have ordered := Text.lineOf_mono session.text (Nat.le_sub_one_of_lt given)
  by_cases broken : session.text[cursor.high - 1]? = some '\n'
  · rw [if_pos broken] at next
    simp [linesOf, broken, next, ordered]
  · rw [if_neg broken] at next
    simp [linesOf, broken, next]

theorem linesOf_empty {cursor : Cursor} (empty : cursor.low = cursor.high)
    (session : Session library) :
    session.linesOf .visual (some cursor) =
      (session.text.lineOf cursor.high, session.text.lineOf cursor.high) := by
  simp [linesOf, empty]

/-- What a range comes to, cut to the text, are the lines that it names. -/
theorem addresses_iff (session : Session library) (range : LineRange) (line : Nat) :
    let lines := session.linesOf range session.offered
    let lastLine := min lines.2 (session.text.lineCount - 1)
    min lines.1 lastLine ≤ line ∧ line ≤ lastLine ↔ session.Addresses range line := by
  have caret : session.text.lineOf session.caret = session.text.lineOf session.cursor.caret :=
    Text.lineOf_min_length session.text session.cursor.caret
  have among (offset : Nat) : session.text.lineOf offset ≤ session.text.lineCount - 1 :=
    Nat.le_sub_one_of_lt (Text.lineOf_lt_lineCount session.text offset)
  have current := among session.cursor.caret
  cases range with
  | current =>
      simp only [linesOf, Addresses, caret]
      omega
  | all =>
      simp only [linesOf, Addresses]
      omega
  | lines first last =>
      simp only [linesOf, Addresses]
      omega
  | visual =>
      rw [Addresses]
      by_cases visual : session.mode.isVisual = true
      · have offered : session.offered = some session.selected := if_pos visual
        by_cases given : session.selected.low < session.selected.high
        · have last := among (session.selected.high - 1)
          have ordered := Text.lineOf_mono session.text (Nat.le_sub_one_of_lt given)
          rw [if_pos ⟨visual, given⟩, ← Text.exists_lineOf_iff given, offered, linesOf_selected given]
          simp only
          omega
        · -- Both ends are the caret, so that its line is what the empty selection stands for.
          have empty : session.selected.low = session.selected.high :=
            Nat.le_antisymm session.selected.low_le_high (Nat.le_of_not_lt given)
          have collapsed : session.selected.high = session.caret := by
            simp only [Cursor.low, Cursor.high] at empty ⊢
            have clamped : session.selected.caret = session.caret := rfl
            omega
          rw [if_neg fun both => given both.2, offered, linesOf_empty empty, collapsed, caret]
          simp only
          omega
      · have offered : session.offered = none := if_neg visual
        rw [if_neg fun both => visual both.1, offered, caret]
        simp only [linesOf]
        omega

/-! ### What an entered line does -/

/-- The lines from `first` to `last` were replaced by what each of them alone becomes, which was
remembered as one change if it was one, and the caret was put where the last of them with a match starts
now. -/
structure Substituted (rewrite : LineRewrite) (first last : Nat) (before after : Session library) :
    Prop where
  text : after.text = before.text.take (startOfLine first before.text) ++
    ((numbers first last).flatMap fun line => (alone rewrite false before.text line).text) ++
      before.text.drop (startOfLine (last + 1) before.text)
  entries : after.history.undoable.length =
    before.history.undoable.length + if after.text = before.text then 0 else 1
  caret : ∃ line, IsGreatest {line | (first ≤ line ∧ line ≤ last) ∧
      (alone rewrite false before.text line).count ≠ 0} line ∧
    after.cursor = .collapsed (startOfLine first before.text +
      ((List.range' first (line - first)).flatMap fun earlier =>
        (alone rewrite false before.text earlier).text).length)
  inside : after.cursor.caret ≤ after.text.length
  lineStart : after.text.lineStart after.cursor.caret = after.cursor.caret

theorem isGreatest_getLast? {matching : Nat → Bool} {line : Nat} (ordered : first ≤ last)
    (chosen : ((numbers first last).filter matching).getLast? = some line) :
    IsGreatest {line | (first ≤ line ∧ line ≤ last) ∧ matching line} line := by
  obtain ⟨front, parts⟩ := List.getLast?_eq_some_iff.mp chosen
  have sorted : ((numbers first last).filter matching).Pairwise (· < ·) :=
    List.Pairwise.filter matching (List.pairwise_lt_range' ..)
  have member (line : Nat) : line ∈ front ++ [line] ↔ True := by simp
  rw [parts, List.pairwise_append] at sorted
  have found (other : Nat) : other ∈ front ++ [line] ↔
      (first ≤ other ∧ other ≤ last) ∧ matching other = true := by
    rw [← parts, List.mem_filter, Substitution.mem_numbers ordered]
  refine ⟨(found line).mp (by simp), fun other known => ?_⟩
  rcases List.mem_append.mp ((found other).mpr known) with earlier | same
  · exact Nat.le_of_lt (sorted.2.2 other earlier line (by simp))
  · exact (List.mem_singleton.mp same).le

/-- Lines that were replaced as a substitution has it. -/
theorem substituted_of_commanded {rewrite : LineRewrite} (ordered : first ≤ last)
    (among : last < session.text.lineCount) (commanded : Commanded session after) :
    let result := executeWith rewrite false first last session.text
    result.count ≠ 0 → after.text = session.text.splice result.start result.stop result.text →
      (∀ offset, result.lastLine = some offset →
        after.cursor = .collapsed (min offset after.text.length)) →
      Substituted rewrite first last session after := by
  intro result counted spliced cursor
  have known : Substitution.LineLocal rewrite false session.text first last result :=
    Substitution.lineLocal_of_le rewrite false ordered among
  obtain ⟨offset, reported⟩ := Option.isSome_iff_exists.mp
    ((known.changed rfl).mpr (Nat.pos_of_ne_zero counted))
  obtain ⟨inside, starts⟩ := known.lineStart offset reported
  rw [← spliced] at inside starts
  have caret : after.cursor = .collapsed offset := by
    rw [cursor offset reported, Nat.min_eq_left inside]
  obtain ⟨line, chosen, place⟩ := Option.map_eq_some_iff.mp ((known.lastLine rfl).symm.trans reported)
  obtain ⟨changes, adds, length, _⟩ := adds_of_commanded commanded
  refine ⟨?_, ?_, ⟨line, ?_, ?_⟩, ?_, ?_⟩
  · rw [spliced, known.start, known.stop, known.new]
    rfl
  · rw [adds.undoable, List.length_append, length, Nat.add_comm]
  · simpa using isGreatest_getLast? ordered chosen
  · rw [caret, ← place, known.start]
  · rw [caret]
    exact inside
  · rw [caret]
    exact starts

theorem cursor_setCursor_min (offset : Nat) (session : Session library) :
    (session.setCursor offset).cursor =
      .collapsed (min offset (session.setCursor offset).text.length) :=
  rfl

theorem text_put_lines (accepts : session.surface.Accepts) (ordered : first ≤ last)
    (result : SubstitutionResult) (start : result.start = startOfLine first session.text)
    (stop : result.stop = startOfLine (last + 1) session.text) :
    (session.put result.start result.stop result.text).text =
      session.text.splice result.start result.stop result.text := by
  have within := Text.startOfLine_mono session.text (Nat.le_succ_of_le ordered)
  have bounded := Text.startOfLine_le (last + 1) session.text
  rw [text_put accepts, start, stop, Nat.min_eq_left bounded, Nat.min_eq_left within]

section Entered

variable {entered : Text} {command : ExCommand} {selection : Option Cursor} {message : String}

/-- A line that reports what it did found matches in the lines that it names. -/
theorem substituted_of_runEx (accepts : session.surface.Accepts)
    (read : ExCommand.parse entered = .ok command)
    (done : session.runEx entered selection = (.ok (.report message), after)) :
    let lines := session.linesOf command.range selection
    let last := min lines.2 (session.text.lineCount - 1)
    let first := min lines.1 last
    ∃ substitution rewrite, session.substitutionOf command = .ok substitution ∧
      substitution.rewrite library = .ok rewrite ∧
      let countOnly := substitution.flags.countOnly
      let count := ((numbers first last).map fun line =>
        (alone rewrite countOnly session.text line).count).sum
      if countOnly then
        message = s!"{count} matches" ∧ after.text = session.text ∧ after.cursor = session.cursor ∧
          after.history = session.history
      else message = s!"{count} substitutions" ∧ Substituted rewrite first last session after := by
  intro lines last first
  have ordered : first ≤ last := Nat.min_le_right _ _
  have among : last < session.text.lineCount := Text.min_lt_lineCount session.text lines.2
  have orderly := orderly_runEx entered selection session
  rw [done] at orderly
  simp only [runEx, read] at done
  cases chosen : session.substitutionOf command with
  | error error =>
      rw [chosen] at done
      cases done
  | ok substitution =>
      cases compiled : substitution.rewrite library with
      | error fault => simp [chosen, Substitution.execute, compiled, Except.map] at done
      | ok rewrite =>
          refine ⟨substitution, rewrite, rfl, compiled, ?_⟩
          have executed : substitution.execute library lines.1 lines.2 session.text =
              .ok (executeWith rewrite substitution.flags.countOnly first last session.text) := by
            rw [Substitution.execute, compiled, Except.map,
              Substitution.executeWith_clamped rewrite _ lines.1 lines.2]
          simp only [chosen] at done
          rw [executed] at done
          dsimp only at done ⊢
          generalize substitution.flags.countOnly = countOnly at done ⊢
          rw [← Substitution.executeWith_count rewrite countOnly ordered among]
          split at done
          · cases done
          · rename_i counted
            cases countOnly with
            | true =>
                simp only [if_true, Prod.mk.injEq, Except.ok.injEq, Flow.report.injEq] at done ⊢
                obtain ⟨said, rfl⟩ := done
                exact ⟨said.symm, rfl, rfl, rfl⟩
            | false =>
                simp only [Bool.false_eq_true, if_false, Prod.mk.injEq, Except.ok.injEq,
                  Flow.report.injEq] at done ⊢
                obtain ⟨said, rfl⟩ := done
                -- What edits the text is a session that remembers the substitution already.
                have known := Substitution.lineLocal_of_le rewrite false ordered among
                have accepted : Surface.Accepts ({ session with
                  lastSubstitution := some substitution } : Session library).surface := accepts
                refine ⟨said.symm, substituted_of_commanded ordered among orderly counted ?_ ?_⟩
                · refine Eq.trans ?_ (text_put_lines accepted ordered _ known.start known.stop)
                  split
                  · exact (kept_setCursor _ _).text
                  · rfl
                · rintro offset reported
                  rw [reported]
                  exact cursor_setCursor_min offset _

end Entered

/-! ### Keys -/

section Key

variable {middle : Session library} {pressed : Key} {message : String} {entered : Text}
  {command : ExCommand}

theorem eq_of_report {attempt : Attempt library Flow}
    (reported : (conclude attempt).1 = .ok (.report message)) :
    ∃ after, attempt = (.ok (.report message), after) ∧
      (conclude attempt).2 = after.dropKeys.settled := by
  obtain ⟨result, after⟩ := attempt
  cases result with
  | error error =>
      by_cases waits : error = .parse .incomplete
      · rw [waits] at reported
        cases reported
      · rw [conclude_error waits] at reported
        cases reported
  | ok flow =>
      cases flow with
      | done => cases reported
      | report said =>
          cases reported
          exact ⟨after, rfl, rfl⟩
      | again count =>
          simp only [conclude, finish] at reported
          split at reported <;> cases reported

/-- The session once a command line has reported something. -/
def answered (visual : Bool) (session : Session library) : Session library :=
  (if visual then session.toCommand else session).dropKeys.settled

/-- A command line of visual mode that succeeds is one of command mode, and then visual mode ends: the
line itself leaves the mode. -/
theorem toCommand_of_visualExPrompt {flow : Flow} (visual : session.mode.isVisual = true)
    (done : session.visualExPrompt = (.ok flow, after)) :
    ∃ middle, session.exPrompt (some session.selected) = (.ok flow, middle) ∧
      after = middle.toCommand := by
  simp only [visualExPrompt] at done
  generalize asked : session.exPrompt (some session.selected) = attempt at done
  obtain ⟨result, middle⟩ := attempt
  simp only [Prod.mk.injEq] at done
  obtain ⟨rfl, rfl⟩ := done
  have mode : middle.mode = session.mode := (beside_of_exPrompt asked).1.mode
  exact ⟨middle, rfl, if_pos (mode ▸ visual)⟩

/-- A key that asks for a command line reports what that reports, and leads back to command mode. -/
theorem exPrompt_of_key
    (asks : session.Dispatches pressed .exPrompt ∨ session.DispatchesVisual pressed .exPrompt)
    (reported : (session.key pressed).1 = .ok (.report message)) :
    ∃ keys changed middle,
      exPrompt session.offered { session with keys, changed } = (.ok (.report message), middle) ∧
        (session.key pressed).2 = middle.answered session.mode.isVisual ∧
        (session.key pressed).2.mode = .command := by
  rcases asks with ⟨c, count, rfl, mode, read⟩ | ⟨c, count, rfl, visual, read⟩
  · have owned : session.mode ≠ .insert := by simp [mode]
    have held : (session.holding (session.keys ++ [c])).mode = .command := mode
    have notVisual : session.mode.isVisual = false := by simp [mode, Mode.isVisual]
    have offered : session.offered = none := if_neg (by simp [notVisual])
    rw [key_char owned, carryOut_of_command held] at reported ⊢
    simp only [runKeys, read] at reported ⊢
    obtain ⟨after, prompted, concluded⟩ := eq_of_report reported
    have stays : after.mode = .command := (beside_of_exPrompt prompted).1.mode.trans mode
    rw [offered, notVisual, concluded]
    exact ⟨session.keys ++ [c], false, after, prompted, rfl, stays⟩
  · have owned : session.mode ≠ .insert := by
      intro inserting
      rw [inserting] at visual
      cases visual
    have held : (session.holding (session.keys ++ [c])).mode.isVisual = true := visual
    have offered : session.offered = some session.selected := if_pos visual
    rw [key_char owned, carryOut_of_visual held] at reported ⊢
    simp only [runVisualKeys, read] at reported ⊢
    obtain ⟨after, prompted, concluded⟩ := eq_of_report reported
    obtain ⟨middle, asked, rfl⟩ := toCommand_of_visualExPrompt held prompted
    rw [concluded, visual, offered]
    exact ⟨session.keys ++ [c], session.changed, middle, asked, rfl, rfl⟩

theorem cursor_toCommand {offset : Nat} (collapsed : session.cursor = .collapsed offset)
    (inside : offset ≤ session.text.length) : session.toCommand.cursor = .collapsed offset := by
  have place : session.cursor.caret = offset := congrArg Cursor.caret collapsed
  simp only [toCommand, place]
  exact congrArg Cursor.collapsed (Nat.min_eq_left inside)

theorem text_answered (visual : Bool) (session : Session library) :
    (session.answered visual).text = session.text := by
  cases visual
  · rfl
  · exact (kept_toCommand session).text

theorem undoable_answered (visual : Bool) (session : Session library) :
    (session.answered visual).history.undoable.length = session.history.undoable.length := by
  cases visual <;> exact History.length_settle _ _

theorem caret_answered (visual : Bool) (session : Session library) :
    (session.answered visual).caret = session.caret := by
  cases visual
  · rfl
  · exact Nat.min_eq_left (Nat.min_le_right session.cursor.caret session.text.length)

theorem Substituted.answered {rewrite : LineRewrite} {before : Session library}
    (substituted : Substituted rewrite first last before middle) (visual : Bool) :
    Substituted rewrite first last before (middle.answered visual) := by
  obtain ⟨line, greatest, caret⟩ := substituted.caret
  have text := text_answered visual middle
  have cursor : (middle.answered visual).cursor = middle.cursor := by
    cases visual
    · rfl
    · have inside := substituted.inside
      rw [caret] at inside
      exact (cursor_toCommand caret inside).trans caret.symm
  refine ⟨text ▸ substituted.text, ?_, ⟨line, greatest, cursor ▸ caret⟩, ?_, ?_⟩
  · rw [undoable_answered, text]
    exact substituted.entries
  · rw [text, cursor]
    exact substituted.inside
  · rw [text, cursor]
    exact substituted.lineStart

/-- Asking for a line only remembers the line. -/
theorem exPrompt_of_ask (selection : Option Cursor) (keys : List Char) (changed : Bool)
    (given : (session.ask .ex).1 = some entered) :
    ∃ prompt prompts,
      exPrompt selection ({ session with keys, changed } : Session library) =
        runEx entered selection { session with keys, changed, prompt, prompts } := by
  simp only [ask] at given
  simp only [exPrompt, ask]
  split at given
  · cases given
    exact ⟨_, _, rfl⟩
  · cases given

/-- A command line that reports what it did has edited the lines that it names and no others: it is one
change if there is any, and leaves the caret at the start of the last line with a match.  Where it only
counts, nothing is edited and the caret stays. -/
theorem substituted_of_key (accepts : session.surface.Accepts)
    (asks : session.Dispatches pressed .exPrompt ∨ session.DispatchesVisual pressed .exPrompt)
    (given : (session.ask .ex).1 = some entered) (read : ExCommand.parse entered = .ok command)
    (reported : (session.key pressed).1 = .ok (.report message)) :
    let after := (session.key pressed).2
    ∃ substitution rewrite first last, session.substitutionOf command = .ok substitution ∧
      substitution.rewrite library = .ok rewrite ∧
      first ≤ last ∧ last < session.text.lineCount ∧
      (∀ line, first ≤ line ∧ line ≤ last ↔ session.Addresses command.range line) ∧
      after.mode = .command ∧
      let countOnly := substitution.flags.countOnly
      let count := ((numbers first last).map fun line =>
        (alone rewrite countOnly session.text line).count).sum
      if countOnly then
        message = s!"{count} matches" ∧ after.text = session.text ∧ after.caret = session.caret ∧
          after.history.undoable.length = session.history.undoable.length
      else message = s!"{count} substitutions" ∧ Substituted rewrite first last session after := by
  intro after
  obtain ⟨keys, changed, middle, prompted, ended, mode⟩ := exPrompt_of_key asks reported
  obtain ⟨prompt, prompts, carried⟩ := exPrompt_of_ask session.offered keys changed given
  have begun : Surface.Accepts
      ({ session with keys, changed, prompt, prompts } : Session library).surface := accepts
  obtain ⟨substitution, rewrite, chosen, compiled, result⟩ :=
    substituted_of_runEx begun read (carried.symm.trans prompted)
  let lines := session.linesOf command.range session.offered
  let last := min lines.2 (session.text.lineCount - 1)
  have among : last < session.text.lineCount := Text.min_lt_lineCount session.text lines.2
  refine ⟨substitution, rewrite, min lines.1 last, last, chosen, compiled, Nat.min_le_right _ _, among,
    session.addresses_iff command.range, mode, ?_⟩
  rw [show after = middle.answered session.mode.isVisual from ended]
  dsimp only at result ⊢
  split at result
  · rename_i counts
    obtain ⟨said, text, cursor, history⟩ := result
    have caret : middle.caret = session.caret := by
      rw [Session.caret, text, cursor]
      rfl
    rw [if_pos counts, text_answered, caret_answered, undoable_answered, text, caret, history]
    exact ⟨said, rfl, rfl, rfl⟩
  · rename_i replaces
    rw [if_neg replaces]
    obtain ⟨text, entries, caret, inside, lineStart⟩ := result.2.answered session.mode.isVisual
    exact ⟨result.1, text, entries, caret, inside, lineStart⟩

/-- The selection stops after the break of the second line, and the third one is left alone. -/
theorem substituted_of_key_selection :
    let surface := (Surface.ofText "aa\naa\naa".toList).select (Selection.ofCursor ⟨6, 1⟩)
    let prompt := Prompt.scripted [some "'<,'>s/a/xy/".toList] []
    let session := (Session.start .standard surface (.ofText []) prompt {}).handle .enter
    let after := (session.key (.char ':')).2
    session.surface.Accepts ∧ session.DispatchesVisual (.char ':') .exPrompt ∧
      (session.ask .ex).1 = some "'<,'>s/a/xy/".toList ∧
      (session.key (.char ':')).1 = .ok (.report "2 substitutions") ∧
      (∃ rewrite first last, (∀ line, first ≤ line ∧ line ≤ last ↔ session.Addresses .visual line) ∧
        Substituted rewrite first last session after) ∧
      after.text = "xya\nxya\naa".toList ∧ after.cursor = .collapsed 4 := by
  intro surface prompt session after
  have accepts : session.surface.Accepts := fun _ => rfl
  have asks : session.DispatchesVisual (.char ':') .exPrompt := ⟨':', 1, rfl, rfl, rfl⟩
  have given : (session.ask .ex).1 = some "'<,'>s/a/xy/".toList := by decide +kernel
  have read : ExCommand.parse "'<,'>s/a/xy/".toList = .ok (.substitute .visual
      ⟨['a'], ['x', 'y'], { everyMatch := false, ignoreCase := false, countOnly := false }⟩) := by
    decide +kernel
  have reported : (session.key (.char ':')).1 = .ok (.report "2 substitutions") := by
    decide +kernel
  obtain ⟨substitution, rewrite, first, last, chosen, _, _, _, addressed, _, edited⟩ :=
    substituted_of_key accepts (.inr asks) given read reported
  cases chosen
  exact ⟨accepts, asks, given, reported, ⟨rewrite, first, last, addressed, edited.2⟩,
    by decide +kernel⟩

end Key

end Session

end ModalVi
