import ModalVi.Proofs.Session.Steady
import ModalVi.Proofs.Strict.Edit

namespace ModalVi.Strict

/-! Commands with every access checked.

Only the matcher that a session keeps from its last search could ask for more than there is.  The library
is relied upon to find spans of the text, but a matcher for another pattern than it says might answer with
anything.  As long as it is genuine, a command comes to what it comes to without the checks, wherever the
cursor and the selection are. -/

variable {library : Library} {session : Session library}

/-! ### Searches -/

def searchMove (reversed : Bool) (count : Nat) (session : Session library) :
    Option (Attempt library Unit) :=
  (findTimes library session.text reversed count session.cursor.caret session.search).map
    fun (found, search) =>
      let session := { session with search }
      match found with
      | .ok offset => (.ok (), session.setCursor offset)
      | .error error => (.error error, session)

def searchWord (direction : Direction) (count : Nat) (session : Session library) :
    Option (Attempt library Unit) :=
  let text := session.text
  let (low, high) := text.wordAround library.isPunctuation session.caret
  if low = high then some (.error (.parse (.invalidCommand .noWord)), session)
  else do
    let word ← slice text low high
    let search := session.search.set (.wholeWord library word) direction
    searchMove false count { session with search, cursor := Cursor.collapsed low }

def searchPrompt (kind : PromptKind) (session : Session library) : Option (Attempt library Unit) :=
  let direction := Session.promptDirection kind
  match session.ask kind with
  | (none, session) => some (.ok (), session)
  | (some [], session) =>
      if session.search.hasPattern then
        searchMove false 1 { session with search := session.search.setDirection direction }
      else some (.error (.parse (.invalidCommand .noPreviousSearch)), session)
  | (some line, session) =>
      searchMove false 1 { session with search := session.search.set (.entered line) direction }

/-- The word at a place is a span of the text. -/
theorem slice_wordAround (marks : Char → Bool) {text : Text} {place : Nat}
    (inside : place ≤ text.length) :
    slice text (text.wordAround marks place).1 (text.wordAround marks place).2 =
      some (text.slice (text.wordAround marks place).1 (text.wordAround marks place).2) := by
  have backward : (Reader.backward text place).direction = .backward := rfl
  have forward : (Reader.forward text place).direction = .forward := rfl
  have start : (text.wordAround marks place).1 ≤ _ := Reader.offset_advance_le backward _
  have stop : _ ≤ (text.wordAround marks place).2 := Reader.le_offset_advance forward _
  have begun : (Reader.backward text place).offset = place := Reader.offset_facing .backward inside
  have ended : (Reader.forward text place).offset = place := Reader.offset_facing .forward inside
  rw [begun] at start
  rw [ended] at stop
  exact slice_eq (Nat.le_trans start stop)
    (Reader.Reads.facing .forward place).skipWordParts.offset_le

section

variable (spans : library.FindsSpans)
include spans

theorem searchMove_eq (genuine : session.search.Genuine library) (reversed : Bool) (count : Nat) :
    searchMove reversed count session = some (session.searchMove reversed count) := by
  simp only [searchMove, findTimes_eq spans genuine, Option.map_some]
  rfl

theorem searchWord_eq (genuine : session.search.Genuine library) (direction : Direction)
    (count : Nat) :
    searchWord direction count session = some (session.searchWord direction count) := by
  have word := slice_wordAround library.isPunctuation session.caret_le_length
  simp only [searchWord, Session.searchWord, word, Option.bind_eq_bind, Option.bind_some]
  split
  · rfl
  · apply searchMove_eq spans
    exact genuine

theorem searchPrompt_eq (genuine : session.search.Genuine library) (kind : PromptKind) :
    searchPrompt kind session = some (session.searchPrompt kind) := by
  have asking := (Session.steady_ask kind session).matcher genuine
  simp only [searchPrompt, Session.searchPrompt]
  generalize session.ask kind = answer at asking ⊢
  obtain ⟨_ | _ | ⟨c, rest⟩, after⟩ := answer
  · rfl
  · dsimp only
    split
    · apply searchMove_eq spans
      exact asking
    · rfl
  · apply searchMove_eq spans
    exact asking

end

/-! ### Command lines -/

def linesOf (range : LineRange) (selection : Option Cursor) (session : Session library) :
    Option (Nat × Nat) := do
  let text := session.text
  let current ← lineOf text (min session.cursor.caret text.length)
  match range with
  | .current => some (current, current)
  | .all => some (0, text.lineCount - 1)
  | .lines first last => some (min first last, max first last)
  | .visual =>
      match selection with
      | none => some (current, current)
      | some cursor => do
          let first ← lineOf text (min cursor.low text.length)
          let last ← lineOf text (min cursor.high text.length)
          if cursor.low < cursor.high ∧ first < last then do
            let nearest ← back cursor.high 1
            let c ← text[nearest]?
            if c = '\n' then (back last 1).map (first, ·) else some (first, last)
          else some (first, last)

def runEx (line : Text) (selection : Option Cursor) (session : Session library) :
    Option (Attempt library Flow) :=
  match ExCommand.parse line with
  | .error error => some (.error (.parse error), session)
  | .ok command =>
      match session.substitutionOf command with
      | .error error => some (.error error, session)
      | .ok substitution => do
          let (first, last) ← linesOf command.range selection session
          match ← execute library substitution first last session.text with
          | .error fault => some (.error (.searchPattern fault), session)
          | .ok result =>
              let session := { session with lastSubstitution := some substitution }
              if result.count = 0 then
                some (.error (.substitute (.patternNotFound substitution.pattern)), session)
              else if substitution.flags.countOnly then
                some (.ok (.report s!"{result.count} matches"), session)
              else
                (put result.start result.stop result.text session).map fun session =>
                  let session :=
                    match result.lastLine with
                    | some offset => session.setCursor offset
                    | none => session
                  (.ok (.report s!"{result.count} substitutions"), session)

def exPrompt (selection : Option Cursor) (session : Session library) :
    Option (Attempt library Flow) :=
  match session.ask .ex with
  | (none, session) => some (.ok .done, session)
  | (some line, session) => runEx line selection session

theorem linesOf_eq (range : LineRange) {selection : Option Cursor}
    (within : ∀ cursor, selection = some cursor → cursor.Within session.text) :
    linesOf range selection session = some (session.linesOf range selection) := by
  simp only [linesOf, Session.linesOf, lineOf_min, Option.bind_eq_bind, Option.bind_some]
  cases range with
  | current | all | lines first last => rfl
  | visual =>
      cases selection with
      | none => rfl
      | some cursor =>
          have high := (within cursor rfl).high_le
          dsimp only
          split
          · rename_i beyond
            have nearest : cursor.high - 1 < session.text.length := by omega
            rw [back_eq (by omega)]
            simp only [List.getElem?_eq_getElem nearest, Option.bind_some]
            split
            · rename_i broken
              rw [back_eq (by omega)]
              simp [broken, beyond.2]
            · rename_i unbroken
              simp [unbroken]
          · rename_i same
            have notLater : ¬session.text.lineOf cursor.low < session.text.lineOf cursor.high := by
              intro later
              have ordered : cursor.low < cursor.high := by
                by_contra notOrdered
                have touching := Text.lineOf_mono session.text (Nat.le_of_not_lt notOrdered)
                omega
              exact same ⟨ordered, later⟩
            simp [notLater]

theorem runEx_eq (line : Text) {selection : Option Cursor}
    (within : ∀ cursor, selection = some cursor → cursor.Within session.text) :
    runEx line selection session = some (session.runEx line selection) := by
  simp only [runEx, Session.runEx]
  cases ExCommand.parse line with
  | error error => rfl
  | ok command =>
      dsimp only
      cases session.substitutionOf command with
      | error error => rfl
      | ok substitution =>
          simp only [linesOf_eq _ within, execute_eq, put_eq, Option.bind_eq_bind, Option.bind_some,
            Option.map_some]
          generalize substitution.execute library _ _ session.text = answer
          cases answer with
          | error fault => rfl
          | ok result =>
              dsimp only
              split
              · rfl
              · split <;> rfl

theorem exPrompt_eq {selection : Option Cursor}
    (within : ∀ cursor, selection = some cursor → cursor.Within session.text) :
    exPrompt selection session = some (session.exPrompt selection) := by
  simp only [exPrompt, Session.exPrompt]
  generalize asked : session.ask .ex = answer
  obtain ⟨_ | line, after⟩ := answer
  · rfl
  · have text := (Session.untouched_ask asked).1.text
    exact runEx_eq line fun cursor selected => text ▸ within cursor selected

/-! ### Commands of command mode -/

/-- A command that is not listed reads with readers only. -/
def act (command : Command) (count : Nat) (session : Session library) :
    Option (Attempt library Unit) :=
  let text := session.text
  let caret := session.caret
  let ahead := Reader.forward text caret
  let behind := Reader.backward text caret
  let done (step : Option (Session library)) : Option (Attempt library Unit) := step.map ((.ok (), ·))
  match command with
  | .openBelow => done (openBelow session)
  | .openAbove => done (openAbove session)
  | .deleteAhead inserting =>
      done ((erase caret (ahead.advanceInLine count).offset session).map fun session =>
        if inserting then session.toInsert else session)
  | .deleteBehind => done (erase (behind.advanceInLine count).offset caret session)
  | .deleteToLineEnd inserting =>
      done ((erase caret (text.nthLineEnd caret count) session).map fun session =>
        if inserting then session.toInsert else session)
  | .changeLines => done (changeLines count session)
  | .delete motion =>
      withTarget false motion count (fun cursor session =>
        done (erase cursor.low cursor.high session)) session
  | .change motion =>
      withTarget true motion count (fun cursor session =>
        done ((erase cursor.low cursor.high session).map (·.toInsert))) session
  | .yank motion =>
      withTarget false motion count (fun cursor session =>
        (slice text cursor.low cursor.high).map fun held =>
          match session.copy held with
          | (.ok (), session) => (.ok (), session.setCursor cursor.low)
          | failed => failed) session
  | .yankLines =>
      let stop := (ahead.steps Reader.pastLineBreak count).offset
      (slice text (text.lineStart caret) stop).map session.copy
  | .put after => putClipboard after count session
  | .shift inward motion =>
      withTarget false motion count (fun cursor session =>
        done (shift inward (motion == .wholeLines) cursor session)) session
  | .join between => done (join between count session)
  | .reflow motion =>
      withTarget false motion count (fun cursor session =>
        let (start, stop) := session.lineSpan cursor
        done (reflow start stop session)) session
  | .swapCase => done (swapCase count session)
  | .searchWord direction => searchWord direction count session
  | .searchNext reversed => searchMove reversed count session
  | .searchPrompt kind => searchPrompt kind session
  | .move motion =>
      withTarget false motion count (fun cursor session =>
        some (.ok (), session.setCursor cursor.caret)) session
  | command => some (session.act command count)

def run (keys : List Char) (command : Command) (count : Nat) (session : Session library) :
    Option (Attempt library Flow) :=
  let session := { session with changed := false }
  match command with
  | .exPrompt => exPrompt none session
  | .repeatLast => some (.ok (.again count), session)
  | command =>
      (act command count session).map fun
        | (.error error, session) => (.error error, session)
        | (.ok (), session) =>
            (.ok .done,
              if session.changed then
                { session with last := session.last.recordCommand keys (session.mode == .insert) }
              else session)

def runKeys (keys : List Char) (session : Session library) : Option (Attempt library Flow) :=
  match Command.parse keys with
  | .error error => some (.error (.parse error), session)
  | .ok (count, command) => run keys command count session

section

variable (spans : library.FindsSpans)
include spans

theorem act_eq (genuine : session.search.Genuine library) (command : Command) (count : Nat) :
    act command count session = some (session.act command count) := by
  cases command with
  | insert | insertAtIndent | append | appendAtLineEnd | visual kind | undo | exPrompt
  | repeatLast => rfl
  | openBelow | openAbove | deleteAhead inserting | deleteBehind | deleteToLineEnd inserting
  | changeLines | join between | swapCase =>
      simp only [act, Session.act, openBelow_eq, openAbove_eq, erase_eq, changeLines_eq, join_eq,
        swapCase_eq, Option.map_some]
  | delete motion | change motion =>
      refine withTarget_eq fun cursor after _ _ => ?_
      simp only [erase_eq, Option.map_some]
  | yank motion =>
      refine withTarget_eq fun cursor after within _ => ?_
      exact congrArg (Option.map _) (slice_eq cursor.low_le_high within.high_le)
  | yankLines =>
      have inside := session.caret_le_length
      have start := Text.lineStart_le inside
      have forward : (Reader.forward session.text session.caret).direction = .forward := rfl
      have further := Text.le_offset_steps_pastLineBreak forward count
      have begun : (Reader.forward session.text session.caret).offset = session.caret :=
        Reader.offset_facing .forward inside
      have reads : Reader.Reads session.text
          ((Reader.forward session.text session.caret).steps Reader.pastLineBreak count) :=
        (Reader.Reads.facing .forward session.caret).steps (fun _ reads => reads.pastLineBreak) count
      rw [begun] at further
      simp only [act, Session.act, slice_eq (Nat.le_trans start further) reads.offset_le,
        Option.map_some]
  | put after => exact putClipboard_eq after count session
  | shift inward motion =>
      refine withTarget_eq fun cursor after within text => ?_
      simp only [shift_eq inward _ (text ▸ within), Option.map_some]
  | reflow motion =>
      refine withTarget_eq fun cursor after within text => ?_
      simp only [reflow_lineSpan_eq (text ▸ within), Option.map_some]
  | searchWord direction => exact searchWord_eq spans genuine direction count
  | searchNext reversed => exact searchMove_eq spans genuine reversed count
  | searchPrompt kind => exact searchPrompt_eq spans genuine kind
  | move motion => exact withTarget_eq fun _ _ _ _ => rfl

theorem run_eq (genuine : session.search.Genuine library) (keys : List Char) (command : Command)
    (count : Nat) : run keys command count session = some (session.run keys command count) := by
  have acts (command : Command) :
      act command count ({ session with changed := false } : Session library) =
      some (Session.act command count { session with changed := false }) := by
    apply act_eq spans
    exact genuine
  cases command with
  | exPrompt => exact exPrompt_eq nofun
  | repeatLast => rfl
  | _ =>
      simp only [run, Session.run]
      exact congrArg (Option.map _) (acts _)

theorem runKeys_eq (genuine : session.search.Genuine library) (keys : List Char) :
    runKeys keys session = some (session.runKeys keys) := by
  simp only [runKeys, Session.runKeys]
  cases Command.parse keys with
  | error error => rfl
  | ok found => exact run_eq spans genuine keys found.2 found.1

end

/-! ### Commands of visual mode -/

def visualBase (session : Session library) : Option Cursor :=
  let cursor := session.selected
  if session.mode.isVisualLine ∧ cursor.low < cursor.high then do
    let nearest ← back cursor.high 1
    let c ← session.text[nearest]?
    if c = '\n' then
      if cursor.isForward then some { cursor with caret := nearest }
      else some { cursor with anchor := nearest }
    else some cursor
  else some cursor

def extend (motion : Motion) (count : Nat) (session : Session library) :
    Option (Attempt library Unit) := do
  let text := session.text
  let base ← visualBase session
  let result ← resolve ⟨text, base, true, false, library.isPunctuation⟩ session.charSearch count motion
  let session := { session with charSearch := motion.remember session.charSearch }
  match result with
  | .error error => some (.error (.parse error), session)
  | .ok cursor =>
      let cursor :=
        if session.mode.isVisualLine then Session.wholeLines text cursor else cursor
      some (.ok (), { session with cursor }.showCursor)

def joinSelection (between : Text) (low high : Nat) (session : Session library) :
    Option (Session library) := do
  let held ← slice session.text low high
  let (joined, place) := held.join between
  (replace low high joined false session).map fun
    | (true, session) => session.setCursor (low + place)
    | (false, session) => session.setCursor low

def shiftSelection (inward : Bool) (low high : Nat) (session : Session library) :
    Option (Session library) := do
  let start := session.text.lineStart low
  let new ← shifted inward start high session
  let session ← put start high new session
  some (session.setCursor (session.text.indentEnd start))

def visualExPrompt (session : Session library) : Option (Attempt library Flow) :=
  (exPrompt (some session.selected) session).map fun (flow, session) =>
    (flow, if session.mode.isVisual then session.toCommand else session)

/-- A command that is not listed reads with readers only. -/
def runVisual (command : VisualCommand) (count : Nat) (session : Session library) :
    Option (Attempt library Flow) :=
  let text := session.text
  let cursor := session.selected
  let low := cursor.low
  let high := cursor.high
  let ended (step : Option (Session library)) : Option (Attempt library Flow) :=
    step.map fun session => (.ok .done, session.toCommand)
  match command with
  | .delete => ended (erase low high session)
  | .change => (erase low high session).map fun session => (.ok .done, session.toInsert)
  | .yank =>
      (slice text low high).map fun held =>
        match session.copy held with
        | (.ok (), session) => (.ok .done, (session.setCursor low).toCommand)
        | (.error error, session) => (.error error, session)
  | .put =>
      match session.paste with
      | (.ok new, session) => ended ((put low high new session).map (·.setCursor low))
      | (.error error, session) => some (.error error, session)
  | .shift inward => ended (shiftSelection inward low high session)
  | .join between => ended (joinSelection between low high session)
  | .reflow =>
      let (start, stop) := session.lineSpan cursor
      ended (reflow start stop session)
  | .swapCase => do
      let held ← slice text low high
      ended ((put low high held.swapCase session).map (·.setCursor low))
  | .exPrompt => visualExPrompt session
  | .extend motion =>
      (extend motion count session).map fun
        | (.ok (), session) => (.ok .done, session)
        | (.error error, session) => (.error error, session)
  | command => some (session.runVisual command count)

def runVisualKeys (keys : List Char) (session : Session library) : Option (Attempt library Flow) :=
  match VisualCommand.parse keys with
  | .error error => some (.error (.parse error), session)
  | .ok (count, command) => runVisual command count session

theorem visualBase_eq (session : Session library) :
    visualBase session = some session.visualBase := by
  have high := session.within_selected.high_le
  simp only [visualBase, Session.visualBase]
  split
  · rename_i lines
    have nearest : session.selected.high - 1 < session.text.length := by omega
    rw [back_eq (by omega)]
    simp only [List.getElem?_eq_getElem nearest, Option.bind_eq_bind, Option.bind_some, lines.1,
      lines.2]
    split
    · rename_i broken
      simp [broken]
      split <;> rfl
    · rename_i unbroken
      simp [unbroken]
  · rename_i other
    have notLines : (session.mode.isVisualLine &&
        decide (session.selected.low < session.selected.high)) = false := by
      simpa using other
    simp [notLines]

theorem extend_eq (motion : Motion) (count : Nat) (session : Session library) :
    extend motion count session = some (session.extend motion count) := by
  simp only [extend, Session.extend, visualBase_eq, resolve_eq, Option.bind_eq_bind,
    Option.bind_some]
  generalize Standpoint.resolve _ session.charSearch count motion = result
  cases result <;> rfl

theorem joinSelection_eq {low high : Nat} (between : Text) (ordered : low ≤ high)
    (bounded : high ≤ session.text.length) :
    joinSelection between low high session = some (session.joinSelection between low high) := by
  simp only [joinSelection, slice_eq ordered bounded, replace_eq, Option.bind_eq_bind,
    Option.bind_some, Option.map_some]
  rfl

theorem shiftSelection_eq {low high : Nat} (inward : Bool) (ordered : low ≤ high)
    (bounded : high ≤ session.text.length) :
    shiftSelection inward low high session = some (session.shiftSelection inward low high) := by
  have start := Text.lineStart_le (Nat.le_trans ordered bounded)
  simp only [shiftSelection, shifted_eq inward (Nat.le_trans start ordered) bounded, put_eq,
    Option.bind_eq_bind, Option.bind_some, Session.shiftSelection]

theorem visualExPrompt_eq (session : Session library) :
    visualExPrompt session = some session.visualExPrompt := by
  have within : ∀ cursor, some session.selected = some cursor → cursor.Within session.text := by
    intro cursor selected
    cases selected
    exact session.within_selected
  simp only [visualExPrompt, exPrompt_eq within, Option.map_some, Session.visualExPrompt]

theorem runVisual_eq (command : VisualCommand) (count : Nat) (session : Session library) :
    runVisual command count session = some (session.runVisual command count) := by
  have high := session.within_selected.high_le
  have ordered := session.selected.low_le_high
  cases command with
  | selectCharacters | selectLines | swapEnds => rfl
  | delete | change =>
      simp only [runVisual, Session.runVisual, erase_eq, Option.map_some]
  | yank =>
      exact congrArg (Option.map _) (slice_eq ordered high)
  | put =>
      simp only [runVisual, Session.runVisual, put_eq, Option.map_some]
      generalize session.paste = answer
      obtain ⟨error | new, after⟩ := answer <;> rfl
  | shift inward =>
      simp only [runVisual, Session.runVisual, shiftSelection_eq inward ordered high,
        Option.map_some]
  | join between =>
      simp only [runVisual, Session.runVisual, joinSelection_eq between ordered high,
        Option.map_some]
  | reflow =>
      simp only [runVisual, Session.runVisual, reflow_lineSpan_eq session.within_selected,
        Option.map_some]
  | swapCase =>
      simp only [runVisual, Session.runVisual, slice_eq ordered high, put_eq, Option.bind_eq_bind,
        Option.bind_some, Option.map_some]
  | exPrompt => exact visualExPrompt_eq session
  | extend motion =>
      exact congrArg (Option.map _) (extend_eq motion count session)

theorem runVisualKeys_eq (keys : List Char) (session : Session library) :
    runVisualKeys keys session = some (session.runVisualKeys keys) := by
  simp only [runVisualKeys, Session.runVisualKeys]
  cases VisualCommand.parse keys with
  | error error => rfl
  | ok found => exact runVisual_eq found.2 found.1 session

end ModalVi.Strict
