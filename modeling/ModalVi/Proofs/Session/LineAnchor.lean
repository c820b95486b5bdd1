import ModalVi.Proofs.Session.LineSelection

namespace ModalVi

/-! The line that a selection of whole lines holds on to.

While whole lines are selected, a motion starts in the last of them, and from where it leads the
selection is taken to the ends of lines again.  It turns round when the caret passes the anchor.  Each
time the anchor is put on an edge of the selection, but what it stands for is still its line: at the
far edge it is taken without the break, and where the last line has none, at the end of the text. -/

variable {text : Text} {low high start stop place count : Nat} {motion : Motion}

/-! ### Motions that leave the anchor -/

/-- Only a line key asks for the motion over whole lines. -/
theorem Motion.ne_wholeLines_of_parse {buffer : KeyBuffer}
    (read : Motion.parse none buffer = .ok motion) : motion ≠ .wholeLines := by
  rintro rfl
  simp only [Motion.parse, bind, Except.bind, reduceCtorEq, if_false] at read
  split at read
  · cases read
  · split at read
    all_goals repeat' first | cases read | split at read

theorem VisualCommand.ne_wholeLines_of_parse {keys : List Char}
    (read : VisualCommand.parse keys = .ok (count, .extend motion)) : motion ≠ .wholeLines := by
  simp only [VisualCommand.parse, bind, Except.bind] at read
  repeat' split at read
  all_goals try cases read
  rename_i moved
  exact Motion.ne_wholeLines_of_parse moved

/-- Whether the command moves the caret's end of the selection. -/
def VisualCommand.moves : VisualCommand → Bool
  | .extend motion => motion.leads
  | _ => false

/-! ### The far edge of a line -/

theorem Cursor.low_lt_high_of_backward {cursor : Cursor} (backward : cursor.direction = .backward) :
    cursor.low < cursor.high := by
  have turned : ¬ cursor.anchor ≤ cursor.caret := by
    intro ordered
    simp [Cursor.direction, Cursor.isForward, ordered] at backward
  simp only [Cursor.low, Cursor.high]
  omega

/-- The far edge of a line without its break is in that line; where there is no break, it is the end of
the text. -/
theorem line_of_edge (inside : place ≤ text.length) (given : 0 < text.nextLineStart place)
    {edge : Nat} (stepped : edge = if text[text.nextLineStart place - 1]? = some '\n' then
      text.nextLineStart place - 1 else text.nextLineStart place) :
    text.lineStart edge ≤ text.lineStart place ∧
      text.nextLineStart place ≤ text.nextLineStart edge := by
  subst stepped
  -- The end of the text may be an empty last line, and then the edge is in the line before it.
  rcases Nat.eq_or_lt_of_le inside with atEnd | before
  · rw [atEnd, Text.nextLineStart_length] at given ⊢
    split
    · have last : text.length - 1 < text.length := by omega
      have after := Text.lt_nextLineStart last
      exact ⟨Text.lineStart_mono (by omega) (Nat.le_refl _), by omega⟩
    · rw [Text.nextLineStart_length]
      exact ⟨Nat.le_refl _, Nat.le_refl _⟩
  · rcases Text.nextLineStart_eq_length_or_break before with ⟨whole, same⟩ | broken
    · have unbroken : text[text.length - 1]? ≠ some '\n' :=
        same.getElem?_ne (by omega) (by omega)
      rw [whole, if_neg unbroken, ← same.lineStart, ← same.nextLineStart, whole]
      exact ⟨Nat.le_refl _, Nat.le_refl _⟩
    · have same := Text.sameLine_last before
      rw [if_pos broken, ← same.lineStart, ← same.nextLineStart]
      exact ⟨Nat.le_refl _, Nat.le_refl _⟩

namespace Session

variable {library : Library} {session before after moved : Session library} {keys : List Char}
  {pressed : Key}
  {allowed : Session library → Event → Prop}

/-! ### The line that the selection holds on to -/

/-- Whole lines of the text are selected, those from `start` to `stop` among them, and what motions
leave alone is in a line that covers these. -/
structure HoldsLine (text : Text) (start stop : Nat) (session : Session library) : Prop where
  mode : session.mode = .visual .lines
  unchanged : session.text = text
  shown : session.Shown
  covers : session.cursor.CoversLines text
  low : session.cursor.low ≤ start
  high : stop ≤ session.cursor.high
  first : text.lineStart session.visualBase.anchor ≤ start
  last : stop ≤ text.nextLineStart session.visualBase.anchor

theorem HoldsLine.same (holds : before.HoldsLine text start stop)
    (same : SameSelection before after) : after.HoldsLine text start stop := by
  have base : after.visualBase = before.visualBase := by
    simp only [visualBase, selected, same.mode, same.text, same.cursor]
    rfl
  refine ⟨same.mode.trans holds.mode, same.text.trans holds.unchanged, ?_, ?_, ?_, ?_, ?_, ?_⟩
  · rw [Shown, same.selection, same.cursor]
    exact holds.shown
  · exact same.cursor ▸ holds.covers
  · exact same.cursor ▸ holds.low
  · exact same.cursor ▸ holds.high
  · exact base ▸ holds.first
  · exact base ▸ holds.last

theorem anchor_of_forward (within : session.cursor.Within session.text)
    (forward : session.cursor.isForward = true) :
    session.visualBase.anchor = session.cursor.anchor := by
  have selected : session.selected = session.cursor := within.clamped
  simp only [visualBase, selected, forward, if_true]
  split <;> rfl

/-- Behind the caret the anchor is taken before the break. -/
theorem anchor_of_backward (lines : session.mode = .visual .lines)
    (within : session.cursor.Within session.text)
    (backward : session.cursor.caret < session.cursor.anchor) :
    session.visualBase.anchor =
      if session.text[session.cursor.anchor - 1]? = some '\n' then session.cursor.anchor - 1
      else session.cursor.anchor := by
  have selected : session.selected = session.cursor := within.clamped
  have isLines : session.mode.isVisualLine = true := by simp [lines, Mode.isVisualLine]
  have notForward : session.cursor.isForward = false :=
    decide_eq_false (Nat.not_le_of_lt backward)
  have low : session.cursor.low = session.cursor.caret := Nat.min_eq_left (Nat.le_of_lt backward)
  have high : session.cursor.high = session.cursor.anchor :=
    Nat.max_eq_right (Nat.le_of_lt backward)
  simp only [visualBase, selected, isLines, notForward, low, high, backward, Bool.true_and,
    decide_true, beq_iff_eq, Bool.false_eq_true, if_false]
  split <;> rfl

/-- The anchor of whole lines stands for the line that is at their end behind the caret. -/
theorem line_of_anchor {direction : Direction} (mode : session.mode = .visual .lines)
    (cursor : session.cursor = linesBetween session.text low high direction)
    (ordered : low ≤ high) (inside : high ≤ session.text.length)
    (given : direction = .backward → low < session.text.length)
    (held : (Cursor.spanning low high direction).anchor = place) :
    session.text.lineStart session.visualBase.anchor ≤ session.text.lineStart place ∧
      session.text.nextLineStart place ≤ session.text.nextLineStart session.visualBase.anchor := by
  have within : session.cursor.Within session.text :=
    (cursor ▸ coversLines_linesBetween ordered inside direction :
      session.cursor.CoversLines session.text).within
  subst held
  cases direction with
  | forward =>
      have start := Nat.le_trans ordered inside
      have forward : session.cursor.isForward = true :=
        cursor ▸ decide_eq_true (Text.lineStart_le_nextLineStart ordered inside)
      have anchor : session.visualBase.anchor = session.text.lineStart low :=
        (anchor_of_forward within forward).trans (congrArg Cursor.anchor cursor)
      rw [anchor, Text.lineStart_lineStart start, (Text.sameLine_lineStart start).nextLineStart]
      exact ⟨Nat.le_refl _, Nat.le_refl _⟩
  | backward =>
      have nonempty : session.text.lineStart low < session.text.nextLineStart high :=
        Nat.lt_of_le_of_lt (Text.lineStart_le (Nat.le_of_lt (given rfl)))
          (Nat.lt_of_lt_of_le (Text.lt_nextLineStart (given rfl))
            (Text.nextLineStart_mono ordered inside))
      have backward : session.cursor.caret < session.cursor.anchor := cursor ▸ nonempty
      have far : session.cursor.anchor = session.text.nextLineStart high :=
        congrArg Cursor.anchor cursor
      have anchor := anchor_of_backward mode within backward
      rw [far] at anchor backward
      exact line_of_edge inside (Nat.zero_lt_of_lt backward) anchor

theorem holdsLine_showCursor (direction : Direction) (mode : session.mode = .visual .lines)
    (unchanged : session.text = text)
    (cursor : session.cursor = linesBetween text low high direction)
    (ordered : low ≤ high) (inside : high ≤ text.length)
    (given : direction = .backward → low < text.length)
    (held : (Cursor.spanning low high direction).anchor = place)
    (first : text.lineStart place ≤ start) (last : stop ≤ text.nextLineStart place) :
    session.showCursor.HoldsLine text start stop := by
  subst unchanged
  have spanned := Text.lineStart_le_nextLineStart ordered inside
  have covers : session.cursor.CoversLines session.text :=
    cursor ▸ coversLines_linesBetween ordered inside direction
  have lowEnd : session.cursor.low = session.text.lineStart low :=
    cursor ▸ Cursor.low_spanning spanned direction
  have highEnd : session.cursor.high = session.text.nextLineStart high :=
    cursor ▸ Cursor.high_spanning spanned direction
  obtain ⟨after, before⟩ : low ≤ place ∧ place ≤ high := by
    subst held
    cases direction with
    | forward => exact ⟨Nat.le_refl _, ordered⟩
    | backward => exact ⟨ordered, Nat.le_refl _⟩
  obtain ⟨starts, stops⟩ := line_of_anchor mode cursor ordered inside given held
  refine ⟨mode, rfl, shown_showCursor session.mode covers.within, covers, ?_, ?_,
    Nat.le_trans starts first, Nat.le_trans last stops⟩
  · have lowest := Text.lineStart_mono after (Nat.le_trans before inside)
    exact lowEnd ▸ Nat.le_trans lowest first
  · have highest := Text.nextLineStart_mono before inside
    exact highEnd ▸ Nat.le_trans last highest

theorem HoldsLine.extend (holds : session.HoldsLine text start stop) (leads : motion.leads = true)
    (notLines : motion ≠ .wholeLines) (count : Nat) :
    (session.extend motion count).2.HoldsLine text start stop := by
  rcases extend_of_lines holds.mode motion count with ⟨error, failed⟩ | ⟨found, resolved, moved⟩
  · rw [failed]
    exact holds.same ⟨rfl, rfl, rfl, rfl⟩
  · have within := Standpoint.within_of_resolve resolved session.within_visualBase
    have anchor : found.anchor = session.visualBase.anchor :=
      Standpoint.anchor_of_resolve leads notLines resolved
    have ordered := found.low_le_high
    have inside : found.high ≤ text.length := holds.unchanged ▸ within.high_le
    rw [moved, holds.unchanged]
    refine holdsLine_showCursor found.direction ?mode ?unchanged ?cursor ordered inside ?given ?held
      holds.first holds.last
    case mode => exact holds.mode
    case unchanged => exact holds.unchanged
    case cursor => rfl
    case given =>
      exact fun backward => Nat.lt_of_lt_of_le (Cursor.low_lt_high_of_backward backward) inside
    case held => exact (congrArg Cursor.anchor found.spanning_direction).trans anchor

/-! ### Keys -/

/-- The key asks for lines to be selected. -/
def SelectsLines (session : Session library) (pressed : Key) : Prop :=
  session.Dispatches pressed (.visual .lines) ∨ session.DispatchesVisual pressed .selectLines

/-- The key completes nothing but a motion that leads somewhere.  It may also be one of several keys, or
fail. -/
def Moving (session : Session library) : Event → Prop
  | .key (.char c) => (VisualCommand.parse (session.keys ++ [c])).toOption.all (·.2.moves) = true
  | _ => False

instance (session : Session library) (event : Event) : Decidable (session.Moving event) :=
  match event with
  | .key (.char c) => inferInstanceAs
      (Decidable ((VisualCommand.parse (session.keys ++ [c])).toOption.all (·.2.moves) = true))
  | .key (.ctrl _) | .key .tab | .key .escape | .key .other | .insertText _ | .enter | .release
  | .blur | .mouseSelection | .setDebug _ | .field _ | .clipboard _ | .prompt _ => isFalse id

/-- The place whose line is held on to once lines are selected: that of the caret, or of the end of a
selection that motions leave alone. -/
def footing (session : Session library) : Nat :=
  if session.mode.isVisual then
    let cursor := session.selected
    if cursor.isForward then cursor.anchor else cursor.anchor - 1
  else session.caret

theorem HoldsLine.runVisualKeys (holds : session.HoldsLine text start stop)
    (moving : (VisualCommand.parse keys).toOption.all (·.2.moves) = true) :
    (session.runVisualKeys keys).2.HoldsLine text start stop ∧
      ∀ count, (session.runVisualKeys keys).1 ≠ .ok (.again count) := by
  simp only [Session.runVisualKeys]
  split
  · exact ⟨holds, by simp⟩
  · rename_i count command read
    rw [read] at moving
    obtain ⟨motion, rfl, leads⟩ : ∃ motion, command = .extend motion ∧ motion.leads = true := by
      cases command with
      | extend motion => exact ⟨motion, rfl, moving⟩
      | _ => cases moving
    have extended := holds.extend leads (VisualCommand.ne_wholeLines_of_parse read) count
    simp only [runVisual]
    generalize session.extend motion count = attempt at extended ⊢
    obtain ⟨error | done, after⟩ := attempt
    · exact ⟨extended, by simp⟩
    · exact ⟨extended, by simp⟩

theorem HoldsLine.handle (holds : session.HoldsLine text start stop) {event : Event}
    (moving : session.Moving event) : (session.handle event).HoldsLine text start stop := by
  cases event with
  | key pressed =>
      cases pressed with
      | char c =>
          have owned : session.mode ≠ .insert := by simp [holds.mode]
          have held : (session.holding (session.keys ++ [c])).HoldsLine text start stop :=
            holds.same ⟨rfl, rfl, rfl, rfl⟩
          obtain ⟨carried, once⟩ := held.runVisualKeys moving
          have visual : (session.holding (session.keys ++ [c])).mode.isVisual = true := by
            rw [held.mode]
            rfl
          rw [Session.handle, key_char owned, carryOut_of_visual visual]
          exact carried.same (sameSelection_conclude once)
      | ctrl | tab | escape | other => exact moving.elim
  | _ => exact moving.elim

theorem holdsLine_selectLines (visual : session.mode.isVisual = true) (count : Nat) :
    (session.runVisual .selectLines count).2.HoldsLine session.text
      (session.text.lineStart session.footing) (session.text.nextLineStart session.footing) := by
  have high := session.within_selected.high_le
  have ordered := session.selected.low_le_high
  have inside : max (session.selected.high - 1) session.selected.low ≤ session.text.length := by
    omega
  rw [runVisual_selectLines]
  refine holdsLine_showCursor session.selected.direction rfl rfl rfl (Nat.le_max_right ..) inside
    (fun backward => Nat.lt_of_lt_of_le (Cursor.low_lt_high_of_backward backward) high) ?_
    (Nat.le_refl _) (Nat.le_refl _)
  simp only [footing, visual, if_true, Cursor.direction]
  split
  · rename_i forward
    exact Nat.min_eq_right (of_decide_eq_true forward)
  · rename_i backward
    have behind : session.selected.caret < session.selected.anchor := by
      simpa [Cursor.isForward] using backward
    simp only [Cursor.spanning, Cursor.low, Cursor.high]
    omega

theorem holdsLine_of_selectsLines (selects : session.SelectsLines pressed) :
    (session.key pressed).2.HoldsLine session.text (session.text.lineStart session.footing)
      (session.text.nextLineStart session.footing) := by
  rcases selects with ⟨c, count, rfl, mode, read⟩ | ⟨c, count, rfl, visual, read⟩
  · have owned : session.mode ≠ .insert := by simp [mode]
    have held : (session.holding (session.keys ++ [c])).mode = .command := mode
    have footing : session.footing = session.caret := by simp [footing, mode, Mode.isVisual]
    rw [key_char owned, carryOut_of_command held, footing]
    simp only [runKeys, read, run_visual_lines]
    refine HoldsLine.same ?_ (sameSelection_conclude (by simp))
    exact holdsLine_showCursor .forward rfl rfl rfl (Nat.le_refl _) session.caret_le_length
      (fun backward => by cases backward) rfl (Nat.le_refl _) (Nat.le_refl _)
  · have owned : session.mode ≠ .insert := by
      intro inserting
      rw [inserting] at visual
      cases visual
    have held : (session.holding (session.keys ++ [c])).mode.isVisual = true := visual
    rw [key_char owned, carryOut_of_visual held]
    simp only [runVisualKeys, read]
    exact (holdsLine_selectLines held count).same (sameSelection_conclude (by simp))

theorem holdsLine_of_reaches (holds : session.HoldsLine text start stop)
    (reached : Reaches Moving session moved) : moved.HoldsLine text start stop :=
  reached.preserves (fun _ _ holds moving => holds.handle moving) holds

/-! ### Reachable selections of whole lines -/

/-- Wherever keys lead, a selection made by lines is one of whole lines, and the field shows it.  Once
lines are selected, the line where that began stays selected, whatever motions come after that lead
somewhere or fail, and whichever way the selection turns. -/
theorem holdsLine_of_guided {surface : Surface} {clipboard : Clipboard} {prompt : Prompt}
    {options : Options}
    (attentive : ∀ session event, allowed session event → session.Attentive event)
    (guided : Guided allowed (Session.start library surface clipboard prompt options) session) :
    (session.mode = .visual .lines →
        session.Shown ∧ session.cursor.CoversLines session.text) ∧
      ∀ pressed, session.SelectsLines pressed →
        ∀ moved, Reaches Moving (session.key pressed).2 moved →
          moved.mode = .visual .lines ∧ moved.text = session.text ∧ moved.Shown ∧
            moved.cursor.CoversLines session.text ∧
            moved.cursor.low ≤ session.text.lineStart session.footing ∧
            session.text.nextLineStart session.footing ≤ moved.cursor.high := by
  constructor
  · intro lines
    have covers := onLines_of_guided attentive rfl guided lines
    rcases inStep_of_guided attentive rfl guided (by simp [lines]) with shown | ⟨notVisual, _⟩
    · exact ⟨shown, covers⟩
    · rw [lines] at notVisual
      cases notVisual
  · intro pressed selects moved reached
    have holds := holdsLine_of_reaches (holdsLine_of_selectsLines selects) reached
    exact ⟨holds.mode, holds.unchanged, holds.shown, holds.covers, holds.low, holds.high⟩

/-- The caret goes from the second line to the first, fails to find a character, and goes to the last
line, which has no break. -/
theorem line_held_while_turning :
    let first := Session.start .standard ((Surface.ofText ['a', '\n', 'b', '\n', 'c']).withCaret 2)
      (.ofText []) .silent {}
    let session := first.handle .enter
    let press (session : Session .standard) (c : Char) : Session .standard :=
      session.handle (.key (.char c))
    let turned := press (press (press (press session 'V') 'k') 'f') 'z'
    let moved := press (press turned '2') 'j'
    turned.cursor = ⟨0, 4⟩ ∧ moved.cursor = ⟨5, 2⟩ ∧ moved.mode = .visual .lines ∧ moved.Shown ∧
      moved.cursor.CoversLines session.text ∧ moved.cursor.low ≤ 2 ∧ 4 ≤ moved.cursor.high := by
  intro first session press turned moved
  have guided : Guided Attentive first session := .step .refl trivial
  have pressed : session.SelectsLines (.char 'V') := .inl ⟨'V', 1, rfl, rfl, rfl⟩
  have reached : Reaches Moving (press session 'V') moved := by
    refine .step (.step (.step (.step (.step .refl ?_) ?_) ?_) ?_) ?_
    all_goals decide +kernel
  have turnedCursor : turned.cursor = ⟨0, 4⟩ := by decide +kernel
  have movedCursor : moved.cursor = ⟨5, 2⟩ := by decide +kernel
  have line : session.text.lineStart session.footing = 2 ∧
      session.text.nextLineStart session.footing = 4 := by decide +kernel
  clear_value moved turned
  obtain ⟨mode, _, shown, covers, low, high⟩ :=
    (holdsLine_of_guided (fun _ _ attentive => attentive) guided).2 _ pressed _ reached
  rw [line.1] at low
  rw [line.2] at high
  exact ⟨turnedCursor, movedCursor, mode, shown, covers, low, high⟩

end Session

end ModalVi
