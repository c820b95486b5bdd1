import ModalVi.Proofs.Motion.Lines
import ModalVi.Proofs.Session.LineAnchor

namespace ModalVi

/-! Motions inside a line, while whole lines are selected.

They take the caret to another place of its line, so that the same lines are selected again.  Only the
motion to the end of the line goes past its break, to a place where the next line starts. -/

open Text

variable {text : Text} {low high start stop place count : Nat} {motion : Motion} {c : Char}

/-! ### Places of one line -/

/-- Whether the motion is one inside a line: `0`, `^`, `$`, `h` or `l`. -/
def Motion.inLine : Motion → Bool
  | .lineStart | .lineEnd | .firstNonBlank | .left | .right => true
  | _ => false

/-- The two places have the same line start, and the same line comes after them. -/
structure Text.OneLine (text : Text) (first second : Nat) : Prop where
  start : text.lineStart first = text.lineStart second
  next : text.nextLineStart first = text.nextLineStart second

theorem Text.Stands.oneLine {line column other second : Nat}
    (stands : Stands text line column place) (again : Stands text line other second) :
    text.OneLine place second := by
  have start : text.lineStart place = text.lineStart second :=
    stands.lineStart.trans again.lineStart.symm
  refine ⟨start, ?_⟩
  rw [← (sameLine_lineStart stands.inside).nextLineStart, start,
    (sameLine_lineStart again.inside).nextLineStart]

namespace Standpoint

variable (point : Standpoint) (memory : Option CharSearch) (count : Nat)

theorem exists_place_of_inLine (inside : point.cursor.caret ≤ point.text.length)
    (inLine : motion.inLine = true) (notEnd : motion ≠ .lineEnd) :
    ∃ place, place ≤ point.text.length ∧
      point.resolve memory count motion = .ok (point.moveTo place) ∧
      point.text.OneLine place point.cursor.caret := by
  obtain ⟨line, column, stands⟩ := exists_stands inside
  have among := stands.among
  have moved {column : Nat} (within : column ≤ point.text.width line)
      (resolved : point.resolve memory count motion =
        .ok (point.moveTo (point.text.offsetAt line column))) :
      ∃ place, place ≤ point.text.length ∧
        point.resolve memory count motion = .ok (point.moveTo place) ∧
        point.text.OneLine place point.cursor.caret := by
    have again : Stands point.text line column (point.text.offsetAt line column) :=
      ⟨among, within, rfl⟩
    exact ⟨_, again.inside, resolved, again.oneLine stands⟩
  cases motion with
  | lineEnd => exact absurd rfl notEnd
  | lineStart => exact moved (Nat.zero_le _) (resolve_lineStart stands memory count)
  | firstNonBlank =>
      exact moved (Text.leadingSpace_le_width _ _) (resolve_firstNonBlank stands memory count)
  | left =>
      exact moved (Nat.le_trans (Nat.sub_le ..) stands.within) (resolve_left stands memory count)
  | right => exact moved (Nat.min_le_right ..) (resolve_right stands memory count)
  | _ => cases inLine

/-- In visual mode the end of a line is behind its break. -/
theorem resolve_lineEnd_visual (visual : point.visual = true)
    (inside : point.cursor.caret ≤ point.text.length) :
    point.resolve memory count .lineEnd =
      .ok (point.moveTo (point.text.nextLineStart point.cursor.caret)) := by
  have passed := offset_pastLineBreak (point.reads_reader .forward) rfl
  rw [offset_reader inside] at passed
  rw [resolve, visual, if_pos rfl, passed]

end Standpoint

/-! ### The lines that are selected again -/

section Ends

variable {caret anchor : Nat} (inside : caret ≤ text.length) (bounded : anchor ≤ text.length)
include inside bounded

theorem ends_of_oneLine (within : place ≤ text.length) (same : text.OneLine place caret) :
    text.lineStart (min place anchor) = text.lineStart (min caret anchor) ∧
      text.nextLineStart (max place anchor) = text.nextLineStart (max caret anchor) := by
  rw [lineStart_min within bounded, lineStart_min inside bounded, nextLineStart_max within bounded,
    nextLineStart_max inside bounded, same.start, same.next]
  exact ⟨rfl, rfl⟩

/-- A caret that goes to the start of the next line takes that line into the selection, or takes its own
line out of it. -/
theorem ends_of_nextLineStart
    (last : caret < anchor → anchor = text.length → text[text.length - 1]? ≠ some '\n') :
    text.lineStart (min (text.nextLineStart caret) anchor) = text.lineStart (min caret anchor) ∧
        text.nextLineStart (max (text.nextLineStart caret) anchor) =
          text.nextLineStart (max caret anchor) ↔
      ¬ text.nextLineStart caret < text.length := by
  have after := le_nextLineStart inside
  have within := nextLineStart_le inside
  constructor
  · rintro ⟨low, high⟩ short
    have before : caret < text.length := by omega
    obtain ⟨⟨passed, ends⟩, _⟩ := isLeast_nextLineStart before
    rcases Nat.lt_or_ge anchor (text.nextLineStart caret) with ahead | behind
    · have lines := (isLeast_nextLineStart (show max caret anchor < text.length by omega)).2
        ⟨by omega, ends⟩
      have further := lt_nextLineStart short
      rw [Nat.max_eq_left (Nat.le_of_lt ahead)] at high
      omega
    · have started := lineStart_le (show min caret anchor ≤ text.length by omega)
      rw [Nat.min_eq_left behind, lineStart_of_starts (ends.resolve_left (by omega))] at low
      omega
  · intro long
    have whole : text.nextLineStart caret = text.length := by omega
    rw [whole, Nat.min_eq_right bounded, Nat.max_eq_left bounded, nextLineStart_length]
    refine ⟨?_, ?_⟩
    · rcases Nat.lt_or_ge caret anchor with ordered | turned
      · have before : caret < text.length := by omega
        rw [Nat.min_eq_left (Nat.le_of_lt ordered)]
        rcases Nat.eq_or_lt_of_le bounded with atEnd | earlier
        · rcases nextLineStart_eq_length_or_break before with ⟨_, same⟩ | broken
          · rw [atEnd, same.lineStart]
          · exact absurd (whole ▸ broken) (last ordered atEnd)
        · have same := sameLine_last before
          have started := lineStart_le inside
          rw [whole] at same
          rw [same.lineStart] at started ⊢
          exact lineStart_eq_of_le same.bounded (by omega) (by omega)
      · rw [Nat.min_eq_right turned]
    · have furthest : max caret anchor ≤ text.length := by omega
      have reached := nextLineStart_mono (Nat.le_max_left caret anchor) furthest
      have bound := nextLineStart_le furthest
      omega

end Ends

namespace Session

variable {library : Library} {session moved : Session library} {pressed : Key}

/-- The lines where motions start from are those that are selected. -/
theorem lines_visualBase (lines : session.mode = .visual .lines)
    (covers : session.cursor.CoversLines session.text)
    (given : session.cursor.low < session.cursor.high ∨ session.cursor.high = session.text.length) :
    session.text.lineStart session.visualBase.low = session.cursor.low ∧
      session.text.nextLineStart session.visualBase.high = session.cursor.high := by
  obtain ⟨low, high⟩ := visualBase_ends lines covers.within
  have bounded := covers.bounded
  rw [low, high]
  refine ⟨lineStart_of_starts covers.starts, ?_⟩
  split
  · rename_i stepped
    have before : session.cursor.high - 1 < session.text.length := by omega
    have after := lt_nextLineStart before
    have least := (isLeast_nextLineStart before).2 ⟨by omega, .inr (.inr stepped.2)⟩
    omega
  · rename_i unstepped
    -- Without a break at its end the selection ends with the text.
    have whole : session.cursor.high = session.text.length := by
      rcases given with nonempty | whole
      · exact covers.ends.resolve_right fun ends => unstepped ⟨nonempty, ends.2⟩
      · exact whole
    rw [whole, nextLineStart_length]

/-- Where the anchor is the end of the text behind the caret, no break is before it. -/
theorem unbroken_of_visualBase (lines : session.mode = .visual .lines)
    (within : session.cursor.Within session.text)
    (backward : session.visualBase.caret < session.visualBase.anchor)
    (atEnd : session.visualBase.anchor = session.text.length) :
    session.text[session.text.length - 1]? ≠ some '\n' := by
  obtain ⟨low, high⟩ := visualBase_ends lines within
  have bounded := within.high_le
  have caret : session.visualBase.low = session.visualBase.caret :=
    Nat.min_eq_left (Nat.le_of_lt backward)
  have anchor : session.visualBase.high = session.visualBase.anchor :=
    Nat.max_eq_right (Nat.le_of_lt backward)
  split at high
  · omega
  · rename_i unstepped
    have whole : session.cursor.high = session.text.length := by omega
    rw [whole] at unstepped
    exact fun broken => unstepped ⟨by omega, broken⟩

theorem footing_le_length (session : Session library) : session.footing ≤ session.text.length := by
  have anchor := session.within_selected.anchor
  have caret := session.caret_le_length
  simp only [footing]
  repeat' split
  all_goals omega

/-- A selection that holds on to a line is not empty, unless that line is the empty one at the end. -/
theorem HoldsLine.given (holds : moved.HoldsLine session.text
      (session.text.lineStart session.footing) (session.text.nextLineStart session.footing)) :
    moved.cursor.low < moved.cursor.high ∨ moved.cursor.high = moved.text.length := by
  have inside := session.footing_le_length
  have low := holds.low
  have high := holds.high
  rcases Nat.eq_or_lt_of_le inside with atEnd | before
  · have bounded := holds.covers.bounded
    rw [atEnd, nextLineStart_length] at high
    rw [holds.unchanged]
    exact .inr (Nat.le_antisymm bounded high)
  · have started := lineStart_le inside
    have after := lt_nextLineStart before
    exact .inl (by omega)

/-- Once lines are selected and motions have led on from there, a motion inside the line of the caret
always succeeds, and selects the same lines again.  The one exception is the motion to the end of the
line, where there is text after that line: it changes which lines are selected. -/
theorem same_lines_of_inLine (selects : session.SelectsLines pressed)
    (reached : Reaches Moving (session.key pressed).2 moved)
    (read : VisualCommand.parse (moved.keys ++ [c]) = .ok (count, .extend motion))
    (inLine : motion.inLine = true) :
    let after := (moved.key (.char c)).2
    (moved.key (.char c)).1 = .ok .handled ∧ after.mode = .visual .lines ∧
      after.text = session.text ∧ after.Shown ∧
      (after.cursor.low = moved.cursor.low ∧ after.cursor.high = moved.cursor.high ↔
        ¬ (motion = .lineEnd ∧
          session.text.nextLineStart moved.visualBase.caret < session.text.length)) := by
  intro after
  have holds := holdsLine_of_reaches (holdsLine_of_selectsLines selects) reached
  have same : moved.text = session.text := holds.unchanged
  have covers : moved.cursor.CoversLines moved.text := same ▸ holds.covers
  obtain ⟨low, high⟩ := lines_visualBase holds.mode covers holds.given
  have base := moved.within_visualBase
  have selected {place : Nat} (within : place ≤ moved.text.length)
      (resolved : Standpoint.resolve
        ⟨moved.text, moved.visualBase, true, false, library.isPunctuation⟩ moved.charSearch
        count motion = .ok ⟨place, moved.visualBase.anchor⟩) :
      (moved.key (.char c)).1 = .ok .handled ∧ after.mode = .visual .lines ∧
        after.text = session.text ∧ after.Shown ∧
        after.cursor.low = moved.text.lineStart (min place moved.visualBase.anchor) ∧
        after.cursor.high = moved.text.nextLineStart (max place moved.visualBase.anchor) := by
    obtain ⟨handled, mode, text, shown, cursor⟩ := key_of_extend_lines holds.mode read resolved
    have spanned := lineStart_le_nextLineStart
      (Cursor.low_le_high ⟨place, moved.visualBase.anchor⟩) (Nat.max_le.mpr ⟨within, base.anchor⟩)
    refine ⟨handled, mode, text.trans same, shown, ?_, ?_⟩
    · exact (congrArg Cursor.low cursor).trans (Cursor.low_spanning spanned _)
    · exact (congrArg Cursor.high cursor).trans (Cursor.high_spanning spanned _)
  by_cases ends : motion = .lineEnd
  · subst ends
    obtain ⟨handled, mode, text, shown, newLow, newHigh⟩ := selected (nextLineStart_le base.caret)
      (Standpoint.resolve_lineEnd_visual _ _ _ rfl base.caret)
    refine ⟨handled, mode, text, shown, ?_⟩
    rw [newLow, newHigh, ← low, ← high, ← same]
    simp only [true_and]
    apply ends_of_nextLineStart base.caret base.anchor
    exact unbroken_of_visualBase holds.mode covers.within
  · obtain ⟨place, within, resolved, oneLine⟩ := Standpoint.exists_place_of_inLine
      ⟨moved.text, moved.visualBase, true, false, library.isPunctuation⟩ moved.charSearch count
        base.caret inLine ends
    obtain ⟨handled, mode, text, shown, newLow, newHigh⟩ := selected within resolved
    obtain ⟨first, last⟩ := ends_of_oneLine base.caret base.anchor within oneLine
    refine ⟨handled, mode, text, shown, iff_of_true ⟨?_, ?_⟩ fun both => ends both.1⟩
    · exact newLow.trans (first.trans low)
    · exact newHigh.trans (last.trans high)

/-- The caret goes two places to the right, after the selection was taken back to the first line. -/
theorem same_lines_of_two_right :
    let first := Session.start .standard ((Surface.ofText "abc\ncd\nef".toList).withCaret 5)
      (.ofText []) .silent {}
    let session := first.handle .enter
    let press (session : Session .standard) (c : Char) : Session .standard :=
      session.handle (.key (.char c))
    let moved := press (press (press session 'V') 'k') '2'
    let after := (moved.key (.char 'l')).2
    session.SelectsLines (.char 'V') ∧ Reaches Moving (session.key (.char 'V')).2 moved ∧
      VisualCommand.parse (moved.keys ++ ['l']) = .ok (2, .extend .right) ∧
      moved.cursor = ⟨0, 7⟩ ∧ after.cursor.low = 0 ∧ after.cursor.high = 7 := by
  intro first session press moved after
  have selects : session.SelectsLines (.char 'V') := .inl ⟨'V', 1, rfl, rfl, rfl⟩
  have reached : Reaches Moving (session.key (.char 'V')).2 moved := by
    refine .step (.step .refl ?_) ?_
    all_goals decide +kernel
  have read : VisualCommand.parse (moved.keys ++ ['l']) = .ok (2, .extend .right) := by
    decide +kernel
  have cursor : moved.cursor = ⟨0, 7⟩ := by decide +kernel
  clear_value moved
  obtain ⟨_, _, _, _, kept⟩ := same_lines_of_inLine selects reached read rfl
  obtain ⟨low, high⟩ := kept.mpr fun both => by cases both.1
  rw [cursor] at low high
  exact ⟨selects, reached, read, cursor, low, high⟩

/-- The end of the first of two lines is where the second one starts, and that is selected, too. -/
theorem not_same_lines_of_lineEnd :
    let first := Session.start .standard ((Surface.ofText "a\nb".toList).withCaret 0)
      (.ofText []) .silent {}
    let session := first.handle .enter
    let moved := session.handle (.key (.char 'V'))
    session.SelectsLines (.char 'V') ∧ moved.mode = .visual .lines ∧ moved.cursor = ⟨2, 0⟩ ∧
      VisualCommand.parse (moved.keys ++ ['$']) = .ok (1, .extend .lineEnd) ∧
      (moved.key (.char '$')).2.cursor = ⟨3, 0⟩ ∧
      ¬ (moved.key (.char '$')).2.cursor.high = moved.cursor.high :=
  ⟨.inl ⟨'V', 1, rfl, rfl, rfl⟩, by decide +kernel⟩

end Session

end ModalVi
