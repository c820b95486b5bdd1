import ModalVi.Proofs.Motion.Object
import ModalVi.Proofs.Session.LineAnchor

namespace ModalVi

/-! Objects in a selection of whole lines.

The end of an object is taken for a place of the caret, and the line of that place is selected.  If the
object ends within a line, that is its last line.  If it ends with a line, it is the line after the
object. -/

open Text

variable {text : Text} {low high count : Nat} {around : Bool} {object : TextObject} {c : Char}

/-- The smallest selection of whole lines that covers two others. -/
structure Cursor.LeastLines (text : Text) (first second cursor : Cursor) : Prop where
  lines : cursor.CoversLines text
  coversFirst : cursor.Covers first
  coversSecond : cursor.Covers second
  least : ∀ other : Cursor, other.CoversLines text → other.Covers first → other.Covers second →
    other.Covers cursor

/-- All lines that touch a place between the two are selected by any selection of lines that reaches from
one to behind the other. -/
theorem Cursor.CoversLines.covers_linesBetween {other : Cursor} (covers : other.CoversLines text)
    (ordered : low ≤ high) (inside : high ≤ text.length) (before : other.low ≤ low)
    (behind : min (high + 1) text.length ≤ other.high) (direction : Direction) :
    other.Covers (linesBetween text low high direction) := by
  have spanned := lineStart_le_nextLineStart ordered inside
  have bounded := covers.bounded
  rw [linesBetween, Cursor.Covers, Cursor.low_spanning spanned, Cursor.high_spanning spanned]
  constructor
  · exact (isGreatest_lineStart (Nat.le_trans ordered inside)).2 ⟨before, covers.starts⟩
  · rcases Nat.eq_or_lt_of_le inside with atEnd | within
    · rw [atEnd, nextLineStart_length]
      omega
    · refine (isLeast_nextLineStart within).2 ⟨by omega, ?_⟩
      exact covers.ends.imp_right fun ends => .inr ends.2

theorem behind_linesBetween (ordered : low ≤ high) (inside : high ≤ text.length)
    (direction : Direction) :
    (linesBetween text low high direction).low ≤ low ∧
      min (high + 1) text.length ≤ (linesBetween text low high direction).high := by
  have spanned := lineStart_le_nextLineStart ordered inside
  rw [linesBetween, Cursor.low_spanning spanned, Cursor.high_spanning spanned]
  refine ⟨lineStart_le (Nat.le_trans ordered inside), ?_⟩
  rcases Nat.eq_or_lt_of_le inside with atEnd | within
  · rw [atEnd, nextLineStart_length]
    omega
  · have after := lt_nextLineStart within
    omega

/-! ### The lines from a selection to a place -/

section Ends

variable {old : Cursor} {start stop : Nat} (covers : old.CoversLines text) (nonempty : start < stop)
  (inside : stop ≤ text.length) (reaches : old.high ≤ stop + 1)
include covers nonempty inside reaches

/-- They are the smallest that cover the selection and that place. -/
theorem leastLines_linesBetween :
    Cursor.LeastLines text old (.spanning start (min (stop + 1) text.length) .forward)
      (linesBetween text (min old.low start) stop .forward) := by
  have ordered : min old.low start ≤ stop := by omega
  have bounded := covers.bounded
  have further : start ≤ min (stop + 1) text.length := by omega
  obtain ⟨before, behind⟩ := behind_linesBetween ordered inside .forward
  refine ⟨coversLines_linesBetween ordered inside .forward, ⟨by omega, by omega⟩, ?_, ?_⟩
  · rw [Cursor.Covers, Cursor.low_spanning further, Cursor.high_spanning further]
    omega
  · intro other lines first second
    rw [Cursor.Covers, Cursor.low_spanning further, Cursor.high_spanning further] at second
    have lower := first.1
    exact lines.covers_linesBetween ordered inside (by omega) second.2 .forward

/-- They are the smallest that cover the selection and all before that place, unless a line starts there
that was not selected. -/
theorem leastLines_iff :
    Cursor.LeastLines text old (.spanning start stop .forward)
        (linesBetween text (min old.low start) stop .forward) ↔
      ¬ (old.high ≤ stop ∧ StartsLine text stop ∧ stop < text.length) := by
  have ordered : min old.low start ≤ stop := by omega
  have bounded := covers.bounded
  have within := Nat.le_of_lt nonempty
  obtain ⟨before, behind⟩ := behind_linesBetween ordered inside .forward
  constructor
  · rintro least ⟨ended, starts, short⟩
    -- Without the line that starts there the selection would end at that place and cover both.
    have started : text.lineStart (min old.low start) ≤ min old.low start :=
      lineStart_le (Nat.le_trans ordered inside)
    have spanned := Nat.le_trans started ordered
    have low := Cursor.low_spanning spanned .forward
    have high := Cursor.high_spanning spanned .forward
    have lines : (Cursor.spanning (text.lineStart (min old.low start)) stop .forward).CoversLines
        text := by
      refine ⟨by rwa [high], ?_, ?_⟩
      · rw [low]
        exact lineStart_eq_zero_or_break (Nat.le_trans ordered inside)
      · rw [high]
        exact .inr ⟨by omega, starts.resolve_left (by omega)⟩
    have first : (Cursor.spanning (text.lineStart (min old.low start)) stop .forward).Covers old := by
      rw [Cursor.Covers, low, high]
      omega
    have second : (Cursor.spanning (text.lineStart (min old.low start)) stop .forward).Covers
        (.spanning start stop .forward) := by
      rw [Cursor.Covers, low, high, Cursor.low_spanning within, Cursor.high_spanning within]
      omega
    have reached := (least.least _ lines first second).2
    omega
  · intro kept
    have further := leastLines_linesBetween covers nonempty inside reaches
    refine ⟨further.lines, further.coversFirst, ?_, ?_⟩
    · rw [Cursor.Covers, Cursor.low_spanning within, Cursor.high_spanning within]
      omega
    · intro other lines first second
      rw [Cursor.Covers, Cursor.low_spanning within, Cursor.high_spanning within] at second
      have lower := first.1
      have upper := first.2
      refine lines.covers_linesBetween ordered inside (by omega) ?_ .forward
      -- Lines that end right at the place end with the text there, or before the start of a line.
      apply Nat.le_of_not_lt
      intro short
      have ends : other.high = stop := by omega
      rcases lines.ends with whole | ⟨_, broken⟩
      · omega
      · exact kept ⟨by omega, .inr (ends ▸ broken), by omega⟩

end Ends

namespace Session

variable {library : Library} {session : Session library} {extent : TextObject.Extent}

/-- What the keys of an object make of a selection of whole lines whose caret is its high end, where the
object ends after it starts: the smallest lines that cover that selection and the object with the place
where it ends.  They are the smallest that cover the selection and the object unless the object ends where
a line starts that was not selected. -/
theorem leastLines_of_key_object (lines : session.mode = .visual .lines)
    (covers : session.cursor.CoversLines session.text) (forward : session.cursor.isForward = true)
    (read : VisualCommand.parse (session.keys ++ [c]) = .ok (count, .extend (.object around object)))
    (selected : object.select library.isPunctuation around count
      (.atOffset session.text session.visualBase.caret) = .ok extent)
    (nonempty : extent.start.offset < extent.stop.offset) :
    let old := session.cursor
    let start := extent.start.offset
    let stop := extent.stop.offset
    let length := session.text.length
    let after := (session.key (.char c)).2
    (session.key (.char c)).1 = .ok .handled ∧ after.mode = .visual .lines ∧
      after.text = session.text ∧ after.Shown ∧ after.cursor.isForward = true ∧
      Cursor.LeastLines session.text old (.spanning start (min (stop + 1) length) .forward)
        after.cursor ∧
      (Cursor.LeastLines session.text old (.spanning start stop .forward) after.cursor ↔
        ¬ (old.high ≤ stop ∧ StartsLine session.text stop ∧ stop < length)) := by
  intro old start stop length after
  have base := session.within_visualBase
  have low : old.low = old.anchor := Nat.min_eq_right (of_decide_eq_true forward)
  have anchor : session.visualBase.anchor = old.low :=
    (anchor_of_forward covers.within forward).trans low.symm
  -- The object is looked for from the caret, which is the high end or before the break there.
  have onward := (TextObject.onward_stop_of_select selected).le_offset rfl
  rw [TextObject.offset_atOffset_stop base.caret] at onward
  have reaches : old.high ≤ stop + 1 := by
    obtain ⟨lowEnd, highEnd⟩ := visualBase_ends lines covers.within
    have anchored : session.visualBase.anchor = session.visualBase.low := anchor.trans lowEnd.symm
    have caret : session.visualBase.high = session.visualBase.caret := by
      simp only [Cursor.low, Cursor.high] at anchored ⊢
      omega
    have before : session.cursor.high ≤ session.visualBase.high + 1 := by
      rw [highEnd]
      split <;> omega
    exact Nat.le_trans before (Nat.succ_le_succ (caret.trans_le onward))
  have inside : stop ≤ length := by
    have within := TextObject.within_of_select selected
      ⟨Reader.reads_backward .., Reader.reads_forward ..⟩
    exact within.stop.offset_le
  have resolved : Standpoint.resolve
      ⟨session.text, session.visualBase, true, false, library.isPunctuation⟩
      session.charSearch count (.object around object) =
        .ok (.spanning (min old.low start) stop .forward) := by
    have expanded : Standpoint.expand
        ⟨session.text, session.visualBase, true, false, library.isPunctuation⟩ extent =
        .spanning (min old.low start) stop .forward := by
      rw [Standpoint.expand, if_pos (Nat.le_of_lt nonempty), ← anchor]
      rfl
    simp only [Standpoint.resolve, selected]
    exact congrArg Except.ok expanded
  have ordered : min old.low start ≤ stop := by omega
  obtain ⟨handled, mode, text, shown, cursor⟩ := key_of_extend_lines lines read resolved
  have direction : (Cursor.spanning (min old.low start) stop .forward).direction = .forward := by
    simp [Cursor.direction, Cursor.isForward, Cursor.spanning, ordered]
  rw [Cursor.low_spanning ordered, Cursor.high_spanning ordered, direction] at cursor
  have turned : after.cursor.isForward = true :=
    cursor ▸ decide_eq_true (lineStart_le_nextLineStart ordered inside)
  refine ⟨handled, mode, text, shown, turned, ?_, ?_⟩
  · rw [cursor]
    exact leastLines_linesBetween covers nonempty inside reaches
  · rw [cursor]
    exact leastLines_iff covers nonempty inside reaches

/-- What is between brackets from one line to the next, with the first of these lines selected. -/
theorem leastLines_of_key_block :
    let first := Session.start .standard ((Surface.ofText "a (b\nc) d\ne".toList).withCaret 0)
      (.ofText []) .silent {}
    let press (session : Session .standard) (c : Char) : Session .standard :=
      session.handle (.key (.char c))
    let session := press (press (first.handle .enter) 'V') 'i'
    session.mode = .visual .lines ∧ session.cursor = ⟨5, 0⟩ ∧ session.visualBase.caret = 4 ∧
      VisualCommand.parse (session.keys ++ ['(']) =
        .ok (1, .extend (.object false (.block '(' ')'))) ∧
      (∃ extent, TextObject.select (.block '(' ')') Unicode.isPunctuation false 1
        (.atOffset session.text 4) = .ok extent ∧
        extent.start.offset = 3 ∧ extent.stop.offset = 6) ∧
      (session.key (.char '(')).2.cursor = ⟨10, 0⟩ ∧
      Cursor.LeastLines session.text session.cursor (.spanning 3 6 .forward) ⟨10, 0⟩ := by
  intro first press session
  have lines : session.mode = .visual .lines := by decide +kernel
  have text : session.text = "a (b\nc) d\ne".toList := by decide +kernel
  have old : session.cursor = ⟨5, 0⟩ := by decide +kernel
  have covers : session.cursor.CoversLines session.text := by decide +kernel
  have caret : session.visualBase.caret = 4 := by decide +kernel
  have read : VisualCommand.parse (session.keys ++ ['(']) =
      .ok (1, .extend (.object false (.block '(' ')'))) := by decide +kernel
  have ends : (TextObject.select (.block '(' ')') Unicode.isPunctuation false 1
      (.atOffset session.text 4)).map
      (fun extent => (extent.start.offset, extent.stop.offset)) = .ok (3, 6) := by decide +kernel
  have cursor : (session.key (.char '(')).2.cursor = ⟨10, 0⟩ := by decide +kernel
  clear_value session
  cases selected : TextObject.select (.block '(' ')') Unicode.isPunctuation false 1
      (.atOffset session.text 4) with
  | error error =>
      rw [selected] at ends
      cases ends
  | ok extent =>
      rw [selected] at ends
      obtain ⟨start, stop⟩ : extent.start.offset = 3 ∧ extent.stop.offset = 6 := by
        simpa [Except.map] using ends
      have forward : session.cursor.isForward = true := by rw [old]; rfl
      obtain ⟨_, _, _, _, _, _, least⟩ := leastLines_of_key_object lines covers forward read
        (by rw [caret]; exact selected) (by omega)
      rw [cursor, start, stop, old] at least
      refine ⟨lines, old, caret, read, ⟨extent, rfl, start, stop⟩, cursor, ?_⟩
      rw [old]
      exact least.mpr fun all => absurd (text ▸ all.2.1) (by decide)

/-- The inner paragraph of one line ends where the empty line after it starts, and that is selected,
too. -/
theorem not_leastLines_of_key_paragraph :
    let first := Session.start .standard ((Surface.ofText "a\n\nb".toList).withCaret 0)
      (.ofText []) .silent {}
    let press (session : Session .standard) (c : Char) : Session .standard :=
      session.handle (.key (.char c))
    let session := press (press (first.handle .enter) 'V') 'i'
    session.mode = .visual .lines ∧ session.cursor = ⟨2, 0⟩ ∧
      session.cursor.CoversLines session.text ∧ session.visualBase.caret = 1 ∧
      VisualCommand.parse (session.keys ++ ['p']) = .ok (1, .extend (.object false .paragraph)) ∧
      (TextObject.select .paragraph Unicode.isPunctuation false 1 (.atOffset session.text 1)).map
        (fun extent => (extent.start.offset, extent.stop.offset)) = .ok (0, 2) ∧
      (session.key (.char 'p')).2.cursor = ⟨3, 0⟩ ∧
      ¬ Cursor.LeastLines session.text session.cursor (.spanning 0 2 .forward)
        (session.key (.char 'p')).2.cursor := by
  intro first press session
  have text : session.text = "a\n\nb".toList := by decide +kernel
  have old : session.cursor = ⟨2, 0⟩ := by decide +kernel
  have cursor : (session.key (.char 'p')).2.cursor = ⟨3, 0⟩ := by decide +kernel
  refine ⟨by decide +kernel, old, by decide +kernel, by decide +kernel, by decide +kernel,
    by decide +kernel, cursor, ?_⟩
  rw [text, old, cursor]
  intro least
  exact absurd (least.least ⟨2, 0⟩ (by decide) (by decide) (by decide)) (by decide)

end Session

end ModalVi
