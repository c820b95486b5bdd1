import ModalVi.Proofs.Session.Effect
import ModalVi.Regex.Engine

namespace ModalVi.Session

/-! Typing a text at once and in two pieces.

Text that is typed takes the place of what the field selects, and the caret stands after it.  But where
the field selects that very text there is nothing to replace, and then the selection stays.  So a first
piece that was selected is not kept: the second one takes its place. -/

variable {library : Library} {session middle after : Session library} {first second new : Text}
  {low high : Nat}

/-- The span of the text that the field selects. -/
def span (session : Session library) :
    Selection := session.surface.selection.clamped session.text.length

/-- The text that the field selects. -/
def spanned (session : Session library) :
    Text := session.text.slice session.span.start session.span.stop

/-- The session knows the text, and its caret is where the selection of the field begins. -/
def caughtUp (session : Session library) : Session library :=
  { session.reconcile with cursor := Cursor.collapsed session.reconcile.surface.selection.start }

theorem surface_caughtUp (session : Session library) : session.caughtUp.surface = session.surface :=
  session.surface_reconcile

theorem text_caughtUp (session : Session library) : session.caughtUp.text = session.text :=
  congrArg Surface.text session.surface_caughtUp

theorem span_bounds (ordered : session.surface.selection.start ≤ session.surface.selection.stop) :
    session.span.start ≤ session.span.stop ∧ session.span.stop ≤ session.text.length := by
  simp only [span, Selection.clamped]
  omega

/-! ### One piece -/

/-- Only the part of a span that is within the text counts. -/
theorem replace_clamped (ordered : low ≤ high) (new : Text) (merging : Bool)
    (session : Session library) :
    session.replace low high new merging =
      session.replace (min low session.text.length) (min high session.text.length) new merging := by
  have stop : min (min high session.text.length) session.text.length =
      min high session.text.length := by omega
  have start : min (min low session.text.length) (min high session.text.length) =
      min low (min high session.text.length) := by omega
  simp only [replace, stop, start]

theorem insertText_eq (given : new ≠ [])
    (ordered : session.surface.selection.start ≤ session.surface.selection.stop) :
    session.insertText new =
      match session.caughtUp.replace session.span.start session.span.stop new true with
      | (false, refused) => (false, refused)
      | (true, made) =>
          (true, (made.setCursor (session.surface.selection.start + new.length)).settled) := by
  have something : new.isEmpty = false := by simpa using given
  have clamped : session.caughtUp.replace session.surface.selection.start
      session.surface.selection.stop new true =
        session.caughtUp.replace session.span.start session.span.stop new true := by
    rw [replace_clamped ordered, text_caughtUp]
    rfl
  simp only [insertText, something, Bool.false_eq_true, if_false]
  rw [← caughtUp, surface_reconcile, clamped]
  generalize session.caughtUp.replace session.span.start session.span.stop new true = answer
  obtain ⟨_ | _, next⟩ := answer <;> rfl

/-- What is selected is not replaced by itself. -/
theorem insertText_of_spanned (given : new ≠ [])
    (ordered : session.surface.selection.start ≤ session.surface.selection.stop)
    (same : session.spanned = new) : session.insertText new = (false, session.caughtUp) := by
  obtain ⟨begins, ends⟩ := span_bounds ordered
  have held : session.text.slice session.span.start session.span.stop = new := same
  have kept : session.caughtUp.replace session.span.start session.span.stop new true =
      (false, session.caughtUp) := by
    simp only [replace, text_caughtUp, Nat.min_eq_left ends, Nat.min_eq_left begins, if_pos held]
  rw [insertText_eq given ordered, kept]

/-- The caret of a session that caught up is within the text if something is selected. -/
theorem cursor_caughtUp (given : session.spanned ≠ []) :
    session.caughtUp.cursor = Cursor.collapsed session.span.start := by
  have something := List.length_pos_iff.mpr given
  simp only [spanned, Text.slice, List.length_take, List.length_drop, span, Selection.clamped]
    at something
  have inside : min session.surface.selection.start session.text.length =
      session.surface.selection.start := by omega
  simp only [caughtUp, surface_reconcile, span, Selection.clamped, inside]

/-- `new` has taken the place of what was selected, and the caret stands after it. -/
structure TypedOver (before : Session library) (new : Text) (after : Session library) : Prop where
  text : after.text = before.text.splice before.span.start before.span.stop new
  cursor : after.cursor = Cursor.collapsed (before.span.start + new.length)
  shown : after.surface.selection = Selection.caret (before.span.start + new.length)

/-- Anything else that is selected is replaced. -/
theorem typedOver_insertText (accepts : session.surface.Accepts) (given : new ≠ [])
    (ordered : session.surface.selection.start ≤ session.surface.selection.stop)
    (differs : session.spanned ≠ new) :
    TypedOver session new (session.insertText new).2 ∧
      (session.insertText new).2.surface.Accepts := by
  obtain ⟨begins, ends⟩ := span_bounds ordered
  have accepted : session.caughtUp.surface.verdicts 0 = true := by
    rw [surface_caughtUp]
    exact accepts 0
  have made : session.caughtUp.replace session.span.start session.span.stop new true = (true, _) :=
    replace_of_accepted accepted begins (by rwa [text_caughtUp]) (by rwa [text_caughtUp])
  have text : (session.caughtUp.replaced session.span.start session.span.stop new true).text =
      session.text.splice session.span.start session.span.stop new :=
    congrArg (Text.splice · session.span.start session.span.stop new) session.text_caughtUp
  -- A selection beyond the text is one of its end, and so is a caret beyond it.
  have caret : min (session.surface.selection.start + new.length)
      (session.caughtUp.replaced session.span.start session.span.stop new true).text.length =
        session.span.start + new.length := by
    rw [text, Text.length_splice new begins ends]
    simp only [span, Selection.clamped] at begins ends ⊢
    omega
  have placed := placed_setCursor (session.surface.selection.start + new.length)
    (session.caughtUp.replaced session.span.start session.span.stop new true)
  have cursor := congrArg Cursor.collapsed caret
  rw [insertText_eq given ordered, made]
  refine ⟨⟨text, cursor, placed.shown.trans (congrArg Selection.caret caret)⟩, fun index => ?_⟩
  have judged : session.caughtUp.surface.verdicts (index + 1) = true := by
    rw [surface_caughtUp]
    exact accepts _
  exact judged

/-! ### Two pieces -/

/-- Where the caret stands alone, nothing is selected. -/
theorem TypedOver.spanned_eq_nil (typed : TypedOver session new after) : after.spanned = [] := by
  rw [spanned, span, typed.shown, Selection.clamped, Selection.caret, Text.slice_self]

/-- What is typed next comes after what was typed. -/
theorem TypedOver.append (typed : TypedOver session first middle)
    (further : TypedOver middle second after)
    (ordered : session.surface.selection.start ≤ session.surface.selection.stop) :
    TypedOver session (first ++ second) after := by
  obtain ⟨begins, ends⟩ := span_bounds ordered
  have within := Text.start_add_length_le_splice first begins ends
  have start : middle.span.start = session.span.start + first.length := by
    rw [span, typed.shown, typed.text, Selection.clamped, Selection.caret]
    exact Nat.min_eq_left within
  have stop : middle.span.stop = session.span.start + first.length := by
    rw [← start, span, typed.shown]
    rfl
  refine ⟨?_, ?_, ?_⟩
  · rw [further.text, start, stop, typed.text]
    exact Text.splice_insert_after first second begins ends
  · rw [further.cursor, start, List.length_append, Nat.add_assoc]
  · rw [further.shown, start, List.length_append, Nat.add_assoc]

/-- Two pieces of which the first was not selected are as good as the whole. -/
theorem typedOver_append (accepts : session.surface.Accepts)
    (ordered : session.surface.selection.start ≤ session.surface.selection.stop)
    (givenFirst : first ≠ []) (givenSecond : second ≠ []) (differs : session.spanned ≠ first) :
    TypedOver session (first ++ second) ((session.insertText first).2.insertText second).2 := by
  obtain ⟨typed, accepting⟩ := typedOver_insertText accepts givenFirst ordered differs
  have alone : (session.insertText first).2.surface.selection.start ≤
      (session.insertText first).2.surface.selection.stop := by
    rw [typed.shown]
    exact Nat.le_refl _
  have unselected : (session.insertText first).2.spanned ≠ second := by
    rw [typed.spanned_eq_nil]
    exact givenSecond.symm
  exact typed.append (typedOver_insertText accepting givenSecond alone unselected).1 ordered

/-- A second piece takes the place of the first one if that was selected. -/
theorem text_insertText_of_spanned (accepts : session.surface.Accepts)
    (ordered : session.surface.selection.start ≤ session.surface.selection.stop)
    (givenFirst : first ≠ []) (givenSecond : second ≠ []) (same : session.spanned = first) :
    ((session.insertText first).2.insertText second).2.text =
      session.text.splice session.span.start session.span.stop second := by
  have surface := session.surface_caughtUp
  have text := session.text_caughtUp
  have span : session.caughtUp.span = session.span := by rw [Session.span, surface, text, Session.span]
  have spanned : session.caughtUp.spanned = first := by
    rw [Session.spanned, span, text]
    exact same
  rw [insertText_of_spanned givenFirst ordered same]
  by_cases repeated : first = second
  · have held : session.text.slice session.span.start session.span.stop = second :=
      Eq.trans same repeated
    rw [insertText_of_spanned givenSecond (surface.symm ▸ ordered) (spanned.trans repeated),
      text_caughtUp, text, ← held, Text.splice_slice _ (span_bounds ordered).1]
  · have typed := typedOver_insertText (surface.symm ▸ accepts) givenSecond (surface.symm ▸ ordered)
      (spanned.symm ▸ repeated)
    rw [typed.1.text, span, text]

/-- A text typed at once takes the place of what was selected, with the caret after it, exactly if it is
not what was selected.  Typed in two pieces it does so exactly if the first piece is not what was
selected: otherwise only the second piece is put there. -/
theorem typedOver_pieces (accepts : session.surface.Accepts)
    (ordered : session.surface.selection.start ≤ session.surface.selection.stop)
    (givenFirst : first ≠ []) (givenSecond : second ≠ []) :
    let whole := (session.insertText (first ++ second)).2
    let pieces := ((session.insertText first).2.insertText second).2
    (TypedOver session (first ++ second) whole ↔ session.spanned ≠ first ++ second) ∧
      (TypedOver session (first ++ second) pieces ↔ session.spanned ≠ first) ∧
      (session.spanned = first ++ second →
        whole.surface = session.surface ∧
          whole.cursor = Cursor.collapsed session.span.start) ∧
      (session.spanned = first →
        pieces.text = session.text.splice session.span.start session.span.stop second) := by
  intro whole pieces
  obtain ⟨begins, ends⟩ := span_bounds ordered
  have something := List.length_pos_iff.mpr givenFirst
  have given : first ++ second ≠ [] := List.append_ne_nil_of_left_ne_nil givenFirst _
  have unmoved (same : session.spanned = first ++ second) :
      whole.surface = session.surface ∧
        whole.cursor = Cursor.collapsed session.span.start := by
    simp only [whole, insertText_of_spanned given ordered same]
    exact ⟨session.surface_caughtUp, cursor_caughtUp (same.symm ▸ given)⟩
  have lost := text_insertText_of_spanned accepts ordered givenFirst givenSecond
  refine ⟨⟨fun typed same => ?_, fun differs => ?_⟩, ⟨fun typed same => ?_, ?_⟩, unmoved, lost⟩
  · have carets := congrArg Cursor.caret ((unmoved same).2.symm.trans typed.cursor)
    simp only [Cursor.collapsed, List.length_append] at carets
    omega
  · exact (typedOver_insertText accepts given ordered differs).1
  · have lengths := congrArg List.length ((lost same).symm.trans typed.text)
    rw [Text.length_splice _ begins ends, Text.length_splice _ begins ends,
      List.length_append] at lengths
    omega
  · exact typedOver_append accepts ordered givenFirst givenSecond

/-- The middle of three characters is selected and typed over by two others, one after the other. -/
theorem typedOver_pieces_of_middle :
    let session := Session.start .standard ((Surface.ofText ['a', 'b', 'c']).select ⟨1, 2, .forward⟩)
      (.ofText []) .silent {}
    let pieces := ((session.insertText ['x']).2.insertText ['y']).2
    session.spanned = ['b'] ∧ pieces.text = ['a', 'x', 'y', 'c'] ∧
      pieces.cursor = Cursor.collapsed 3 := by
  intro session pieces
  have accepts : session.surface.Accepts := fun _ => rfl
  have ordered : session.surface.selection.start ≤ session.surface.selection.stop := by decide
  have differs : session.spanned ≠ ['x'] := by decide
  obtain ⟨_, typed, _, _⟩ :=
    typedOver_pieces accepts ordered (List.cons_ne_nil 'x' []) (List.cons_ne_nil 'y' [])
  have pieced := typed.mpr differs
  exact ⟨by decide, pieced.text.trans (by decide), pieced.cursor⟩

/-- A character that is selected is typed again and another one after it: the other one alone is in the
text then, but both are if they come at once. -/
theorem text_pieces_ne_text_whole :
    let session := Session.start .standard ((Surface.ofText ['a']).select ⟨0, 1, .forward⟩)
      (.ofText []) .silent {}
    (session.insertText ['a', 'b']).2.text = ['a', 'b'] ∧
      (session.insertText ['a', 'b']).2.cursor = Cursor.collapsed 2 ∧
      ((session.insertText ['a']).2.insertText ['b']).2.text = ['b'] ∧
      ((session.insertText ['a']).2.insertText ['b']).2.cursor = Cursor.collapsed 1 := by
  decide

end ModalVi.Session
