import ModalVi.Proofs.Count
import ModalVi.Proofs.Motion.Object
import ModalVi.Proofs.Session.LineSelection

namespace ModalVi

/-! Objects in a selection of characters.

An object is looked for from the caret alone, and the caret goes to its end.  A selection whose caret is
its high end keeps all that it had, except where the inner paragraph fails to contain the caret.  If the
caret is the low end, the anchor is given up for the start of the object, so all that is still selected is
what the object itself contains. -/

open Text

variable {count : Nat} {around : Bool} {object : TextObject} {motion : Motion} {c : Char}

theorem VisualCommand.pos_of_parse {keys : List Char} {command : VisualCommand}
    (read : VisualCommand.parse keys = .ok (count, command)) : 0 < count := by
  simp only [VisualCommand.parse, bind, Except.bind] at read
  cases counted : (KeyBuffer.ofKeys keys).readCount with
  | error error =>
      rw [counted] at read
      cases read
  | ok buffer =>
      simp only [counted] at read
      have positive := KeyBuffer.pos_of_readCount counted
      repeat' split at read
      all_goals cases read
      all_goals exact positive

namespace Session

variable {library : Library} {session : Session library}

/-! ### Motions in a selection of characters -/

theorem visualBase_of_characters (characters : session.mode = .visual .characters) :
    session.visualBase = session.selected := by
  have notLines : session.mode.isVisualLine = false := by simp [characters, Mode.isVisualLine]
  simp only [visualBase, notLines, Bool.false_and, Bool.false_eq_true, if_false]

/-- The caret's end of the selection moves as the motion leads from there. -/
theorem extend_of_characters (characters : session.mode = .visual .characters) (motion : Motion)
    (count : Nat) :
    (∃ error, session.extend motion count =
        (.error error, { session with charSearch := motion.remember session.charSearch })) ∨
      ∃ found, Standpoint.resolve ⟨session.text, session.selected, true, false, library.isPunctuation⟩
          session.charSearch count motion = .ok found ∧
        session.extend motion count = (.ok (), { session with
          charSearch := motion.remember session.charSearch
          cursor := found }.showCursor) := by
  have notLines : session.mode.isVisualLine = false := by simp [characters, Mode.isVisualLine]
  have base := visualBase_of_characters characters
  have outcomes := extend_cases motion count session
  simp only [base, notLines, Bool.false_eq_true, if_false] at outcomes
  exact outcomes

/-- A key that completes a motion either fails or takes the selection where the motion leads. -/
theorem key_of_extend (characters : session.mode = .visual .characters)
    (read : VisualCommand.parse (session.keys ++ [c]) = .ok (count, .extend motion))
    (succeeds : (session.key (.char c)).1.isOk = true) :
    (session.key (.char c)).2.mode = .visual .characters ∧
      (session.key (.char c)).2.text = session.text ∧ (session.key (.char c)).2.Shown ∧
      Standpoint.resolve ⟨session.text, session.selected, true, false, library.isPunctuation⟩
        session.charSearch count motion = .ok (session.key (.char c)).2.cursor := by
  have owned : session.mode ≠ .insert := by simp [characters]
  have visual : (session.holding (session.keys ++ [c])).mode.isVisual = true := by
    simp [holding, characters, Mode.isVisual]
  have held : (session.holding (session.keys ++ [c])).mode = .visual .characters := characters
  have orderly := orderly_runVisual (show VisualCommand.extend motion ≠ .exPrompt by simp) count
    (session.holding (session.keys ++ [c]))
  rw [key_char owned, carryOut_of_visual visual] at succeeds ⊢
  simp only [runVisualKeys, read] at succeeds ⊢
  rcases extend_of_characters held motion count with ⟨error, failed⟩ | ⟨found, resolved, moved⟩
  · simp only [runVisual, failed] at orderly succeeds
    rw [conclude_error orderly.1] at succeeds
    cases succeeds
  · have within : found.Within session.text :=
      Standpoint.within_of_resolve resolved session.within_selected
    have same (after : Session library) : SameSelection after (conclude (.ok .done, after)).2 :=
      sameSelection_conclude fun count again => by cases again
    simp only [runVisual, moved]
    refine ⟨(same _).mode.trans characters, (same _).text, ?_, ?_⟩
    · rw [Shown, (same _).selection, (same _).cursor]
      exact shown_showCursor session.mode within
    · rw [(same _).cursor]
      exact resolved

/-! ### Objects -/

/-- What the keys of an object make of a selection of characters: the caret goes to the end of the object,
and the field shows the new selection.  It covers the old one, if the caret was the high end of that, in
all cases but one: an inner paragraph, where line breaks are all that stands around the caret, two of them
after it.  If the caret was the low end, it does so only where the object ends no sooner than the old
selection, and is not a paragraph among line breaks. -/
theorem covers_of_key_object (characters : session.mode = .visual .characters)
    (read : VisualCommand.parse (session.keys ++ [c]) = .ok (count, .extend (.object around object)))
    (succeeds : (session.key (.char c)).1.isOk = true) :
    let old := session.selected
    let after := (session.key (.char c)).2
    after.mode = .visual .characters ∧ after.text = session.text ∧ after.Shown ∧
      ∃ extent, object.select library.isPunctuation around count
        (.atOffset session.text old.caret) = .ok extent ∧
        after.cursor.caret = extent.stop.offset ∧
        (old.anchor < old.caret →
          (after.cursor.Covers old ↔
            ¬ (object = .paragraph ∧ around = false ∧ count = 1 ∧
              BreaksAround session.text old.caret 2))) ∧
        (old.caret < old.anchor →
          (after.cursor.Covers old ↔
            old.anchor ≤ extent.stop.offset ∧
              ¬ (object = .paragraph ∧ BreaksAround session.text old.caret 1))) := by
  intro old after
  obtain ⟨mode, text, shown, resolved⟩ := key_of_extend characters read succeeds
  obtain ⟨extent, selected, caret, forward, backward⟩ :=
    Standpoint.covers_of_resolve_object session.within_selected.caret
      (VisualCommand.pos_of_parse read) resolved
  exact ⟨mode, text, shown, extent, selected, caret,
    fun ordered => forward (Nat.le_of_lt ordered), backward⟩

/-- The inner word around the caret, after its first character was selected. -/
theorem covers_of_key_word :
    let first := Session.start .standard ((Surface.ofText "foo bar".toList).withCaret 0)
      (.ofText []) .silent {}
    let press (session : Session .standard) (c : Char) : Session .standard :=
      session.handle (.key (.char c))
    let session := press (press (press (first.handle .enter) 'v') 'l') 'i'
    session.mode = .visual .characters ∧
      VisualCommand.parse (session.keys ++ ['w']) = .ok (1, .extend (.object false .word)) ∧
      (session.key (.char 'w')).1.isOk = true ∧ session.selected = ⟨1, 0⟩ ∧
      (session.key (.char 'w')).2.cursor = ⟨3, 0⟩ ∧
      (session.key (.char 'w')).2.cursor.Covers session.selected := by
  intro first press session
  have characters : session.mode = .visual .characters := by decide +kernel
  have read : VisualCommand.parse (session.keys ++ ['w']) =
      .ok (1, .extend (.object false .word)) := by decide +kernel
  have succeeds : (session.key (.char 'w')).1.isOk = true := by decide +kernel
  have selected : session.selected = ⟨1, 0⟩ := by decide +kernel
  have cursor : (session.key (.char 'w')).2.cursor = ⟨3, 0⟩ := by decide +kernel
  clear_value session
  obtain ⟨_, _, _, _, _, _, forward, _⟩ := covers_of_key_object characters read succeeds
  have covers := (forward (by rw [selected]; decide)).mpr fun all => by cases all.1
  exact ⟨characters, read, succeeds, selected, cursor, covers⟩

/-- From the start of a selection that reaches back over two words, the inner word gives up the second
one. -/
theorem not_covers_of_key_word :
    let first := Session.start .standard ((Surface.ofText "foo bar".toList).withCaret 7)
      (.ofText []) .silent {}
    let press (session : Session .standard) (c : Char) : Session .standard :=
      session.handle (.key (.char c))
    let session := press (press (press (first.handle .enter) 'v') '0') 'i'
    session.mode = .visual .characters ∧ session.selected = ⟨0, 7⟩ ∧
      VisualCommand.parse (session.keys ++ ['w']) = .ok (1, .extend (.object false .word)) ∧
      (session.key (.char 'w')).1.isOk = true ∧
      (session.key (.char 'w')).2.cursor = ⟨3, 0⟩ ∧
      ¬ (session.key (.char 'w')).2.cursor.Covers session.selected := by
  decide +kernel

end Session

end ModalVi
