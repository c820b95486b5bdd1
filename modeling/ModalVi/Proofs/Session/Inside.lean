import ModalVi.Proofs.Regex.Engine
import ModalVi.Proofs.Session.Run
import ModalVi.Proofs.Strict.Keys

namespace ModalVi.Session

/-! No key reads outside the text.

A host may shorten the text at any time, so a cursor and a selection can be beyond its end when the
next key comes.  What is read then is found from the text as it is.  A host that leaves the text alone
outside insert mode never sees a cursor beyond the end at all. -/

variable {library : Library} {session : Session library}

/-! ### The matcher -/

theorem search_reconcile (session : Session library) :
    session.reconcile.search = session.search := by
  simp only [reconcile]
  split <;> rfl

theorem search_insertText (new : Text) (session : Session library) :
    (session.insertText new).2.search = session.search := by
  simp only [insertText]
  split
  · rfl
  · split
    · rename_i refused
      have search := search_replace refused
      exact search.trans session.search_reconcile
    · rename_i made
      have search := search_replace made
      exact search.trans session.search_reconcile

theorem search_insertKey (pressed : Key) (session : Session library) :
    (session.insertKey pressed).2.search = session.search := by
  simp only [insertKey]
  split
  · exact session.search_reconcile
  · split
    · exact search_insertText ['\t'] session
    · rfl

/-- Whatever happens to a session, its matcher stays the one of its source. -/
theorem genuine_handle (genuine : session.search.Genuine library) (event : Event) :
    (session.handle event).search.Genuine library := by
  cases event with
  | key pressed =>
      by_cases typing : session.mode = .insert
      · simp only [handle, Session.key, if_pos typing]
        rw [search_insertKey]
        exact genuine
      · exact (steady_key typing pressed).matcher genuine
  | insertText new =>
      simp only [handle]
      rw [search_insertText]
      exact genuine
  | enter =>
      have kept : session.enter.search = session.search := session.search_reconcile
      simp only [handle]
      rw [kept]
      exact genuine
  | mouseSelection =>
      simp only [handle, mouseSelection]
      split
      · exact genuine
      · split
        · exact genuine
        · split <;> exact genuine
  | release | blur | setDebug debug | field surface | clipboard clipboard | prompt prompt =>
      exact genuine

theorem genuine_of_reaches {allowed : Session library → Event → Prop} {surface : Surface}
    {clipboard : Clipboard} {prompt : Prompt} {options : Options}
    (reached : Reaches allowed (Session.start library surface clipboard prompt options) session) :
    session.search.Genuine library :=
  @Reaches.preserves _ _ _ _ (fun session => session.search.Genuine library) reached
    (fun _ event genuine _ => genuine_handle genuine event) (Search.genuine_empty library)

/-! ### The cursor -/

/-- Only while the user types does the host change the text, and it selects what there is. -/
def EditsWhileTyping (session : Session library) : Event → Prop
  | .field surface => surface.Fits ∧ (session.mode = .insert ∨ surface.text = session.text)
  | _ => True

/-- The field selects what there is, and while the user does not type, the cursor is in the text. -/
structure Tracked (session : Session library) : Prop where
  fits : session.surface.Fits
  within : session.mode ≠ .insert → session.cursor.Within session.text

theorem Inside.tracked (inside : session.Inside) : session.Tracked :=
  ⟨inside.surface, fun _ => inside.cursor⟩

namespace Tracked

theorem enter (tracked : session.Tracked) : session.enter.Tracked := by
  have same : session.enter.surface = session.surface := session.surface_reconcile
  have cursor : session.enter.cursor = session.reconcile.surface.selection.toCursor := rfl
  refine Inside.tracked ⟨?_, ?_⟩
  · rw [cursor, text, same, surface_reconcile]
    exact tracked.fits.within_toCursor
  · rw [same]
    exact tracked.fits

/-- Typing puts the cursor where the field selects, and then behind what was typed. -/
theorem insertText (tracked : session.Tracked) (new : Text) :
    (session.insertText new).2.Tracked := by
  simp only [Session.insertText]
  split
  · exact tracked
  · split
    · rename_i refused
      have start := tracked.fits.start
      have fits := tracked.fits
      rw [← surface_reconcile] at start fits
      exact Inside.tracked ((steady_of_refused refused).inside ⟨⟨start, start⟩, fits⟩)
    · rename_i typed made
      have inside :=
        inside_setCursor (session.reconcile.surface.selection.start + new.length) typed
      exact Inside.tracked ⟨inside.cursor, inside.surface⟩

theorem key (tracked : session.Tracked) (pressed : Key) : (session.key pressed).2.Tracked := by
  by_cases typing : session.mode = .insert
  · simp only [Session.key, if_pos typing, insertKey]
    split
    · exact tracked.enter
    · split
      · exact tracked.insertText ['\t']
      · exact tracked
  · exact ((steady_key typing pressed).inside ⟨tracked.within typing, tracked.fits⟩).tracked

theorem mouseSelection (tracked : session.Tracked) : session.mouseSelection.Tracked := by
  simp only [Session.mouseSelection]
  split
  · exact tracked
  · have taken := tracked.fits.within_toCursor
    split
    · exact ⟨tracked.fits, fun _ => taken⟩
    · split
      · exact ⟨tracked.fits, fun _ => taken⟩
      · exact ⟨tracked.fits, tracked.within⟩

theorem handle {event : Event} (tracked : session.Tracked)
    (reserved : session.EditsWhileTyping event) : (session.handle event).Tracked := by
  cases event with
  | key pressed => exact tracked.key pressed
  | insertText new => exact tracked.insertText new
  | enter => exact tracked.enter
  | release | blur => exact ⟨tracked.fits, fun owned => absurd rfl owned⟩
  | mouseSelection => exact tracked.mouseSelection
  | field surface =>
      refine ⟨reserved.1, fun owned => ?_⟩
      have same := reserved.2.resolve_left owned
      have within := tracked.within owned
      rw [← same] at within
      exact within
  | setDebug debug | clipboard clipboard | prompt prompt =>
      exact ⟨tracked.fits, tracked.within⟩

end Tracked

/-! ### Every key -/

/-- Wherever a host leads a session, and whatever it does to the text and to the selection meanwhile,
a key comes to the same with all its accesses to the text checked, if what expressions find are spans
of the text.  Readers are never asked for more than there is either, in whatever way they were moved.
And as long as the host edits only while the user types, the cursor of a command is in the text. -/
theorem key_inside (spans : library.FindsSpans) :
    (∀ (text : Text) (reader : Reader), Reader.Reads text reader →
      Strict.offset reader = some reader.offset ∧
        Strict.peek text reader = some reader.peek ∧ reader.offset ≤ text.length) ∧
      (∀ (surface : Surface) (clipboard : Clipboard) (prompt : Prompt) (options : Options)
        (session : Session library),
        Reaches (fun _ _ => True) (Session.start library surface clipboard prompt options) session →
          ∀ pressed, Strict.key pressed session = some (session.key pressed)) ∧
      ∀ (surface : Surface) (clipboard : Clipboard) (prompt : Prompt) (options : Options)
        (session : Session library), surface.Fits →
        Reaches EditsWhileTyping (Session.start library surface clipboard prompt options) session →
          session.mode ≠ .insert →
            session.cursor.caret ≤ session.text.length ∧
              session.cursor.anchor ≤ session.text.length := by
  refine ⟨?_, ?_, ?_⟩
  · intro text reader reads
    exact ⟨Strict.offset_eq reads, Strict.peek_eq reads, reads.offset_le⟩
  · intro surface clipboard prompt options session reached pressed
    exact Strict.key_eq spans (genuine_of_reaches reached) pressed
  · intro surface clipboard prompt options session fits reached owned
    have begun : (Session.start library surface clipboard prompt options).Tracked :=
      ⟨fits, fun owned => absurd rfl owned⟩
    have tracked : session.Tracked :=
      reached.preserves (fun _ _ tracked reserved => tracked.handle reserved) begun
    have within := tracked.within owned
    exact ⟨within.caret, within.anchor⟩

/-- The host cuts the text down to one character while the cursor is behind the fifth one. -/
theorem key_inside_of_shortened :
    let first :=
      Session.start .standard ((Surface.ofText "ab\ncd".toList).withCaret 5) (.ofText []) .silent {}
    let shortened := (first.handle .enter).handle (.field (.ofText "a".toList))
    let after := (first.handle .enter).handle (.key (.char 'x'))
    Library.standard.FindsSpans ∧ Reader.Reads "ab".toList (Reader.backward "ab".toList 1) ∧
      (Reaches (fun _ _ => True) first shortened ∧ shortened.cursor.caret = 5 ∧
        shortened.text.length = 1 ∧
        Strict.key (.char 'X') shortened = some (shortened.key (.char 'X'))) ∧
      first.surface.Fits ∧ Reaches EditsWhileTyping first after ∧ after.mode ≠ .insert ∧
        after.cursor.caret ≤ after.text.length := by
  intro first shortened after
  have reads : Reader.Reads "ab".toList (Reader.backward "ab".toList 1) := .facing .backward 1
  have entered : Reaches (fun _ _ => True) first (first.handle .enter) := .step .refl trivial
  have reached : Reaches (fun _ _ => True) first shortened := .step entered trivial
  have fits : first.surface.Fits := ⟨by decide, by decide⟩
  have begun : Reaches EditsWhileTyping first (first.handle .enter) := .step .refl trivial
  have tracked : Reaches EditsWhileTyping first after := .step begun trivial
  have owned : after.mode ≠ .insert := by decide
  obtain ⟨_, checked, within⟩ := key_inside Library.findsSpans_standard
  exact ⟨Library.findsSpans_standard, reads, ⟨reached, rfl, rfl, checked _ _ _ _ _ reached _⟩, fits,
    tracked, owned, (within _ _ _ _ _ fits tracked owned).1⟩

end ModalVi.Session
