import ModalVi.Proofs.Session.Stepwise

namespace ModalVi

/-! What keys keep of the cursor, of the field and of the matcher.

Outside insert mode nothing but the engine moves the cursor, and whatever it does to the text, it ends
by placing the cursor in what the text has become, or leaves both as they are.  So a cursor in the text
stays in the text, and the field selects what it has.  The matcher stays the one of its source. -/

/-- The field selects some of its text. -/
structure Surface.Fits (surface : Surface) : Prop where
  start : surface.selection.start ≤ surface.text.length
  stop : surface.selection.stop ≤ surface.text.length

theorem Surface.fits_select (selection : Selection) (surface : Surface) :
    (surface.select selection).Fits :=
  ⟨Nat.min_le_right _ _, Nat.min_le_right _ _⟩

theorem Surface.Fits.within_toCursor {surface : Surface} (fits : surface.Fits) :
    surface.selection.toCursor.Within surface.text := by
  simp only [Selection.toCursor]
  cases surface.selection.direction with
  | forward => exact ⟨fits.stop, fits.start⟩
  | backward => exact ⟨fits.start, fits.stop⟩

namespace Session

variable {library : Library} {session before middle after : Session library}

/-- The cursor is in the text, and the field selects some of its text. -/
structure Inside (session : Session library) : Prop where
  cursor : session.cursor.Within session.text
  surface : session.surface.Fits

/-- Only the cursor and the field count. -/
theorem Inside.congr (inside : before.Inside) (cursor : after.cursor = before.cursor)
    (surface : after.surface = before.surface) : after.Inside := by
  refine ⟨?_, surface ▸ inside.surface⟩
  rw [text, cursor, surface]
  exact inside.cursor

theorem inside_setCursor (offset : Nat) (session : Session library) :
    (session.setCursor offset).Inside :=
  ⟨⟨Nat.min_le_right _ _, Nat.min_le_right _ _⟩, Surface.fits_select _ _⟩

/-- What a step keeps. -/
structure Steady (before after : Session library) : Prop where
  matcher : before.search.Genuine library → after.search.Genuine library
  inside : before.Inside → after.Inside

theorem Steady.same (search : after.search = before.search) (cursor : after.cursor = before.cursor)
    (surface : after.surface = before.surface) : Steady before after :=
  ⟨fun genuine => search ▸ genuine, fun given => given.congr cursor surface⟩

/-- A step that leaves the cursor in the text, wherever it was before. -/
theorem Steady.of_inside (search : after.search = before.search) (inside : after.Inside) :
    Steady before after :=
  ⟨fun genuine => search ▸ genuine, fun _ => inside⟩

theorem search_replace {low high : Nat} {new : Text} {merging made : Bool}
    (asked : session.replace low high new merging = (made, after)) :
    after.search = session.search := by
  cases made with
  | false => rcases eq_of_replace_eq_false asked with rfl | rfl <;> rfl
  | true =>
      obtain ⟨_, _, _, _, _, _, rfl⟩ := eq_replaced_of_replace asked
      rfl

/-- After an edit the cursor is put somewhere in the new text. -/
theorem stepwise_steady : Stepwise (@Steady library) where
  trans first second := ⟨second.matcher ∘ first.matcher, second.inside ∘ first.inside⟩
  apart apart := ⟨apart.matcher, fun given => given.congr apart.cursor apart.surface⟩
  placed offset session := .of_inside rfl (inside_setCursor offset session)
  shown mode within := .of_inside rfl ⟨within, Surface.fits_select _ _⟩
  judged session := ⟨id, fun given => ⟨given.cursor, ⟨given.surface.start, given.surface.stop⟩⟩⟩
  replaced {_ _ _ session after} offset asked := by
    have search : after.search = session.search := search_replace asked
    exact .of_inside search (inside_setCursor offset after)
  undone _ := .of_inside rfl ((inside_setCursor _ _).congr rfl rfl)
  redone _ := .of_inside rfl ((inside_setCursor _ _).congr rfl rfl)
  noticed session := .same rfl rfl rfl
  closed session := .same rfl rfl rfl
  settled session := .same rfl rfl rfl
  scrolled pixels session :=
    ⟨id, fun given => ⟨given.cursor, ⟨given.surface.start, given.surface.stop⟩⟩⟩
  commanding session := .same rfl rfl rfl
  typing session := .same rfl rfl rfl
  released session := .same rfl rfl rfl
  recorded keys kept _ :=
    ⟨kept.matcher, fun given => (kept.inside (given.congr rfl rfl)).congr rfl rfl⟩
  resumed kept := ⟨kept.matcher, fun given => (kept.inside given).congr rfl rfl⟩

/-- The word at the caret begins in the text. -/
theorem admits_steady (mode : Mode) (keys : List Char) :
    Admits (@Steady library) mode keys := by
  intro count direction _ session _
  refine stepwise_steady.searchWord direction count session ⟨id, fun given => ⟨?_, given.surface⟩⟩
  have inside : (session.text.wordAround library.isPunctuation session.caret).1 ≤ session.text.length :=
    ((Reader.Reads.facing .backward session.caret).skipWordParts).offset_le
  exact ⟨inside, inside⟩

theorem steady_of_refused {low high : Nat} {new : Text} {merging : Bool}
    (refused : session.replace low high new merging = (false, after)) : Steady session after :=
  stepwise_steady.of_refused refused

theorem steady_ask (kind : PromptKind) (session : Session library) :
    Steady session (session.ask kind).2 :=
  stepwise_steady.apart (apart_ask kind session)

theorem steady_carryOut (keys : List Char) (control : Bool) (session : Session library) :
    Steady session (session.carryOut keys control).2 :=
  stepwise_steady.carryOut fun _ _ => admits_steady _ keys

theorem steady_repeatOnce (last : LastChange) (session : Session library) :
    Steady session (session.repeatOnce last).2 :=
  stepwise_steady.repeatOnce (admits_steady _ last.keys)

/-- Whatever the keys ask for, they keep the cursor in the text. -/
theorem steady_key (owned : session.mode ≠ .insert) (pressed : Key) :
    Steady session (session.key pressed).2 :=
  stepwise_steady.key owned pressed (fun _ _ _ => admits_steady _ _) (admits_steady _ _)

end Session

end ModalVi
