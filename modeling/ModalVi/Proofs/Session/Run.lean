import ModalVi.Session.Keys

namespace ModalVi

/-! Runs of a session: what its host may do to it, in any order. -/

/-- Something that happens to a session: a call by its host, or a change of what the host
provides. -/
inductive Event where
  | key (pressed : Key)
  | insertText (new : Text)
  | enter
  | release
  | blur
  | mouseSelection
  | setDebug (debug : Bool)
  /-- The user typed, selected or scrolled in the field. -/
  | field (surface : Surface)
  | clipboard (clipboard : Clipboard)
  | prompt (prompt : Prompt)

namespace Session

variable {library : Library}

/-- The session after an event. -/
def handle (session : Session library) : Event → Session library
  | .key pressed => (session.key pressed).2
  | .insertText new => (session.insertText new).2
  | .enter => session.enter
  | .release => session.release
  | .blur => session.blur
  | .mouseSelection => session.mouseSelection
  | .setDebug debug => session.setDebug debug
  | .field surface => { session with surface }
  | .clipboard clipboard => { session with clipboard }
  | .prompt prompt => { session with prompt }

/-- A session is reached from another by events that each are allowed when they happen. -/
inductive Reaches (allowed : Session library → Event → Prop) (first : Session library) :
    Session library → Prop where
  | refl : Reaches allowed first first
  | step {session : Session library} (reached : Reaches allowed first session) {event : Event}
      (permitted : allowed session event) : Reaches allowed first (session.handle event)

/-- What every allowed event preserves holds wherever a run leads. -/
theorem Reaches.preserves {allowed : Session library → Event → Prop}
    {first session : Session library}
    {Holds : Session library → Prop} (reached : Reaches allowed first session)
    (preserved : ∀ session event, Holds session → allowed session event →
      Holds (session.handle event))
    (begun : Holds first) : Holds session := by
  induction reached with
  | refl => exact begun
  | step _ permitted ih => exact preserved _ _ ih permitted

end Session

end ModalVi
