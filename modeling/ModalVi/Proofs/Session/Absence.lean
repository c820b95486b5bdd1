import ModalVi.Proofs.Session.Account
import ModalVi.Proofs.Session.Alike
import ModalVi.Regex.Engine

namespace ModalVi

/-! Taking over after the host had control for a while.

While the user types the host edits its field, and it may release the session or take the focus away any
number of times.  What it did to the text is found when the session takes over, as the difference from
the text that the session knows.  But every release makes the session know the text as it is then, and
remembers no change for that.  So the history accounts for what was done exactly where the releases left
the session with the text that it knew before. -/

/-- What a host does on its own: it changes its field, or takes control or the focus away. -/
def Event.ByHost : Event → Prop
  | .field _ | .release | .blur => True
  | _ => False

/-- The text that changes lead to does not depend on the carets that are noted with them. -/
theorem Leads.eq_of_bare {before after other : Text} {changes others : List Change}
    (first : Leads before changes after) (second : Leads before others other)
    (same : changes.map Change.bare = others.map Change.bare) : after = other := by
  induction first generalizing others with
  | refl =>
      obtain rfl := List.map_eq_nil_iff.mp same.symm
      cases second
      rfl
  | step taken _ ih =>
      cases second with
      | refl => cases same
      | step takenAlso later =>
          rw [List.map_cons, List.map_cons, List.cons.injEq] at same
          obtain ⟨sameChange, sameRest⟩ := same
          have start := congrArg Change.start sameChange
          have stop := congrArg Change.stop sameChange
          have new := congrArg Change.new sameChange
          simp only [Change.bare] at start stop new
          have reached := takenAlso.replaced
          rw [← start, ← stop, ← new, taken.replaced] at reached
          exact ih (reached ▸ later) sameRest

/-- The text before a change is found from the text after it. -/
theorem Change.Takes.eq_of_bare {change other : Change} {before earlier after : Text}
    (taken : change.Takes before after) (takenAlso : other.Takes earlier after)
    (same : change.bare = other.bare) : before = earlier := by
  have start := congrArg Change.start same
  have old := congrArg Change.old same
  have new := congrArg Change.new same
  simp only [Change.bare] at start old new
  rw [← taken.splice_old, ← takenAlso.splice_old, start, old, new]

theorem Leads.whole {before after : Text} {changes : List Change}
    (chain : Leads before changes after) :
    ∀ change ∈ changes, change.start + change.old.length = change.stop := by
  induction chain with
  | refl => exact fun _ member => absurd member (by simp)
  | step taken _ ih =>
      intro change member
      rcases List.mem_cons.mp member with rfl | later
      · exact taken.start_add_length_old
      · exact ih change later

namespace Session

variable {library : Library} {origin : Text} {session absent entered : Session library}
  {events : List Event}

/-! ### Undoing until nothing is left -/

/-- Undoing can go on until nothing is left, which restores `origin`, and no step of it writes over
anything but what the change that it takes back had put there. -/
def Restores (origin : Text) (session : Session library) : Prop :=
  ∀ count,
    (∀ change rest, (session.undo count).history.undoable = change :: rest →
      (session.undo count).text.slice change.start (change.start + change.new.length) =
        change.new) ∧
      (session.history.undoable.length ≤ count →
        (session.undo count).history.undoable = [] ∧ (session.undo count).text = origin)

theorem Settled.restores (settled : Settled origin session) (accepts : session.surface.Accepts) :
    Restores origin session := by
  intro count
  refine ⟨fun change rest newest => ?_, fun enough => ?_⟩
  · have chain := (settled.undo count).consistent.undoable
    rw [newest] at chain
    obtain ⟨middle, _, taken⟩ := chain.last_of_reverse_cons
    exact taken.slice_new
  · obtain ⟨text, nothing, _⟩ := undoTimes_all accepts settled.consistent.undoable enough
    exact ⟨nothing, text⟩

/-- Where undoing goes well all the way, the changes lead to the text that it began with. -/
theorem Restores.leads (restores : Restores origin session) (accepts : session.surface.Accepts)
    (whole : ∀ change ∈ session.history.undoable, change.start + change.old.length = change.stop) :
    Leads origin session.history.undoable.reverse session.text := by
  generalize held : session.history.undoable = changes at whole
  induction changes generalizing session with
  | nil =>
      obtain ⟨_, text⟩ := (restores 0).2 (by rw [held]; exact Nat.le_refl 0)
      have same : session.text = origin := text
      rw [same]
      exact .refl
  | cons change rest ih =>
      have here : session.text.slice change.start (change.start + change.new.length) = change.new :=
        (restores 0).1 change rest held
      have ended := (restores (rest.length + 1)).2 (by rw [held]; exact Nat.le_refl _)
      generalize asked : session.surface.edit change.start (change.start + change.new.length)
        change.old = answer
      obtain ⟨made, surface⟩ := answer
      cases made with
      | false =>
          -- A step that the host refuses leaves the change where it is.
          have stuck : (session.undo (rest.length + 1)).history.undoable = change :: rest := by
            simp only [undo, undoTimes, History.undo, held, asked]
            exact held
          rw [stuck] at ended
          cases ended.1
      | true =>
          obtain ⟨_, bounded, _, _⟩ := Surface.eq_edited_of_edit asked
          have taken := Change.takes_of_slice_new (whole change (by simp)) bounded here
          have next : Restores origin (session.undoing change rest) := by
            intro count
            have later := restores (count + 1)
            have same : session.undo (count + 1) = (session.undoing change rest).undo count :=
              congrArg notice (undoTimes_of_takes held taken accepts)
            rw [same, held] at later
            exact ⟨later.1, fun enough => later.2 (Nat.succ_le_succ enough)⟩
          have earlier := ih next (accepts_undoing accepts) rfl
            (fun other member => whole other (List.mem_cons_of_mem _ member))
          rw [text_undoing rest taken] at earlier
          exact earlier.reverse_cons taken

/-! ### What the host does -/

/-- The session after several events. -/
def handleAll (events : List Event) (session : Session library) :
    Session library := events.foldl handle session

/-- A release comes only while the session knows the text. -/
def Unhurried : List Event → Session library → Prop
  | [], _ => True
  | event :: rest, session => session.Considerate event ∧ Unhurried rest (session.handle event)

/-- Typing goes on, and no change was remembered. -/
structure Idled (before after : Session library) : Prop where
  mode : after.mode = .insert
  undoable : after.history.undoable = before.history.undoable
  redoable : after.history.redoable = before.history.redoable

theorem idled_handleAll (inserting : session.mode = .insert)
    (byHost : ∀ event ∈ events, event.ByHost) : Idled session (session.handleAll events) := by
  induction events generalizing session with
  | nil => exact ⟨inserting, rfl, rfl⟩
  | cons event rest ih =>
      have others : ∀ event ∈ rest, event.ByHost :=
        fun other member => byHost other (List.mem_cons_of_mem _ member)
      have first : Idled session (session.handle event) := by
        cases event with
        | field surface => exact ⟨inserting, rfl, rfl⟩
        | release | blur => exact ⟨rfl, rfl, rfl⟩
        | key | insertText | enter | mouseSelection | setDebug | clipboard | prompt =>
            exact False.elim (byHost _ List.mem_cons_self)
      have later := ih first.mode others
      exact ⟨later.mode, later.undoable.trans first.undoable,
        later.redoable.trans first.redoable⟩

theorem known_handleAll (byHost : ∀ event ∈ events, event.ByHost)
    (unhurried : Unhurried events session) : (session.handleAll events).known = session.known := by
  induction events generalizing session with
  | nil => rfl
  | cons event rest ih =>
      obtain ⟨considerate, later⟩ := unhurried
      have others : ∀ event ∈ rest, event.ByHost :=
        fun other member => byHost other (List.mem_cons_of_mem _ member)
      have first : (session.handle event).known = session.known := by
        cases event with
        | field surface => rfl
        | release | blur => exact considerate.symm
        | key | insertText | enter | mouseSelection | setDebug | clipboard | prompt =>
            exact False.elim (byHost _ List.mem_cons_self)
      exact (ih others later).trans first

/-! ### Taking over -/

/-- The changes after taking over, apart from the carets noted with them. -/
theorem bare_enter (session : Session library) :
    session.enter.history.undoable.map Change.bare =
      match Change.between? session.known session.text with
      | some change => change.bare :: session.history.undoable.map Change.bare
      | none => session.history.undoable.map Change.bare := by
  have settled := History.bare_settle session.reconcile.surface.selection.toCursor.caret
    session.reconcile.history
  refine Eq.trans settled ?_
  simp only [reconcile]
  cases Change.between? session.known session.text <;> rfl

theorem text_enter (session : Session library) : session.enter.text = session.text := by
  have same : session.enter.text = session.reconcile.text := rfl
  rw [same, reconcile]
  split <;> rfl

/-- A chain that goes through what was found when taking over begins where the history before leads. -/
theorem known_of_leads_enter {known : Text}
    (chain : Leads origin absent.enter.history.undoable.reverse absent.enter.text)
    (before : Leads origin absent.history.undoable.reverse known) : absent.known = known := by
  have bare := bare_enter absent
  rw [text_enter] at chain
  cases found : Change.between? absent.known absent.text with
  | none =>
      rw [found] at bare
      have same := congrArg List.reverse bare
      rw [← List.map_reverse, ← List.map_reverse] at same
      rw [Change.eq_of_between?_eq_none found]
      exact chain.eq_of_bare before same
  | some change =>
      rw [found] at bare
      generalize absent.enter.history.undoable = changes at chain bare
      cases changes with
      | nil => cases bare
      | cons top rest =>
          rw [List.map_cons, List.cons.injEq] at bare
          obtain ⟨sameTop, sameRest⟩ := bare
          obtain ⟨middle, earlier, taken⟩ := chain.last_of_reverse_cons
          have same := congrArg List.reverse sameRest
          rw [← List.map_reverse, ← List.map_reverse] at same
          rw [← earlier.eq_of_bare before same]
          exact ((Change.takes_of_between? found).eq_of_bare taken sameTop.symm)

/-- The span of every change is as long as its old text, also of the change found when taking over. -/
theorem whole_enter {known : Text} (before : Leads origin absent.history.undoable.reverse known) :
    ∀ change ∈ absent.enter.history.undoable,
      change.start + change.old.length = change.stop := by
  have earlier : ∀ change ∈ absent.history.undoable.map Change.bare,
      change.start + change.old.length = change.stop := by
    intro change member
    obtain ⟨remembered, among, rfl⟩ := List.mem_map.mp member
    exact before.whole remembered (List.mem_reverse.mpr among)
  intro change member
  have bare : change.bare ∈ absent.enter.history.undoable.map Change.bare :=
    List.mem_map_of_mem member
  rw [bare_enter] at bare
  cases found : Change.between? absent.known absent.text with
  | none =>
      rw [found] at bare
      exact earlier change.bare bare
  | some difference =>
      rw [found] at bare
      rcases List.mem_cons.mp bare with same | remembered
      · have whole := (Change.takes_of_between? found).start_add_length_old
        have bareWhole : difference.bare.start + difference.bare.old.length =
            difference.bare.stop := whole
        rw [← same] at bareWhole
        exact bareWhole
      · exact earlier change.bare remembered

/-- Undoing everything restores the first text after the host had control exactly where the releases
left the session with the text that it knew.  They do if each comes before the host's edits. -/
theorem restores_iff_known {surface : Surface} {clipboard : Clipboard} {prompt : Prompt}
    {options : Options}
    (reached : Reaches Considerate (Session.start library surface clipboard prompt options) session)
    (inserting : session.mode = .insert) (byHost : ∀ event ∈ events, event.ByHost)
    (absence : session.handleAll events = absent)
    (taken : entered = absent.enter ∨
      ∃ pressed : Key, pressed.isEscape = true ∧ entered = (absent.key pressed).2)
    (accepts : absent.surface.Accepts) :
    (Restores surface.text entered ↔ absent.known = session.known) ∧
      (Unhurried events session → absent.known = session.known) := by
  have begun : Accounted surface.text (Session.start library surface clipboard prompt options) :=
    ⟨.empty surface.text, fun _ => rfl⟩
  have accounted : Accounted surface.text session :=
    reached.preserves (fun _ _ accounted considerate => accounted.handle considerate) begun
  have idled := idled_handleAll inserting byHost
  rw [absence] at idled
  have takesOver : entered = absent.enter := by
    rcases taken with same | ⟨pressed, escape, same⟩
    · exact same
    · rw [same]
      simp only [Session.key, if_pos idled.mode, insertKey, if_pos escape]
  have surfaceSame : entered.surface = absent.surface := by
    rw [takesOver]
    show absent.reconcile.surface = absent.surface
    rw [reconcile]
    split <;> rfl
  have acceptsStill : entered.surface.Accepts := surfaceSame ▸ accepts
  have before : Leads surface.text absent.history.undoable.reverse session.known := by
    rw [idled.undoable]
    exact accounted.consistent.undoable
  refine ⟨⟨fun restores => ?_, fun known => ?_⟩, fun unhurried => ?_⟩
  · have whole : ∀ change ∈ entered.history.undoable,
        change.start + change.old.length = change.stop := by
      rw [takesOver]
      exact whole_enter before
    have chain := restores.leads acceptsStill whole
    rw [takesOver] at chain
    exact known_of_leads_enter chain before
  · have accountedStill : Accounted surface.text absent :=
      { consistent := by
          rw [known]
          exact ⟨before, by rw [idled.redoable]; exact accounted.consistent.redoable⟩
        known := fun owned => absurd idled.mode owned }
    rw [takesOver]
    exact accountedStill.enter.restores (takesOver ▸ acceptsStill)
  · rw [← absence]
    exact known_handleAll byHost unhurried

/-- The focus is lost before the user types on. -/
theorem restores_of_blur :
    let first := Session.start .standard (.ofText []) (.ofText []) .silent {}
    let session := first.handle (.insertText ['a'])
    let entered := ((session.handleAll [.blur, .field (session.surface.type ['b'])]).key .escape).2
    Reaches Considerate first session ∧ entered.text = ['a', 'b'] ∧
      entered.history.undoable.length = 2 ∧ Restores [] entered := by
  have accepts : (((Session.start .standard (.ofText []) (.ofText []) .silent {}).handle
    (.insertText ['a'])).handleAll
      [.blur, .field (((Session.start .standard (.ofText []) (.ofText []) .silent
      {}).handle (.insertText ['a'])).surface.type ['b'])]).surface.Accepts := fun _ => rfl
  intro first session entered
  have reached : Reaches Considerate first session := .step .refl trivial
  have inserting : session.mode = .insert := rfl
  have byHost : ∀ event ∈ [Event.blur, .field (session.surface.type ['b'])], event.ByHost := by
    intro event member
    simp only [List.mem_cons, List.not_mem_nil, or_false] at member
    rcases member with rfl | rfl <;> trivial
  have unhurried : Unhurried [.blur, .field (session.surface.type ['b'])] session :=
    ⟨rfl, .inl rfl, trivial⟩
  obtain ⟨restores, known⟩ := restores_iff_known reached inserting byHost rfl
    (.inr ⟨.escape, rfl, rfl⟩) accepts
  exact ⟨reached, by decide, by decide, restores.mpr (known unhurried)⟩

/-- Where the focus is lost after the user typed, undoing everything leaves a text behind. -/
theorem not_restores_of_blur :
    let first := Session.start .standard (.ofText []) (.ofText []) .silent {}
    let session := first.handle (.insertText ['a'])
    let typed := { session.surface with text := ['b', 'a'], selection := Selection.caret 1 }
    let entered := ((session.handleAll [.field typed, .blur]).key .escape).2
    entered.history.undoable.length = 1 ∧ (entered.undo 1).text = ['a'] ∧
      ¬ Restores [] entered := by
  intro first session typed entered
  have left : (entered.undo 1).text = ['a'] := by decide
  have once : entered.history.undoable.length = 1 := by decide
  refine ⟨once, left, fun restores => ?_⟩
  have begun := ((restores 1).2 (Nat.le_of_eq once)).2
  rw [left] at begun
  cases begun

end Session

end ModalVi
