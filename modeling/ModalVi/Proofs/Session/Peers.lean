import ModalVi.Proofs.Session.TakingBack

namespace ModalVi.Session

/-! A repetition does not look at the carets that were noted after changes.

Sessions that differ in those, and in what they remember as the last change, are peers.  A command does
the same to peers, so a repetition that is counted and as many single ones lead to peers. -/

variable {library : Library} {first second after : Session library} {last : LastChange}
  {count : Nat}

/-- The sessions are the same but for the carets noted after changes, for the last change, and for what
no command that edits looks at. -/
structure Peers (first second : Session library) : Prop where
  surface : second.surface = first.surface
  clipboard : second.clipboard = first.clipboard
  options : second.options = first.options
  mode : second.mode = first.mode
  cursor : second.cursor = first.cursor
  keys : second.keys = first.keys
  charSearch : second.charSearch = first.charSearch
  undoable : second.history.undoable.map Change.unsettled =
    first.history.undoable.map Change.unsettled
  redoable : second.history.redoable = first.history.redoable

theorem Peers.text (peers : Peers first second) : second.text = first.text :=
  congrArg Surface.text peers.surface

/-- Where a step leaves all that alone, it leads to a peer. -/
theorem Peers.settled (peers : Peers first second) : Peers first second.settled :=
  { peers with
    undoable := (History.unsettled_settle _ _).trans peers.undoable
    redoable := (History.redoable_settle _ _).trans peers.redoable }

theorem Peers.replace (peers : Peers first second) (low high : Nat) (new : Text) :
    (second.replace low high new false).1 = (first.replace low high new false).1 ∧
      Peers (first.replace low high new false).2 (second.replace low high new false).2 := by
  simp only [Session.replace, peers.text, peers.surface]
  split
  · exact ⟨rfl, peers⟩
  · split
    · exact ⟨rfl, { peers with surface := rfl }⟩
    · have recorded (history : History) (start stop : Nat) (old : Text) (caret : Nat) :=
        History.record_of_apart start stop old new caret
          (.inr rfl : history.merging = false ∨ false = false)
      refine ⟨rfl, { peers with surface := rfl, undoable := ?_, redoable := ?_ }⟩
      · simp only [recorded, List.map_cons, peers.undoable, peers.cursor]
      · simp only [recorded]

theorem respected_peers : Respected (@Peers library) where
  text := Peers.text
  cursor := Peers.cursor
  clipboard := Peers.clipboard
  options := Peers.options
  charSearch := Peers.charSearch
  setCursor offset peers := by
    have text := peers.text
    exact { peers with
      surface := by simp only [Session.setCursor, text, peers.surface]
      cursor := by simp only [Session.setCursor, text] }
  toInsert peers := { peers with mode := rfl }
  access clipboard peers := { peers with clipboard := rfl }
  remember charSearch peers := { peers with charSearch := rfl }
  replace low high new peers := peers.replace low high new

/-! ### Repetitions -/

theorem Peers.run {keys : List Char} {command : Command} (peers : Peers first second)
    (edits : command.edits = true) (keysAlso : List Char) :
    Alongside Peers (first.run keys command count) (second.run keysAlso command count) := by
  have begun : Peers ({ first with changed := false } : Session library)
      ({ second with changed := false } : Session library) :=
    { peers with }
  rw [run_of_edits _ edits, run_of_edits _ edits]
  rcases (respected_peers.act edits count begun).cases with
    ⟨error, firstAfter, secondAfter, here, there, acted⟩ |
    ⟨done, firstAfter, secondAfter, here, there, acted⟩
  · rw [here, there]
    exact ⟨rfl, acted⟩
  · rw [here, there]
    refine ⟨rfl, ?_⟩
    -- What is remembered of the command does not count.
    simp only
    split
    · split <;> exact { acted with }
    · split <;> exact { acted with }

theorem Peers.replay (peers : Peers first second) (repeatable : last.Repeatable) :
    Alongside Peers (first.replay last) (second.replay last) := by
  simp only [Session.replay]
  split
  · exact ⟨rfl, peers⟩
  · rename_i keyed
    have recorded : last.keys ≠ [] := by simpa using keyed
    obtain ⟨held, c, count, command, keys, _, read, edits, _⟩ := repeatable recorded
    rw [← keys] at read
    simp only [runKeys, read]
    exact peers.run edits last.keys

theorem Peers.retype (peers : Peers first second) (last : LastChange) :
    Peers (first.retype last) (second.retype last) := by
  simp only [Session.retype, peers.cursor]
  split
  · exact peers
  · exact respected_peers.setCursor _ (respected_peers.put _ _ _ peers)

theorem Peers.repeatOnce (peers : Peers first second) (repeatable : last.Repeatable) :
    Alongside Peers (first.repeatOnce last) (second.repeatOnce last) := by
  rw [repeatOnce_eq, repeatOnce_eq]
  rcases (peers.replay repeatable).cases with
    ⟨error, firstAfter, secondAfter, here, there, replayed⟩ |
    ⟨flow, firstAfter, secondAfter, here, there, replayed⟩
  · rw [here, there]
    exact ⟨rfl, replayed⟩
  · have typed := replayed.retype last
    rw [here, there]
    exact ⟨rfl, { typed with mode := rfl }⟩

/-- A host that accepts everything still does after a repetition. -/
theorem accepts_repeatOnce (mode : first.mode = .command) (repeatable : last.Repeatable)
    (accepts : first.surface.Accepts) (repeated : first.repeatOnce last = (.ok (), after)) :
    after.surface.Accepts := by
  rw [repeatOnce_eq] at repeated
  generalize replayed : first.replay last = attempt at repeated
  obtain ⟨error | flow, next⟩ := attempt
  · cases repeated
  · cases repeated
    have commanded := accepts.follows (commanded_replay mode repeatable replayed).host
    obtain ⟨changes, adds, _⟩ := adds_retype last commanded
    exact commanded.follows adds.host

/-- One repetition among several and a single one either both fail or both lead to peers. -/
theorem Peers.dot (peers : Peers first second) (repeatable : second.last.Repeatable)
    (given : second.last.isEmpty = false) (mode : second.mode = .command)
    (fresh : second.keys = []) :
    (∃ error here there, first.repeatOnce second.last = (.error error, here) ∧
        second.key (.char '.') = (.error error, there) ∧ Peers here there) ∨
      ∃ here there, first.repeatOnce second.last = (.ok (), here) ∧
        second.key (.char '.') = (.ok .handled, there) ∧ Peers here there ∧
        there.mode = .command ∧ there.keys = [] ∧ there.last = second.last ∧
        there.history.Noted ∧ (second.surface.Accepts → there.surface.Accepts) := by
  have begun : Peers first second.begun := { peers with keys := fresh.symm.trans peers.keys }
  have still : second.begun.mode = .command := mode
  rw [key_once mode fresh given]
  rcases (begun.repeatOnce repeatable).cases with
    ⟨error, here, there, once, again, alike⟩ | ⟨done, here, there, once, again, alike⟩
  · rw [again]
    exact .inl ⟨error, here, _, once, rfl, { alike with }⟩
  · have keys := keys_repeatOnce still again
    have command : there.mode = .command := mode_repeatOnce again
    have noticed : Peers here { there with last := second.last }.notice := { alike with }
    have host (accepts : second.surface.Accepts) : there.surface.Accepts :=
      accepts_repeatOnce still repeatable accepts again
    rw [again]
    exact .inr ⟨here, _, once, rfl, noticed.settled, command, keys, rfl,
      History.noted_settle _ _, host⟩

/-- As many repetitions one after the other lead to a peer of where they lead at once. -/
theorem Peers.repeatTimes (peers : Peers first second) (repeatable : second.last.Repeatable)
    (given : second.last.isEmpty = false) (mode : second.mode = .command)
    (fresh : second.keys = []) (accepts : second.surface.Accepts)
    (pressed : second.press (List.replicate count (.char '.')) = (.ok (), after)) :
    ∃ next, first.repeatTimes second.last count = (.ok (), next) ∧ Peers next after ∧
      after.mode = .command ∧ after.keys = [] ∧ after.surface.Accepts ∧
      (0 < count → after.history.Noted) := by
  induction count generalizing first second with
  | zero =>
      cases pressed
      exact ⟨first, rfl, peers, mode, fresh, accepts, fun positive => absurd positive (by decide)⟩
  | succ count ih =>
      rw [List.replicate_succ, press] at pressed
      rcases peers.dot repeatable given mode fresh with
        ⟨error, here, there, _, again, _⟩ |
        ⟨here, there, once, again, alike, command, keys, last, noted, host⟩
      · rw [again] at pressed
        cases pressed
      · rw [again] at pressed
        rw [← last] at repeatable given
        obtain ⟨next, rest, alikeAfter, afterMode, afterKeys, afterAccepts, notedAfter⟩ :=
          ih alike repeatable given command keys (host accepts) pressed
        rw [last] at rest
        refine ⟨next, ?_, alikeAfter, afterMode, afterKeys, afterAccepts, fun _ => ?_⟩
        · rw [Session.repeatTimes, once]
          exact rest
        · cases count with
          | zero =>
              cases pressed
              exact noted
          | succ count => exact notedAfter (Nat.succ_pos count)

end ModalVi.Session
