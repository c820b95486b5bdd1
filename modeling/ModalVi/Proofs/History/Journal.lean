import ModalVi.Proofs.History.Chain

namespace ModalVi

/-! A history beside the texts that the field went through.

A history keeps spans and the texts in them, and forgets which edits it fused into one change.  The
journal of a run on a field whose host accepts everything keeps, beside each change, all the edits
behind it with the whole texts around them.  So it can be asked where a step back or forth leads. -/

/-- An edit by the whole texts before and after it. -/
structure Edit where
  before : Text
  after : Text

/-- The edits fused into one change, the later ones oldest first. -/
structure Fused where
  oldest : Edit
  later : List Edit

namespace Fused

def alone (edit : Edit) : Fused := ⟨edit, []⟩

def grown (edit : Edit) (fused : Fused) : Fused := { fused with later := fused.later ++ [edit] }

def newest (fused : Fused) : Edit := fused.later.getLastD fused.oldest

@[simp] theorem newest_grown (edit : Edit) (fused : Fused) : (fused.grown edit).newest = edit := by
  simp [grown, newest]

end Fused

/-- What can be done with a history: an edit by the engine, one by the host that is only noticed
afterwards, noting a caret, closing the merge window, and a step back or forth. -/
inductive Action where
  | edit (start stop : Nat) (new : Text) (caret : Nat) (merging : Bool)
  | host (text : Text)
  | settle (caret : Nat)
  | close
  | undo
  | redo

/-- A history on a field, and the edits behind the changes that can be undone and redone, newest
first. -/
structure Journal where
  history : History
  surface : Surface
  undoable : List Fused
  redoable : List Fused

namespace Journal

def start (text : Text) : Journal := ⟨History.empty, Surface.ofText text, [], []⟩

/-- Writes an edit down with the newest ones, if it joined their change, or else on its own. -/
def enter (edit : Edit) (joined : Bool) : List Fused → List Fused
  | [] => [.alone edit]
  | fused :: older => if joined then fused.grown edit :: older else .alone edit :: fused :: older

theorem enter_apart (edit : Edit) (undoable : List Fused) :
    enter edit false undoable = .alone edit :: undoable := by
  cases undoable <;> rfl

/-- Does one thing.  An edit that does not fit the text is not made and not remembered. -/
def perform (journal : Journal) : Action → Journal
  | .edit start stop new caret merging =>
      let old := journal.surface.text.slice start stop
      match journal.surface.edit start stop new with
      | (true, surface) =>
          let (joined, history) := journal.history.record start stop old new caret merging
          let edit := ⟨journal.surface.text, surface.text⟩
          ⟨history, surface, enter edit joined journal.undoable, []⟩
      | (false, surface) => { journal with surface }
  | .host text =>
      let surface := { journal.surface with text }.select journal.surface.selection
      match Change.between? journal.surface.text text with
      | some change =>
          let edit := ⟨journal.surface.text, text⟩
          ⟨journal.history.push change, surface, .alone edit :: journal.undoable, []⟩
      | none => { journal with surface }
  | .settle caret => { journal with history := journal.history.settle caret }
  | .close => { journal with history := journal.history.close }
  | .undo =>
      match journal.history.undo journal.surface with
      | (some _, history, surface) =>
          ⟨history, surface, journal.undoable.tail, journal.undoable.take 1 ++ journal.redoable⟩
      | (none, history, surface) => { journal with history, surface }
  | .redo =>
      match journal.history.redo journal.surface with
      | (some _, history, surface) =>
          ⟨history, surface, journal.redoable.take 1 ++ journal.undoable, journal.redoable.tail⟩
      | (none, history, surface) => { journal with history, surface }

def run (actions : List Action) (journal : Journal) : Journal := actions.foldl perform journal

theorem run_cons (action : Action) (actions : List Action) (journal : Journal) :
    journal.run (action :: actions) = (journal.perform action).run actions := rfl

theorem run_append (first second : List Action) (journal : Journal) :
    journal.run (first ++ second) = (journal.run first).run second := List.foldl_append

/-! ### What a journal accounts for -/

/-- Each change leads from the text before the oldest of its edits to the text after the newest, and
the newest change to `text`. -/
inductive Back : List Change → List Fused → (text : Text) → Prop where
  | nil {text : Text} : Back [] [] text
  | cons {change : Change} {changes : List Change} {fused : Fused} {older : List Fused} {text : Text}
      (taken : change.Takes fused.oldest.before text) (ends : fused.newest.after = text)
      (earlier : Back changes older fused.oldest.before) :
      Back (change :: changes) (fused :: older) text

/-- Likewise for the changes that lead on from `text`. -/
inductive Forth : (text : Text) → List Change → List Fused → Prop where
  | nil {text : Text} : Forth text [] []
  | cons {change : Change} {changes : List Change} {fused : Fused} {newer : List Fused} {text : Text}
      (taken : change.Takes text fused.newest.after) (begins : fused.oldest.before = text)
      (later : Forth fused.newest.after changes newer) :
      Forth text (change :: changes) (fused :: newer)

structure Sound (journal : Journal) : Prop where
  accepts : journal.surface.Accepts
  back : Back journal.history.undoable journal.undoable journal.surface.text
  forth : Forth journal.surface.text journal.history.redoable journal.redoable

theorem Sound.start (text : Text) : (Journal.start text).Sound := ⟨fun _ => rfl, .nil, .nil⟩

variable {journal : Journal} {change : Change} {rest : List Change}

namespace Sound

theorem edit {start stop : Nat} (new : Text) (caret : Nat) (merging : Bool) (sound : journal.Sound)
    (ordered : start ≤ stop) (bounded : stop ≤ journal.surface.text.length) :
    (journal.perform (.edit start stop new caret merging)).Sound := by
  have made := Surface.edit_of_accepted new (sound.accepts 0) ordered bounded
  have accepts := sound.accepts.follows (.edited start stop new journal.surface)
  simp only [perform, made]
  rcases History.record_cases journal.history start stop (journal.surface.text.slice start stop) new caret
    merging with apart | ⟨top, rest, newest, rfl, _, _, _, ends, joined⟩
  · rw [apart]
    rw [enter_apart]
    exact ⟨accepts, .cons ⟨ordered, bounded, rfl, rfl⟩ rfl sound.back, .nil⟩
  · rw [joined]
    obtain ⟨accepted, back, forth⟩ := sound
    rw [newest] at back
    generalize journal.undoable = undoable at back ⊢
    cases back with
    | @cons _ _ fused older _ taken _ earlier =>
        subst ends
        refine ⟨accepts, .cons (taken.grown new _) ?_ earlier, .nil⟩
        exact congrArg Edit.after (Fused.newest_grown _ fused)

theorem host (text : Text) (sound : journal.Sound) : (journal.perform (.host text)).Sound := by
  simp only [perform]
  split
  · rename_i change found
    exact ⟨sound.accepts, .cons (Change.takes_of_between? found) rfl sound.back, .nil⟩
  · rename_i nothing
    have same : text = journal.surface.text := (Change.eq_of_between?_eq_none nothing).symm
    subst same
    exact ⟨sound.accepts, sound.back, sound.forth⟩

theorem settle (caret : Nat) (sound : journal.Sound) : (journal.perform (.settle caret)).Sound := by
  obtain ⟨accepts, back, forth⟩ := sound
  refine ⟨accepts, ?_, by simpa only [perform, History.redoable_settle] using forth⟩
  simp only [perform]
  cases newest : journal.history.undoable with
  | nil =>
      rw [newest] at back
      simpa only [History.settle, newest] using back
  | cons top rest =>
      obtain ⟨noted, settled⟩ := History.exists_settle caret journal.history newest
      rw [newest] at back
      rw [settled]
      generalize journal.undoable = undoable at back ⊢
      cases back with
      | cons taken ends earlier => exact .cons (taken.withCarets top.caretBefore noted) ends earlier

theorem close (sound : journal.Sound) : (journal.perform .close).Sound :=
  ⟨sound.accepts, sound.back, sound.forth⟩

/-- A step back from the newest change is made, to the text before the oldest of its edits. -/
theorem undo_of_cons (sound : journal.Sound) (newest : journal.history.undoable = change :: rest) :
    ∃ fused older, journal.undoable = fused :: older ∧
      change.Takes fused.oldest.before journal.surface.text ∧
      fused.newest.after = journal.surface.text ∧ Back rest older fused.oldest.before ∧
      journal.history.undo journal.surface =
        (some change.undoCaret, ⟨rest, change :: journal.history.redoable, false⟩,
          journal.surface.edited change.start (change.start + change.new.length) change.old) := by
  obtain ⟨accepts, back, -⟩ := sound
  rw [newest] at back
  generalize journal.undoable = undoable at back
  cases back with
  | @cons _ _ fused older _ taken ends earlier =>
      exact ⟨fused, older, rfl, taken, ends, earlier,
        History.undo_of_takes newest taken (accepts 0)⟩

/-- A step forth is made, to the text after the newest of the next change's edits. -/
theorem redo_of_cons (sound : journal.Sound) (next : journal.history.redoable = change :: rest) :
    ∃ fused newer, journal.redoable = fused :: newer ∧
      change.Takes journal.surface.text fused.newest.after ∧
      fused.oldest.before = journal.surface.text ∧ Forth fused.newest.after rest newer ∧
      journal.history.redo journal.surface =
        (some change.redoCaret, ⟨change :: journal.history.undoable, rest, false⟩,
          journal.surface.edited change.start (change.start + change.old.length) change.new) := by
  obtain ⟨accepts, -, forth⟩ := sound
  rw [next] at forth
  generalize journal.redoable = redoable at forth
  cases forth with
  | @cons _ _ fused newer _ taken begins later =>
      exact ⟨fused, newer, rfl, taken, begins, later,
        History.redo_of_takes next taken (accepts 0)⟩

theorem undo (sound : journal.Sound) : (journal.perform .undo).Sound := by
  cases newest : journal.history.undoable with
  | nil =>
      simp only [perform, History.undo, newest]
      exact ⟨sound.accepts, sound.back, sound.forth⟩
  | cons change rest =>
      obtain ⟨fused, older, behind, taken, ends, earlier, undone⟩ := sound.undo_of_cons newest
      simp only [perform, undone, behind]
      have accepts := sound.accepts.follows (.edited change.start
        (change.start + change.new.length) change.old journal.surface)
      refine ⟨accepts, ?_, ?_⟩
      · simpa only [Surface.text_edited, taken.splice_old, List.tail_cons] using earlier
      · have forth := sound.forth
        simp only [Surface.text_edited, taken.splice_old]
        rw [← ends] at taken forth
        exact .cons taken rfl forth

theorem redo (sound : journal.Sound) : (journal.perform .redo).Sound := by
  cases next : journal.history.redoable with
  | nil =>
      simp only [perform, History.redo, next]
      exact ⟨sound.accepts, sound.back, sound.forth⟩
  | cons change rest =>
      obtain ⟨fused, newer, ahead, taken, begins, later, redone⟩ := sound.redo_of_cons next
      simp only [perform, redone, ahead]
      have accepts := sound.accepts.follows (.edited change.start
        (change.start + change.old.length) change.new journal.surface)
      refine ⟨accepts, ?_, ?_⟩
      · have back := sound.back
        simp only [Surface.text_edited, taken.splice_new]
        rw [← begins] at taken back
        exact .cons taken rfl back
      · simpa only [Surface.text_edited, taken.splice_new, List.tail_cons] using later

/-- Whatever is done, the journal goes on to account for the history. -/
theorem perform (action : Action) (sound : journal.Sound) : (journal.perform action).Sound := by
  cases action with
  | edit start stop new caret merging =>
      by_cases within : start ≤ stop ∧ stop ≤ journal.surface.text.length
      · exact sound.edit new caret merging within.1 within.2
      · have refused := Surface.edit_of_accepts sound.accepts start stop new
        rw [if_neg within] at refused
        simp only [Journal.perform, refused]
        exact ⟨fun index => sound.accepts (index + 1), sound.back, sound.forth⟩
  | host text => exact sound.host text
  | settle caret => exact sound.settle caret
  | close => exact sound.close
  | undo => exact sound.undo
  | redo => exact sound.redo

theorem run (actions : List Action) (sound : journal.Sound) : (journal.run actions).Sound := by
  induction actions generalizing journal with
  | nil => exact sound
  | cons action actions ih => exact ih (sound.perform action)

end Sound

/-! ### Several steps back and forth -/

/-- Two journals of the same text and the same changes. -/
structure Agrees (first second : Journal) : Prop where
  text : first.surface.text = second.surface.text
  undoable : first.history.undoable = second.history.undoable
  redoable : first.history.redoable = second.history.redoable

/-- As many steps back, and then as many forth. -/
def thereAndBack (back forth : Nat) : List Action :=
  List.replicate back .undo ++ List.replicate forth .redo

theorem Agrees.trans {first second third : Journal} (here : first.Agrees second)
    (there : second.Agrees third) : first.Agrees third :=
  ⟨here.text.trans there.text, here.undoable.trans there.undoable,
    here.redoable.trans there.redoable⟩

theorem perform_undo_of_nil (nothing : journal.history.undoable = []) :
    (journal.perform .undo).Agrees journal := by
  simp only [perform, History.undo, nothing]
  exact ⟨rfl, rfl, rfl⟩

theorem perform_redo_of_nil (nothing : journal.history.redoable = []) :
    (journal.perform .redo).Agrees journal := by
  simp only [perform, History.redo, nothing]
  exact ⟨rfl, rfl, rfl⟩

/-- What does nothing does nothing several times. -/
theorem Agrees.run_replicate {action : Action} {origin : Journal} (count : Nat)
    (agrees : journal.Agrees origin)
    (idle : ∀ journal : Journal, journal.Agrees origin → (journal.perform action).Agrees journal) :
    (journal.run (List.replicate count action)).Agrees origin := by
  induction count generalizing journal with
  | zero => exact agrees
  | succ count ih =>
      rw [List.replicate_succ, run_cons]
      exact ih ((idle journal agrees).trans agrees)

/-- From where the newest change was undone, a step forth leads back. -/
theorem Sound.agrees_redo {near : Journal} (sound : journal.Sound) (nearSound : near.Sound)
    (newest : journal.history.undoable = change :: rest)
    (agrees : near.Agrees (journal.perform .undo)) : (near.perform .redo).Agrees journal := by
  obtain ⟨fused, older, _, taken, _, _, undone⟩ := sound.undo_of_cons newest
  have text : near.surface.text = fused.oldest.before :=
    agrees.text.trans (by simp only [Journal.perform, undone, Surface.text_edited, taken.splice_old])
  have undoable : near.history.undoable = rest :=
    agrees.undoable.trans (by simp only [Journal.perform, undone])
  have redoable : near.history.redoable = change :: journal.history.redoable :=
    agrees.redoable.trans (by simp only [Journal.perform, undone])
  rw [← text] at taken
  have redone := History.redo_of_takes redoable taken (nearSound.accepts 0)
  simp only [Journal.perform, redone]
  refine ⟨?_, ?_, rfl⟩
  · simp only [Surface.text_edited, taken.splice_new]
  · rw [undoable, newest]

theorem run_thereAndBack_succ (back forth : Nat) (journal : Journal) :
    journal.run (thereAndBack (back + 1) (forth + 1)) =
      ((journal.perform .undo).run (thereAndBack back forth)).perform .redo := by
  rw [thereAndBack, List.replicate_succ, List.replicate_succ', List.cons_append,
    ← List.append_assoc, run_cons, run_append]
  rfl

/-- What was undone is made again, as far as there was something to undo. -/
theorem Sound.agrees_thereAndBack (count : Nat) (sound : journal.Sound) :
    (journal.run (thereAndBack count (min count journal.history.undoable.length))).Agrees journal := by
  induction count generalizing journal with
  | zero =>
      rw [Nat.zero_min]
      exact ⟨rfl, rfl, rfl⟩
  | succ count ih =>
      cases newest : journal.history.undoable with
      | nil =>
          have none : thereAndBack (count + 1) (min (count + 1) ([] : List Change).length) =
              List.replicate (count + 1) .undo := by
            rw [List.length_nil, Nat.min_zero]
            exact List.append_nil _
          rw [none]
          apply Agrees.run_replicate (count + 1) ⟨rfl, rfl, rfl⟩
          intro other agrees
          exact perform_undo_of_nil (agrees.undoable.trans newest)
      | cons change rest =>
          -- All but the first step back and the last step forth lead back to where they began.
          have around := ih sound.undo
          obtain ⟨_, _, _, _, _, _, undone⟩ := sound.undo_of_cons newest
          have fewer : (journal.perform .undo).history.undoable = rest := by
            simp only [Journal.perform, undone]
          rw [fewer] at around
          rw [List.length_cons, Nat.succ_min_succ, run_thereAndBack_succ]
          exact sound.agrees_redo (sound.undo.run _) newest around

/-- More steps forth than back do no harm where nothing could be redone. -/
theorem Sound.agrees_thereAndBack_of_nil (count : Nat) (sound : journal.Sound)
    (nothing : journal.history.redoable = []) :
    (journal.run (thereAndBack count count)).Agrees journal := by
  obtain ⟨more, parts⟩ :=
    Nat.exists_eq_add_of_le (Nat.min_le_left count journal.history.undoable.length)
  have steps : thereAndBack count count =
      thereAndBack count (min count journal.history.undoable.length) ++
        List.replicate more .redo := by
    rw [thereAndBack, thereAndBack, List.append_assoc, List.replicate_append_replicate, ← parts]
  rw [steps, run_append]
  apply (sound.agrees_thereAndBack count).run_replicate more
  intro other agrees
  exact perform_redo_of_nil (agrees.redoable.trans nothing)

/-! ### The history on its own -/

/-- What a history promises about the edits behind it. -/
structure Accounted (journal : Journal) : Prop where
  /-- An edit is remembered as a change of its own unless it is an insertion right after what the
  newest change put into the text, made while the window is open and nothing can be redone. -/
  fuses : ∀ start stop new caret merging,
    start ≤ stop → stop ≤ journal.surface.text.length →
    let old := journal.surface.text.slice start stop
    let recorded := (journal.history.record start stop old new caret merging).2
    recorded.undoable = ⟨start, stop, old, new, some caret, none⟩ :: journal.history.undoable ∨
      start = stop ∧ journal.history.merging = true ∧ merging = true ∧
        journal.history.redoable = [] ∧
        ∃ top rest, journal.history.undoable = top :: rest ∧
          top.start + top.new.length = start ∧
          journal.surface.text.slice top.start start = top.new ∧
          recorded.undoable = { top with
            new := top.new ++ new, caretAfter := some (start + new.length) } :: rest
  /-- Undoing the newest change gives back the text before the oldest edit fused into it. -/
  undoes : ∀ change rest, journal.history.undoable = change :: rest →
    ∃ fused older, journal.undoable = fused :: older ∧
      (journal.history.undo journal.surface).1 = some change.undoCaret ∧
      (journal.perform .undo).surface.text = fused.oldest.before
  /-- Making the change undone last again gives the text after the newest edit fused into it. -/
  redoes : ∀ change rest, journal.history.redoable = change :: rest →
    ∃ fused newer, journal.redoable = fused :: newer ∧
      (journal.history.redo journal.surface).1 = some change.redoCaret ∧
      (journal.perform .redo).surface.text = fused.newest.after
  /-- Steps back and as many forth as were made back restore the text and the changes. -/
  returns : ∀ count, (journal.run
    (thereAndBack count (min count journal.history.undoable.length))).Agrees journal
  /-- So do as many steps forth as were tried back if nothing could be redone before. -/
  returnsWhole : journal.history.redoable = [] →
    ∀ count, (journal.run (thereAndBack count count)).Agrees journal

/-- A history accounts for every edit behind it, in whatever order edits by the engine and by the
host, carets noted, closed windows and steps back and forth came. -/
theorem accounted_of_run (text : Text) (actions : List Action) :
    ((Journal.start text).run actions).Accounted := by
  have sound := (Sound.start text).run actions
  generalize (Journal.start text).run actions = journal at sound
  constructor
  · intro start stop new caret merging _ _ old recorded
    rcases History.record_cases journal.history start stop old new caret merging with
      apart | ⟨top, rest, newest, inserts, opened, merges, nothing, ends, joined⟩
    · exact .inl (by simp only [recorded, apart])
    · obtain ⟨fused, older, _, taken, _⟩ := sound.undo_of_cons newest
      have holds := taken.slice_new
      rw [ends] at holds
      exact .inr ⟨inserts, opened, merges, nothing, top, rest, newest, ends, holds,
        by simp only [recorded, joined]⟩
  · intro change rest newest
    obtain ⟨fused, older, behind, taken, _, _, undone⟩ := sound.undo_of_cons newest
    refine ⟨fused, older, behind, by rw [undone], ?_⟩
    simp only [perform, undone, Surface.text_edited, taken.splice_old]
  · intro change rest next
    obtain ⟨fused, newer, ahead, taken, _, _, redone⟩ := sound.redo_of_cons next
    refine ⟨fused, newer, ahead, by rw [redone], ?_⟩
    simp only [perform, redone, Surface.text_edited, taken.splice_new]
  · intro count
    exact sound.agrees_thereAndBack count
  · intro nothing count
    exact sound.agrees_thereAndBack_of_nil count nothing

/-- A step back with nothing left to undo does nothing, but a step forth after it is made. -/
theorem not_agrees_of_nothing_left :
    ¬ (((Journal.start []).run [.edit 0 0 ['a'] 0 false, .undo]).run (thereAndBack 1 1)).Agrees
      ((Journal.start []).run [.edit 0 0 ['a'] 0 false, .undo]) := by
  intro agrees
  have same := agrees.text
  revert same
  decide

end Journal

end ModalVi
