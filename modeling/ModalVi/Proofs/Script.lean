import ModalVi.Proofs.Session.Prompting
import ModalVi.Script

namespace ModalVi

/-! A script is cut into the keys that are pressed and the lines that prompts take.

Which keys go to a prompt is only known once the keys before them were handled.  But whatever the script
is, each of its keys goes to one of the two, in order, and pressing the one kind in a session whose
prompts have the others as lines queued beforehand leads to the same end. -/

/-- A part of a script: a key that is pressed, or what a prompt takes. -/
inductive Portion where
  | pressed (key : Key)
  | line (entry : Entry)

namespace Portion

def keys : Portion → List Key
  | .pressed key => [key]
  | .line entry => entry.keys

def key? : Portion → Option Key
  | .pressed key => some key
  | .line _ => none

/-- The answer to a prompt, where nothing stands for a cancellation. -/
def answer? : Portion → Option (Option Text)
  | .pressed _ => none
  | .line entry => some entry.line

theorem filterMap_key?_line (entries : List Entry) :
    (entries.map Portion.line).filterMap key? = [] := by
  induction entries with
  | nil => rfl
  | cons entry rest ih => exact ih

theorem filterMap_answer?_line (entries : List Entry) :
    (entries.map Portion.line).filterMap answer? = entries.map Entry.line := by
  induction entries with
  | nil => rfl
  | cons entry rest ih => exact congrArg (entry.line :: ·) ih

end Portion

/-- Every prompt takes its line from the keys that follow. -/
inductive Cut : List Portion → Prop where
  | nil : Cut []
  | pressed {key : Key} {portions : List Portion} (rest : Cut portions) :
      Cut (.pressed key :: portions)
  | line {entry : Entry} {portions : List Portion}
      (taken : entry.Taken (portions.flatMap Portion.keys)) (rest : Cut portions) :
      Cut (.line entry :: portions)

namespace Draws

variable {keys left : List Key} {entries : List Entry} {portions : List Portion}

/-- What prompts took from the front of a script is put before the portions of the rest. -/
theorem cut (draws : Draws keys entries left) (rest : Cut portions)
    (whole : portions.flatMap Portion.keys = left) :
    Cut (entries.map Portion.line ++ portions) ∧
      (entries.map Portion.line ++ portions).flatMap Portion.keys = keys := by
  induction draws with
  | nil => exact ⟨rest, whole⟩
  | cons taken _ ih =>
      obtain ⟨cut, same⟩ := ih whole
      exact ⟨.line (same ▸ taken) cut, congrArg (_ ++ ·) same⟩

theorem length_le (draws : Draws keys entries left) : left.length ≤ keys.length := by
  induction draws with
  | nil => exact Nat.le_refl _
  | cons _ _ ih =>
      rw [List.length_append]
      omega

end Draws

namespace Script

variable {library : Library}

/-- Presses keys one after the other and gathers what to show. -/
def feed : List Key → Session library → List String × Session library
  | [], session => ([], session)
  | key :: rest, session =>
      let (result, session) := session.typeKey key
      let (lines, session) := feed rest session
      (reportLines key result ++ lines, session)

/-- The keys of the script that are pressed while it runs. -/
def pressedFrom : (fuel : Nat) → Session library → List Key
  | 0, _ => []
  | fuel + 1, session =>
      match session.prompt with
      | .inline (key :: rest) =>
          key :: pressedFrom fuel ({ session with prompt := .inline rest }.typeKey key).2
      | _ => []

def pressed (library : Library) (text : Text) (options : Options) (keys : List Key) : List Key :=
  pressedFrom keys.length (begin library text options keys)

variable {session : Session library} {keys : List Key}

theorem runFrom_cons (fuel : Nat) (key : Key) (rest : List Key) (session : Session library) :
    runFrom (fuel + 1) (session.answering (.inline (key :: rest))) =
      (reportLines key ((session.answering (.inline rest)).typeKey key).1 ++
          (runFrom fuel ((session.answering (.inline rest)).typeKey key).2).1,
        (runFrom fuel ((session.answering (.inline rest)).typeKey key).2).2) := rfl

theorem feed_cons (key : Key) (rest : List Key) (session : Session library) :
    feed (key :: rest) session =
      (reportLines key (session.typeKey key).1 ++ (feed rest (session.typeKey key).2).1,
        (feed rest (session.typeKey key).2).2) := rfl

theorem pressedFrom_cons (fuel : Nat) (key : Key) (rest : List Key) (session : Session library) :
    pressedFrom (fuel + 1) (session.answering (.inline (key :: rest))) =
      key :: pressedFrom fuel ((session.answering (.inline rest)).typeKey key).2 := rfl

/-- The portions account for a run of the script: they are its keys in order, those pressed lead to the
same end where the lines are queued, and nothing is left of either. -/
structure Explains (fuel : Nat) (keys : List Key) (session : Session library)
    (portions : List Portion) :
    Prop where
  whole : portions.flatMap Portion.keys = keys
  cut : Cut portions
  pressed : portions.filterMap Portion.key? = pressedFrom fuel (session.answering (.inline keys))
  spent : (runFrom fuel (session.answering (.inline keys))).2.prompt = .inline []
  queued : ∀ asked, ∃ askedThen,
    feed (portions.filterMap Portion.key?)
        (session.answering (.scripted (portions.filterMap Portion.answer?) asked)) =
      ((runFrom fuel (session.answering (.inline keys))).1,
        (runFrom fuel (session.answering (.inline keys))).2.answering (.scripted [] askedThen))

theorem explains_nil (fuel : Nat) (session : Session library) : Explains fuel [] session [] where
  whole := rfl
  cut := .nil
  pressed := by cases fuel <;> rfl
  spent := by cases fuel <;> rfl
  queued asked := ⟨asked, by cases fuel <;> rfl⟩

/-- A key that is pressed comes before the lines that it asked for and the portions of the rest. -/
theorem Explains.cons {fuel : Nat} {key : Key} {rest left : List Key} {entries : List Entry}
    {portions : List Portion}
    (splits : Session.Splits (Session.typeKey key) rest session entries left)
    (explained : Explains fuel left ((session.answering (.inline rest)).typeKey key).2 portions) :
    Explains (fuel + 1) (key :: rest) session
      (.pressed key :: (entries.map Portion.line ++ portions)) := by
  generalize typed : (session.answering (.inline rest)).typeKey key = attempt at splits explained
  obtain ⟨result, after⟩ := attempt
  have prompt : after.prompt = .inline left := by simpa only [typed] using splits.leaves
  have same : after.answering (.inline left) = after := Session.answering_of_prompt prompt
  obtain ⟨cut, whole⟩ := splits.draws.cut explained.cut explained.whole
  have isKey : (Portion.pressed key).key? = some key := rfl
  have noAnswer : (Portion.pressed key).answer? = none := rfl
  have keys : (Portion.pressed key :: (entries.map Portion.line ++ portions)).filterMap
      Portion.key? = key :: portions.filterMap Portion.key? := by
    rw [List.filterMap_cons_some isKey, List.filterMap_append, Portion.filterMap_key?_line,
      List.nil_append]
  have answers : (Portion.pressed key :: (entries.map Portion.line ++ portions)).filterMap
      Portion.answer? = entries.map Entry.line ++ portions.filterMap Portion.answer? := by
    rw [List.filterMap_cons_none noAnswer, List.filterMap_append, Portion.filterMap_answer?_line]
  exact
    { whole := congrArg (key :: ·) whole
      cut := .pressed cut
      pressed := by rw [keys, pressedFrom_cons, typed, explained.pressed, same]
      spent := by
        rw [runFrom_cons, typed, ← same]
        exact explained.spent
      queued := fun asked => by
        obtain ⟨between, first⟩ := splits.queued (portions.filterMap Portion.answer?) asked
        obtain ⟨askedThen, second⟩ := explained.queued between
        refine ⟨askedThen, ?_⟩
        rw [keys, answers, feed_cons, runFrom_cons, first, typed, second, same] }

/-- Every script comes apart into such portions. -/
theorem exists_portions (fuel : Nat) (keys : List Key) (session : Session library)
    (enough : keys.length ≤ fuel) : ∃ portions, Explains fuel keys session portions := by
  induction fuel generalizing keys session with
  | zero =>
      have none : keys = [] := List.eq_nil_of_length_eq_zero (Nat.le_zero.mp enough)
      rw [none]
      exact ⟨[], explains_nil 0 session⟩
  | succ fuel ih =>
      cases keys with
      | nil => exact ⟨[], explains_nil (fuel + 1) session⟩
      | cons key rest =>
          obtain ⟨entries, left, splits⟩ := Session.faithful_typeKey key rest session
          have shorter := splits.draws.length_le
          rw [List.length_cons] at enough
          obtain ⟨portions, explained⟩ :=
            ih left ((session.answering (.inline rest)).typeKey key).2 (by omega)
          exact ⟨_, explained.cons splits⟩

/-- The lines of the prompts might as well have been queued before the script began.  Each key of the
script is pressed or goes into one of them, in order, and the text, the history, the mode and everything
else in the session come out the same, with the same lines to show. -/
theorem run_eq_feed (library : Library) (text : Text) (options : Options) (keys : List Key) :
    ∃ portions : List Portion,
      portions.flatMap Portion.keys = keys ∧ Cut portions ∧
        portions.filterMap Portion.key? = pressed library text options keys ∧
        (run library text options keys).2.prompt = .inline [] ∧
        ∃ asked,
          feed (pressed library text options keys)
              (Session.start library (.ofText text) (.ofText [])
                (.scripted (portions.filterMap Portion.answer?) []) options).enter =
            ((run library text options keys).1,
              (run library text options keys).2.answering (.scripted [] asked)) := by
  let started := Session.start library (.ofText text) (.ofText []) .silent options
  obtain ⟨portions, explained⟩ := exists_portions keys.length keys started.enter (Nat.le_refl _)
  have begun (prompt : Prompt) :
      (Session.start library (.ofText text) (.ofText []) prompt options).enter =
        started.enter.answering prompt := Session.enter_answering prompt started
  have inline : begin library text options keys = started.enter.answering (.inline keys) := begun _
  have same : pressed library text options keys = portions.filterMap Portion.key? := by
    rw [explained.pressed, ← inline]
    rfl
  refine ⟨portions, explained.whole, explained.cut, same.symm, ?_, ?_⟩
  · rw [run, inline]
    exact explained.spent
  · obtain ⟨asked, queued⟩ := explained.queued []
    refine ⟨asked, ?_⟩
    rw [same, begun, run, inline]
    exact queued

end Script

end ModalVi
