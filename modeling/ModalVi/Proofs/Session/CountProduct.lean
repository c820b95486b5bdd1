import ModalVi.Proofs.Count
import ModalVi.Proofs.Session.Holding
import ModalVi.Regex.Engine
import ModalVi.Script

namespace ModalVi

/-! Counts before an operator and before its motion.

Two counts come to their product, and one count means the same in both places.  The motion never learns
where its count was typed, so all that tells the ways of typing apart afterwards is which keys were
typed.  Only the motion `0` cannot follow a count: it is one more digit of it. -/

variable {whole rest : List Char} {count outer inner : Nat} {counted : Bool}

/-- It edits the text, or copies what a motion covers. -/
inductive Command.Operates : Command → Prop where
  | edits {command : Command} (edits : command.edits = true) : Operates command
  | yank (motion : Motion) : Operates (.yank motion)

theorem Command.Operates.ne {command other : Command} (operates : command.Operates)
    (keeps : other.edits = false) (apart : ∀ motion, other ≠ .yank motion) : command ≠ other := by
  rintro rfl
  cases operates with
  | edits edits => exact command.absurd_of_edits edits keeps
  | yank motion => exact apart motion rfl

/-- The digits of a count, if there is one. -/
def countKeys (count : Option Nat) : List Char := (count.map (Nat.toDigits 10)).getD []

theorem countKeys_none : countKeys none = [] := rfl

theorem countKeys_some (count : Nat) : countKeys (some count) = Nat.toDigits 10 count := rfl

/-- An operator of command mode, which takes a motion. -/
inductive MotionOperator where
  | delete
  | change
  | yank
  | shift (inward : Bool)
  | reflow
deriving DecidableEq, Repr

namespace MotionOperator

def spelling : MotionOperator → List Char
  | .delete => ['d']
  | .change => ['c']
  | .yank => ['y']
  | .shift true => ['>']
  | .shift false => ['<']
  | .reflow => ['g', 'q']

/-- The operator and a motion as keys, with the counts that are typed before them. -/
def keys (operator : MotionOperator) (before after : Option Nat) (motion : List Char) : List Char :=
  countKeys before ++ (operator.spelling ++ (countKeys after ++ motion))

/-- Reads the motion of an operator once the counts were read. -/
def readMotion (operator : MotionOperator) (buffer : KeyBuffer) :
    Except ParseError (Nat × Command) :=
  let found (lineKey : Option Char) (make : Motion → Command) : Except ParseError (Nat × Command) :=
    (Motion.parse lineKey buffer).map fun motion => (buffer.count, make motion)
  match operator with
  | .delete => found (some 'd') .delete
  | .change =>
      if buffer.peek = some 'c' then .ok (buffer.count, .changeLines) else found none .change
  | .yank => found (some 'y') .yank
  | .shift true => found (some '>') (.shift true)
  | .shift false => found (some '<') (.shift false)
  | .reflow => found (some 'q') .reflow

theorem spelling_ended (operator : MotionOperator) (rest : List Char) :
    ∀ c, (operator.spelling ++ rest).head? = some c → c.isDigit = false := by
  intro c first
  rcases operator with _ | _ | _ | (_ | _) | _ <;> cases first <;> rfl

theorem bind_readOperand (lineKey : Option Char) (make : Motion → Command) (buffer : KeyBuffer) :
    (do
      let found ← readOperand lineKey buffer
      .ok (found.1, make found.2)) =
      buffer.readMotionCount.bind fun counting =>
        (Motion.parse lineKey counting).map fun motion => (counting.count, make motion) := by
  simp only [readOperand, bind, Except.bind]
  cases buffer.readMotionCount with
  | error error => rfl
  | ok counting =>
      dsimp only
      cases Motion.parse lineKey counting <;> rfl

theorem parseChange_eq (buffer : KeyBuffer) :
    Command.parseChange buffer = buffer.readMotionCount.bind change.readMotion := by
  simp only [Command.parseChange, readMotion, bind, Except.bind]
  cases buffer.readMotionCount with
  | error error => rfl
  | ok counting =>
      simp only
      split
      · rfl
      · cases Motion.parse none counting <;> rfl

/-- After its count an operator reads the one before its motion, and then the motion. -/
theorem parse_of_readCount (operator : MotionOperator)
    (read : (KeyBuffer.ofKeys whole).readCount = .ok ⟨operator.spelling ++ rest, count, counted⟩) :
    Command.parse whole =
      (KeyBuffer.readMotionCount ⟨rest, count, counted⟩).bind operator.readMotion := by
  rw [Command.parse, read]
  cases operator with
  | delete => exact bind_readOperand (some 'd') .delete _
  | change => exact parseChange_eq _
  | yank => exact bind_readOperand (some 'y') .yank _
  | shift inward =>
      cases inward with
      | true => exact bind_readOperand (some '>') (.shift true) _
      | false => exact bind_readOperand (some '<') (.shift false) _
  | reflow => exact bind_readOperand (some 'q') .reflow _

/-! ### Reading the counts -/

/-- An operator without a count before it. -/
theorem parse_keys_none (operator : MotionOperator) (after : Option Nat) (motion : List Char) :
    Command.parse (operator.keys none after motion) =
      (KeyBuffer.readMotionCount ⟨countKeys after ++ motion, 1, false⟩).bind operator.readMotion :=
  operator.parse_of_readCount (KeyBuffer.readNumber_of_ended (operator.spelling_ended _))

/-- An operator with a count before it. -/
theorem parse_keys_some (operator : MotionOperator) (positive : 0 < outer)
    (possible : outer < countLimit) (after : Option Nat) (motion : List Char) :
    Command.parse (operator.keys (some outer) after motion) =
      (KeyBuffer.readMotionCount ⟨countKeys after ++ motion, outer, true⟩).bind operator.readMotion := by
  have read := (numeral_toDigits positive possible).readCount
    (operator.spelling_ended (countKeys after ++ motion))
  rw [decimalValue_toDigits] at read
  exact operator.parse_of_readCount read

end MotionOperator

variable {motion : List Char}

/-- A count before a motion multiplies the one before the operator. -/
theorem readMotionCount_toDigits (outerGiven : 0 < outer) (innerGiven : 0 < inner)
    (possible : outer * inner < countLimit)
    (ended : ∀ c, motion.head? = some c → c.isDigit = false) :
    KeyBuffer.readMotionCount ⟨Nat.toDigits 10 inner ++ motion, outer, counted⟩ =
      .ok ⟨motion, outer * inner, true⟩ := by
  have least : inner ≤ outer * inner := Nat.le_mul_of_pos_left inner outerGiven
  have numeral := numeral_toDigits innerGiven (Nat.lt_of_le_of_lt least possible)
  have read : KeyBuffer.readMotionCount ⟨Nat.toDigits 10 inner ++ motion, outer, counted⟩ =
      .ok ⟨motion, outer * decimalValue (Nat.toDigits 10 inner), true⟩ :=
    numeral.readMotionCount ended (by rwa [decimalValue_toDigits])
  rwa [decimalValue_toDigits] at read

/-- Counts whose product is too large are refused, whatever follows. -/
theorem readMotionCount_of_too_large (innerGiven : 0 < inner)
    (large : countLimit ≤ outer * inner) (rest : List Char) :
    KeyBuffer.readMotionCount ⟨Nat.toDigits 10 inner ++ rest, outer, counted⟩ =
      .error .invalidNumber := by
  refine KeyBuffer.readNumber_of_too_large innerGiven rest fun typed least _ => ?_
  have product : outer * inner ≤ outer * typed := Nat.mul_le_mul_left outer least
  exact if_neg (by omega)

namespace MotionOperator

variable (operator : MotionOperator)

/-- Wherever the counts stand, the motion is read with their product. -/
theorem parse_between (outerGiven : 0 < outer) (innerGiven : 0 < inner)
    (possible : outer * inner < countLimit)
    (ended : ∀ c, motion.head? = some c → c.isDigit = false) :
    Command.parse (operator.keys (some outer) (some inner) motion) =
      operator.readMotion ⟨motion, outer * inner, true⟩ := by
  have least : outer ≤ outer * inner := Nat.le_mul_of_pos_right outer innerGiven
  rw [operator.parse_keys_some outerGiven (Nat.lt_of_le_of_lt least possible), countKeys_some,
    readMotionCount_toDigits outerGiven innerGiven possible ended, Except.bind]

theorem parse_before (positive : 0 < count) (possible : count < countLimit)
    (ended : ∀ c, motion.head? = some c → c.isDigit = false) :
    Command.parse (operator.keys (some count) none motion) =
      operator.readMotion ⟨motion, count, true⟩ := by
  have read : KeyBuffer.readMotionCount ⟨[] ++ motion, count, true⟩ = .ok ⟨motion, count, true⟩ :=
    KeyBuffer.readNumber_of_ended ended
  rw [operator.parse_keys_some positive possible, countKeys_none, read, Except.bind]

theorem parse_after (positive : 0 < count) (possible : count < countLimit)
    (ended : ∀ c, motion.head? = some c → c.isDigit = false) :
    Command.parse (operator.keys none (some count) motion) =
      operator.readMotion ⟨motion, count, true⟩ := by
  have read := @readMotionCount_toDigits 1 count false motion Nat.one_pos positive
    (by rwa [Nat.one_mul]) ended
  rw [Nat.one_mul] at read
  rw [operator.parse_keys_none, countKeys_some, read, Except.bind]

/-- Counts are refused if one of them or their product is too large. -/
theorem parse_between_of_too_large (outerGiven : 0 < outer) (innerGiven : 0 < inner)
    (large : countLimit ≤ outer * inner) (motion : List Char) :
    Command.parse (operator.keys (some outer) (some inner) motion) = .error .invalidNumber := by
  by_cases possible : outer < countLimit
  · rw [operator.parse_keys_some outerGiven possible, countKeys_some,
      readMotionCount_of_too_large innerGiven large, Except.bind]
  · have refused : (KeyBuffer.ofKeys (operator.keys (some outer) (some inner) motion)).readCount =
        .error .invalidNumber :=
      KeyBuffer.readNumber_of_too_large outerGiven _ fun typed _ _ => absurd possible (by omega)
    rw [Command.parse, refused]
    rfl

theorem parse_after_of_too_large (positive : 0 < count) (large : countLimit ≤ count)
    (motion : List Char) :
    Command.parse (operator.keys none (some count) motion) = .error .invalidNumber := by
  rw [operator.parse_keys_none, countKeys_some, readMotionCount_of_too_large positive (by omega),
    Except.bind]

/-- After a count, `0` is one more digit of it. -/
theorem keys_zero (before : Option Nat) (positive : 0 < count) :
    operator.keys before (some count) ['0'] = operator.keys before (some (10 * count)) [] := by
  have zero : Nat.toDigits 10 count ++ ['0'] = Nat.toDigits 10 (10 * count) :=
    @Nat.toDigits_append_toDigits 10 count 0 (by decide) positive (by decide)
  rw [keys, keys, countKeys_some, countKeys_some, zero, List.append_nil]

/-- So both counts together are read on as the one that they come to. -/
theorem parse_zero (outerGiven : 0 < outer) (innerGiven : 0 < inner) :
    Command.parse (operator.keys (some outer) (some inner) ['0']) =
        .error (if 10 * (outer * inner) < countLimit then .incomplete else .invalidNumber) ∧
      Command.parse (operator.keys none (some (outer * inner)) ['0']) =
        .error (if 10 * (outer * inner) < countLimit then .incomplete else .invalidNumber) := by
  have product : outer * (10 * inner) = 10 * (outer * inner) := Nat.mul_left_comm ..
  have grown : 0 < 10 * inner := Nat.mul_pos (by decide) innerGiven
  have given : 0 < outer * inner := Nat.mul_pos outerGiven innerGiven
  have ended : ∀ c, ([] : List Char).head? = some c → c.isDigit = false := nofun
  have waits (count : Nat) : operator.readMotion ⟨[], count, true⟩ = .error .incomplete := by
    rcases operator with _ | _ | _ | (_ | _) | _ <;> rfl
  rw [operator.keys_zero _ innerGiven, operator.keys_zero _ given]
  split
  · rename_i possible
    rw [operator.parse_between outerGiven grown (product ▸ possible) ended,
      operator.parse_after (Nat.mul_pos (by decide) given) possible ended]
    exact ⟨waits _, waits _⟩
  · rename_i large
    exact ⟨operator.parse_between_of_too_large outerGiven grown (by omega) _,
      operator.parse_after_of_too_large (Nat.mul_pos (by decide) given) (by omega) _⟩

theorem operates_of_readMotion {buffer : KeyBuffer} {command : Command}
    (read : operator.readMotion buffer = .ok (count, command)) : command.Operates := by
  have made {make : Motion → Command} {motion : Except ParseError Motion}
      (found : motion.map (fun motion => (buffer.count, make motion)) = .ok (count, command)) :
      ∃ motion, make motion = command := by
    cases motion with
    | error error => cases found
    | ok motion => exact ⟨motion, congrArg Prod.snd (Except.ok.inj found)⟩
  rcases operator with _ | _ | _ | (_ | _) | _
  case change =>
    simp only [readMotion] at read
    split at read
    · cases read
      exact .edits rfl
    · obtain ⟨motion, rfl⟩ := made read
      exact .edits rfl
  case yank =>
    obtain ⟨motion, rfl⟩ := made read
    exact .yank motion
  all_goals
    obtain ⟨motion, rfl⟩ := made read
    exact .edits rfl

end MotionOperator

namespace Session

variable {library : Library} {session : Session library} {one other : List Char}

/-! ### Commands typed in different ways -/

/-- What is answered to the last of `keys`, with the others held. -/
def answerTo (keys : List Char) (session : Session library) : Attempt library Outcome :=
  conclude ((session.holding keys).carryOut keys false)

/-- The session with other keys held, and other keys remembered as those of the last change. -/
def recording (held recorded : List Char) (session : Session library) : Session library :=
  { session with keys := held, last := { session.last with keys := recorded } }

/-- Both ways of typing are answered alike, and leave the same session behind apart from the keys that are
recorded.  None are held unless more keys are needed. -/
structure SameAnswer (session : Session library) (one other : List Char) : Prop where
  outcome : (session.answerTo other).1 = (session.answerTo one).1
  apart : ∃ recorded, (session.answerTo other).2 =
    (session.answerTo one).2.recording (session.answerTo other).2.keys recorded
  held : (session.answerTo one).1 = .ok .pending ∧ (session.answerTo one).2.keys = one ∧
      (session.answerTo other).2.keys = other ∨
    (session.answerTo one).2.keys = [] ∧ (session.answerTo other).2.keys = []

/-- A key is answered together with the keys that are held. -/
theorem key_char_eq_answerTo (owned : session.mode ≠ .insert) (c : Char) :
    session.key (.char c) = session.answerTo (session.keys ++ [c]) :=
  key_char owned c

theorem respected_recording (held recorded : List Char) :
    Respected (fun (first second : Session library) => second = first.recording held recorded) where
  text related := by rw [related]; rfl
  cursor related := by rw [related]; rfl
  clipboard related := by rw [related]; rfl
  options related := by rw [related]; rfl
  charSearch related := by rw [related]; rfl
  setCursor offset related := by rw [related]; rfl
  toInsert related := by rw [related]; rfl
  access clipboard related := by rw [related]; rfl
  remember charSearch related := by rw [related]; rfl
  replace {first second} low high new related := by
    have text : (first.recording held recorded).text = first.text := rfl
    have surface : (first.recording held recorded).surface = first.surface := rfl
    rw [related]
    simp only [Session.replace, text, surface]
    split
    · exact ⟨rfl, rfl⟩
    · split <;> exact ⟨rfl, rfl⟩

theorem act_recording {command : Command} {held recorded : List Char} (operates : command.Operates)
    (count : Nat) (session : Session library) :
    Alongside (fun (first second : Session library) => second = first.recording held recorded)
      (session.act command count) ((session.recording held recorded).act command count) := by
  cases operates with
  | edits edits => exact (respected_recording held recorded).act edits count rfl
  | yank motion => exact (respected_recording held recorded).act_yank motion count rfl

/-- The keys that a command was typed as make no other difference to it. -/
theorem run_recording {command : Command} (operates : command.Operates) (count : Nat)
    (one other : List Char) (session : Session library) :
    ∃ recorded, (session.holding other).run other command count =
      (((session.holding one).run one command count).1,
        ((session.holding one).run one command count).2.recording other recorded) := by
  have notAsks : command ≠ .exPrompt := operates.ne rfl nofun
  have notAgain : command ≠ .repeatLast := operates.ne rfl nofun
  have fresh : ({ session.holding other with changed := false } : Session library) =
      ({ session.holding one with changed := false } : Session library).recording other
        session.last.keys :=
    rfl
  rw [run_of_acts notAsks notAgain, run_of_acts notAsks notAgain, fresh]
  rcases (act_recording operates count { session.holding one with changed := false }).cases with
    ⟨error, here, there, failed, alsoFailed, rfl⟩ | ⟨_, here, there, done, alsoDone, rfl⟩
  · rw [failed, alsoFailed]
    exact ⟨_, rfl⟩
  · have changed : (here.recording other session.last.keys).changed = here.changed := rfl
    rw [done, alsoDone]
    simp only [changed]
    split
    · exact ⟨other, rfl⟩
    · exact ⟨_, rfl⟩

/-- Such a command ends at once or fails for good. -/
theorem conclude_run {command : Command} (operates : command.Operates) (keys : List Char)
    (count : Nat) (session : Session library) :
    conclude (session.run keys command count) =
      match session.run keys command count with
      | (.error error, after) => (.error error, after.dropKeys)
      | (.ok _, after) => (.ok .handled, after.dropKeys.settled) := by
  have orderly := orderly_run (operates.ne rfl nofun) keys count session
  have flows := run_of_acts (operates.ne rfl nofun) (operates.ne rfl nofun) keys count session
  generalize session.run keys command count = attempt at orderly flows
  obtain ⟨error | flow, after⟩ := attempt
  · exact conclude_error orderly.1 after
  · split at flows <;> cases flows
    rfl

theorem answerTo_of_parse_error {keys : List Char} {error : ParseError}
    (mode : session.mode = .command) (failed : Command.parse keys = .error error) :
    session.answerTo keys =
      if error = .incomplete then (.ok .pending, session.holding keys)
      else (.error (.parse error), session.dropKeys) := by
  have still : (session.holding keys).mode = .command := mode
  have ran : (session.holding keys).runKeys keys = (.error (.parse error), session.holding keys) := by
    simp only [runKeys, failed]
  rw [answerTo, carryOut_of_command still, ran]
  split
  · rename_i waits
    rw [waits]
    rfl
  · rename_i settled
    exact conclude_error (mt EditError.parse.inj settled) _

theorem answerTo_of_parse {keys : List Char} {command : Command} (mode : session.mode = .command)
    (read : Command.parse keys = .ok (count, command)) :
    session.answerTo keys = conclude ((session.holding keys).run keys command count) := by
  have still : (session.holding keys).mode = .command := mode
  rw [answerTo, carryOut_of_command still, runKeys, read]

theorem SameAnswer.of_eq {result : Except EditError Outcome} {after : Session library}
    {held recorded : List Char} (first : session.answerTo one = (result, after))
    (second : session.answerTo other = (result, after.recording held recorded))
    (keys : result = .ok .pending ∧ after.keys = one ∧ held = other ∨ after.keys = [] ∧ held = []) :
    SameAnswer session one other := by
  refine ⟨?_, ⟨recorded, ?_⟩, ?_⟩
  · rw [first, second]
  · rw [first, second]
    rfl
  · rw [first, second]
    exact keys

/-- What is read alike is answered alike. -/
theorem sameAnswer_of_parse (mode : session.mode = .command)
    (same : Command.parse other = Command.parse one)
    (operates : ∀ count command, Command.parse one = .ok (count, command) → command.Operates) :
    SameAnswer session one other := by
  cases read : Command.parse one with
  | error error =>
      have first := answerTo_of_parse_error mode read
      have second := answerTo_of_parse_error mode (same.trans read)
      by_cases waits : error = .incomplete
      · rw [if_pos waits] at first second
        exact .of_eq first second (.inl ⟨rfl, rfl, rfl⟩)
      · rw [if_neg waits] at first second
        exact .of_eq first second (.inr ⟨rfl, rfl⟩)
  | ok found =>
      obtain ⟨count, command⟩ := found
      have acts := operates count command read
      have first := answerTo_of_parse mode read
      have second := answerTo_of_parse mode (same.trans read)
      obtain ⟨recorded, ran⟩ := run_recording acts count one other session
      rw [conclude_run acts] at first second
      rw [ran] at second
      generalize (session.holding one).run one command count = attempt at first second
      obtain ⟨error | flow, after⟩ := attempt
      · exact .of_eq first second (.inr ⟨rfl, rfl⟩)
      · exact .of_eq first second (.inr ⟨rfl, rfl⟩)

/-- Counts before an operator and before its motion multiply.  Where the count of a motion is typed
changes nothing but which keys are recorded, unless the motion is `0`: after a count that is a digit, and
the count is read on.  Counts that are too large, or whose product is, are refused. -/
theorem sameAnswer_of_counts (operator : MotionOperator) (outerGiven : 0 < outer)
    (innerGiven : 0 < inner) (mode : session.mode = .command) :
    (outer * inner < countLimit →
        ∀ motion : List Char, (∀ c, motion.head? = some c → c.isDigit = false) →
          SameAnswer session (operator.keys (some outer) (some inner) motion)
              (operator.keys (some (outer * inner)) none motion) ∧
            SameAnswer session (operator.keys (some outer) (some inner) motion)
              (operator.keys none (some (outer * inner)) motion)) ∧
      (countLimit ≤ outer ∨ countLimit ≤ inner ∨ countLimit ≤ outer * inner →
        ∀ motion : List Char,
          Command.parse (operator.keys (some outer) (some inner) motion) = .error .invalidNumber ∧
            session.answerTo (operator.keys (some outer) (some inner) motion) =
              (.error (.parse .invalidNumber), session.dropKeys)) ∧
      SameAnswer session (operator.keys (some outer) (some inner) ['0'])
        (operator.keys none (some (outer * inner)) ['0']) ∧
      session.answerTo (operator.keys (some outer) (some inner) ['0']) =
        if 10 * (outer * inner) < countLimit then
          (.ok .pending, session.holding (operator.keys (some outer) (some inner) ['0']))
        else (.error (.parse .invalidNumber), session.dropKeys) := by
  have given : 0 < outer * inner := Nat.mul_pos outerGiven innerGiven
  obtain ⟨zero, zeroAfter⟩ := operator.parse_zero outerGiven innerGiven
  refine ⟨fun possible motion ended => ?_, fun large motion => ?_, ?_, ?_⟩
  · have between := operator.parse_between outerGiven innerGiven possible ended
    have operates : ∀ count command,
        Command.parse (operator.keys (some outer) (some inner) motion) = .ok (count, command) →
          command.Operates :=
      fun count command read => operator.operates_of_readMotion (between.symm.trans read)
    have before := operator.parse_before given possible ended
    have after := operator.parse_after given possible ended
    exact ⟨sameAnswer_of_parse mode (before.trans between.symm) operates,
      sameAnswer_of_parse mode (after.trans between.symm) operates⟩
  · have outerLeast : outer ≤ outer * inner := Nat.le_mul_of_pos_right outer innerGiven
    have innerLeast : inner ≤ outer * inner := Nat.le_mul_of_pos_left inner outerGiven
    have refused := operator.parse_between_of_too_large outerGiven innerGiven (by omega) motion
    exact ⟨refused, answerTo_of_parse_error mode refused⟩
  · exact sameAnswer_of_parse mode (zeroAfter.trans zero.symm) fun count command read =>
      absurd (zero.symm.trans read) nofun
  · rw [answerTo_of_parse_error mode zero]
    split <;> rfl

/-- Six words, of which the text has seven, and two counts that are possible while their product is
not. -/
theorem sameAnswer_of_six_words :
    let session := Script.begin .standard "a b c d e f g".toList {} []
    let operator := MotionOperator.delete
    session.mode = .command ∧ 0 < 2 ∧ 0 < 3 ∧ 2 * 3 < countLimit ∧
      SameAnswer session (operator.keys (some 2) (some 3) ['w']) (operator.keys (some 6) none ['w']) ∧
      SameAnswer session (operator.keys (some 2) (some 3) ['w']) (operator.keys none (some 6) ['w']) ∧
      (session.answerTo (operator.keys (some 2) (some 3) ['w'])).2.text = "g".toList ∧
      0 < 4294967296 ∧ countLimit ≤ 4294967296 * 4294967296 ∧
      Command.parse (operator.keys (some 4294967296) (some 4294967296) ['w']) =
        .error .invalidNumber := by
  intro session operator
  have mode : session.mode = .command := rfl
  have ended : ∀ c, ['w'].head? = some c → c.isDigit = false := by
    rintro c ⟨⟩
    rfl
  obtain ⟨multiply, _⟩ :=
      @sameAnswer_of_counts 2 3 .standard session operator (by decide) (by decide) mode
  obtain ⟨_, refuse, _⟩ :=
    @sameAnswer_of_counts 4294967296 4294967296 .standard session operator (by decide) (by decide) mode
  obtain ⟨before, after⟩ := multiply (by decide) ['w'] ended
  have large : countLimit ≤ 4294967296 * 4294967296 := by decide
  exact ⟨mode, by decide, by decide, by decide, before, after, by decide +kernel, by decide, large,
    (refuse (.inr (.inr large)) ['w']).1⟩

/-- The motion `0` ends a count before the operator and goes on with one after it. -/
theorem not_sameAnswer_of_zero :
    let session := (Script.begin .standard "abc".toList {} []).setCursor 1
    let operator := MotionOperator.delete
    (session.answerTo (operator.keys (some 2) (some 3) ['0'])).1 = .ok .pending ∧
      (session.answerTo (operator.keys (some (2 * 3)) none ['0'])).1 = .ok .handled ∧
      (session.answerTo (operator.keys (some (2 * 3)) none ['0'])).2.text = "bc".toList ∧
      ¬ SameAnswer session (operator.keys (some 2) (some 3) ['0'])
        (operator.keys (some (2 * 3)) none ['0']) := by
  intro session operator
  have waits : (session.answerTo (operator.keys (some 2) (some 3) ['0'])).1 = .ok .pending := rfl
  have ends : (session.answerTo (operator.keys (some (2 * 3)) none ['0'])).1 = .ok .handled := rfl
  refine ⟨waits, ends, by decide +kernel, fun same => ?_⟩
  cases ends.symm.trans (same.outcome.trans waits)

end Session

end ModalVi
