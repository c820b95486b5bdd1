import ModalVi.Proofs.Session.Press
import ModalVi.Regex.Engine
import ModalVi.Script

namespace ModalVi

/-! Control keys.

A control key takes nothing but a count before it, and is answered at once: it scrolls, makes undone
changes again or is refused, and no keys are held after it.  The exception is a digit.  It goes on with
the count, or begins one, as the digit does without the control key. -/

namespace ControlCommand

variable {redoing : Bool} {keys : List Char} {count : Nat}

/-- A key after the count settles what is asked for, and changes are made again only for its own key and
only where nothing is selected. -/
theorem parse_of_key {buffer : KeyBuffer} {key : Char} {later : List Char}
    (counted : (KeyBuffer.ofKeys keys).readCount = .ok buffer) (rest : buffer.rest = key :: later) :
    parse redoing keys ≠ .error .incomplete ∧
      ∀ count, parse redoing keys = .ok (count, .redo) → redoing = true ∧ key = 'r' := by
  simp only [parse, bind, Except.bind, counted, KeyBuffer.next, rest]
  by_cases own : key = 'r'
  · subst own
    cases redoing <;> simp
  · split
    all_goals first
      | exact absurd rfl own
      | simp

theorem parse_of_nothing {buffer : KeyBuffer}
    (counted : (KeyBuffer.ofKeys keys).readCount = .ok buffer) (nothing : buffer.rest = []) :
    parse redoing keys = .error .incomplete := by
  simp only [parse, bind, Except.bind, counted, KeyBuffer.next, nothing]

theorem parse_of_error {error : ParseError}
    (failed : (KeyBuffer.ofKeys keys).readCount = .error error) :
    parse redoing keys = .error .invalidNumber := by
  rw [parse, failed, KeyBuffer.eq_invalidNumber failed]
  rfl

/-- More keys are called for exactly after the digits of a count. -/
theorem parse_eq_incomplete_iff (given : keys ≠ []) :
    parse redoing keys = .error .incomplete ↔ Numeral keys := by
  refine ⟨fun incomplete => ?_, fun numeral => parse_of_nothing numeral.readCount_alone rfl⟩
  cases counted : (KeyBuffer.ofKeys keys).readCount with
  | error error => cases incomplete.symm.trans (parse_of_error counted)
  | ok buffer =>
      cases rest : buffer.rest with
      | nil => exact KeyBuffer.numeral_of_readCount given counted rest
      | cons key later => exact absurd incomplete (parse_of_key counted rest).1

/-- Changes are made again only for their own key, and only where nothing is selected. -/
theorem redo_of_parse (read : parse redoing keys = .ok (count, .redo)) :
    redoing = true ∧ 'r' ∈ keys := by
  cases counted : (KeyBuffer.ofKeys keys).readCount with
  | error error => cases read.symm.trans (parse_of_error counted)
  | ok buffer =>
      cases rest : buffer.rest with
      | nil => cases read.symm.trans (parse_of_nothing counted rest)
      | cons key later =>
          obtain ⟨redoing, rfl⟩ := (parse_of_key counted rest).2 count read
          have among : 'r' ∈ buffer.rest := rest ▸ List.mem_cons_self
          rw [KeyBuffer.rest_of_readCount counted] at among
          exact ⟨redoing, List.mem_of_mem_drop among⟩

end ControlCommand

namespace Session

variable {library : Library} {session : Session library} {c : Char}

/-- A digit is the digit, with the control key or without. -/
theorem key_ctrl_of_numeral (owned : session.mode ≠ .insert)
    (chord : (Key.ctrl c).isEscape = false) (other : c ≠ 'h')
    (numeral : Numeral (session.keys ++ [c])) :
    session.key (.ctrl c) = (.ok .pending, session.holding (session.keys ++ [c])) ∧
      session.key (.char c) = (.ok .pending, session.holding (session.keys ++ [c])) := by
  have given : session.keys ++ [c] ≠ [] := List.append_ne_nil_of_right_ne_nil _ (List.cons_ne_nil c [])
  have counting : session.keys.all Char.isDigit = true :=
    List.all_eq_true.mpr fun d member => numeral.decimal d (List.mem_append_left _ member)
  have waiting (redoing : Bool) :
      ControlCommand.parse redoing (session.keys ++ [c]) = .error .incomplete :=
    (ControlCommand.parse_eq_incomplete_iff given).mpr numeral
  refine ⟨?_, key_of_unfinished owned (unfinished_of_control (waiting true) session.mode)⟩
  rw [key_ctrl owned chord other counting, carryOut, if_pos rfl, runControl, waiting]
  rfl

/-- The key of redo after a count is the only one that makes changes again. -/
theorem redoes_of_parse {redoing : Bool} {count : Nat}
    (counting : session.keys.all Char.isDigit = true)
    (read : ControlCommand.parse redoing (session.keys ++ [c]) = .ok (count, .redo)) :
    c = 'r' ∧ redoing = true := by
  obtain ⟨redoing, member⟩ := ControlCommand.redo_of_parse read
  rcases List.mem_append.mp member with held | last
  · have digit := List.all_eq_true.mp counting 'r' held
    cases digit
  · exact ⟨(List.mem_singleton.mp last).symm, redoing⟩

/-- Any other control key is answered at once, and nothing changes the text but changes made again. -/
theorem key_ctrl_of_not_numeral (owned : session.mode ≠ .insert)
    (chord : (Key.ctrl c).isEscape = false) (other : c ≠ 'h')
    (noCount : ¬ Numeral (session.keys ++ [c])) :
    (session.key (.ctrl c)).1 ≠ .ok .pending ∧ (session.key (.ctrl c)).2.keys = [] ∧
      ((session.key (.ctrl c)).2.text ≠ session.text → c = 'r' ∧ session.mode = .command) := by
  by_cases counting : session.keys.all Char.isDigit = true
  · rw [key_ctrl owned chord other counting, carryOut, if_pos rfl, runControl]
    cases read : ControlCommand.parse (!(session.holding (session.keys ++ [c])).mode.isVisual)
        (session.keys ++ [c]) with
    | error error =>
        have given : session.keys ++ [c] ≠ [] := by simp
        have settled : EditError.parse error ≠ .parse .incomplete := by
          rintro ⟨⟩
          exact noCount ((ControlCommand.parse_eq_incomplete_iff given).mp read)
        rw [conclude_error settled]
        exact ⟨by simp, rfl, fun differs => absurd rfl differs⟩
    | ok found =>
        obtain ⟨count, command⟩ := found
        cases command with
        | redo =>
            obtain ⟨key, redoing⟩ := redoes_of_parse counting read
            have notVisual : session.mode.isVisual = false := by simpa [holding] using redoing
            have mode := (Mode.command_or_insert notVisual).resolve_right owned
            exact ⟨by simp [conclude, finish], rfl, fun _ => ⟨key, mode⟩⟩
        | scroll amount => exact ⟨by simp [conclude, finish], rfl, fun differs => absurd rfl differs⟩
  · have refused : session.key (.ctrl c) =
        (.error (.parse (.invalidCommand .controlInsideCommand)), session.dropKeys) := by
      simp only [key, if_neg owned, chord, Bool.false_eq_true, if_false, if_neg other,
        if_neg counting]
    rw [refused]
    exact ⟨by simp, rfl, fun differs => absurd rfl differs⟩

/-- In command mode and in visual mode a control key is waited on exactly if it is a digit of the count
that is held or begins one.  It does then what the digit does, and nothing else is held after a control
key.  Whatever the key, the text changes only for redo in command mode. -/
theorem pending_ctrl_iff (owned : session.mode ≠ .insert) (chord : (Key.ctrl c).isEscape = false)
    (other : c ≠ 'h') :
    ((session.key (.ctrl c)).1 = .ok .pending ↔ Numeral (session.keys ++ [c])) ∧
      ((session.key (.ctrl c)).2.keys = [] ↔ ¬ Numeral (session.keys ++ [c])) ∧
      (Numeral (session.keys ++ [c]) →
        session.key (.ctrl c) = session.key (.char c) ∧
          (session.key (.ctrl c)).2 = session.holding (session.keys ++ [c])) ∧
      ((session.key (.ctrl c)).2.text ≠ session.text → c = 'r' ∧ session.mode = .command) := by
  by_cases numeral : Numeral (session.keys ++ [c])
  · obtain ⟨control, plain⟩ := key_ctrl_of_numeral owned chord other numeral
    rw [plain, control]
    have held : (session.holding (session.keys ++ [c])).keys ≠ [] :=
      List.append_ne_nil_of_right_ne_nil _ (List.cons_ne_nil c [])
    exact ⟨⟨fun _ => numeral, fun _ => rfl⟩,
      ⟨fun none => absurd none held, fun none => absurd numeral none⟩, fun _ => ⟨rfl, rfl⟩,
      fun differs => absurd rfl differs⟩
  · obtain ⟨answered, fresh, text⟩ := key_ctrl_of_not_numeral owned chord other numeral
    exact ⟨⟨fun pending => absurd pending answered, fun digits => absurd digits numeral⟩,
      ⟨fun _ => numeral, fun _ => fresh⟩, fun digits => absurd digits numeral, text⟩

/-- Half a page down after a count: nothing is waited on, no keys are held, and the text stays. -/
theorem pending_ctrl_of_counted_scroll :
    let session := (Script.begin .standard "a".toList {} []).holding ['1', '0']
    session.mode ≠ .insert ∧ (Key.ctrl 'd').isEscape = false ∧ 'd' ≠ 'h' ∧
      (session.key (.ctrl 'd')).1 ≠ .ok .pending ∧ (session.key (.ctrl 'd')).2.keys = [] ∧
      (session.key (.ctrl 'd')).2.text = session.text := by
  intro session
  have owned : session.mode ≠ .insert := by decide
  have chord : (Key.ctrl 'd').isEscape = false := rfl
  have noCount : ¬ Numeral (session.keys ++ ['d']) := fun numeral => by
    have digit := numeral.decimal 'd' (by decide)
    cases digit
  obtain ⟨pending, fresh, _, text⟩ := pending_ctrl_iff owned chord (by decide)
  have unchanged : (session.key (.ctrl 'd')).2.text = session.text := by
    refine Decidable.of_not_not fun differs => ?_
    have key := (text differs).1
    cases key
  exact ⟨owned, chord, by decide, mt pending.mp noCount, fresh.mpr noCount, unchanged⟩

/-- A digit with the control key is kept as a count, by which the next command goes. -/
theorem ctrl_digit_counts :
    let session := Script.begin .standard "abc".toList {} []
    (session.key (.ctrl '2')).1 = .ok .pending ∧ (session.key (.ctrl '2')).2.keys = ['2'] ∧
      (session.press [.ctrl '2', .char 'x']).2.text = "c".toList :=
  ⟨rfl, rfl, by decide +kernel⟩

end Session

end ModalVi
