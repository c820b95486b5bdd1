import ModalVi.Proofs.Session.Press

namespace ModalVi

/-! Operators and their motions as keys.

In command mode an operator is followed by a motion; in visual mode the motion comes first and moves an
end of the selection.  The motion is spelled by the same keys both times, and neither reader takes
fewer or more of them. -/

variable {keys front : List Char} {count : Nat} {motion : Motion} {lineKey : Option Char}

/-- The keys are a motion with its count, which no fewer of them complete. -/
structure Motion.Spelled (keys : List Char) (count : Nat) (motion : Motion) : Prop where
  read : readOperand none (.ofKeys keys) = .ok (count, motion)
  unread : ∀ length < keys.length, readOperand none (.ofKeys (keys.take length)) = .error .incomplete

/-- An operator that command mode and visual mode share. -/
inductive Operator where
  | delete
  | yank
  | reflow
  | change
deriving DecidableEq, Repr

namespace Operator

def spelling : Operator → List Char
  | .delete => ['d']
  | .yank => ['y']
  | .reflow => ['g', 'q']
  | .change => ['c']

def command : Operator → Motion → Command
  | .delete => .delete
  | .yank => .yank
  | .reflow => .reflow
  | .change => .change

def visualCommand : Operator → VisualCommand
  | .delete => .delete
  | .yank => .yank
  | .reflow => .reflow
  | .change => .change

end Operator

/-! ### Reading a motion -/

/-- A line key is looked at only where no motion has that key. -/
theorem Motion.parse_lineKey {buffer : KeyBuffer}
    (known : Motion.parse none buffer ≠ .error (.invalidMotion .unknownMotion)) :
    Motion.parse lineKey buffer = Motion.parse none buffer := by
  simp only [Motion.parse, bind, Except.bind] at known ⊢
  cases taken : buffer.next with
  | error error => rfl
  | ok next =>
      rw [taken] at known
      obtain ⟨key, rest⟩ := next
      simp only at known ⊢
      split
      all_goals try rfl
      simp at known

theorem readOperand_lineKey {buffer : KeyBuffer}
    (known : readOperand none buffer ≠ .error (.invalidMotion .unknownMotion)) :
    readOperand lineKey buffer = readOperand none buffer := by
  simp only [readOperand, bind, Except.bind] at known ⊢
  cases counted : buffer.readMotionCount with
  | error error => rfl
  | ok counting =>
      rw [counted] at known
      have motion : Motion.parse none counting ≠ .error (.invalidMotion .unknownMotion) := by
        intro unknown
        simp [unknown] at known
      simp only [Motion.parse_lineKey motion]

/-- A count that follows no other is the same whether it stands before a command or a motion. -/
theorem readMotionCount_ofKeys (keys : List Char) :
    (KeyBuffer.ofKeys keys).readMotionCount = (KeyBuffer.ofKeys keys).readCount := by
  simp only [KeyBuffer.readMotionCount, KeyBuffer.readCount, KeyBuffer.readNumber]
  have joined : (countValue? (KeyBuffer.ofKeys keys).digits).bind
        (fun typed => if (KeyBuffer.ofKeys keys).count * typed < countLimit then
          some ((KeyBuffer.ofKeys keys).count * typed) else none) =
      (countValue? (KeyBuffer.ofKeys keys).digits).bind fun typed => some typed := by
    simp only [KeyBuffer.ofKeys, Nat.one_mul]
    cases possible : countValue? (KeyBuffer.digits ⟨keys, 1, false⟩) with
    | none => rfl
    | some typed =>
        have bounded : typed < countLimit := by
          simp only [countValue?] at possible
          split at possible
          · cases possible
            assumption
          · cases possible
        simp only [Option.bind_some, if_pos bounded]
  rw [joined]

theorem readOperand_nil : readOperand lineKey (.ofKeys []) = .error .incomplete := rfl

namespace Motion.Spelled

theorem exists_last (spelled : Motion.Spelled keys count motion) :
    ∃ held c, keys = held ++ [c] ∧
      ∀ front, front <+: held → readOperand none (.ofKeys front) = .error .incomplete := by
  rcases List.eq_nil_or_concat keys with rfl | ⟨held, c, last⟩
  · have read := spelled.read
    rw [readOperand_nil] at read
    cases read
  · obtain rfl : keys = held ++ [c] := last.trans List.concat_eq_append
    refine ⟨held, c, rfl, fun front isPrefix => ?_⟩
    have shorter : front.length ≤ held.length := isPrefix.length_le
    have taken : (held ++ [c]).take front.length = front := by
      rw [List.take_append_of_le_length shorter]
      exact (List.prefix_iff_eq_take.mp isPrefix).symm
    have within : front.length < (held ++ [c]).length := by
      rw [List.length_append, List.length_singleton]
      omega
    exact taken ▸ spelled.unread front.length within

end Motion.Spelled

/-! ### Reading an operator with its motion -/

/-- What is read as an operand is read so after an operator. -/
theorem Operator.parse_append (operator : Operator)
    (known : readOperand none (.ofKeys keys) ≠ .error (.invalidMotion .unknownMotion)) :
    Command.parse (operator.spelling ++ keys) =
      (readOperand none (.ofKeys keys)).map fun found => (found.1, operator.command found.2) := by
  have operand (lineKey : Option Char) :
      readOperand lineKey (.ofKeys keys) = readOperand none (.ofKeys keys) :=
    readOperand_lineKey known
  cases operator with
  | delete =>
      have read : Command.parse (['d'] ++ keys) =
          (do
            let found ← readOperand (some 'd') (.ofKeys keys)
            .ok (found.1, .delete found.2)) := rfl
      rw [Operator.spelling, read, operand]
      cases readOperand none (.ofKeys keys) <;> rfl
  | yank =>
      have read : Command.parse (['y'] ++ keys) =
          (do
            let found ← readOperand (some 'y') (.ofKeys keys)
            .ok (found.1, .yank found.2)) := rfl
      rw [Operator.spelling, read, operand]
      cases readOperand none (.ofKeys keys) <;> rfl
  | reflow =>
      have read : Command.parse (['g', 'q'] ++ keys) =
          (do
            let found ← readOperand (some 'q') (.ofKeys keys)
            .ok (found.1, .reflow found.2)) := rfl
      rw [Operator.spelling, read, operand]
      cases readOperand none (.ofKeys keys) <;> rfl
  | change =>
      have read : Command.parse (['c'] ++ keys) = Command.parseChange (.ofKeys keys) := rfl
      rw [Operator.spelling, read]
      simp only [Command.parseChange, readOperand, bind, Except.bind] at known ⊢
      cases counted : (KeyBuffer.ofKeys keys).readMotionCount with
      | error error => rfl
      | ok buffer =>
          rw [counted] at known
          have notDoubled : buffer.peek ≠ some 'c' := by
            intro doubled
            have taken : ∃ rest, buffer.next = .ok ('c', rest) := by
              obtain ⟨rest, count, counted⟩ := buffer
              cases rest with
              | nil => cases doubled
              | cons key rest =>
                  cases doubled
                  exact ⟨_, rfl⟩
            obtain ⟨rest, taken⟩ := taken
            simp [Motion.parse, bind, Except.bind, taken] at known
          simp only [if_neg notDoubled]
          cases Motion.parse none buffer <;> rfl

theorem VisualCommand.parse_of_operand
    (known : readOperand none (.ofKeys keys) ≠ .error (.invalidMotion .unknownMotion)) :
    VisualCommand.parse keys =
      (readOperand none (.ofKeys keys)).map fun found => (found.1, .extend found.2) := by
  simp only [VisualCommand.parse, readOperand, readMotionCount_ofKeys, bind, Except.bind] at known ⊢
  cases counted : (KeyBuffer.ofKeys keys).readCount with
  | error error => rfl
  | ok buffer =>
      rw [counted] at known
      cases taken : buffer.next with
      | error error => simp [Motion.parse, bind, Except.bind, taken, Except.map]
      | ok next =>
          obtain ⟨key, rest⟩ := next
          simp only [taken]
          split
          all_goals try
            simp [Motion.parse, bind, Except.bind, taken] at known
            done
          cases Motion.parse none buffer <;> rfl

namespace Motion.Spelled

theorem parse_command (spelled : Motion.Spelled keys count motion) (operator : Operator) :
    Command.parse (operator.spelling ++ keys) = .ok (count, operator.command motion) := by
  rw [operator.parse_append (by simp [spelled.read]), spelled.read]
  rfl

theorem parse_visual (spelled : Motion.Spelled keys count motion) :
    VisualCommand.parse keys = .ok (count, .extend motion) := by
  rw [VisualCommand.parse_of_operand (by simp [spelled.read]), spelled.read]
  rfl

end Motion.Spelled

theorem Operator.parse_visual (operator : Operator) :
    VisualCommand.parse operator.spelling = .ok (1, operator.visualCommand) := by
  cases operator <;> rfl

/-! ### No fewer keys make a command -/

theorem Operator.unfinished_of_prefix (operator : Operator) (given : front ≠ [])
    (isPrefix : front <+: operator.spelling) : Session.Unfinished .command front := by
  have begun : front = operator.spelling ∨ front = ['g'] := by
    cases operator with
    | delete | yank | change =>
        rcases List.prefix_cons_iff.mp isPrefix with rfl | ⟨rest, rfl, within⟩
        · exact absurd rfl given
        · rw [List.prefix_nil.mp within]
          exact .inl rfl
    | reflow =>
        rcases List.prefix_cons_iff.mp isPrefix with rfl | ⟨rest, rfl, within⟩
        · exact absurd rfl given
        · rcases List.prefix_cons_iff.mp within with rfl | ⟨later, rfl, last⟩
          · exact .inr rfl
          · rw [List.prefix_nil.mp last]
            exact .inl rfl
  rcases begun with rfl | rfl
  · cases operator <;> rfl
  · rfl

theorem Operator.legible_append {held : List Char} (operator : Operator)
    (unread : ∀ front, front <+: held → readOperand none (.ofKeys front) = .error .incomplete) :
    Legible .command (operator.spelling ++ held) := by
  intro front given isPrefix
  rcases List.prefix_or_prefix_of_prefix isPrefix (List.prefix_append operator.spelling held) with
    shorter | ⟨rest, rfl⟩
  · exact operator.unfinished_of_prefix given shorter
  · have incomplete := unread rest ((List.prefix_append_right_inj _).mp isPrefix)
    have read : Command.parse (operator.spelling ++ rest) = .error .incomplete := by
      rw [operator.parse_append (by simp [incomplete]), incomplete]
      rfl
    exact read

theorem legible_visual_of_unread {held : List Char} (kind : VisualKind)
    (unread : ∀ front, front <+: held → readOperand none (.ofKeys front) = .error .incomplete) :
    Legible (.visual kind) held := by
  intro front given isPrefix
  have incomplete := unread front isPrefix
  have read : VisualCommand.parse front = .error .incomplete := by
    rw [VisualCommand.parse_of_operand (by simp [incomplete]), incomplete]
    rfl
  exact read

theorem Operator.exists_last_visual (operator : Operator) (kind : VisualKind) :
    ∃ held c, operator.spelling = held ++ [c] ∧ Legible (.visual kind) held := by
  cases operator with
  | delete => exact ⟨[], 'd', rfl, .nil _⟩
  | yank => exact ⟨[], 'y', rfl, .nil _⟩
  | reflow => exact ⟨['g'], 'q', rfl, (Legible.nil _).snoc rfl⟩
  | change => exact ⟨[], 'c', rfl, .nil _⟩

end ModalVi
