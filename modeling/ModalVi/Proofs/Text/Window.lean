import ModalVi.Proofs.Text.Reader

namespace ModalVi.Reader

/-! Reading on while a window of characters is accepted.

A loop fills the window, asks about it and drops its first character, until it is refused or the text
ends.  A refused window is given back, but one that the end of the text cuts short stays read.  The
loop always ends, and what it comes to is known without it: the windows of the characters ahead are
asked about in reading order, each once, up to the first that is refused. -/

/-- What a loop over windows comes to. -/
structure Scan (σ : Type) where
  /-- Whether a window was refused. -/
  met : Bool
  /-- The windows that were asked about, in the order of asking. -/
  asked : List (List Char)
  /-- What is remembered of them. -/
  state : σ
  reader : Reader

/-- The loop ends with a scan, beginning with what it remembers, the characters that the window holds and
the reader that it goes on with. -/
inductive Scans {σ : Type} (size : Nat) (around : Bool) (accept : σ → List Char → Bool × σ) :
    σ → List Char → Reader → Scan σ → Prop where
  | ended {state : σ} {window : List Char} {reader : Reader} (partly : window.length < size)
      (none : reader.peek = none) :
      Scans size around accept state window reader ⟨false, [], state, reader⟩
  | read {state : σ} {window : List Char} {reader : Reader} {c : Char} {scan : Scan σ}
      (partly : window.length < size) (next : reader.peek = some c)
      (later : Scans size around accept state (window ++ [c]) (reader.advance 1) scan) :
      Scans size around accept state window reader scan
  | refused {state final : σ} {window : List Char} {reader : Reader} (full : size ≤ window.length)
      (refuses : accept state window = (false, final)) :
      Scans size around accept state window reader
        ⟨true, [window], final, if around then reader else reader.giveBack window.length⟩
  | accepted {state middle : σ} {first : Char} {kept : List Char} {reader : Reader} {scan : Scan σ}
      (full : size ≤ (first :: kept).length)
      (accepts : accept state (first :: kept) = (true, middle))
      (later : Scans size around accept middle kept reader scan) :
      Scans size around accept state (first :: kept) reader
        { scan with asked := (first :: kept) :: scan.asked }

/-- The stretches of `size` characters, in reading order. -/
def windows (size : Nat) (characters : List Char) : List (List Char) :=
  (List.range (characters.length + 1 - size)).map fun place => (characters.drop place).take size

/-- All the windows are accepted, each with what is remembered of those before it. -/
inductive AcceptsAll {σ : Type} (accept : σ → List Char → Bool × σ) :
    σ → List (List Char) → σ → Prop where
  | nil {state : σ} : AcceptsAll accept state [] state
  | cons {state middle final : σ} {window : List Char} {later : List (List Char)}
      (accepts : accept state window = (true, middle))
      (rest : AcceptsAll accept middle later final) :
      AcceptsAll accept state (window :: later) final

/-- What the loop comes to, said of the windows ahead. -/
inductive FirstRefusal {σ : Type} (size : Nat) (around : Bool) (accept : σ → List Char → Bool × σ)
    (state : σ) (reader : Reader) : Scan σ → Prop where
  | refused {earlier later : List (List Char)} {window : List Char} {middle final : σ}
      (ahead : windows size reader.ahead = earlier ++ window :: later)
      (accepted : AcceptsAll accept state earlier middle)
      (refuses : accept middle window = (false, final)) :
      FirstRefusal size around accept state reader
        ⟨true, earlier ++ [window], final,
          reader.advance (if around then earlier.length + size else earlier.length)⟩
  | exhausted {final : σ} (accepted : AcceptsAll accept state (windows size reader.ahead) final) :
      FirstRefusal size around accept state reader
        ⟨false, windows size reader.ahead, final, reader.advance reader.ahead.length⟩

variable {σ : Type} {size held : Nat} {around : Bool} {accept : σ → List Char → Bool × σ}
  {state middle final : σ} {reader : Reader} {window : List Char} {scan : Scan σ}

/-! ### The windows ahead -/

theorem windows_of_short {characters : List Char} (short : characters.length < size) :
    windows size characters = [] := by
  have none : characters.length + 1 - size = 0 := by omega
  rw [windows, none]
  rfl

theorem windows_of_long {characters : List Char} (positive : 0 < size)
    (long : size ≤ characters.length) :
    windows size characters = characters.take size :: windows size (characters.drop 1) := by
  have more : characters.length + 1 - size = (characters.drop 1).length + 1 - size + 1 := by
    rw [List.length_drop]
    omega
  rw [windows, more, List.range_succ_eq_map, List.map_cons, List.map_map, windows, List.drop_zero]
  congr 1
  apply List.map_congr_left
  intro place _
  rw [Function.comp_apply, List.drop_drop, Nat.add_comm]

theorem FirstRefusal.of_short (short : reader.ahead.length < size) :
    FirstRefusal size around accept state reader
      ⟨false, [], state, reader.advance reader.ahead.length⟩ := by
  have none := windows_of_short short
  have exhausted : FirstRefusal size around accept state reader
      ⟨false, windows size reader.ahead, state, reader.advance reader.ahead.length⟩ :=
    .exhausted (none ▸ .nil)
  rwa [none] at exhausted

theorem FirstRefusal.here (positive : 0 < size) (long : size ≤ reader.ahead.length)
    (refuses : accept state (reader.ahead.take size) = (false, final)) :
    FirstRefusal size around accept state reader
      ⟨true, [reader.ahead.take size], final, reader.advance (if around then size else 0)⟩ := by
  have refused := @FirstRefusal.refused _ _ around _ _ _ [] _ _ _ _ (windows_of_long positive long)
    .nil refuses
  rwa [List.length_nil, Nat.zero_add] at refused

/-- A reader from which a character was read has one less to read. -/
theorem FirstRefusal.later (positive : 0 < size) (long : size ≤ reader.ahead.length)
    (accepts : accept state (reader.ahead.take size) = (true, middle))
    (later : FirstRefusal size around accept middle (reader.advance 1) scan) :
    FirstRefusal size around accept state reader
      { scan with asked := reader.ahead.take size :: scan.asked } := by
  have cut := windows_of_long positive long
  cases later with
  | @refused earlier others window before final windows accepted refuses =>
      rw [ahead_advance] at windows
      rw [windows] at cut
      have refused := @FirstRefusal.refused _ _ around _ _ _ (reader.ahead.take size :: earlier) _ _ _ _
        cut (.cons accepts accepted) refuses
      have further : (reader.advance 1).advance
            (if around then earlier.length + size else earlier.length) =
          reader.advance (if around then (reader.ahead.take size :: earlier).length + size
            else (reader.ahead.take size :: earlier).length) := by
        rw [advance_advance, List.length_cons]
        congr 1
        split <;> omega
      rwa [further]
  | @exhausted final accepted =>
      have whole : (reader.advance 1).advance (reader.advance 1).ahead.length =
          reader.advance reader.ahead.length := by
        rw [advance_advance, ahead_advance, List.length_drop]
        congr 1
        omega
      rw [ahead_advance] at accepted
      have all : AcceptsAll accept state (windows size reader.ahead) final := by
        rw [cut]
        exact .cons accepts accepted
      have exhausted := @FirstRefusal.exhausted _ _ around _ _ _ _ all
      rw [cut, ← whole] at exhausted
      rwa [ahead_advance]

/-! ### The loop -/

theorem Scans.unique {one other : Scan σ} (scans : Scans size around accept state window reader one)
    (also : Scans size around accept state window reader other) : one = other := by
  induction scans generalizing other with
  | ended partly none =>
      cases also with
      | ended => rfl
      | read _ next _ => cases none.symm.trans next
      | refused full _ | accepted full _ _ => omega
  | read partly next later ih =>
      cases also with
      | ended _ none => cases none.symm.trans next
      | read _ same later =>
          cases next.symm.trans same
          exact ih later
      | refused full _ | accepted full _ _ => omega
  | refused full refuses =>
      cases also with
      | ended partly _ | read partly _ _ => omega
      | refused _ same =>
          cases refuses.symm.trans same
          rfl
      | accepted _ accepts _ => cases refuses.symm.trans accepts
  | accepted full accepts later ih =>
      cases also with
      | ended partly _ | read partly _ _ => omega
      | refused _ refuses => cases refuses.symm.trans accepts
      | accepted _ same later =>
          cases accepts.symm.trans same
          rw [ih later]

/-- A window that is not full is filled. -/
theorem Scans.fill {count : Nat} (within : held + count ≤ size)
    (there : held + count ≤ reader.ahead.length)
    (later : Scans size around accept state (reader.ahead.take (held + count))
      (reader.advance (held + count)) scan) :
    Scans size around accept state (reader.ahead.take held) (reader.advance held) scan := by
  induction count generalizing held with
  | zero => exact later
  | succ count ih =>
      have more : held < reader.ahead.length := by omega
      have next : (reader.advance held).peek = some reader.ahead[held] := by
        rw [peek, ahead_advance, List.head?_drop, List.getElem?_eq_getElem more]
      have partly : (reader.ahead.take held).length < size := by
        rw [List.length_take]
        omega
      refine .read partly next ?_
      rw [List.take_append_getElem, advance_advance]
      exact ih (by omega) (by omega) (by rwa [Nat.add_right_comm])

theorem giveBack_advance (within : held ≤ reader.ahead.length) :
    (reader.advance held).giveBack held = reader := by
  have taken : (reader.ahead.take held).reverse.length = held := by
    rw [List.length_reverse, List.length_take, Nat.min_eq_left within]
  have returned : min held (reader.advance held).consumed = held := by
    rw [consumed_advance]
    omega
  obtain ⟨direction, origin, consumed, ahead, behind⟩ := reader
  simp only [giveBack, returned]
  simp only [advance] at taken ⊢
  rw [List.length_reverse] at taken
  simp [taken]

theorem scans_of_short (short : reader.ahead.length < size) (there : held ≤ reader.ahead.length) :
    Scans size around accept state (reader.ahead.take held) (reader.advance held)
      ⟨false, [], state, reader.advance reader.ahead.length⟩ := by
  obtain ⟨count, whole⟩ := Nat.exists_eq_add_of_le there
  have partly : (reader.ahead.take (held + count)).length < size := by
    rw [List.length_take]
    omega
  have none : (reader.advance (held + count)).peek = none := by
    rw [peek, ahead_advance, ← whole, List.drop_length]
    rfl
  have ended : Scans size around accept state (reader.ahead.take (held + count))
      (reader.advance (held + count)) ⟨false, [], state, reader.advance (held + count)⟩ :=
    .ended partly none
  rw [whole]
  exact ended.fill (by omega) (by omega)

theorem scans_of_refused (long : size ≤ reader.ahead.length) (within : held ≤ size)
    (refuses : accept state (reader.ahead.take size) = (false, final)) :
    Scans size around accept state (reader.ahead.take held) (reader.advance held)
      ⟨true, [reader.ahead.take size], final, reader.advance (if around then size else 0)⟩ := by
  obtain ⟨count, rfl⟩ := Nat.exists_eq_add_of_le within
  have full : (reader.ahead.take (held + count)).length = held + count := by
    rw [List.length_take, Nat.min_eq_left long]
  have refused := @Scans.refused _ _ around _ _ _ _ (reader.advance (held + count))
    (Nat.le_of_eq full.symm) refuses
  rw [full, giveBack_advance long] at refused
  have place : (if around then reader.advance (held + count) else reader) =
      reader.advance (if around then held + count else 0) := by
    split
    · rfl
    · rw [advance_zero]
  rw [place] at refused
  exact refused.fill (Nat.le_refl _) long

theorem scans_of_accepted (positive : 0 < size) (long : size ≤ reader.ahead.length)
    (within : held ≤ size) (accepts : accept state (reader.ahead.take size) = (true, middle))
    (later : Scans size around accept middle ((reader.advance 1).ahead.take (size - 1))
      ((reader.advance 1).advance (size - 1)) scan) :
    Scans size around accept state (reader.ahead.take held) (reader.advance held)
      { scan with asked := reader.ahead.take size :: scan.asked } := by
  obtain ⟨count, rfl⟩ := Nat.exists_eq_add_of_le within
  have full : (reader.ahead.take (held + count)).length = held + count := by
    rw [List.length_take, Nat.min_eq_left long]
  have kept : (reader.advance 1).ahead.take (held + count - 1) =
      (reader.ahead.take (held + count)).tail := by
    rw [ahead_advance, ← List.drop_one, List.drop_take]
  have moved : (reader.advance 1).advance (held + count - 1) = reader.advance (held + count) := by
    rw [advance_advance]
    congr 1
    omega
  rw [kept, moved] at later
  have step : Scans (held + count) around accept state (reader.ahead.take (held + count))
      (reader.advance (held + count))
      { scan with asked := reader.ahead.take (held + count) :: scan.asked } := by
    cases window : reader.ahead.take (held + count) with
    | nil =>
        rw [window] at full
        cases full ▸ positive
    | cons first kept =>
        rw [window] at later accepts full
        exact .accepted (Nat.le_of_eq full.symm) accepts later
  exact step.fill (Nat.le_refl _) long

/-! ### Reading past the windows at once -/

/-- The first window settles whether reading goes on. -/
theorem firstRefused_of_long (positive : 0 < size) {characters : List Char}
    (long : size ≤ characters.length) :
    firstRefused size accept state characters =
      match accept state (characters.take size) with
      | (false, _) => some 0
      | (true, middle) => (firstRefused size accept middle (characters.drop 1)).map (· + 1) := by
  have full : ¬ (characters.take size).length < size := by
    rw [List.length_take]
    omega
  cases characters with
  | nil =>
      rw [List.length_nil] at long
      omega
  | cons first rest =>
      rw [firstRefused, if_neg full]
      rfl

theorem skipWindows_of_short (short : reader.ahead.length < size) :
    reader.skipWindows size around accept state = (false, reader.advance reader.ahead.length) := by
  have partly : (reader.ahead.take size).length < size := by
    rw [List.length_take]
    omega
  have none : firstRefused size accept state reader.ahead = none := by
    unfold firstRefused
    exact if_pos partly
  rw [skipWindows, none]

theorem skipWindows_of_refused (positive : 0 < size) (long : size ≤ reader.ahead.length)
    (refuses : accept state (reader.ahead.take size) = (false, final)) :
    reader.skipWindows size around accept state =
      (true, reader.advance (if around then size else 0)) := by
  rw [skipWindows, firstRefused_of_long positive long, refuses]
  simp only [Nat.zero_add]

theorem skipWindows_of_accepted (positive : 0 < size) (long : size ≤ reader.ahead.length)
    (accepts : accept state (reader.ahead.take size) = (true, middle)) :
    reader.skipWindows size around accept state =
      (reader.advance 1).skipWindows size around accept middle := by
  simp only [skipWindows, firstRefused_of_long positive long, accepts, ahead_advance]
  cases firstRefused size accept middle (reader.ahead.drop 1) with
  | none =>
      have whole : reader.ahead.length = 1 + (reader.ahead.drop 1).length := by
        rw [List.length_drop]
        omega
      simp only [Option.map_none, advance_advance, ← whole]
  | some place =>
      have further : (if around then place + 1 + size else place + 1) =
          1 + if around then place + size else place := by
        split <;> omega
      simp only [Option.map_some, advance_advance, ← further]

/-- The loop ends, wherever the window was filled to, and so does reading past the windows in one go. -/
theorem exists_scans (positive : 0 < size) (within : held ≤ size)
    (there : held ≤ reader.ahead.length) :
    ∃ scan, Scans size around accept state (reader.ahead.take held) (reader.advance held) scan ∧
      FirstRefusal size around accept state reader scan ∧
      reader.skipWindows size around accept state = (scan.met, scan.reader) := by
  -- Every round but the last moves the window on by one character.
  induction unread : reader.ahead.length generalizing reader state held with
  | zero =>
      have short : reader.ahead.length < size := by omega
      exact ⟨_, scans_of_short short there, .of_short short, skipWindows_of_short short⟩
  | succ length ih =>
      by_cases short : reader.ahead.length < size
      · exact ⟨_, scans_of_short short there, .of_short short, skipWindows_of_short short⟩
      · have long : size ≤ reader.ahead.length := Nat.le_of_not_lt short
        rcases asked : accept state (reader.ahead.take size) with ⟨_ | _, next⟩
        · exact ⟨_, scans_of_refused long within asked, .here positive long asked,
            skipWindows_of_refused positive long asked⟩
        · have shorter : (reader.advance 1).ahead.length = length := by
            rw [ahead_advance, List.length_drop]
            omega
          obtain ⟨scan, scans, refusal, skipped⟩ :=
            @ih (size - 1) next (reader.advance 1) (by omega) (by omega) shorter
          exact ⟨_, scans_of_accepted positive long within asked scans, refusal.later positive long asked,
            (skipWindows_of_accepted positive long asked).trans skipped⟩

/-! ### What reading past windows is -/

theorem length_add_le_of_windows {earlier later : List (List Char)}
    (ahead : windows size reader.ahead = earlier ++ window :: later) :
    earlier.length + size ≤ reader.ahead.length := by
  have count : (windows size reader.ahead).length = reader.ahead.length + 1 - size := by
    rw [windows, List.length_map, List.length_range]
  rw [ahead, List.length_append, List.length_cons] at count
  omega

/-- The loop over windows always ends, and it comes to what reading past them at once does.  The windows
ahead are asked about in reading order, each once, up to the first that is refused.  If `index` windows
come before that one, as many characters are read, and the window as well if it is not to be given back.
If no window is refused, everything is read. -/
theorem scans_skipWindows (positive : 0 < size) (around : Bool) (accept : σ → List Char → Bool × σ)
    (state : σ) (reader : Reader) :
    ∃ scan, (∀ other, Scans size around accept state [] reader other ↔ other = scan) ∧
      reader.skipWindows size around accept state = (scan.met, scan.reader) ∧
      ((∃ index window middle, (windows size reader.ahead)[index]? = some window ∧
          AcceptsAll accept state ((windows size reader.ahead).take index) middle ∧
          accept middle window = (false, scan.state) ∧
          scan.asked = (windows size reader.ahead).take (index + 1) ∧ scan.met = true ∧
          scan.reader = reader.advance (if around then index + size else index) ∧
          scan.reader.consumed = reader.consumed + if around then index + size else index) ∨
        (AcceptsAll accept state (windows size reader.ahead) scan.state ∧
          scan.asked = windows size reader.ahead ∧ scan.met = false ∧
          scan.reader = reader.advance reader.ahead.length ∧
          scan.reader.consumed = reader.consumed + reader.ahead.length)) := by
  obtain ⟨scan, scans, refusal, skipped⟩ := @exists_scans _ _ _ around accept state reader positive
    (Nat.zero_le size) (Nat.zero_le reader.ahead.length)
  rw [List.take_zero, advance_zero] at scans
  refine ⟨scan, fun other => ⟨fun also => also.unique scans, fun same => same ▸ scans⟩, skipped, ?_⟩
  cases refusal with
  | @refused earlier later window middle final ahead accepted refuses =>
      have within := length_add_le_of_windows ahead
      refine .inl ⟨earlier.length, window, middle, ?_, ?_, refuses, ?_, rfl, rfl, ?_⟩
      · rw [ahead, List.getElem?_append_right (Nat.le_refl _), Nat.sub_self]
        rfl
      · rwa [ahead, List.take_left]
      · have cut : windows size reader.ahead = (earlier ++ [window]) ++ later := by
          rw [ahead, List.append_assoc, List.singleton_append]
        have count : (earlier ++ [window]).length = earlier.length + 1 := List.length_append
        rw [cut, ← count, List.take_left]
      · rw [consumed_advance]
        split <;> omega
  | exhausted accepted =>
      refine .inr ⟨accepted, rfl, rfl, rfl, ?_⟩
      rw [consumed_advance, Nat.min_self]

/-- Reading back for a full stop behind a character, with the windows counted. -/
theorem scans_back_to_stop :
    let reader := Reader.backward "x. yz".toList 5
    let accept (count : Nat) (window : List Char) : Bool × Nat :=
      (window[1]? != some '.', count + 1)
    0 < 2 ∧ reader.skipWindows 2 false accept 0 = (true, reader.advance 2) ∧
      ∃ scan, Scans 2 false accept 0 [] reader scan ∧ scan.state = 3 ∧
        scan.asked = ["zy".toList, "y ".toList, " .".toList] := by
  intro reader accept
  have positive : 0 < 2 := by decide
  have skipped : reader.skipWindows 2 false accept 0 = (true, reader.advance 2) := by cbv
  have ahead : windows 2 reader.ahead = ["zy".toList, "y ".toList, " .".toList, ".x".toList] := by
    decide
  obtain ⟨scan, ends, same, outcome⟩ := scans_skipWindows positive false accept 0 reader
  refine ⟨positive, skipped, scan, (ends scan).mpr rfl, ?_⟩
  have found : (true, reader.advance 2) = (scan.met, scan.reader) := skipped.symm.trans same
  obtain ⟨met, place⟩ := Prod.mk.inj found
  rcases outcome with
    ⟨index, window, middle, here, accepted, refuses, asked, _, _, consumed⟩ | ⟨_, _, missed, _⟩
  · have second : index = 2 := by
      rw [← place] at consumed
      exact (Nat.add_left_cancel consumed).symm
    rw [second, ahead] at here accepted asked
    obtain rfl : " .".toList = window := Option.some.inj here
    have counted : middle = 2 := by
      obtain _ | ⟨first, _ | ⟨next, ⟨⟩⟩⟩ := accepted
      cases first
      cases next
      rfl
    rw [counted] at refuses
    have last : accept 2 " .".toList = (false, 3) := by decide
    exact ⟨(Prod.mk.inj (last.symm.trans refuses)).2.symm, asked⟩
  · cases met.trans missed

/-! ### Windows of one character -/

theorem firstRefused_one (accept : Char → Bool) (characters : List Char) :
    firstRefused 1 (fun (_ : Unit) window => (window.all accept, ())) () characters =
      if characters.all accept then none else some (characters.takeWhile accept).length := by
  induction characters with
  | nil =>
      unfold firstRefused
      rfl
  | cons c rest ih =>
      have long : 1 ≤ (c :: rest).length := Nat.succ_pos _
      have window : ((c :: rest).take 1).all accept = accept c := by simp
      rw [firstRefused_of_long Nat.one_pos long]
      simp only [window, List.drop_one, List.tail_cons]
      cases accepted : accept c with
      | true =>
          simp only [ih, List.all_cons, accepted, Bool.true_and, List.takeWhile_cons_of_pos accepted]
          split <;> rfl
      | false => simp [accepted]

/-- Reading on while characters are accepted is reading past windows of one character. -/
theorem skipWindows_one (around : Bool) (accept : Char → Bool) (reader : Reader) :
    reader.skipWindows 1 around (fun (_ : Unit) window => (window.all accept, ())) () =
      (reader.meetsEnd accept,
        if around then reader.skipThrough accept else reader.skipWhile accept) := by
  have met : reader.meetsEnd accept = !reader.ahead.all accept := by
    rw [meetsEnd, List.not_all_eq_any_not]
  simp only [skipWindows, firstRefused_one, met, skipThrough, skipWhile]
  cases all : reader.ahead.all accept with
  | true =>
      have whole : reader.ahead.takeWhile accept = reader.ahead := by
        simpa using @List.takeWhile_append_of_pos _ _ _ [] (List.all_eq_true.mp all)
      have beyond : reader.advance (reader.ahead.length + 1) =
          reader.advance reader.ahead.length := by
        simp [advance, List.take_of_length_le]
      simp [whole, beyond]
  | false => cases around <;> rfl

end ModalVi.Reader
