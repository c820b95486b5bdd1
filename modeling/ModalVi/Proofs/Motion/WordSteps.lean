import Mathlib.Order.Nat
import Mathlib.Order.RelClasses
import ModalVi.Proofs.Text.Token

namespace ModalVi

/-! Word motions go from token to token.

A step forward leads to the nearest token start after the reader, a step backward to the nearest one
before it, and a step to the end of a word to the nearest token end after it.  Several steps lead along
the list of all token starts, or ends, and past the last of them to the end of the text. -/

/-! ### From one place of a list to the next -/

section Nearest

variable {before : Nat → Nat → Prop} [DecidableRel before] {list : List Nat} {last place : Nat}

/-- The first place of the list that comes after `offset`, or `last` if none does. -/
def firstAfter (before : Nat → Nat → Prop) [DecidableRel before] (list : List Nat)
    (last offset : Nat) : Nat :=
  (list.filter (before offset ·)).headD last

theorem firstAfter_eq_last {offset : Nat} (none : ∀ other ∈ list, ¬ before offset other) :
    firstAfter before list last offset = last := by
  rw [firstAfter, List.filter_eq_nil_iff.mpr (by simpa using none)]
  rfl

theorem firstAfter_eq {offset : Nat} (sorted : list.Pairwise before) (member : place ∈ list)
    (after : before offset place)
    (nearest : ∀ other ∈ list, before offset other → ¬ before other place) :
    firstAfter before list last offset = place := by
  have among : place ∈ list.filter (before offset ·) :=
    List.mem_filter.mpr ⟨member, decide_eq_true after⟩
  have ordered := sorted.filter (before offset ·)
  cases known : list.filter (before offset ·) with
  | nil => rw [known] at among; cases among
  | cons first rest =>
      rw [known] at among ordered
      rw [firstAfter, known]
      rcases List.mem_cons.mp among with same | later
      · exact same.symm
      · have inFront : first ∈ list.filter (before offset ·) := by rw [known]; exact .head _
        obtain ⟨held, reached⟩ := List.mem_filter.mp inFront
        exact absurd (List.rel_of_pairwise_cons ordered later)
          (nearest first held (of_decide_eq_true reached))

theorem firstAfter_mem (before : Nat → Nat → Prop) [DecidableRel before] (list : List Nat)
    (last offset : Nat) :
    (firstAfter before list last offset ∈ list ∧
        before offset (firstAfter before list last offset)) ∨
      firstAfter before list last offset = last := by
  rw [firstAfter]
  cases known : list.filter (before offset ·) with
  | nil => exact .inr rfl
  | cons first rest =>
      have among : first ∈ list.filter (before offset ·) := by rw [known]; exact .head _
      obtain ⟨member, reached⟩ := List.mem_filter.mp among
      exact .inl ⟨member, of_decide_eq_true reached⟩

theorem firstAfter_congr {first second : Nat}
    (same : ∀ other ∈ list, before first other ↔ before second other) :
    firstAfter before list last first = firstAfter before list last second := by
  rw [firstAfter, firstAfter, List.filter_congr fun other member =>
    decide_eq_decide.mpr (same other member)]

/-- None of the list stands between a place and the next one. -/
theorem not_before_firstAfter [IsStrictOrder Nat before] {offset : Nat}
    (sorted : list.Pairwise before) (member : place ∈ list) (after : before offset place) :
    ¬ before place (firstAfter before list last offset) := by
  have among : place ∈ list.filter (before offset ·) :=
    List.mem_filter.mpr ⟨member, decide_eq_true after⟩
  have ordered := sorted.filter (before offset ·)
  rw [firstAfter]
  cases known : list.filter (before offset ·) with
  | nil => rw [known] at among; cases among
  | cons first rest =>
      rw [known] at among ordered
      rcases List.mem_cons.mp among with rfl | later
      · exact irrefl place
      · exact asymm (List.rel_of_pairwise_cons ordered later)

/-- The next place is the nearest of those that come after `offset`, if any do. -/
theorem firstAfter_nearest [IsStrictOrder Nat before] (sorted : list.Pairwise before)
    (last offset : Nat) :
    (firstAfter before list last offset ∈ list ∧
        before offset (firstAfter before list last offset) ∧
        ∀ other ∈ list, before offset other → ¬ before other (firstAfter before list last offset)) ∨
      firstAfter before list last offset = last ∧ ∀ other ∈ list, ¬ before offset other := by
  by_cases none : ∀ other ∈ list, ¬ before offset other
  · exact .inr ⟨firstAfter_eq_last none, none⟩
  · have given : list.filter (before offset ·) ≠ [] := by simpa using none
    obtain ⟨first, rest, known⟩ := List.exists_cons_of_ne_nil given
    have here : firstAfter before list last offset = first := by rw [firstAfter, known]; rfl
    have among : first ∈ list.filter (before offset ·) := by rw [known]; exact .head _
    obtain ⟨member, reached⟩ := List.mem_filter.mp among
    have nearest (other : Nat) (held : other ∈ list) (after : before offset other) :
        ¬ before other (firstAfter before list last offset) :=
      not_before_firstAfter sorted held after
    rw [here] at nearest ⊢
    exact .inl ⟨member, of_decide_eq_true reached, nearest⟩

/-- Going to the next place again and again leads along the list. -/
theorem iterate_firstAfter [IsStrictOrder Nat before] (sorted : list.Pairwise before)
    (ends : ∀ other ∈ list, ¬ before last other) (count offset : Nat) :
    (firstAfter before list last)^[count + 1] offset =
      (list.filter (before offset ·)).getD count last := by
  induction count generalizing offset with
  | zero =>
      rw [Function.iterate_one, firstAfter]
      cases list.filter (before offset ·) <;> rfl
  | succ count ih =>
      rw [Function.iterate_succ_apply, ih]
      have ordered := sorted.filter (before offset ·)
      cases known : list.filter (before offset ·) with
      | nil =>
          have none : list.filter (before last ·) = [] :=
            List.filter_eq_nil_iff.mpr (by simpa using ends)
          rw [firstAfter, known, List.headD_nil, none]
          rfl
      | cons first rest =>
          rw [known] at ordered
          obtain ⟨least, _⟩ := List.pairwise_cons.mp ordered
          have reached : before offset first := by
            have inFront : first ∈ list.filter (before offset ·) := by rw [known]; exact .head _
            exact of_decide_eq_true (List.mem_filter.mp inFront).2
          -- What comes after the first place is the rest of what comes after `offset`.
          have rest_eq : list.filter (before first ·) = rest := by
            have through : list.filter (before first ·) =
                (list.filter (before offset ·)).filter (before first ·) := by
              rw [List.filter_filter]
              refine List.filter_congr fun other _ => ?_
              by_cases further : before first other
              · simp [further, IsTrans.trans _ _ _ reached further]
              · simp [further]
            rw [through, known, List.filter_cons_of_neg (by simpa using irrefl first),
              List.filter_eq_self.mpr (by simpa using least)]
          rw [firstAfter, known, List.headD_cons, rest_eq, List.getD_cons_succ]

end Nearest

namespace Text

variable {text : Text} {kinds : List (Char → Bool)} {accept : Char → Bool} {low high place : Nat}

/-! ### Where no token starts or ends -/

theorem Kinds.eq_of_holds (whole : Kinds kinds) {other : Char → Bool} (member : accept ∈ kinds)
    (memberAlso : other ∈ kinds) (held : text.holds accept place = true)
    (heldAlso : text.holds other place = true) : accept = other := by
  obtain ⟨c, known, accepted⟩ := exists_of_holds held
  rw [holds_of_getElem? known] at heldAlso
  exact whole.apart accept member other memberAlso c accepted heldAlso

/-- No character of a kind is among white space. -/
theorem Kinds.not_held (whole : Kinds kinds) (member : accept ∈ kinds)
    (spaces : Accepts Unicode.isWhitespace text low high) (after : low ≤ place)
    (before : place < high) : text.holds accept place = false := by
  by_contra held
  obtain ⟨c, known, accepted⟩ := exists_of_holds (by simpa using held)
  have space := spaces.each place before after
  rw [holds_of_getElem? known, whole.solid accept member c accepted] at space
  cases space

theorem Kinds.exists_of_not_space (whole : Kinds kinds) (inside : place < text.length)
    (solid : text.holds Unicode.isWhitespace place = false) :
    ∃ accept ∈ kinds, text.holds accept place = true := by
  have known := List.getElem?_eq_getElem inside
  rw [holds_of_getElem? known] at solid
  obtain ⟨accept, member, accepted⟩ := whole.covered _ solid
  exact ⟨accept, member, (holds_of_getElem? known).trans accepted⟩

theorem not_start_in_space (whole : Kinds kinds)
    (spaces : Accepts Unicode.isWhitespace text low high) (after : low ≤ place)
    (before : place < high) : place ∉ tokenStarts kinds text := by
  intro starts
  obtain ⟨accept, member, held, _⟩ := mem_tokenStarts_iff.mp starts
  rw [whole.not_held member spaces after before] at held
  cases held

theorem not_start_in_run (whole : Kinds kinds) (member : accept ∈ kinds)
    (run : Accepts accept text low high) (after : low < place) (before : place < high) :
    place ∉ tokenStarts kinds text := by
  intro starts
  obtain ⟨other, memberAlso, held, fresh⟩ := mem_tokenStarts_iff.mp starts
  have same := whole.eq_of_holds member memberAlso (run.each place before (Nat.le_of_lt after)) held
  have earlier := run.each (place - 1) (by omega) (by omega)
  rw [same, fresh (by omega)] at earlier
  cases earlier

theorem not_end_after_space (whole : Kinds kinds)
    (spaces : Accepts Unicode.isWhitespace text low high) (after : low < place)
    (before : place ≤ high) : place ∉ tokenEnds kinds text := by
  intro ends
  obtain ⟨accept, member, _, held, _⟩ := mem_tokenEnds_iff.mp ends
  rw [whole.not_held member spaces (by omega) (by omega)] at held
  cases held

theorem not_end_in_run (whole : Kinds kinds) (member : accept ∈ kinds)
    (run : Accepts accept text low high) (after : low < place) (before : place < high) :
    place ∉ tokenEnds kinds text := by
  intro ends
  obtain ⟨other, memberAlso, _, held, refused⟩ := mem_tokenEnds_iff.mp ends
  have same := whole.eq_of_holds member memberAlso
    (run.each (place - 1) (by omega) (by omega)) held
  have later := run.each place before (Nat.le_of_lt after)
  rw [same, refused] at later
  cases later

/-! ### Passing tokens -/

/-- From `low` on the rest of a token is passed, up to `high`; or no token goes on from `low`, and
nothing is passed. -/
inductive PassesToken (kinds : List (Char → Bool)) (text : Text) (low : Nat) : Nat → Prop where
  | none (nowhere : ∀ accept ∈ kinds, text.holds accept low = false) :
      PassesToken kinds text low low
  | rest {high : Nat} {accept : Char → Bool} (member : accept ∈ kinds) (moved : low < high)
      (run : Accepts accept text low high) (stopped : text.holds accept high = false) :
      PassesToken kinds text low high

/-- From `high` back the rest of a token is passed, down to `low`; or no token goes on before `high`,
and nothing is passed. -/
inductive PassesTokenBack (kinds : List (Char → Bool)) (text : Text) (high : Nat) : Nat → Prop where
  | none (nowhere : high ≠ 0 → ∀ accept ∈ kinds, text.holds accept (high - 1) = false) :
      PassesTokenBack kinds text high high
  | rest {low : Nat} {accept : Char → Bool} (member : accept ∈ kinds) (moved : low < high)
      (run : Accepts accept text low high)
      (stopped : low ≠ 0 → text.holds accept (low - 1) = false) :
      PassesTokenBack kinds text high low

/-- Behind the rest of a token and the white space after it, the next token starts. -/
theorem firstAfter_starts (whole : Kinds kinds) (passed : PassesToken kinds text low place)
    (spaces : Accepts Unicode.isWhitespace text place high)
    (stopped : text.holds Unicode.isWhitespace high = false) (inside : high ≤ text.length) :
    firstAfter (· < ·) (tokenStarts kinds text) text.length low = high := by
  have ordered := spaces.ordered
  have least : ∀ start ∈ tokenStarts kinds text, low < start → high ≤ start := by
    intro start starts after
    apply Nat.le_of_not_lt
    intro before
    by_cases later : place ≤ start
    · exact not_start_in_space whole spaces later before starts
    · cases passed with
      | none => omega
      | rest member _ run _ =>
          exact not_start_in_run whole member run after (Nat.lt_of_not_le later) starts
  rcases Nat.eq_or_lt_of_le inside with rfl | before
  · refine firstAfter_eq_last fun start starts after => ?_
    obtain ⟨stop, token⟩ := mem_tokenStarts.mp starts
    exact Nat.not_lt.mpr (least start starts after) token.bounds.1
  · obtain ⟨accept, member, held⟩ := whole.exists_of_not_space before stopped
    have fresh : low < high ∧ text.holds accept (high - 1) = false := by
      by_cases among : place < high
      · have space : text.holds accept (high - 1) = false :=
          whole.not_held member spaces (by omega) (by omega)
        cases passed with
        | none => exact ⟨among, space⟩
        | rest _ moved => exact ⟨by omega, space⟩
      · have same : place = high := by omega
        subst same
        cases passed with
        | none nowhere =>
            rw [nowhere accept member] at held
            cases held
        | rest other moved run refused =>
            refine ⟨moved, ?_⟩
            by_contra goesOn
            have last := run.each (place - 1) (by omega) (by omega)
            rw [← whole.eq_of_holds member other (by simpa using goesOn) last, held] at refused
            cases refused
    exact firstAfter_eq (sorted_tokenStarts kinds text)
      (mem_tokenStarts_iff.mpr ⟨accept, member, held, fun _ => fresh.2⟩) fresh.1
      fun other starts after => Nat.not_lt.mpr (least other starts after)

/-- Behind white space and the rest of a token, the next token ends. -/
theorem firstAfter_ends (whole : Kinds kinds)
    (spaces : Accepts Unicode.isWhitespace text low place)
    (stopped : text.holds Unicode.isWhitespace place = false)
    (passed : PassesToken kinds text place high) (inside : high ≤ text.length) :
    firstAfter (· < ·) (tokenEnds kinds text) text.length low = high := by
  have ordered := spaces.ordered
  cases passed with
  | none nowhere =>
      -- White space up to the end of the text, and no token in it.
      have atEnd : high = text.length := by
        by_contra notEnd
        obtain ⟨accept, member, held⟩ := whole.exists_of_not_space (by omega) stopped
        rw [nowhere accept member] at held
        cases held
      subst atEnd
      refine firstAfter_eq_last fun stop ends after => ?_
      obtain ⟨start, token⟩ := mem_tokenEnds.mp ends
      exact not_end_after_space whole spaces after token.bounds.2 ends
  | rest member moved run refused =>
      have last := run.each (high - 1) (by omega) (by omega)
      refine firstAfter_eq (sorted_tokenEnds kinds text)
        (mem_tokenEnds_iff.mpr ⟨_, member, by omega, last, refused⟩) (by omega)
        fun other ends after before => ?_
      by_cases early : other ≤ place
      · exact not_end_after_space whole spaces after early ends
      · exact not_end_in_run whole member run (Nat.lt_of_not_le early) before ends

/-- Before white space and the rest of a token, read backward, that token starts. -/
theorem firstAfter_starts_back (whole : Kinds kinds)
    (spaces : Accepts Unicode.isWhitespace text place high)
    (stopped : place ≠ 0 → text.holds Unicode.isWhitespace (place - 1) = false)
    (inside : high ≤ text.length) (passed : PassesTokenBack kinds text place low) :
    firstAfter (· > ·) (tokenStarts kinds text).reverse 0 high = low := by
  have ordered := spaces.ordered
  cases passed with
  | none nowhere =>
      have first : low = 0 := by
        by_contra notFirst
        obtain ⟨accept, member, held⟩ :=
          whole.exists_of_not_space (by omega) (stopped notFirst)
        rw [nowhere notFirst accept member] at held
        cases held
      subst first
      refine firstAfter_eq_last fun start starts before => ?_
      exact not_start_in_space whole spaces (Nat.zero_le start) before (List.mem_reverse.mp starts)
  | rest member moved run fresh =>
      have held := run.each low moved (Nat.le_refl low)
      refine firstAfter_eq (List.pairwise_reverse.mpr (sorted_tokenStarts kinds text))
        (List.mem_reverse.mpr (mem_tokenStarts_iff.mpr ⟨_, member, held, fresh⟩)) (by omega)
        fun other starts before after => ?_
      by_cases late : place ≤ other
      · exact not_start_in_space whole spaces late before (List.mem_reverse.mp starts)
      · exact not_start_in_run whole member run after (Nat.lt_of_not_le late)
          (List.mem_reverse.mp starts)

end Text

open Text

namespace Reader

variable {text : Text} {marks : Char → Bool} {kinds : List (Char → Bool)} {direction : Direction}
  {run : Reader → Reader} {reader : Reader}

/-! ### Reading over a token -/

/-- Reads over the rest of the token that the reader is at, and stays where it is if that is none. -/
structure SkipsToken (kinds : List (Char → Bool)) (text : Text) (direction : Direction)
    (run : Reader → Reader) : Prop where
  ofKind : ∀ {reader accept c}, Reads text reader → reader.direction = direction →
    accept ∈ kinds → reader.peek = some c → accept c = true → run reader = reader.skipWhile accept
  ofNone : ∀ {reader}, (∀ accept ∈ kinds, reader.peek.any accept = false) → run reader = reader

theorem skipWhile_of_peek {accept : Char → Bool} (refused : reader.peek.any accept = false) :
    reader.skipWhile accept = reader := by
  have nothing : reader.ahead.takeWhile accept = [] := by
    rw [peek] at refused
    cases known : reader.ahead with
    | nil => rfl
    | cons c rest =>
        rw [known] at refused
        exact List.takeWhile_cons_of_neg (by simpa using refused)
  rw [skipWhile, nothing]
  exact advance_zero reader

theorem skipsToken_skipNonSpace (text : Text) (direction : Direction) :
    SkipsToken (wordKinds marks true) text direction skipNonSpace where
  ofKind _ _ member _ _ := by
    rw [List.mem_singleton.mp member]
    rfl
  ofNone refused := skipWhile_of_peek (refused _ (List.mem_singleton_self _))

theorem mem_wordKinds {accept : Char → Bool} (member : accept ∈ wordKinds marks false) :
    accept = isWordPart marks ∨ accept = isPunctuation marks := by
  simpa [wordKinds] using member

theorem isWordPart_of_isPunctuation {c : Char} (mark : isPunctuation marks c = true) :
    isWordPart marks c = false := by
  simp [isWordPart, mark]

theorem skipsToken_skipWordRun (text : Text) :
    SkipsToken (wordKinds marks false) text .forward (skipWordRun marks) where
  ofKind {reader accept c} reads forward member next accepted := by
    rcases mem_wordKinds member with rfl | rfl
    · have moved : (reader.skipWordParts marks).offset ≠ reader.offset := by
        intro still
        have stopped := (accepts_skipWhile_forward reads forward (isWordPart marks)).2
        rw [peek_forward reads forward] at next
        rw [show (reader.skipWhile (isWordPart marks)).offset = reader.offset from still,
          holds_of_getElem? next, accepted] at stopped
        cases stopped
      rw [skipWordRun, if_neg moved]
      rfl
    · have still : reader.skipWordParts marks = reader := by
        apply skipWhile_of_peek
        rw [next]
        exact isWordPart_of_isPunctuation accepted
      rw [skipWordRun, still, if_pos rfl]
      rfl
  ofNone {reader} refused := by
    have still : reader.skipWordParts marks = reader :=
        skipWhile_of_peek (refused (isWordPart marks) (.head _))
    rw [skipWordRun, still, if_pos rfl]
    exact skipWhile_of_peek (refused (isPunctuation marks) (.tail _ (.head _)))

/-- Reads backward over the word, or the punctuation, that the reader is at. -/
def skipTokenBack (marks : Char → Bool) (reader : Reader) : Reader :=
  if reader.peek.any (isPunctuation marks) then reader.skipPunctuation marks
  else reader.skipWordParts marks

theorem skipsToken_skipTokenBack (text : Text) (direction : Direction) :
    SkipsToken (wordKinds marks false) text direction (skipTokenBack marks) where
  ofKind {reader accept c} _ _ member next accepted := by
    rcases mem_wordKinds member with rfl | rfl
    · have part : reader.peek.any (isPunctuation marks) = false := by
        rw [next]
        exact (solid_of_isWordPart accepted).2
      rw [skipTokenBack, part]
      rfl
    · have mark : reader.peek.any (isPunctuation marks) = true := by
        rw [next]
        exact accepted
      rw [skipTokenBack, mark]
      rfl
  ofNone {reader} refused := by
    rw [skipTokenBack, refused (isPunctuation marks) (.tail _ (.head _))]
    exact skipWhile_of_peek (refused (isWordPart marks) (.head _))

namespace SkipsToken

theorem forward (skips : SkipsToken kinds text .forward run) (reads : Reads text reader)
    (facing : reader.direction = .forward) :
    Reads text (run reader) ∧ (run reader).direction = .forward ∧
      PassesToken kinds text reader.offset (run reader).offset := by
  have next := peek_forward reads facing
  by_cases nowhere : ∀ accept ∈ kinds, text.holds accept reader.offset = false
  · have still : run reader = reader := skips.ofNone fun accept member => by
      rw [next]
      exact nowhere accept member
    rw [still]
    exact ⟨reads, facing, .none nowhere⟩
  · simp only [not_forall, Bool.not_eq_false] at nowhere
    obtain ⟨accept, member, held⟩ := nowhere
    obtain ⟨c, known, accepted⟩ := exists_of_holds held
    obtain ⟨passed, stopped⟩ := accepts_skipWhile_forward reads facing accept
    have moved := Nat.lt_of_le_of_ne passed.ordered fun still => by
      rw [← still, held] at stopped
      cases stopped
    rw [skips.ofKind reads facing member (next.trans known) accepted]
    exact ⟨reads.skipWhile accept, facing, .rest member moved passed stopped⟩

theorem backward (skips : SkipsToken kinds text .backward run) (reads : Reads text reader)
    (facing : reader.direction = .backward) :
    Reads text (run reader) ∧ (run reader).direction = .backward ∧
      PassesTokenBack kinds text reader.offset (run reader).offset := by
  by_cases nowhere : reader.offset ≠ 0 →
      ∀ accept ∈ kinds, text.holds accept (reader.offset - 1) = false
  · have still : run reader = reader := skips.ofNone fun accept member => by
      by_cases first : reader.offset = 0
      · rw [peek, reads.ahead_eq_take facing, first]
        rfl
      · rw [peek_backward reads facing first]
        exact nowhere first accept member
    rw [still]
    exact ⟨reads, facing, .none nowhere⟩
  · simp only [Classical.not_imp, not_forall, Bool.not_eq_false] at nowhere
    obtain ⟨notFirst, accept, member, held⟩ := nowhere
    obtain ⟨c, known, accepted⟩ := exists_of_holds held
    obtain ⟨passed, stopped⟩ := accepts_skipWhile_backward reads facing accept
    have moved := Nat.lt_of_le_of_ne passed.ordered fun still => by
      rw [still] at stopped
      rw [stopped notFirst] at held
      cases held
    rw [skips.ofKind reads facing member ((peek_backward reads facing notFirst).trans known)
      accepted]
    exact ⟨reads.skipWhile accept, facing, .rest member moved passed stopped⟩

/-- Over the rest of a token and the white space after it, a reader comes to the next token start. -/
theorem walks_starts (skips : SkipsToken kinds text .forward run) (whole : Kinds kinds) :
    Walks text .forward (fun reader => (run reader).skipSpace)
      (firstAfter (· < ·) (tokenStarts kinds text) text.length) where
  reads reads facing := (skips.forward reads facing).1.skipSpace
  facing reads facing := (skips.forward reads facing).2.1
  offset reads facing := by
    obtain ⟨readsRun, facingRun, passed⟩ := skips.forward reads facing
    obtain ⟨spaces, stopped⟩ := accepts_skipWhile_forward readsRun facingRun Unicode.isWhitespace
    exact (firstAfter_starts whole passed spaces stopped readsRun.skipSpace.offset_le).symm

/-- Over white space and the rest of a token, a reader comes to the next token end. -/
theorem walks_ends (skips : SkipsToken kinds text .forward run) (whole : Kinds kinds) :
    Walks text .forward (fun reader => run reader.skipSpace)
      (firstAfter (· < ·) (tokenEnds kinds text) text.length) where
  reads reads facing := (skips.forward reads.skipSpace facing).1
  facing reads facing := (skips.forward reads.skipSpace facing).2.1
  offset reads facing := by
    obtain ⟨spaces, stopped⟩ := accepts_skipWhile_forward reads facing Unicode.isWhitespace
    obtain ⟨readsRun, _, passed⟩ := skips.forward reads.skipSpace facing
    exact (firstAfter_ends whole spaces stopped passed readsRun.offset_le).symm

/-- Back over white space and the rest of a token, a reader comes to the start of that token. -/
theorem walks_starts_back (skips : SkipsToken kinds text .backward run) (whole : Kinds kinds) :
    Walks text .backward (fun reader => run reader.skipSpace)
      (firstAfter (· > ·) (tokenStarts kinds text).reverse 0) where
  reads reads facing := (skips.backward reads.skipSpace facing).1
  facing reads facing := (skips.backward reads.skipSpace facing).2.1
  offset reads facing := by
    obtain ⟨spaces, stopped⟩ := accepts_skipWhile_backward reads facing Unicode.isWhitespace
    obtain ⟨_, _, passed⟩ := skips.backward reads.skipSpace facing
    exact (firstAfter_starts_back whole spaces stopped reads.offset_le passed).symm

end SkipsToken

/-! ### The six motions -/

theorem walks_wordForward (apart : MarksApart marks) (text : Text) (big : Bool) :
    Walks text .forward (if big then bigWordForward else wordForward marks)
      (firstAfter (· < ·) (tokenStarts (wordKinds marks big) text) text.length) := by
  cases big with
  | true => exact (skipsToken_skipNonSpace text .forward).walks_starts (kinds_wordKinds apart true)
  | false => exact (skipsToken_skipWordRun text).walks_starts (kinds_wordKinds apart false)

theorem walks_wordBackward (apart : MarksApart marks) (text : Text) (big : Bool) :
    Walks text .backward (if big then bigWordBackward else wordBackward marks)
      (firstAfter (· > ·) (tokenStarts (wordKinds marks big) text).reverse 0) := by
  cases big with
  | true =>
      exact (skipsToken_skipNonSpace text .backward).walks_starts_back (kinds_wordKinds apart true)
  | false =>
      exact (skipsToken_skipTokenBack text .backward).walks_starts_back (kinds_wordKinds apart false)

theorem walks_wordEnd (apart : MarksApart marks) (text : Text) (big : Bool) :
    Walks text .forward (if big then bigWordEnd else wordEnd marks)
      (firstAfter (· < ·) (tokenEnds (wordKinds marks big) text) text.length) := by
  cases big with
  | true => exact (skipsToken_skipNonSpace text .forward).walks_ends (kinds_wordKinds apart true)
  | false => exact (skipsToken_skipWordRun text).walks_ends (kinds_wordKinds apart false)

/-- From the start of a token to the next start, and back. -/
theorem wordBackward_wordForward (apart : MarksApart marks) {big : Bool} {start : Nat}
    (starts : start ∈ tokenStarts (wordKinds marks big) text) :
    ((if big then bigWordBackward else wordBackward marks) (Reader.backward text
      ((if big then bigWordForward else wordForward marks)
        (Reader.forward text start)).offset)).offset = start := by
  have reads := reads_forward text start
  have walks := walks_wordForward apart text big
  have sorted := sorted_tokenStarts (wordKinds marks big) text
  obtain ⟨stop, token⟩ := mem_tokenStarts.mp starts
  have inside := token.bounds.1
  have moved := walks.offset reads rfl
  have within := (walks.reads reads rfl).offset_le
  rw [offset_forward, Nat.min_eq_left (Nat.le_of_lt inside)] at moved
  rw [moved] at within ⊢
  rw [(walks_wordBackward apart text big).offset (reads_backward text _) rfl, offset_backward,
    Nat.min_eq_left within]
  refine firstAfter_eq (List.pairwise_reverse.mpr sorted) (List.mem_reverse.mpr starts) ?_
    fun other member earlier later => ?_
  · rcases firstAfter_mem (· < ·) (tokenStarts (wordKinds marks big) text) text.length start with
      ⟨_, further⟩ | atEnd
    · exact further
    · rw [atEnd]
      exact inside
  · exact not_before_firstAfter sorted (List.mem_reverse.mp member) later earlier

/-- Word motions follow the tokens of the text.  Any number of steps forward leads to as many token
starts after the offset, backward to as many before it, and to the ends of words to as many token ends
after it; where there are fewer, to the end of the text, or to its start.  One step back from the next
token start leads to the token start that the step forward set out from. -/
theorem offset_iterate_words (apart : MarksApart marks) (text : Text) (big : Bool)
    (offset count : Nat) :
    ((if big then bigWordForward else wordForward marks)^[count + 1]
        (Reader.forward text offset)).offset =
      ((tokenStarts (wordKinds marks big) text).filter (offset < ·)).getD count text.length ∧
    ((if big then bigWordBackward else wordBackward marks)^[count + 1]
        (Reader.backward text offset)).offset =
      ((tokenStarts (wordKinds marks big) text).reverse.filter (offset > ·)).getD count 0 ∧
    ((if big then bigWordEnd else wordEnd marks)^[count + 1] (Reader.forward text offset)).offset =
      ((tokenEnds (wordKinds marks big) text).filter (offset < ·)).getD count text.length ∧
    (offset ∈ tokenStarts (wordKinds marks big) text →
      ((if big then bigWordBackward else wordBackward marks) (Reader.backward text
        ((if big then bigWordForward else wordForward marks)
          (Reader.forward text offset)).offset)).offset = offset) := by
  have sorted := sorted_tokenStarts (wordKinds marks big) text
  have started (start : Nat) (starts : start ∈ tokenStarts (wordKinds marks big) text) :
      start < text.length := by
    obtain ⟨stop, token⟩ := mem_tokenStarts.mp starts
    exact token.bounds.1
  have ended (stop : Nat) (ends : stop ∈ tokenEnds (wordKinds marks big) text) :
      stop ≤ text.length := by
    obtain ⟨start, token⟩ := mem_tokenEnds.mp ends
    exact token.bounds.2
  refine ⟨?_, ?_, ?_, wordBackward_wordForward apart⟩
  · rw [(walks_wordForward apart text big).offset_iterate (reads_forward text offset) rfl,
      iterate_firstAfter sorted
        fun other starts => Nat.not_lt.mpr (Nat.le_of_lt (started other starts)),
      offset_forward]
    congr 1
    refine List.filter_congr fun other starts => decide_eq_decide.mpr ?_
    have inside := started other starts
    omega
  · rw [(walks_wordBackward apart text big).offset_iterate (reads_backward text offset) rfl,
      iterate_firstAfter (List.pairwise_reverse.mpr sorted) fun other _ => Nat.not_lt_zero other,
      offset_backward]
    congr 1
    refine List.filter_congr fun other starts => decide_eq_decide.mpr ?_
    have inside := started other (List.mem_reverse.mp starts)
    omega
  · rw [(walks_wordEnd apart text big).offset_iterate (reads_forward text offset) rfl,
      iterate_firstAfter (sorted_tokenEnds (wordKinds marks big) text)
        fun other ends => Nat.not_lt.mpr (ended other ends),
      offset_forward]
    congr 1
    refine List.filter_congr fun other ends => decide_eq_decide.mpr ?_
    have inside := ended other ends
    omega

/-- Two steps from a word over the punctuation right behind it, and one step back from there. -/
theorem offset_iterate_words_of_adjacent :
    let text : Text := ['a', 'b', '.', ' ', 'c']
    0 ∈ tokenStarts (wordKinds Unicode.isPunctuation false) text ∧
      ((wordForward Unicode.isPunctuation)^[2] (Reader.forward text 0)).offset = 4 ∧
      (wordBackward Unicode.isPunctuation (Reader.backward text
        (wordForward Unicode.isPunctuation (Reader.forward text 0)).offset)).offset = 0 := by
  intro text
  have starts : 0 ∈ tokenStarts (wordKinds Unicode.isPunctuation false) text := by decide +kernel
  have second : ((tokenStarts (wordKinds Unicode.isPunctuation false) text).filter (0 < ·)).getD 1
      text.length = 4 := by
    decide +kernel
  obtain ⟨ahead, _, _, back⟩ := offset_iterate_words Unicode.marksApart text false 0 1
  simp only [Bool.false_eq_true, if_false] at ahead back
  exact ⟨starts, ahead.trans second, back starts⟩

end Reader

end ModalVi
