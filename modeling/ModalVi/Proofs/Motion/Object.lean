import ModalVi.Proofs.Motion.Follow
import ModalVi.Proofs.Motion.Heading

namespace ModalVi

/-! Objects around the caret.

From the caret, the reader for the end of an object only reads on, and so does the one for its start
unless the object is a paragraph.  That one reads back to the nearest blank line and from there forward
over all line breaks, so where the caret is among them the paragraph starts after it.  The inner paragraph
ends at the first line break, which may be before the place where it starts.  Then, and only then, the
object does not contain the caret. -/

open Reader Text

variable {text : Text} {caret count : Nat}

/-- Line breaks are all that stands around a place: before it two, or as many as there are, and after it
`count`. -/
def Text.BreaksAround (text : Text) (caret count : Nat) : Prop :=
  Accepts (· == '\n') text (caret - 2) (caret + count)

/-! ### Where a paragraph starts -/

/-- The start of the paragraph is not after the caret, or line breaks are around the caret and the start
is after the last of them. -/
inductive Text.ParagraphStart (text : Text) (caret : Nat) : Nat → Prop where
  | before {start : Nat} (ordered : start ≤ caret) (free : ¬ BreaksAround text caret 1) :
      ParagraphStart text caret start
  | after {start : Nat} (passed : caret < start)
      (breaks : Accepts (· == '\n') text (caret - 2) start)
      (ended : text.holds (· == '\n') start = false) : ParagraphStart text caret start

namespace Text

variable {start stop : Nat}

theorem getElem?_of_breaks {index : Nat} (breaks : Accepts (· == '\n') text start stop)
    (after : start ≤ index) (before : index < stop) : text[index]? = some '\n' := by
  obtain ⟨c, known, held⟩ := exists_of_holds (breaks.each index before after)
  rw [known, eq_of_beq held]

theorem BreaksAround.of_le {fewer : Nat} (breaks : BreaksAround text caret count)
    (ordered : fewer ≤ count) : BreaksAround text caret fewer :=
  ⟨by omega, fun index before after => breaks.each index (by omega) after⟩

/-- A paragraph that starts after the caret starts after as many line breaks as are there. -/
theorem breaksAround_iff (passed : caret < start)
    (breaks : Accepts (· == '\n') text (caret - 2) start)
    (ended : text.holds (· == '\n') start = false) :
    BreaksAround text caret count ↔ caret + count ≤ start := by
  constructor
  · intro around
    apply Nat.le_of_not_lt
    intro before
    have held := around.each start before (by omega)
    rw [ended] at held
    cases held
  · intro ordered
    exact ⟨by omega, fun index before after => breaks.each index (by omega) after⟩

theorem ParagraphStart.le_caret_iff (starts : ParagraphStart text caret start) :
    start ≤ caret ↔ ¬ BreaksAround text caret 1 := by
  cases starts with
  | before ordered free => exact iff_of_true ordered free
  | after passed breaks ended =>
      rw [breaksAround_iff passed breaks ended]
      omega

end Text

namespace TextObject

variable {reader : Reader} {around : Bool} {stop : Nat}

theorem paragraphStart (reads : Reads text reader) (backward : reader.direction = .backward) :
    ParagraphStart text reader.offset
      (((reader.toPair blankLine).turn .forward).skipWhile (· == '\n')).offset := by
  have pair := pairBefore_toPair reads backward blankLine
  have turned := (reads.toPair blankLine).turn .forward
  obtain ⟨passed, ended⟩ := accepts_skipWhile_forward turned (direction_turn _ _) (· == '\n')
  rw [offset_turn] at passed
  have ordered := passed.ordered
  have back := pair.back
  by_cases after :
      reader.offset < (((reader.toPair blankLine).turn .forward).skipWhile (· == '\n')).offset
  · refine .after after ⟨by omega, fun index before since => ?_⟩ ended
    by_cases further : (reader.toPair blankLine).offset ≤ index
    · exact passed.each index before further
    · -- What is before the stop and not far from the caret is the pair itself.
      obtain ⟨first, earlier, later, place, knownEarlier, knownLater, held⟩ :=
        pair.met.resolve_left (by omega)
      simp only [blankLine, Bool.and_eq_true] at held
      obtain rfl | rfl : index = first ∨ index = first + 1 := by omega
      · exact (holds_of_getElem? knownEarlier).trans held.2
      · exact (holds_of_getElem? knownLater).trans held.1
  · refine .before (Nat.le_of_not_lt after) fun breaks => after ?_
    have near : reader.offset - 2 ≤ (reader.toPair blankLine).offset := by
      by_cases room : 2 ≤ reader.offset
      · have bound := pair.least (getElem?_of_breaks breaks (Nat.le_refl _) (by omega))
          (getElem?_of_breaks breaks (Nat.le_succ _) (by omega)) rfl (by omega)
        omega
      · omega
    have beyond := breaks.le_skipWhile turned (direction_turn _ _) (by rwa [offset_turn])
    omega

/-! ### Where a paragraph ends -/

section Breaks

variable (reads : Reads text reader) (forward : reader.direction = .forward)
include reads forward

theorem lt_paragraphEnd (first : text[reader.offset]? = some '\n') (around : Bool) :
    reader.offset < (paragraphEnd around reader).offset := by
  have room : 0 < reader.ahead.length := by
    have inside := (List.getElem?_eq_some_iff.mp first).1
    rw [length_ahead_forward reads forward]
    omega
  obtain ⟨place, _, moved⟩ := exists_toPair blankLine reader
  cases place with
  | zero =>
      rw [advance_zero] at moved
      simp only [paragraphEnd, moved, peek_forward reads forward, first, if_true]
      split
      · have alone : Accepts (· == '\n') text reader.offset (reader.offset + 1) :=
          ⟨Nat.le_succ _, fun index before after => by
            obtain rfl : index = reader.offset := by omega
            exact holds_of_getElem? first⟩
        exact alone.le_skipWhile reads forward (Nat.le_refl _)
      · rw [offset_advance_forward forward]
        omega
  | succ place =>
      have further := (onward_paragraphEnd around reader).le_offset
        ((Onward.toPair _ reader).direction_eq.trans forward)
      rw [moved, offset_advance_forward forward] at further
      omega

variable (breaks : Accepts (· == '\n') text reader.offset stop)
include breaks

/-- Before two line breaks, reading on to a blank line is to stay. -/
theorem toPair_of_breaks (two : reader.offset + 1 < stop) : reader.toPair blankLine = reader := by
  obtain ⟨place, pair, moved⟩ := exists_toPair blankLine reader
  have ahead (index : Nat) : reader.ahead[index]? = text[reader.offset + index]? := by
    rw [reads.ahead_eq_drop forward, List.getElem?_drop]
  have first := getElem?_of_breaks breaks (Nat.le_refl _) (by omega)
  have second := getElem?_of_breaks breaks (Nat.le_succ _) two
  have here := pair.least ((ahead 0).trans first) ((ahead 1).trans second) rfl
  rw [moved, Nat.le_zero.mp here, advance_zero]

variable (before : reader.offset < stop)
include before

/-- Only the end of an inner paragraph is before the last of several line breaks. -/
theorem le_paragraphEnd_iff (around : Bool) :
    stop ≤ (paragraphEnd around reader).offset ↔ ¬ (around = false ∧ reader.offset + 1 < stop) := by
  have first := getElem?_of_breaks breaks (Nat.le_refl _) before
  by_cases two : reader.offset + 1 < stop
  · cases around with
    | true =>
        simp only [paragraphEnd, toPair_of_breaks reads forward breaks two, if_true]
        exact iff_of_true (breaks.le_skipWhile reads forward (Nat.le_refl _)) (by simp)
    | false =>
        simp only [paragraphEnd, toPair_of_breaks reads forward breaks two,
          peek_forward reads forward, first, if_true, Bool.false_eq_true, if_false, true_and,
          offset_advance_forward forward]
        omega
  · have left := lt_paragraphEnd reads forward first around
    exact iff_of_true (by omega) (fun both => two both.2)

theorem lt_paragraphs (around : Bool) (given : 0 < count) :
    reader.offset < (paragraphs around count reader).offset := by
  obtain ⟨count, rfl⟩ := Nat.exists_eq_add_of_lt given
  have first := getElem?_of_breaks breaks (Nat.le_refl _) before
  have onward := (Onward.toPair _ reader).trans (onward_paragraphEnd around reader)
  exact Nat.lt_of_lt_of_le (lt_paragraphEnd reads forward first around)
    ((Onward.steps (onward_nextParagraph around) _ _).le_offset (onward.direction_eq.trans forward))

theorem le_paragraphs_iff (around : Bool) (given : 0 < count) :
    stop ≤ (paragraphs around count reader).offset ↔
      ¬ (around = false ∧ count = 1 ∧ reader.offset + 1 < stop) := by
  have onward := (Onward.toPair _ reader).trans (onward_paragraphEnd around reader)
  have facing := onward.direction_eq.trans forward
  match count with
  | 1 =>
      have single := le_paragraphEnd_iff reads forward breaks before around
      simpa only [paragraphs, steps, true_and] using single
  | count + 2 =>
      refine iff_of_true ?_ (by omega)
      -- The second step first goes over all the line breaks that are left.
      obtain ⟨further, stepped⟩ := exists_steps_succ
        (fun reader => paragraphEnd around (reader.skipWhile (· == '\n'))) count
        (paragraphEnd around reader)
      have skipped := breaks.le_skipWhile (onward.reads reads) facing (onward.le_offset forward)
      have rest := ((Onward.toPair _ _).trans (onward_paragraphEnd around _)).trans
        (Onward.steps (onward_nextParagraph around) further
          (paragraphEnd around ((paragraphEnd around reader).skipWhile (· == '\n'))))
      simp only [paragraphs]
      rw [stepped]
      exact Nat.le_trans skipped
        (rest.le_offset ((Onward.skipWhile _ _).direction_eq.trans facing))

end Breaks

/-! ### Both ends -/

/-- How an object lies that is looked for from the caret. -/
structure Extent.Lies (text : Text) (caret : Nat) (object : TextObject) (around : Bool)
    (count : Nat)
    (extent : Extent) : Prop where
  stop : caret ≤ extent.stop.offset
  start : extent.start.offset ≤ caret ↔ ¬ (object = .paragraph ∧ BreaksAround text caret 1)
  ordered : extent.start.offset ≤ extent.stop.offset ↔
    ¬ (object = .paragraph ∧ around = false ∧ count = 1 ∧ BreaksAround text caret 2)
  moved : extent.start.offset ≤ caret ∨ caret < extent.stop.offset

theorem Extent.Lies.of_start_le {object : TextObject} {extent : Extent}
    (stop : caret ≤ extent.stop.offset) (start : extent.start.offset ≤ caret)
    (free : object = .paragraph → ¬ BreaksAround text caret 1) :
    extent.Lies text caret object around count where
  stop := stop
  start := iff_of_true start fun both => free both.1 both.2
  ordered := iff_of_true (Nat.le_trans start stop) fun all =>
    free all.1 (all.2.2.2.of_le (Nat.le_succ 1))
  moved := .inl start

section Select

variable {found : Extent} (inside : caret ≤ text.length) (given : 0 < count)
include inside given

theorem lies_of_select_paragraph
    (selected : paragraph.select marks around count (.atOffset text caret) = .ok found) :
    found.Lies text caret .paragraph around count := by
  have startAt := offset_atOffset_start inside
  have stopAt := offset_atOffset_stop inside
  have started : Reads text (Extent.atOffset text caret).start := reads_backward text caret
  have stopped : Reads text (Extent.atOffset text caret).stop := reads_forward text caret
  have starts := paragraphStart started rfl
  have stop := (onward_stop_of_select selected).le_offset rfl
  cases selected
  rw [startAt] at starts
  rw [stopAt] at stop
  generalize (((Extent.atOffset text caret).start.toPair blankLine).turn .forward).skipWhile
    (· == '\n') = starting at starts ⊢
  have place : (starting.turn .backward).offset = starting.offset := offset_turn _ _
  have outside := starts.le_caret_iff
  cases starts with
  | before ordered free => exact .of_start_le stop (place.trans_le ordered) fun _ => free
  | after passed breaks ended =>
      have two : BreaksAround text caret 2 ↔ _ := breaksAround_iff passed breaks ended
      have following :
          Accepts (· == '\n') text (Extent.atOffset text caret).stop.offset starting.offset := by
        rw [stopAt]
        exact ⟨Nat.le_of_lt passed, fun index before after => breaks.each index before (by omega)⟩
      have before := stopAt.trans_lt passed
      have ends := le_paragraphs_iff stopped rfl following before around given
      have left := lt_paragraphs stopped rfl following before around given
      rw [stopAt] at ends left
      refine ⟨stop, ?_, ?_, .inr left⟩
      · rw [place, outside]
        simp only [true_and]
      · rw [place, two]
        simp only [true_and]
        exact ends

theorem lies_of_select {object : TextObject}
    (selected : object.select marks around count (.atOffset text caret) = .ok found) :
    found.Lies text caret object around count := by
  by_cases same : object = .paragraph
  · subst same
    exact lies_of_select_paragraph inside given selected
  · have start := (onward_start_of_select same selected).offset_le rfl
    have stop := (onward_stop_of_select selected).le_offset rfl
    rw [offset_atOffset_start inside] at start
    rw [offset_atOffset_stop inside] at stop
    exact .of_start_le stop start fun isParagraph => absurd isParagraph same

end Select

end TextObject

/-! ### The selection -/

/-- One selection reaches as far as another, to either side. -/
def Cursor.Covers (outer inner : Cursor) : Prop :=
  outer.low ≤ inner.low ∧ inner.high ≤ outer.high

instance (outer inner : Cursor) : Decidable (outer.Covers inner) :=
  inferInstanceAs (Decidable (_ ∧ _))

namespace Standpoint

variable {point : Standpoint} {object : TextObject} {around : Bool} {extent : TextObject.Extent}
  {memory : Option CharSearch} {found : Cursor}

theorem caret_expand (point : Standpoint) (extent : TextObject.Extent) :
    (point.expand extent).caret = extent.stop.offset := by
  simp only [expand]
  split <;> rfl

section Expand

variable (lies : extent.Lies text point.cursor.caret object around count)
include lies

/-- A selection whose caret is its high end grows by an object unless that ends before it starts. -/
theorem covers_expand_iff_of_le (forward : point.cursor.anchor ≤ point.cursor.caret) :
    (point.expand extent).Covers point.cursor ↔ extent.start.offset ≤ extent.stop.offset := by
  have stop := lies.stop
  have moved := lies.moved
  simp only [Cursor.Covers, Cursor.low, Cursor.high, expand]
  split <;> simp only <;> omega

/-- A selection whose caret is its low end grows by an object only if that starts no later and ends no
sooner than it. -/
theorem covers_expand_iff_of_lt (backward : point.cursor.caret < point.cursor.anchor) :
    (point.expand extent).Covers point.cursor ↔
      point.cursor.anchor ≤ extent.stop.offset ∧ extent.start.offset ≤ point.cursor.caret := by
  have stop := lies.stop
  have moved := lies.moved
  simp only [Cursor.Covers, Cursor.low, Cursor.high, expand]
  split <;> simp only <;> omega

end Expand

/-- An object takes the caret to its end, and this is what becomes of the selection: whether all of it is
still selected is told by the object alone. -/
theorem covers_of_resolve_object (inside : point.cursor.caret ≤ point.text.length)
    (given : 0 < count)
    (resolved : point.resolve memory count (.object around object) = .ok found) :
    ∃ extent, object.select point.marks around count
        (.atOffset point.text point.cursor.caret) = .ok extent ∧
      found.caret = extent.stop.offset ∧
      (point.cursor.anchor ≤ point.cursor.caret →
        (found.Covers point.cursor ↔
          ¬ (object = .paragraph ∧ around = false ∧ count = 1 ∧
            BreaksAround point.text point.cursor.caret 2))) ∧
      (point.cursor.caret < point.cursor.anchor →
        (found.Covers point.cursor ↔
          point.cursor.anchor ≤ extent.stop.offset ∧
            ¬ (object = .paragraph ∧ BreaksAround point.text point.cursor.caret 1))) := by
  simp only [resolve] at resolved
  cases selected : object.select point.marks around count
      (TextObject.Extent.atOffset point.text point.cursor.caret) with
  | error fault =>
      rw [selected] at resolved
      cases resolved
  | ok extent =>
      rw [selected] at resolved
      cases resolved
      have lies := TextObject.lies_of_select inside given selected
      refine ⟨extent, rfl, caret_expand point extent, fun forward => ?_, fun backward => ?_⟩
      · rw [covers_expand_iff_of_le lies forward, lies.ordered]
      · rw [covers_expand_iff_of_lt lies backward, lies.start]

/-! ### Keys -/

section Keys

variable {lineKey : Option Char} {key name : Char} {rest : List Char} {counted : Bool}

theorem object_of_parse {motion : Motion} (kind : key ∈ ['i', 'a'])
    (parsed : Motion.parse lineKey ⟨key :: name :: rest, count, counted⟩ = .ok motion) :
    ∃ around object, TextObject.ofKey name = .ok object ∧ motion = .object around object ∧
      (around = false ↔ key = 'i') := by
  have named (around : Bool)
      (read : (TextObject.ofKey name >>= fun object => .ok (.object around object)) =
        (.ok motion : Except ParseError Motion)) :
      ∃ object, TextObject.ofKey name = .ok object ∧ motion = .object around object := by
    cases known : TextObject.ofKey name with
    | error error =>
        rw [known] at read
        cases read
    | ok object =>
        rw [known] at read
        cases read
        exact ⟨object, rfl, rfl⟩
  simp only [List.mem_cons, List.not_mem_nil, or_false] at kind
  rcases kind with rfl | rfl
  · obtain ⟨object, known, same⟩ := named false parsed
    exact ⟨false, object, known, same, by simp⟩
  · obtain ⟨object, known, same⟩ := named true parsed
    exact ⟨true, object, known, same, by simp⟩

theorem eq_paragraph_iff (known : TextObject.ofKey name = .ok object) :
    object = .paragraph ↔ name = 'p' := by
  constructor
  · rintro rfl
    simp only [TextObject.ofKey] at known
    split at known <;> first | rfl | cases known
  · rintro rfl
    cases known
    rfl

/-- From a caret with nothing selected, the keys of an object lead to a range that contains it, in all
cases but one: an inner paragraph, where line breaks are all that stands around the caret, two of them
after it. -/
theorem between_of_follow_object (inside : caret ≤ point.text.length)
    (alone : point.cursor = .collapsed caret) (kind : key ∈ ['i', 'a']) (given : 0 < count)
    (followed : point.follow memory lineKey ⟨key :: name :: rest, count, counted⟩ = .ok found) :
    found.low ≤ caret ∧ caret ≤ found.high ↔
      ¬ (key = 'i' ∧ name = 'p' ∧ count = 1 ∧ BreaksAround point.text caret 2) := by
  obtain ⟨motion, parsed, resolved⟩ := exists_motion_of_follow followed
  obtain ⟨around, object, known, rfl, inner⟩ := object_of_parse kind parsed
  have caretAt : point.cursor.caret = caret := congrArg Cursor.caret alone
  have anchorAt : point.cursor.anchor = caret := congrArg Cursor.anchor alone
  obtain ⟨_, _, _, forward, _⟩ :=
    covers_of_resolve_object (caretAt.trans_le inside) given resolved
  have covers := forward (anchorAt.trans caretAt.symm).le
  rw [caretAt, alone, eq_paragraph_iff known, inner, and_left_comm] at covers
  simpa only [Cursor.Covers, Cursor.collapsed_low, Cursor.collapsed_high] using covers

/-- Two inner sentences around a caret after a full stop. -/
theorem between_of_follow_sentences :
    let point := ofCaret Unicode.isPunctuation "One. Two. Six.".toList 4
    4 ≤ point.text.length ∧ point.cursor = .collapsed 4 ∧ 'i' ∈ ['i', 'a'] ∧ 0 < 2 ∧
      point.follow none none ⟨['i', 's'], 2, true⟩ = .ok ⟨14, 0⟩ ∧
      (⟨14, 0⟩ : Cursor).low ≤ 4 ∧ 4 ≤ (⟨14, 0⟩ : Cursor).high := by
  intro point
  have inside : 4 ≤ point.text.length := by decide
  have followed : point.follow none none ⟨['i', 's'], 2, true⟩ = .ok ⟨14, 0⟩ := by
    decide +kernel
  have between := (between_of_follow_object inside rfl (by decide) Nat.two_pos followed).mpr
    fun all => absurd all.2.1 (by decide)
  exact ⟨inside, rfl, by decide, Nat.two_pos, followed, between⟩

/-- From before two line breaks, the inner paragraph is the second of them. -/
theorem not_between_of_follow_paragraph :
    let point := ofCaret Unicode.isPunctuation "\n\n".toList 0
    point.cursor = .collapsed 0 ∧ point.follow none none (.ofKeys ['i', 'p']) = .ok ⟨1, 2⟩ ∧
      ¬ ((⟨1, 2⟩ : Cursor).low ≤ 0 ∧ 0 ≤ (⟨1, 2⟩ : Cursor).high) := by
  intro point
  exact ⟨rfl, by decide +kernel, by decide⟩

end Keys

end Standpoint

end ModalVi
