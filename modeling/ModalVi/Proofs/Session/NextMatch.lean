import Mathlib.Data.List.Rotate
import ModalVi.Proofs.Search.Literal
import ModalVi.Proofs.Session.Inside
import ModalVi.Proofs.Session.Seeking

namespace ModalVi

/-! Going from match to match of a literal text.

Every key that seeks the pattern once more goes to the nearest place where it stands.  So the key
that seeks it forward goes around all of them, and as many of its presses as a count says lead where
a single one with that count does. -/

namespace Text

variable {text word : Text} {caret index : Nat} {place? : Option Nat}

/-- The nearest place after a place is the next one, and the first one after the last. -/
theorem Nearest.next (given : word ≠ []) (here : (text.places word)[index]? = some caret)
    (nearest : text.Nearest word caret .forward place?) :
    place? = (text.places word)[(index + 1) % (text.places word).length]? := by
  have member (start : Nat) : start ∈ text.places word ↔ text.StandsAt word start := mem_places given
  have ascending := List.pairwise_iff_getElem.mp (sorted_places text word)
  generalize text.places word = places at here member ascending ⊢
  obtain ⟨within, rfl⟩ := List.getElem?_eq_some_iff.mp here
  have stands (other : Nat) (inside : other < places.length) : text.StandsAt word places[other] :=
    (member _).mp (List.getElem_mem inside)
  cases nearest with
  | after least =>
      obtain ⟨⟨after, found⟩, least⟩ := least
      obtain ⟨other, inside, rfl⟩ := List.getElem_of_mem ((member _).mpr found)
      have later : index < other := by
        by_contra notLater
        rcases Nat.lt_or_eq_of_le (Nat.le_of_not_lt notLater) with before | rfl
        · exact absurd (ascending other index inside within before) (by omega)
        · exact absurd after (Nat.lt_irrefl _)
      have next : other = index + 1 := by
        by_contra further
        have between : index + 1 < other := by omega
        have candidate := least ⟨ascending index (index + 1) within (by omega) (by omega),
          stands (index + 1) (by omega)⟩
        exact absurd (ascending (index + 1) other (by omega) inside between) (by omega)
      subst next
      rw [Nat.mod_eq_of_lt inside, List.getElem?_eq_getElem inside]
  | first nothing least =>
      obtain ⟨found, least⟩ := least
      obtain ⟨other, inside, rfl⟩ := List.getElem_of_mem ((member _).mpr found)
      have last : index + 1 = places.length := by
        by_contra notLast
        exact nothing _ (ascending index (index + 1) within (by omega) (by omega))
          (stands (index + 1) (by omega))
      have first : other = 0 := by
        by_contra notFirst
        have candidate := least (stands 0 (by omega))
        exact absurd (ascending 0 other (by omega) inside (by omega)) (by omega)
      subst first
      rw [last, Nat.mod_self, List.getElem?_eq_getElem inside]
  | nowhere nothing => exact absurd (stands index within) (nothing _)

end Text

namespace Finder

open Text

variable {find : Finder} {text word : Text} {direction : Direction} {caret place index : Nat}

theorem nearest_next (given : word ≠ []) (finds : find.FindsWord word)
    (direction : Direction) (text : Text) (caret : Nat) :
    text.Nearest word caret direction (find.next direction text caret) := by
  obtain ⟨place?, found, nearest⟩ := nearest_toward given finds direction text caret
  have same : find.next direction text caret = place? := by
    rw [next, found, Option.map_map]
    exact Option.map_id'
  exact same ▸ nearest

/-- From a place on, forward searches go around all places. -/
theorem nth_forward (given : word ≠ []) (finds : find.FindsWord word)
    (here : (text.places word)[index]? = some caret) (count : Nat) :
    find.nth .forward text count caret =
      (text.places word)[(index + count) % (text.places word).length]? := by
  induction count generalizing caret index with
  | zero =>
      have within := (List.getElem?_eq_some_iff.mp here).1
      rw [nth, Nat.add_zero, Nat.mod_eq_of_lt within, here]
  | succ count ih =>
      have within := (List.getElem?_eq_some_iff.mp here).1
      have next := (nearest_next given finds .forward text caret).next given here
      have inside : (index + 1) % (text.places word).length < (text.places word).length :=
        Nat.mod_lt _ (Nat.zero_lt_of_lt within)
      rw [List.getElem?_eq_getElem inside] at next
      rw [nth, next, Option.bind_some, ih (List.getElem?_eq_getElem inside), Nat.mod_add_mod,
        Nat.add_right_comm, Nat.add_assoc]

/-- A search that fails once always does. -/
theorem next_eq_none (given : word ≠ []) (finds : find.FindsWord word)
    {count : Nat} (missed : find.nth direction text count caret = none) (other : Nat) :
    find.next direction text other = none := by
  induction count generalizing caret with
  | zero => cases missed
  | succ count ih =>
      cases next : find.next direction text caret with
      | some place =>
          rw [nth, next] at missed
          exact ih missed
      | none =>
          have nowhere := nearest_next given finds direction text caret
          rw [next] at nowhere
          cases nowhere with
          | nowhere nothing =>
              rw [Option.eq_none_iff_forall_not_mem]
              intro place found
              have nearest := nearest_next given finds direction text other
              rw [Option.mem_def.mp found] at nearest
              exact nothing place nearest.standsAt

end Finder

namespace Session

open Finder Text

variable {library : Library} {session : Session library} {find : Finder} {word : Text}
  {digits : List Char} {count index : Nat}
  {reversed : Bool}

/-- Where the caret is after the keys, or why they failed. -/
def caretAfter (keys : List Key) (session : Session library) : Except EditError Nat :=
  match session.press keys with
  | (.ok (), after) => .ok after.cursor.caret
  | (.error error, _) => .error error

theorem next_le_length (given : word ≠ []) (finds : find.FindsWord word)
    (direction : Direction) (text : Text) (caret place : Nat)
    (found : find.next direction text caret = some place) : place ≤ text.length := by
  have nearest := nearest_next given finds direction text caret
  rw [found] at nearest
  have bound := nearest.standsAt.bound given
  omega

theorem caretAfter_presses (given : word ≠ [])
    (finds : find.FindsWord word) (seeks : session.search.Seeks library find)
    (mode : session.mode = .command) (fresh : session.keys = [])
    (forward : session.search.toward reversed = .forward)
    (here : (session.text.places word)[index]? = some session.cursor.caret) :
    (List.range (session.text.places word).length).map (fun turn =>
        session.caretAfter (List.replicate (turn + 1) (.char (nextKey reversed)))) =
      ((session.text.places word).drop (index + 1) ++
        (session.text.places word).take (index + 1)).map .ok := by
  have within := (List.getElem?_eq_some_iff.mp here).1
  have inside := next_le_length given finds (session.search.toward reversed) session.text
  rw [← List.rotate_eq_drop_append_take within]
  refine List.ext_getElem (by simp) fun turn before after => ?_
  rw [List.length_map, List.length_range] at before
  have around : (index + (turn + 1)) % (session.text.places word).length <
      (session.text.places word).length := Nat.mod_lt _ (Nat.zero_lt_of_lt within)
  have found := nth_forward given finds here (turn + 1)
  rw [← forward, List.getElem?_eq_getElem around] at found
  obtain ⟨after, pressed, landed⟩ := landed_presses seeks mode fresh reversed inside found
  have place : (turn + (index + 1)) % (session.text.places word).length =
      (index + (turn + 1)) % (session.text.places word).length := by
    rw [Nat.add_left_comm]
  simp only [List.getElem_map, List.getElem_range, List.getElem_rotate, caretAfter, pressed,
    landed.cursor, place]
  rfl

/-- A count does what as many presses do. -/
theorem press_counted (given : word ≠ [])
    (finds : find.FindsWord word) (seeks : session.search.Seeks library find)
    (mode : session.mode = .command) (fresh : session.keys = [])
    (counting : Counting digits count) (reversed : Bool) :
    let once := session.press ((digits ++ [nextKey reversed]).map .char)
    let each := session.press (List.replicate count (.char (nextKey reversed)))
    once.1 = each.1 ∧ once.2.cursor = each.2.cursor ∧ once.2.surface = each.2.surface := by
  obtain ⟨count, rfl⟩ := Nat.exists_eq_succ_of_ne_zero (Nat.ne_of_gt counting.positive)
  have inside := next_le_length given finds (session.search.toward reversed) session.text
  cases found : find.nth (session.search.toward reversed) session.text (count + 1)
      session.cursor.caret with
  | some place =>
      obtain ⟨middle, next⟩ := next_of_nth found
      obtain ⟨after, pressed, landed⟩ :=
        landed_next seeks mode fresh counting reversed found (inside middle place next)
      obtain ⟨other, pressedEach, landedEach⟩ :=
        landed_presses seeks mode fresh reversed inside found
      simp only [pressed, pressedEach, landed.cursor, landed.surface, landedEach.cursor,
        landedEach.surface, and_self]
  | none =>
      have pressed := press_next seeks mode fresh counting reversed
      have single := press_next seeks mode fresh .once reversed
      have missed : find.nth (session.search.toward reversed) session.text 1
          session.cursor.caret = none := by
        rw [nth, next_eq_none given finds found]
        rfl
      rw [found] at pressed
      rw [missed] at single
      have pressedEach :=
        press_append_of_error single (List.replicate count (.char (nextKey reversed)))
      intro once each
      have same : once = each := pressed.trans pressedEach.symm
      exact ⟨congrArg Prod.fst same, congrArg _ (congrArg Prod.snd same),
        congrArg _ (congrArg Prod.snd same)⟩

/-- After any calls, a search for a literal text leads to the nearest place where it stands, places
that overlap included, or nowhere if it stands nowhere.  In any session that looks for such a text,
the key that seeks it forward goes from a place to all the others in order, around the end of the
text, and back at last.  With a count it does what as many presses do. -/
theorem visits_places (given : word ≠ []) (literal : library.FindsLiteral word) :
    (∀ calls direction,
      let search := (Search.after library calls).set (.literal word) direction
      ∀ text caret reversed, ∃ place?,
        (search.find library text caret reversed).1 =
            .ok (place?.map fun start => (start, start + word.length)) ∧
          text.Nearest word caret (search.toward reversed) place?) ∧
      ∀ surface clipboard prompt options session,
        Reaches (fun _ _ => True) (Session.start library surface clipboard prompt options) session →
        session.mode = .command → session.keys = [] →
        session.search.pattern = .literal word →
        ∀ reversed,
          let places := session.text.places word
          let key := Key.char (nextKey reversed)
          (∀ index, session.search.toward reversed = .forward →
            places[index]? = some session.cursor.caret →
              (List.range places.length).map (fun turn =>
                  session.caretAfter (List.replicate (turn + 1) key)) =
                (places.drop (index + 1) ++ places.take (index + 1)).map .ok) ∧
            ∀ digits count, Counting digits count →
              let once := session.press (digits.map .char ++ [key])
              let each := session.press (List.replicate count key)
              once.1 = each.1 ∧ once.2.cursor = each.2.cursor ∧
                once.2.surface = each.2.surface := by
  obtain ⟨find, compiled, finds⟩ := literal
  refine ⟨?_, ?_⟩
  · intro calls direction search text caret reversed
    have genuine : search.Genuine library := (Search.tracks_after library calls).genuine
    have seeks : search.Seeks library find := ⟨genuine, _, rfl, compiled⟩
    rw [seeks.find_eq]
    obtain ⟨place?, found, nearest⟩ :=
      nearest_toward given finds (search.toward reversed) text caret
    exact ⟨place?, congrArg _ found, nearest⟩
  · intro surface clipboard prompt options session reached mode fresh pattern reversed
    have seeks : session.search.Seeks library find :=
      ⟨genuine_of_reaches reached, _, by rw [pattern]; rfl, compiled⟩
    refine ⟨fun index forward here => ?_, fun digits count counting => ?_⟩
    · exact caretAfter_presses given finds seeks mode fresh forward here
    · have counted := press_counted given finds seeks mode fresh counting reversed
      rwa [List.map_append] at counted

/-- Two `a` stand twice in three, and overlap. -/
theorem visits_places_of_overlapping :
    let search := (Search.after .standard [.set (.expression "(".toList) .forward,
      .find "(".toList 0 false]).set (.literal "aa".toList) .backward
    let first := Session.start .standard (.ofText "aaa".toList) (.ofText [])
      (.scripted [some "aa".toList] []) {}
    let session := (first.handle .enter).handle (.key (.char '/'))
    "aa".toList ≠ [] ∧ Library.standard.FindsLiteral "aa".toList ∧
      (∃ place?, (search.find .standard "aaa".toList 2 false).1 =
        .ok (place?.map fun start => (start, start + 2)) ∧
      Text.Nearest "aaa".toList "aa".toList 2 .backward place?) ∧
      session.cursor.caret = 1 ∧
      [session.caretAfter [.char 'n'], session.caretAfter [.char 'n', .char 'n']] = [.ok 0, .ok 1] ∧
      (session.press [.char '3', .char 'n']).2.cursor =
        (session.press [.char 'n', .char 'n', .char 'n']).2.cursor := by
  intro search first session
  have given : "aa".toList ≠ [] := by decide
  have literal := Library.findsLiteral_standard "aa".toList
  obtain ⟨nearest, visits⟩ := visits_places given literal
  have begun : Reaches (fun _ _ => True) first (first.handle .enter) := .step .refl trivial
  have reached : Reaches (fun _ _ => True) first session := .step begun trivial
  have mode : session.mode = .command := by decide +kernel
  have fresh : session.keys = [] := by decide +kernel
  have pattern : session.search.pattern = .literal "aa".toList := by decide +kernel
  have direction : session.search.toward false = .forward := by decide +kernel
  have caret : session.cursor.caret = 1 := by decide +kernel
  have text : session.text = "aaa".toList := by decide +kernel
  obtain ⟨around, counted⟩ := visits _ _ _ _ _ reached mode fresh pattern false
  have numeral : Counting ['3'] 3 := @Counting.toDigits 3 (by decide) (by decide)
  clear_value session
  have here : ((session.text).places "aa".toList)[1]? = some session.cursor.caret := by
    rw [text, caret]
    decide
  have carets := around 1 direction here
  rw [text] at carets
  exact ⟨given, literal, nearest _ .backward _ 2 false, caret, carets, (counted _ _ numeral).2.1⟩

end Session

end ModalVi
