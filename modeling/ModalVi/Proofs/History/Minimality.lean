import ModalVi.Proofs.History.Difference

namespace ModalVi.Change

/-! No smaller edit does what the change between two texts does.

An edit leaves a beginning and an end of the text alone.  The beginning that it leaves is never longer
than what the two texts have in common there.  The end can be longer than what the change leaves, where
that end goes on into what the beginnings have in common.  But then the change leaves everything of
the shorter text, and no edit leaves more. -/

variable {front held fresh back first second whole old new : Text} {change : Change}

theorem length_le_commonLength (left : front <+: first) (right : front <+: second) :
    front.length ≤ commonLength first second := by
  obtain ⟨_, rfl⟩ := left
  obtain ⟨_, rfl⟩ := right
  rw [commonLength_append]
  exact Nat.le_add_right _ _

theorem length_le_commonLength_reverse (left : back <:+ first) (right : back <:+ second) :
    back.length ≤ commonLength first.reverse second.reverse := by
  have shared := length_le_commonLength (List.reverse_prefix.mpr left) (List.reverse_prefix.mpr right)
  rwa [List.length_reverse] at shared

/-- An end of a text is an end of what follows an offset if it is no longer than that. -/
theorem suffix_drop {offset : Nat} (ends : back <:+ whole)
    (short : back.length ≤ whole.length - offset) :
    back <:+ whole.drop offset := by
  refine List.suffix_of_suffix_length_le ends (List.drop_suffix offset whole) ?_
  rwa [List.length_drop]

/-- How many characters in front of the change between two texts, and after it, it leaves alone. -/
def unchanged (old new : Text) : Nat :=
  let start := commonLength old new
  start + commonLength (old.drop start).reverse (new.drop start).reverse

/-- What any edit leaves alone is no more than what the change leaves. -/
theorem length_add_length_le_unchanged (front held fresh back : Text) :
    front.length + back.length ≤ unchanged (front ++ held ++ back) (front ++ fresh ++ back) := by
  generalize oldEq : front ++ held ++ back = old
  generalize newEq : front ++ fresh ++ back = new
  have oldLength : front.length + held.length + back.length = old.length := by
    rw [← oldEq, List.length_append, List.length_append]
  have newLength : front.length + fresh.length + back.length = new.length := by
    rw [← newEq, List.length_append, List.length_append]
  have begins : front.length ≤ commonLength old new :=
    length_le_commonLength ⟨held ++ back, by rw [← oldEq, List.append_assoc]⟩
      ⟨fresh ++ back, by rw [← newEq, List.append_assoc]⟩
  -- As much of the common end as still follows the common beginning in both texts.
  obtain ⟨count, countEq⟩ : ∃ count, count =
      min back.length (min (old.length - commonLength old new) (new.length - commonLength old new)) :=
    ⟨_, rfl⟩
  obtain ⟨shared, ends, length⟩ : ∃ shared, shared <:+ back ∧ shared.length = count := by
    refine ⟨back.drop (back.length - count), List.drop_suffix _ back, ?_⟩
    rw [List.length_drop]
    omega
  have inOld : shared <:+ old.drop (commonLength old new) :=
    suffix_drop (ends.trans ⟨front ++ held, oldEq⟩) (by omega)
  have inNew : shared <:+ new.drop (commonLength old new) :=
    suffix_drop (ends.trans ⟨front ++ fresh, newEq⟩) (by omega)
  have kept := length_le_commonLength_reverse inOld inNew
  simp only [unchanged]
  omega

theorem length_of_between? (found : between? old new = some change) :
    change.old.length + unchanged old new = old.length ∧
      change.new.length + unchanged old new = new.length := by
  simp only [between?] at found
  split at found
  · cases found
  · cases found
    have inOld := commonLength_le_left old new
    have inNew := commonLength_le_right old new
    have keptOld := commonLength_le_left (old.drop (commonLength old new)).reverse
      (new.drop (commonLength old new)).reverse
    have keptNew := commonLength_le_right (old.drop (commonLength old new)).reverse
      (new.drop (commonLength old new)).reverse
    simp only [List.length_reverse, List.length_drop] at keptOld keptNew
    simp only [unchanged, List.length_take, List.length_drop]
    omega

/-- The change between two texts is there exactly if they differ.  It leads from the one to the other and
back, and every other edit that turns the one into the other takes away as much and puts in as much. -/
theorem between?_minimal (old new : Text) :
    (between? old new = none ↔ old = new) ∧
      ∀ change, between? old new = some change →
        change.start ≤ change.stop ∧ change.stop ≤ old.length ∧
        old.slice change.start change.stop = change.old ∧
        old.splice change.start change.stop change.new = new ∧
        new.slice change.start (change.start + change.new.length) = change.new ∧
        new.splice change.start (change.start + change.new.length) change.old = old ∧
        ∀ start stop other, start ≤ stop → stop ≤ old.length →
          old.splice start stop other = new →
            change.old.length ≤ stop - start ∧ change.new.length ≤ other.length := by
  refine ⟨⟨eq_of_between?_eq_none, ?_⟩, fun change found => ?_⟩
  · rintro rfl
    exact between?_self old
  · have taken := takes_of_between? found
    refine ⟨taken.ordered, taken.bounded, taken.held, taken.replaced, taken.slice_new,
      taken.splice_old, fun start stop other ordered bounded made => ?_⟩
    obtain ⟨inOld, inNew⟩ := length_of_between? found
    obtain ⟨front, held, back, rfl, rfl, rfl⟩ := Text.exists_parts ordered bounded
    rw [Text.splice_parts] at made
    subst made
    have most := length_add_length_le_unchanged front held other back
    simp only [List.length_append] at inOld inNew
    omega

/-- Where a character is typed among others like it, the change puts in that one character only. -/
theorem between?_minimal_of_repeated :
    between? ['a', 'a', 'b'] ['a', 'a', 'a', 'b'] = some ⟨2, 2, [], ['a'], none, none⟩ ∧
      ∀ start stop other, start ≤ stop → stop ≤ 3 →
        Text.splice ['a', 'a', 'b'] start stop other = ['a', 'a', 'a', 'b'] → 1 ≤ other.length := by
  have found : between? ['a', 'a', 'b'] ['a', 'a', 'a', 'b'] =
      some ⟨2, 2, [], ['a'], none, none⟩ := by decide
  obtain ⟨_, _, _, _, _, _, least⟩ := (between?_minimal _ _).2 _ found
  exact ⟨found, fun start stop other ordered bounded made =>
    (least start stop other ordered bounded made).2⟩

end ModalVi.Change
