import ModalVi.Text.Basic

namespace ModalVi.Text

/-! Replacing a span of a text, and taking that back.

A span splits the text into what is before it, what it holds, and what is after it.  Stated for those
three parts, replacing is plain concatenation, and the laws below need no arithmetic on offsets. -/

variable {text : Text} {start stop : Nat}

/-- The three parts that a span splits a text into. -/
theorem exists_parts (ordered : start ≤ stop) (bounded : stop ≤ text.length) :
    ∃ front held back, text = front ++ held ++ back ∧ start = front.length ∧
      stop = front.length + held.length := by
  refine ⟨text.take start, text.slice start stop, text.drop stop, ?_, ?_, ?_⟩
  · exact (splice_slice text ordered).symm
  · rw [List.length_take]
    omega
  · rw [length_slice ordered bounded, List.length_take]
    omega

theorem splice_parts (front held back new : Text) :
    (front ++ held ++ back).splice front.length (front.length + held.length) new =
      front ++ new ++ back := by
  have whole : front.length + held.length = (front ++ held).length := by simp
  rw [splice, whole, List.drop_left, List.append_assoc front held back, List.take_left]

theorem slice_parts (front held back : Text) :
    (front ++ held ++ back).slice front.length (front.length + held.length) = held := by
  simp [slice]

theorem slice_append {middle : Nat} (first : start ≤ middle) (second : middle ≤ stop)
    (text : Text) :
    text.slice start middle ++ text.slice middle stop = text.slice start stop := by
  rw [slice, slice, slice, show stop - start = middle - start + (stop - middle) by omega,
    List.take_add, List.drop_drop, Nat.add_sub_cancel' first]

theorem slice_eq_cons {offset : Nat} (inside : offset < text.length) (before : offset < stop) :
    text.slice offset stop = text[offset] :: text.slice (offset + 1) stop := by
  rw [slice, slice, List.drop_eq_getElem_cons inside,
    show stop - offset = stop - (offset + 1) + 1 by omega, List.take_succ_cons]

/-- Writing the old text over the new restores the text. -/
theorem splice_splice_slice (new : Text) (ordered : start ≤ stop) (bounded : stop ≤ text.length) :
    (text.splice start stop new).splice start (start + new.length) (text.slice start stop) =
      text := by
  obtain ⟨front, held, back, rfl, rfl, rfl⟩ := exists_parts ordered bounded
  rw [splice_parts, splice_parts, slice_parts]

/-- Inserting right after a replacement makes that replacement longer. -/
theorem splice_insert_after (first second : Text) (ordered : start ≤ stop)
    (bounded : stop ≤ text.length) :
    (text.splice start stop first).splice (start + first.length) (start + first.length) second =
      text.splice start stop (first ++ second) := by
  obtain ⟨front, held, back, rfl, rfl, rfl⟩ := exists_parts ordered bounded
  have inserted := splice_parts (front ++ first) [] back second
  rw [splice_parts, splice_parts]
  simpa using inserted

theorem start_add_length_le_splice (new : Text) (ordered : start ≤ stop)
    (bounded : stop ≤ text.length) :
    start + new.length ≤ (text.splice start stop new).length := by
  rw [length_splice new ordered bounded]
  omega

theorem take_splice (inside : start ≤ text.length) (stop : Nat) (new : Text) :
    (text.splice start stop new).take start = text.take start := by
  have front : (text.take start).length = start := List.length_take_of_le inside
  rw [splice, List.append_assoc, List.take_left' front]

/-- What comes `offset` characters after the start of the span. -/
theorem drop_splice {offset : Nat} {new : Text} (inside : start ≤ text.length)
    (within : offset ≤ new.length) (stop : Nat) :
    (text.splice start stop new).drop (start + offset) = new.drop offset ++ text.drop stop := by
  have front : (text.take start).length = start := List.length_take_of_le inside
  rw [splice, List.append_assoc, ← List.drop_drop, List.drop_left' front,
    List.drop_append_of_le_length within]

@[simp] theorem slice_self (text : Text) (offset : Nat) : text.slice offset offset = [] := by
  simp [slice]

end ModalVi.Text
