import Mathlib.Data.List.Basic

/-! A circular buffer with two indices. Elements are stored at `head` and taken from `tail`;
equal indices mean that it is empty, so one cell always stays free. -/

structure CircularBuffer (α : Type*) where
  buffer : List α
  head : Nat
  tail : Nat
  deriving DecidableEq, Repr

namespace CircularBuffer

variable {α : Type*} (r : CircularBuffer α)

def size : Nat := r.buffer.length

/-- The index behind `i`. -/
def next (i : Nat) : Nat := if r.size ≤ i + 1 then 0 else i + 1

def push (x : α) : CircularBuffer α :=
  { r with buffer := r.buffer.set r.head x, head := r.next r.head }

/-- The first half of `push`. -/
def store (x : α) : CircularBuffer α := { r with buffer := r.buffer.set r.head x }

def drop : CircularBuffer α := { r with tail := r.next r.tail }

/-- All elements are dropped. -/
def flush : CircularBuffer α := { r with tail := r.head }

/-- All elements are dropped, and both indices start again. -/
def reset : CircularBuffer α := { r with head := 0, tail := 0 }

structure Valid : Prop where
  head_lt : r.head < r.size
  tail_lt : r.tail < r.size

/-- The elements from `tail` on to `head`. -/
def contents : List α :=
  if r.tail ≤ r.head then (r.buffer.take r.head).drop r.tail
  else r.buffer.drop r.tail ++ r.buffer.take r.head

def Full : Prop := r.next r.head = r.tail

instance : Decidable r.Full := inferInstanceAs (Decidable (_ = _))

@[simp] theorem push_size (x : α) : (r.push x).size = r.size := List.length_set

@[simp] theorem store_size (x : α) : (r.store x).size = r.size := List.length_set

@[simp] theorem drop_size : r.drop.size = r.size := rfl

@[simp] theorem push_tail (x : α) : (r.push x).tail = r.tail := rfl

@[simp] theorem drop_head : r.drop.head = r.head := rfl

variable {r}

theorem next_lt (h : r.Valid) (i : Nat) : r.next i < r.size := by
  have := h.head_lt
  unfold next
  split_ifs <;> omega

theorem Valid.push (h : r.Valid) (x : α) : (r.push x).Valid :=
  ⟨by rw [push_size]; exact next_lt h _, by rw [push_size]; exact h.tail_lt⟩

theorem Valid.store (h : r.Valid) (x : α) : (r.store x).Valid :=
  ⟨by rw [store_size]; exact h.head_lt, by rw [store_size]; exact h.tail_lt⟩

theorem Valid.drop (h : r.Valid) : r.drop.Valid := ⟨h.head_lt, next_lt h _⟩

theorem length_contents (h : r.Valid) :
    r.contents.length = if r.tail ≤ r.head then r.head - r.tail else r.size - r.tail + r.head := by
  have := h.head_lt
  unfold size at this ⊢
  unfold contents
  split_ifs
  · rw [List.length_drop, List.length_take]
    omega
  · rw [List.length_append, List.length_drop, List.length_take]
    omega

theorem contents_eq_nil_iff (h : r.Valid) : r.contents = [] ↔ r.head = r.tail := by
  have := h.head_lt
  have := h.tail_lt
  rw [← List.length_eq_zero_iff, length_contents h]
  split_ifs <;> omega

theorem full_iff (h : r.Valid) : r.Full ↔ r.contents.length + 1 = r.size := by
  have := h.head_lt
  have := h.tail_lt
  rw [Full, length_contents h, next]
  split_ifs <;> omega

theorem length_contents_lt (h : r.Valid) : r.contents.length < r.size := by
  have := h.head_lt
  have := h.tail_lt
  rw [length_contents h]
  split_ifs <;> omega

theorem Valid.flush (h : r.Valid) : r.flush.Valid := ⟨h.head_lt, h.head_lt⟩

theorem contents_flush (h : r.Valid) : r.flush.contents = [] :=
  (contents_eq_nil_iff h.flush).mpr rfl

theorem Valid.reset (h : r.Valid) : r.reset.Valid :=
  have hpos := Nat.lt_of_le_of_lt (Nat.zero_le _) h.head_lt
  ⟨hpos, hpos⟩

theorem contents_reset (h : r.Valid) : r.reset.contents = [] :=
  (contents_eq_nil_iff h.reset).mpr rfl

theorem flush_of_empty (h : r.head = r.tail) : r.flush = r := by
  obtain ⟨buffer, head, tail⟩ := r
  obtain rfl : head = tail := h
  rfl

/-- An element that is stored in a free cell is behind all others. -/
theorem contents_push (h : r.Valid) (hfree : ¬ r.Full) (x : α) :
    (r.push x).contents = r.contents ++ [x] := by
  have hhead := h.head_lt
  have htail := h.tail_lt
  have htake : (r.buffer.set r.head x).take (r.head + 1) = r.buffer.take r.head ++ [x] := by
    rw [List.take_add_one, List.take_set_of_le (Nat.le_refl _), List.getElem?_set_self hhead]
    rfl
  unfold Full at hfree
  unfold contents push
  dsimp only
  by_cases hwrap : r.size ≤ r.head + 1
  · rw [next, if_pos hwrap] at hfree ⊢
    have hall : r.buffer.set r.head x = r.buffer.take r.head ++ [x] := by
      rw [← htake, List.take_of_length_le (by rw [List.length_set]; exact hwrap)]
    rw [if_neg (by omega), if_pos (by omega), hall, List.take_zero, List.append_nil,
      List.drop_append_of_le_length (by rw [List.length_take]; unfold size at *; omega)]
  · rw [next, if_neg hwrap] at hfree ⊢
    by_cases hle : r.tail ≤ r.head
    · rw [if_pos (by omega), if_pos hle, htake,
        List.drop_append_of_le_length (by rw [List.length_take]; unfold size at *; omega)]
    · rw [if_neg (by omega), if_neg hle, htake, List.drop_set_of_lt (by omega), List.append_assoc]

/-- The cell at `head` is none of those that are in use. -/
theorem contents_store (x : α) : (r.store x).contents = r.contents := by
  unfold contents store
  dsimp only
  split_ifs with hle
  · rw [List.take_set_of_le (Nat.le_refl _)]
  · rw [List.take_set_of_le (Nat.le_refl _), List.drop_set_of_lt (by omega)]

theorem push_of_stored {x : α} (h : r.buffer[r.head]? = some x) :
    r.push x = { r with head := r.next r.head } := by
  obtain ⟨hlt, rfl⟩ := List.getElem?_eq_some_iff.mp h
  rw [push, List.set_getElem_self]

/-- The element at `tail` is the first one. -/
theorem contents_drop (h : r.Valid) (hne : r.head ≠ r.tail) :
    ∃ x, r.buffer[r.tail]? = some x ∧ r.contents = x :: r.drop.contents := by
  have hhead := h.head_lt
  have htail := h.tail_lt
  obtain ⟨x, hx⟩ : ∃ x, r.buffer[r.tail]? = some x := ⟨_, List.getElem?_eq_getElem htail⟩
  refine ⟨x, hx, ?_⟩
  have hdrop : ∀ l : List α, l[r.tail]? = some x → l.drop r.tail = x :: l.drop (r.tail + 1) := by
    intro l hl
    obtain ⟨hlt, rfl⟩ := List.getElem?_eq_some_iff.mp hl
    exact List.drop_eq_getElem_cons hlt
  unfold contents drop
  dsimp only
  by_cases hle : r.tail ≤ r.head
  · have hnext : r.next r.tail = r.tail + 1 := if_neg (by omega)
    rw [if_pos hle, hdrop _ (by rw [List.getElem?_take_of_lt (by omega)]; exact hx), hnext,
      if_pos (by omega)]
  · rw [if_neg hle, hdrop _ hx]
    by_cases hwrap : r.size ≤ r.tail + 1
    · rw [next, if_pos hwrap, if_pos (Nat.zero_le _), List.drop_eq_nil_of_le hwrap]
      rfl
    · rw [next, if_neg hwrap, if_neg (by omega), List.cons_append]

end CircularBuffer
