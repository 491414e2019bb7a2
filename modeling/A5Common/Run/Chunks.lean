set_option autoImplicit false

namespace A5Common.Run

variable {α : Type}

/-- A list in so many pieces of a size, as long as there is something left. -/
def chunks (size : Nat) : Nat → List α → List (List α)
  | 0, _ => []
  | count + 1, items => items.take size :: chunks size count (items.drop size)

@[simp] theorem length_chunks (size count : Nat) (items : List α) :
    (chunks size count items).length = count := by
  induction count generalizing items with
  | zero => rfl
  | succ count ih =>
      unfold chunks
      rw [List.length_cons, ih]

theorem flatten_chunks {size count : Nat} {items : List α} (enough : items.length ≤ size * count) :
    (chunks size count items).flatten = items := by
  induction count generalizing items with
  | zero =>
      rw [Nat.mul_zero, Nat.le_zero] at enough
      rw [List.length_eq_zero_iff.mp enough]
      rfl
  | succ count ih =>
      rw [Nat.mul_succ] at enough
      unfold chunks
      rw [List.flatten_cons, ih (by rw [List.length_drop]; omega), List.take_append_drop]

theorem length_le_of_mem_chunks {size count : Nat} {items chunk : List α}
    (member : chunk ∈ chunks size count items) : chunk.length ≤ size := by
  induction count generalizing items with
  | zero => exact nomatch member
  | succ count ih =>
      rcases List.mem_cons.mp member with rfl | later
      · rw [List.length_take]
        exact Nat.min_le_left _ _
      · exact ih later

/-- Every piece that is not the last is full, when there is something left for the last. -/
theorem length_of_mem_dropLast_chunks {size count : Nat} {items chunk : List α}
    (needed : size * count < items.length + size)
    (member : chunk ∈ (chunks size count items).dropLast) : chunk.length = size := by
  induction count generalizing items with
  | zero => exact nomatch member
  | succ count ih =>
      rw [Nat.mul_succ] at needed
      cases count with
      | zero => exact nomatch member
      | succ count =>
          rw [Nat.mul_succ] at needed
          have first : (chunks size (count + 1 + 1) items).dropLast =
              items.take size :: (chunks size (count + 1) (items.drop size)).dropLast := rfl
          rw [first] at member
          rcases List.mem_cons.mp member with rfl | later
          · rw [List.length_take]
            omega
          · apply ih _ later
            rw [List.length_drop, Nat.mul_succ]
            omega

end A5Common.Run
