import Mathlib.Data.List.Count
import Mathlib.Data.Nat.Bitwise

set_option autoImplicit false

namespace A5Common.Run

/-- How many of the lowest bits of a number are set. -/
def setBits (width value : Nat) : Nat :=
  (List.range width).countP (fun i => value.testBit i)

theorem setBits_le (width value : Nat) : setBits width value ≤ width := by
  have most : (List.range width).countP (fun i => value.testBit i) ≤ _ := List.countP_le_length
  rw [List.length_range] at most
  exact most

@[simp] theorem setBits_zero (width : Nat) : setBits width 0 = 0 := by
  apply List.countP_eq_zero.mpr
  intro i _
  rw [Nat.zero_testBit]
  exact Bool.false_ne_true

theorem setBits_succ (width value : Nat) :
    setBits (width + 1) value = value % 2 + setBits width (value / 2) := by
  have lowest : (if value.testBit 0 = true then 1 else 0) = value % 2 := by
    simp only [Nat.testBit_zero, decide_eq_true_eq]
    split <;> omega
  unfold setBits
  rw [List.range_succ_eq_map, List.countP_cons, List.countP_map, lowest, Nat.add_comm]
  congr 1
  apply List.countP_congr
  intro i _
  rw [Function.comp_apply, Nat.testBit_succ]

/-- Without its lowest bit, a number has one bit less. -/
theorem setBits_and_pred {width value : Nat} (some : value ≠ 0) (fits : value < 2 ^ width) :
    setBits width (value &&& (value - 1)) + 1 = setBits width value := by
  induction width generalizing value with
  | zero =>
      rw [Nat.pow_zero] at fits
      omega
  | succ width ih =>
      have parity := Nat.mod_two_eq_zero_or_one value
      have last : (value &&& (value - 1)) % 2 = 0 := by
        have both := @Nat.and_mod_two_eq_one value (value - 1)
        omega
      rw [setBits_succ, setBits_succ, Nat.and_div_two, last]
      rcases parity with even | odd
      · have pred : (value - 1) / 2 = value / 2 - 1 := by omega
        rw [Nat.pow_succ] at fits
        have rest := ih (show value / 2 ≠ 0 by omega) (by omega)
        rw [pred, even, Nat.zero_add, Nat.zero_add]
        exact rest
      · have pred : (value - 1) / 2 = value / 2 := by omega
        rw [pred, odd, Nat.and_self]
        omega

theorem and_pred_lt {value : Nat} (some : value ≠ 0) : value &&& (value - 1) < value :=
  Nat.lt_of_le_of_lt Nat.and_le_right (Nat.pred_lt some)

end A5Common.Run
