import A5Common.Number.Decimal
import Mathlib.Algebra.Order.Floor.Ring
import Mathlib.Algebra.Ring.Int.Parity
import Mathlib.Data.Rat.Floor
import Mathlib.Tactic.Linarith
import Mathlib.Tactic.FieldSimp
import Mathlib.Tactic.Ring

set_option autoImplicit false

namespace A5Common.Number

section

variable {K : Type} [Field K] [LinearOrder K]

/-- A whole number next to a number, where halfway is next to the even one. -/
def IsNearest (x : K) (n : ℤ) : Prop :=
  |x - n| < 1 / 2 ∨ |x - n| = 1 / 2 ∧ Even n

theorem IsNearest.error_le {x : K} {n : ℤ} (near : IsNearest x n) : |x - n| ≤ 1 / 2 := by
  rcases near with within | halfway
  · exact le_of_lt within
  · exact le_of_eq halfway.1

theorem IsNearest.add_even {x : K} {n : ℤ} (near : IsNearest x n) {shift : ℤ}
    (even : Even shift) : IsNearest (x + shift) (n + shift) := by
  unfold IsNearest at near ⊢
  have same : x + shift - ((n + shift : ℤ) : K) = x - n := by
    push_cast
    ring
  rw [same]
  rcases near with within | ⟨halfway, even_n⟩
  · exact .inl within
  · exact .inr ⟨halfway, even_n.add even⟩

variable [IsStrictOrderedRing K]

/-- Of two numbers as near, one after the other, only one is even. -/
theorem IsNearest.unique {x : K} {m n : ℤ} (first : IsNearest x m) (second : IsNearest x n) :
    m = n := by
  wlog order : m ≤ n generalizing m n
  · exact (this second first (le_of_not_ge order)).symm
  by_contra different
  have next : m + 1 ≤ n := by omega
  have apart : (m : K) + 1 ≤ n := by exact_mod_cast next
  have above := (abs_le.mp first.error_le).2
  have below := (abs_le.mp second.error_le).1
  have left : x - m = 1 / 2 := by linarith
  have right : x - n = -(1 / 2) := by linarith
  have successor : (m : K) + 1 = n := by linarith
  have even_m : Even m := by
    rcases first with within | halfway
    · rw [left, abs_of_pos (by norm_num)] at within
      exact absurd within (lt_irrefl _)
    · exact halfway.2
  have even_n : Even n := by
    rcases second with within | halfway
    · rw [right, abs_neg, abs_of_pos (by norm_num)] at within
      exact absurd within (lt_irrefl _)
    · exact halfway.2
  have consecutive : m + 1 = n := by exact_mod_cast successor
  rw [← consecutive, Int.even_add_one] at even_n
  exact even_n even_m

variable [FloorRing K]

/-- The nearest whole number, halfway the even one. -/
def nearest (x : K) : ℤ :=
  if Int.fract x < 1 / 2 then ⌊x⌋
  else if 1 / 2 < Int.fract x then ⌊x⌋ + 1
  else ⌊x⌋ + ⌊x⌋ % 2

theorem isNearest_nearest (x : K) : IsNearest x (nearest x) := by
  have split := Int.floor_add_fract x
  have low := Int.fract_nonneg x
  have high := Int.fract_lt_one x
  have offset : x - ⌊x⌋ = Int.fract x := rfl
  unfold nearest
  split_ifs with below above
  · left
    rw [offset, abs_of_nonneg low]
    exact below
  · left
    push_cast
    rw [← sub_sub, offset, abs_lt]
    constructor <;> linarith
  · have half : Int.fract x = 1 / 2 := le_antisymm (not_lt.mp above) (not_lt.mp below)
    right
    rcases Int.even_or_odd ⌊x⌋ with even | odd
    · rw [Int.even_iff.mp even, add_zero, offset, half]
      exact ⟨abs_of_pos (by norm_num), even⟩
    · rw [Int.odd_iff.mp odd]
      push_cast
      rw [← sub_sub, offset, half]
      refine ⟨?_, odd.add_one⟩
      norm_num [abs_of_neg]

theorem nearest_eq_iff {x : K} {n : ℤ} : nearest x = n ↔ IsNearest x n := by
  constructor
  · intro equal
    rw [← equal]
    exact isNearest_nearest x
  · exact (isNearest_nearest x).unique

theorem abs_sub_nearest_le (x : K) : |x - nearest x| ≤ 1 / 2 :=
  (isNearest_nearest x).error_le

theorem nearest_neg (x : K) : nearest (-x) = -nearest x := by
  rw [nearest_eq_iff]
  have near := isNearest_nearest x
  unfold IsNearest at near ⊢
  have opposite : -x - ((-nearest x : ℤ) : K) = -(x - nearest x) := by
    push_cast
    ring
  rw [opposite, abs_neg, even_neg]
  exact near

/-- Below an even number are those that are further from it than a half. -/
theorem nearest_lt_iff {x : K} {n : ℤ} (even : Even n) : nearest x < n ↔ x < n - 1 / 2 := by
  have near := isNearest_nearest x
  have bounds := abs_le.mp near.error_le
  constructor
  · intro less
    have next : nearest x + 1 ≤ n := less
    have apart : (nearest x : K) + 1 ≤ n := by exact_mod_cast next
    by_contra far
    have whole : (nearest x : K) + 1 = n := by linarith [not_lt.mp far]
    have left : x - nearest x = 1 / 2 := by linarith [not_lt.mp far]
    rcases near with within | ⟨-, even_nearest⟩
    · rw [left, abs_of_pos (by norm_num)] at within
      exact lt_irrefl _ within
    · have successor : nearest x + 1 = n := by exact_mod_cast whole
      rw [← successor, Int.even_add_one] at even
      exact even even_nearest
  · intro far
    have less : (nearest x : K) < n := by linarith
    exact_mod_cast less

/-- A number with so many decimal places, as a count of units of the last of them. -/
def units (places : ℕ) (x : K) : ℤ := nearest (x * 10 ^ places)

theorem units_neg (places : ℕ) (x : K) : units places (-x) = -units places x := by
  unfold units
  rw [neg_mul, nearest_neg]

theorem abs_sub_units_le (places : ℕ) (x : K) :
    |x - units places x / 10 ^ places| ≤ 1 / (2 * 10 ^ places) := by
  have scale : (0 : K) < 10 ^ places := by positivity
  have near := abs_sub_nearest_le (x * 10 ^ places)
  have scaled : x - units places x / 10 ^ places =
      (x * 10 ^ places - nearest (x * 10 ^ places)) / 10 ^ places := by
    unfold units
    field_simp
  rw [scaled, abs_div, abs_of_pos scale, div_le_iff₀ scale]
  calc |x * 10 ^ places - nearest (x * 10 ^ places)| ≤ 1 / 2 := near
    _ = 1 / (2 * 10 ^ places) * 10 ^ places := by field_simp

/-- Rounding a quotient of natural numbers is rounding the fraction. -/
theorem nearest_div (number : ℕ) {divisor : ℕ} (positive : 0 < divisor) :
    nearest ((number : K) / divisor) = halfEven number divisor := by
  have scale : (0 : K) < divisor := by exact_mod_cast positive
  have less := Nat.mod_lt number positive
  have split : (number : K) = divisor * (number / divisor : ℕ) + (number % divisor : ℕ) := by
    exact_mod_cast (Nat.div_add_mod number divisor).symm
  rw [nearest_eq_iff, split]
  unfold IsNearest halfEven
  generalize number / divisor = quotient
  generalize number % divisor = rest at less ⊢
  have low : (0 : K) ≤ (rest : K) / divisor := by positivity
  have offset : ((divisor : K) * quotient + rest) / divisor - quotient = rest / divisor := by
    field_simp
    ring
  split_ifs with below above
  · have twice : (2 : K) * rest < divisor := by exact_mod_cast below
    left
    rw [Int.cast_natCast, offset, abs_of_nonneg low, div_lt_iff₀ scale]
    linarith
  · have twice : (divisor : K) < 2 * rest := by exact_mod_cast above
    have whole : (rest : K) < divisor := by exact_mod_cast less
    left
    push_cast
    rw [← sub_sub, offset, abs_lt, lt_sub_iff_add_lt, sub_lt_iff_lt_add, lt_div_iff₀ scale,
      div_lt_iff₀ scale]
    constructor <;> linarith
  · have twice : (2 : K) * rest = divisor := by
      exact_mod_cast (show 2 * rest = divisor by omega)
    have half : (rest : K) / divisor = 1 / 2 := by
      rw [div_eq_div_iff scale.ne' two_ne_zero]
      linarith
    right
    rcases Nat.even_or_odd quotient with even | odd
    · rw [Nat.even_iff.mp even, Nat.add_zero, Int.cast_natCast, offset, half]
      exact ⟨abs_of_pos (by norm_num), by exact_mod_cast even⟩
    · rw [Nat.odd_iff.mp odd]
      push_cast
      rw [← sub_sub, offset, half]
      refine ⟨by norm_num [abs_of_neg], ?_⟩
      exact_mod_cast odd.add_one

end

end A5Common.Number
