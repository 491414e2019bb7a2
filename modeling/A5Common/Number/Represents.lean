import A5Common.Number.Nearest
import Mathlib.Tactic.Positivity

set_option autoImplicit false

namespace A5Common.Number

/-- A count of units of the last decimal place, as it is printed. -/
def unitsText (places count : ℕ) : List Char :=
  Nat.toDigits 10 (count / 10 ^ places) ++ '.' :: zeroPadded places (count % 10 ^ places)

/-- A number as `%.<places>f` prints it. -/
def printed (places : ℕ) (x : ℚ) : List Char :=
  sign (x < 0) ++ unitsText places (units places |x|).toNat

theorem printed_of_nonneg (places : ℕ) {x : ℚ} (natural : 0 ≤ x) :
    printed places x = unitsText places (units places x).toNat := by
  unfold printed
  rw [decide_eq_false (not_lt.mpr natural), abs_of_nonneg natural]
  rfl

/-- A count of units with zeros in front up to a width. -/
def zeroUnitsText (width places count : ℕ) : List Char :=
  List.replicate (width - (unitsText places count).length) '0' ++ unitsText places count

/-- The value is the number, and a zero has no sign. -/
def Value.Represents (value : Value) (x : ℚ) : Prop :=
  ∃ significand exponent, value = .finite (x < 0) significand exponent ∧
    |x| = significand * 2 ^ exponent

/-- Two to a power as a fraction of whole numbers. -/
theorem fraction_eq (significand : ℕ) (exponent : ℤ) :
    (significand : ℚ) * 2 ^ exponent =
      (numerator significand exponent : ℚ) / denominator exponent := by
  unfold numerator denominator
  push_cast
  rcases Int.le_total 0 exponent with whole | fraction
  · obtain ⟨n, rfl⟩ := Int.eq_ofNat_of_zero_le whole
    rw [Int.toNat_of_nonpos (by omega : -(n : ℤ) ≤ 0)]
    simp
  · obtain ⟨n, negated⟩ := Int.eq_ofNat_of_zero_le (Int.neg_nonneg_of_nonpos fraction)
    have power : exponent = -(n : ℤ) := by omega
    rw [power, Int.toNat_of_nonpos (by omega : -(n : ℤ) ≤ 0)]
    simp [div_eq_mul_inv]

theorem magnitude_eq (places significand : ℕ) (exponent : ℤ) :
    magnitude places significand exponent =
      unitsText places (units places ((significand : ℚ) * 2 ^ exponent)).toNat := by
  have whole : (significand : ℚ) * 2 ^ exponent * 10 ^ places =
      ((numerator significand exponent * 10 ^ places : ℕ) : ℚ) / denominator exponent := by
    rw [fraction_eq]
    push_cast
    ring
  unfold units
  rw [whole, nearest_div _ (denominator_pos exponent), Int.toNat_natCast]
  rfl

theorem Value.Represents.fixed_eq {value : Value} {x : ℚ} (represents : value.Represents x)
    (places : ℕ) : fixed places value = printed places x := by
  obtain ⟨significand, exponent, rfl, size⟩ := represents
  unfold printed
  show sign (x < 0) ++ magnitude places significand exponent = _
  rw [magnitude_eq, ← size]

theorem Value.Represents.zeroFixed_eq {value : Value} {x : ℚ} (represents : value.Represents x)
    (natural : 0 ≤ x) (width places : ℕ) :
    zeroFixed width places value = zeroUnitsText width places (units places x).toNat := by
  obtain ⟨significand, exponent, rfl, size⟩ := represents
  have positive : decide (x < 0) = false := decide_eq_false (not_lt.mpr natural)
  rw [abs_of_nonneg natural] at size
  unfold zeroUnitsText
  rw [positive]
  show List.replicate (width - (magnitude places significand exponent).length) '0' ++
    magnitude places significand exponent = _
  rw [magnitude_eq, ← size]

/-- A number is negative as its value is. -/
theorem Value.Represents.isNegative_iff {format : Format} {number : Binary format} {x : ℚ}
    (represents : number.value.Represents x) : number.isNegative = true ↔ x < 0 := by
  obtain ⟨significand, exponent, value, size⟩ := represents
  unfold Binary.isNegative
  rw [value]
  constructor
  · intro both
    rw [Bool.and_eq_true, decide_eq_true_eq] at both
    exact both.1
  · intro negative
    have some_bits : significand ≠ 0 := by
      rintro rfl
      rw [Nat.cast_zero, zero_mul, abs_eq_zero] at size
      exact negative.ne size
    simp [negative, some_bits]

theorem Value.Represents.isPositive_iff {format : Format} {number : Binary format} {x : ℚ}
    (represents : number.value.Represents x) : number.isPositive = true ↔ 0 < x := by
  obtain ⟨significand, exponent, value, size⟩ := represents
  unfold Binary.isPositive
  rw [value]
  constructor
  · intro both
    rw [Bool.and_eq_true, Bool.not_eq_true', decide_eq_false_iff_not, not_lt, bne_iff_ne] at both
    apply lt_of_le_of_ne both.1
    rintro rfl
    rw [abs_zero, eq_comm, mul_eq_zero, Nat.cast_eq_zero] at size
    exact size.elim both.2 (zpow_ne_zero exponent two_ne_zero)
  · intro positive
    have some_bits : significand ≠ 0 := by
      rintro rfl
      rw [Nat.cast_zero, zero_mul, abs_eq_zero] at size
      exact positive.ne' size
    simp [positive.le, some_bits]

/-- The opposite of a number other than zero, whose opposite would have a sign. -/
theorem Value.Represents.negate {format : Format} {number : Binary format} {x : ℚ}
    (represents : number.value.Represents x) (different : x ≠ 0) :
    number.negate.value.Represents (-x) := by
  obtain ⟨significand, exponent, value, size⟩ := represents
  refine ⟨significand, exponent, ?_, (abs_neg x).trans size⟩
  have flipped : decide (-x < 0) = !decide (x < 0) := by
    rcases lt_or_gt_of_ne different with negative | positive
    · simp [negative, negative.le]
    · simp [positive, positive.le]
  obtain ⟨_, fits⟩ := number
  subst value
  rw [flipped]
  rfl

theorem Value.Represents.abs_positive {format : Format} {number : Binary format} {x : ℚ}
    (represents : number.value.Represents x) (different : x ≠ 0) :
    (if number.isPositive then number else number.negate).value.Represents |x| := by
  split
  · rename_i positive
    rw [abs_of_pos (represents.isPositive_iff.mp positive)]
    exact represents
  · rename_i other
    rw [represents.isPositive_iff, not_lt] at other
    rw [abs_of_nonpos other]
    exact represents.negate different

theorem Value.Represents.abs_negative {format : Format} {number : Binary format} {x : ℚ}
    (represents : number.value.Represents x) :
    (if number.isNegative then number.negate else number).value.Represents |x| := by
  split
  · rename_i negative
    have below := represents.isNegative_iff.mp negative
    rw [abs_of_neg below]
    exact represents.negate below.ne
  · rename_i other
    rw [represents.isNegative_iff, not_lt] at other
    rw [abs_of_nonneg other]
    exact represents

theorem Value.Represents.floor_eq {value : Value} {x : ℚ} (represents : value.Represents x)
    (natural : 0 ≤ x) : value.floor = some ⌊x⌋ := by
  obtain ⟨significand, exponent, rfl, size⟩ := represents
  have positive : decide (x < 0) = false := decide_eq_false (not_lt.mpr natural)
  rw [abs_of_nonneg natural] at size
  unfold Value.floor
  rw [positive, size, fraction_eq, Rat.floor_natCast_div_natCast]
  simp [Int.fdiv_eq_ediv]

/-- The remainder of a division that goes towards zero. -/
def remainder (x y : ℚ) : ℚ :=
  x - y * if 0 ≤ x / y then (⌊x / y⌋ : ℚ) else (⌈x / y⌉ : ℚ)

theorem remainder_of_nonneg {x y : ℚ} (natural : 0 ≤ x) (positive : 0 < y) :
    remainder x y = y * Int.fract (x / y) := by
  unfold remainder
  rw [if_pos (by positivity), Int.fract, mul_sub, mul_div_cancel₀ _ positive.ne']

/-- `fmod` is exact. -/
theorem represents_fmod {divisor : ℕ} (positive : 0 < divisor)
    (small : divisor ≤ 2 ^ binary64.precision) {number : Double} {x : ℚ}
    (represents : number.value.Represents x) (natural : 0 ≤ x) :
    (fmod divisor positive small number).value.Represents (remainder x divisor) := by
  obtain ⟨significand, exponent, value, size⟩ := represents
  obtain ⟨_, fits⟩ := number
  subst value
  obtain ⟨bounded, least, most⟩ := fits
  have rest : remainder x divisor = ((numerator significand exponent %
      (divisor * denominator exponent) : ℕ) : ℚ) / denominator exponent := by
    have scale : (0 : ℚ) < denominator exponent := by exact_mod_cast denominator_pos exponent
    have part : (0 : ℚ) < divisor := by exact_mod_cast positive
    rw [remainder_of_nonneg natural part, ← abs_of_nonneg natural, size, fraction_eq, div_div,
      mul_comm (denominator exponent : ℚ), ← Nat.cast_mul,
      Int.fract_div_natCast_eq_div_natCast_mod]
    push_cast
    field_simp
  have shown : 0 ≤ remainder x divisor := by
    rw [rest]
    positivity
  have whole : (min exponent 0).toNat = 0 := by omega
  have fraction : (-min exponent 0).toNat = (-exponent).toNat := by omega
  refine ⟨numerator significand exponent % (divisor * denominator exponent), min exponent 0,
    ?_, ?_⟩
  · rw [decide_eq_false (not_lt.mpr shown)]
    show Value.finite (decide (x < 0)) _ _ = _
    rw [decide_eq_false (not_lt.mpr natural)]
  · rw [abs_of_nonneg shown, rest, fraction_eq]
    unfold numerator denominator
    rw [whole, fraction, pow_zero, mul_one]

end A5Common.Number
