import A5Common.Number.Binary

set_option autoImplicit false

namespace A5Common.Number

def sign (negative : Bool) : List Char := if negative then ['-'] else []

/-- The decimal digits of a number, with zeros in front up to a width. -/
def zeroPadded (width n : Nat) : List Char :=
  List.replicate (width - (Nat.toDigits 10 n).length) '0' ++ Nat.toDigits 10 n

/-- `%0<width>d`: the sign counts for the width. -/
def decimal (width : Nat) (n : Int) : List Char :=
  sign (n < 0) ++ zeroPadded (width - (sign (n < 0)).length) n.natAbs

/-- `%<precision>.<precision>d`: the sign does not. -/
def precise (precision : Nat) (n : Int) : List Char :=
  sign (n < 0) ++ zeroPadded precision n.natAbs

/-- `significand * 2 ^ exponent` with so many decimal places. -/
def magnitude (places significand : Nat) (exponent : Int) : List Char :=
  let units := halfEven (numerator significand exponent * 10 ^ places) (denominator exponent)
  Nat.toDigits 10 (units / 10 ^ places) ++ '.' :: zeroPadded places (units % 10 ^ places)

/-- `%.<places>f`. -/
def fixed (places : Nat) : Value → List Char
  | .nan negative => sign negative ++ ['n', 'a', 'n']
  | .infinite negative => sign negative ++ ['i', 'n', 'f']
  | .finite negative significand exponent => sign negative ++ magnitude places significand exponent

/-- `%0<width>.<places>f`: what is no number is padded by blanks. -/
def zeroFixed (width places : Nat) : Value → List Char
  | .finite negative significand exponent =>
      sign negative ++
        List.replicate (width - (sign negative).length -
          (magnitude places significand exponent).length) '0' ++
        magnitude places significand exponent
  | other => List.replicate (width - (fixed places other).length) ' ' ++ fixed places other

/-- The characters of a printed number. -/
def Numeral (c : Char) : Prop :=
  c.isDigit ∨ c ∈ ['-', '.', ' ', 'n', 'a', 'i', 'f']

theorem length_sign_le (negative : Bool) : (sign negative).length ≤ 1 := by
  cases negative <;> decide

theorem length_toDigits_le {n digits : Nat} (some_digits : 0 < digits) (small : n < 10 ^ digits) :
    (Nat.toDigits 10 n).length ≤ digits :=
  (Nat.length_toDigits_le_iff (by decide) some_digits).mpr small

theorem length_zeroPadded (width n : Nat) :
    (zeroPadded width n).length = max width (Nat.toDigits 10 n).length := by
  unfold zeroPadded
  rw [List.length_append, List.length_replicate]
  omega

theorem length_zeroPadded_le (width : Nat) {n digits : Nat} (some_digits : 0 < digits)
    (small : n < 10 ^ digits) : (zeroPadded width n).length ≤ max width digits := by
  have length := length_toDigits_le some_digits small
  rw [length_zeroPadded]
  omega

theorem length_decimal_le (width : Nat) {digits : Nat} {n : Int} (some_digits : 0 < digits)
    (small : n.natAbs < 10 ^ digits) : (decimal width n).length ≤ max width (digits + 1) := by
  have signed := length_sign_le (n < 0)
  have length := length_zeroPadded_le (width - (sign (n < 0)).length) some_digits small
  unfold decimal
  rw [List.length_append]
  omega

theorem length_decimal_natural_le (width : Nat) {digits n : Nat} (some_digits : 0 < digits)
    (small : n < 10 ^ digits) : (decimal width n).length ≤ max width digits := by
  have natural : decide ((n : Int) < 0) = false := decide_eq_false (Int.not_lt.mpr (by omega))
  unfold decimal
  rw [natural, Int.natAbs_natCast]
  exact length_zeroPadded_le width some_digits small

theorem length_precise_le (precision : Nat) {digits : Nat} {n : Int} (some_digits : 0 < digits)
    (small : n.natAbs < 10 ^ digits) : (precise precision n).length ≤ max precision digits + 1 := by
  have signed := length_sign_le (n < 0)
  have length := length_zeroPadded_le precision some_digits small
  unfold precise
  rw [List.length_append]
  omega

theorem length_magnitude_le {places significand bound digits : Nat} {exponent : Int}
    (some_places : 0 < places) (some_digits : 0 < digits)
    (within : numerator significand exponent ≤ bound * denominator exponent)
    (small : bound < 10 ^ digits) :
    (magnitude places significand exponent).length ≤ digits + 1 + places := by
  have units : halfEven (numerator significand exponent * 10 ^ places) (denominator exponent) ≤
      bound * 10 ^ places := by
    apply halfEven_le (denominator_pos exponent)
    rw [Nat.mul_right_comm]
    exact Nat.mul_le_mul_right _ within
  rw [Nat.mul_comm bound] at units
  have whole := length_toDigits_le some_digits
    (Nat.lt_of_le_of_lt (Nat.div_le_of_le_mul units) small)
  have fraction := length_zeroPadded_le places some_places
    (Nat.mod_lt (halfEven (numerator significand exponent * 10 ^ places) (denominator exponent))
      (Nat.pow_pos (n := places) (show 0 < 10 by decide)))
  unfold magnitude
  dsimp only
  rw [List.length_append, List.length_cons]
  omega

theorem length_fixed_le {places : Nat} (bound digits : Nat) {value : Value} (some_places : 0 < places)
    (some_digits : 1 < digits)
    (within : ∀ negative significand exponent, value = .finite negative significand exponent →
      numerator significand exponent ≤ bound * denominator exponent)
    (small : bound < 10 ^ digits) : (fixed places value).length ≤ digits + 2 + places := by
  cases value with
  | nan negative =>
      have signed := length_sign_le negative
      unfold fixed
      rw [List.length_append]
      simp only [List.length_cons, List.length_nil]
      omega
  | infinite negative =>
      have signed := length_sign_le negative
      unfold fixed
      rw [List.length_append]
      simp only [List.length_cons, List.length_nil]
      omega
  | finite negative significand exponent =>
      have signed := length_sign_le negative
      have length := length_magnitude_le some_places (Nat.lt_of_succ_lt some_digits)
        (within _ _ _ rfl) small
      unfold fixed
      rw [List.length_append]
      omega

theorem length_zeroFixed_le {width places : Nat} (bound digits : Nat) {value : Value}
    (some_places : 0 < places) (some_digits : 1 < digits)
    (within : ∀ negative significand exponent, value = .finite negative significand exponent →
      numerator significand exponent ≤ bound * denominator exponent)
    (small : bound < 10 ^ digits) :
    (zeroFixed width places value).length ≤ max width (digits + 2 + places) := by
  have length := length_fixed_le bound digits some_places some_digits within small
  cases value with
  | nan negative =>
      unfold zeroFixed
      rw [List.length_append, List.length_replicate]
      omega
  | infinite negative =>
      unfold zeroFixed
      rw [List.length_append, List.length_replicate]
      omega
  | finite negative significand exponent =>
      unfold fixed at length
      unfold zeroFixed
      rw [List.length_append] at length
      rw [List.length_append, List.length_append, List.length_replicate]
      omega

theorem numeral_sign (negative : Bool) : ∀ c ∈ sign negative, Numeral c := by
  cases negative with
  | false => exact fun _ member => nomatch member
  | true => exact fun c member => .inr (List.mem_singleton.mp member ▸ List.mem_cons_self)

theorem numeral_toDigits (n : Nat) : ∀ c ∈ Nat.toDigits 10 n, Numeral c :=
  fun _ member => .inl (Nat.isDigit_of_mem_toDigits (by decide) (by decide) member)

theorem numeral_zeros (count : Nat) : ∀ c ∈ List.replicate count '0', Numeral c :=
  fun _ member => .inl (List.eq_of_mem_replicate member ▸ by decide)

theorem numeral_zeroPadded (width n : Nat) : ∀ c ∈ zeroPadded width n, Numeral c :=
  List.forall_mem_append.mpr ⟨numeral_zeros _, numeral_toDigits n⟩

theorem numeral_decimal (width : Nat) (n : Int) : ∀ c ∈ decimal width n, Numeral c :=
  List.forall_mem_append.mpr ⟨numeral_sign _, numeral_zeroPadded _ _⟩

theorem numeral_precise (precision : Nat) (n : Int) : ∀ c ∈ precise precision n, Numeral c :=
  List.forall_mem_append.mpr ⟨numeral_sign _, numeral_zeroPadded _ _⟩

theorem numeral_magnitude (places significand : Nat) (exponent : Int) :
    ∀ c ∈ magnitude places significand exponent, Numeral c :=
  List.forall_mem_append.mpr ⟨numeral_toDigits _,
    List.forall_mem_cons.mpr ⟨.inr (by decide), numeral_zeroPadded _ _⟩⟩

theorem numeral_fixed (places : Nat) (value : Value) : ∀ c ∈ fixed places value, Numeral c := by
  have letters : (['n', 'a', 'n'] ++ ['i', 'n', 'f']).all
      (· ∈ ['-', '.', ' ', 'n', 'a', 'i', 'f']) = true := by
    decide
  obtain ⟨nan, inf⟩ := List.forall_mem_append.mp
    fun c member => of_decide_eq_true (List.all_eq_true.mp letters c member)
  cases value with
  | nan negative =>
      exact List.forall_mem_append.mpr ⟨numeral_sign _, fun c member => .inr (nan c member)⟩
  | infinite negative =>
      exact List.forall_mem_append.mpr ⟨numeral_sign _, fun c member => .inr (inf c member)⟩
  | finite negative significand exponent =>
      exact List.forall_mem_append.mpr ⟨numeral_sign _, numeral_magnitude _ _ _⟩

theorem numeral_zeroFixed (width places : Nat) (value : Value) :
    ∀ c ∈ zeroFixed width places value, Numeral c := by
  have blank : ∀ count, ∀ c ∈ List.replicate count ' ', Numeral c := by
    intro count c member
    rw [List.eq_of_mem_replicate member]
    exact .inr (by decide)
  cases value with
  | nan negative => exact List.forall_mem_append.mpr ⟨blank _, numeral_fixed _ _⟩
  | infinite negative => exact List.forall_mem_append.mpr ⟨blank _, numeral_fixed _ _⟩
  | finite negative significand exponent =>
      exact List.forall_mem_append.mpr
        ⟨List.forall_mem_append.mpr ⟨numeral_sign _, numeral_zeros _⟩, numeral_magnitude _ _ _⟩

/-- The widest `float`, with one decimal place, has 39 digits in front of it. -/
theorem length_fixed_promote_le (x : Single) : (fixed 1 x.promote.value).length ≤ 42 := by
  apply length_fixed_le (2 ^ 128) 39 (by decide) (by decide) _
    (by decide)
  intro negative significand exponent is_finite
  obtain ⟨bounded, -, most⟩ :
      (Value.finite negative significand exponent).Fits binary32 := is_finite ▸ x.fits
  exact numerator_le 24 104 bounded most

theorem length_zeroFixed_fmod_le (divisor : Nat) (positive : 0 < divisor)
    (small : divisor ≤ 2 ^ binary64.precision) (two_digits : divisor < 10 ^ 2) (x : Double) :
    (zeroFixed 9 6 (fmod divisor positive small x).value).length ≤ 10 := by
  apply length_zeroFixed_le divisor 2 (by decide) (by decide) _ two_digits
  intro negative significand exponent is_finite
  obtain ⟨value, fits⟩ := x
  cases value with
  | nan _ => cases is_finite
  | infinite _ => cases is_finite
  | finite _ dividend power =>
      obtain ⟨bounded, least, most⟩ := fits
      have parts := Value.finite.inj is_finite
      rw [← parts.2.1, ← parts.2.2]
      exact remainder_le positive dividend power

end A5Common.Number
