import Mathlib.Algebra.Group.Nat.Defs

set_option autoImplicit false

namespace A5Common.Number

/-- A binary format: the bits of a significand, and the exponents its last bit may have. -/
structure Format where
  precision : Nat
  minExponent : Int
  maxExponent : Int

def binary32 : Format := ⟨24, -149, 104⟩
def binary64 : Format := ⟨53, -1074, 971⟩

/-- What a floating point number stands for: `finite` is `significand * 2 ^ exponent`. -/
inductive Value where
  | nan (negative : Bool)
  | infinite (negative : Bool)
  | finite (negative : Bool) (significand : Nat) (exponent : Int)
  deriving DecidableEq, Repr

def Value.Fits (format : Format) : Value → Prop
  | .finite _ significand exponent =>
      significand < 2 ^ format.precision ∧
        format.minExponent ≤ exponent ∧ exponent ≤ format.maxExponent
  | _ => True

instance (format : Format) (value : Value) : Decidable (value.Fits format) :=
  match value with
  | .nan _ | .infinite _ => inferInstanceAs (Decidable True)
  | .finite _ _ _ => inferInstanceAs (Decidable (_ ∧ _ ∧ _))

structure Binary (format : Format) where
  value : Value
  fits : value.Fits format

abbrev Single := Binary binary32
abbrev Double := Binary binary64

/-- A quotient rounded to the nearest number, halfway to the even one. -/
def halfEven (number divisor : Nat) : Nat :=
  if 2 * (number % divisor) < divisor then number / divisor
  else if divisor < 2 * (number % divisor) then number / divisor + 1
  else number / divisor + number / divisor % 2

/-- The significand at another exponent, rounded where bits are lost. -/
def rescale (significand : Nat) (exponent target : Int) : Nat :=
  if target ≤ exponent then significand * 2 ^ (exponent - target).toNat
  else halfEven significand (2 ^ (target - exponent).toNat)

theorem halfEven_le {number divisor bound : Nat} (positive : 0 < divisor)
    (within : number ≤ bound * divisor) : halfEven number divisor ≤ bound := by
  have quotient : number / divisor ≤ bound := Nat.div_le_of_le_mul (Nat.mul_comm _ _ ▸ within)
  have split := Nat.div_add_mod number divisor
  have room : number / divisor < bound ∨ 2 * (number % divisor) < divisor := by
    rcases Nat.lt_or_eq_of_le quotient with less | equal
    · exact .inl less
    · right
      rw [equal, Nat.mul_comm] at split
      omega
  have even := Nat.mod_lt (number / divisor) (show 2 > 0 by decide)
  unfold halfEven
  split
  · exact quotient
  · split <;> omega

/-- The exponent that keeps all the bits a format has for a nonzero significand. -/
def Format.target (format : Format) (significand : Nat) (exponent : Int) : Int :=
  max format.minExponent (exponent + (significand.log2 + 1 : Nat) - format.precision)

theorem rescale_target_le (format : Format) (significand : Nat) (exponent : Int) :
    rescale significand exponent (format.target significand exponent) ≤ 2 ^ format.precision := by
  have bits := Nat.le_of_lt (Nat.lt_log2_self (n := significand))
  have target : exponent + (significand.log2 + 1 : Nat) - format.precision ≤
      format.target significand exponent := Int.le_max_right _ _
  unfold rescale
  split
  · rename_i kept
    calc significand * 2 ^ (exponent - format.target significand exponent).toNat
        ≤ 2 ^ (significand.log2 + 1) *
            2 ^ (exponent - format.target significand exponent).toNat :=
          Nat.mul_le_mul_right _ bits
      _ = 2 ^ (significand.log2 + 1 +
            (exponent - format.target significand exponent).toNat) := (Nat.pow_add ..).symm
      _ ≤ 2 ^ format.precision := Nat.pow_le_pow_right (by decide) (by omega)
  · rename_i lost
    apply halfEven_le (Nat.two_pow_pos _)
    rw [← Nat.pow_add]
    exact Nat.le_trans bits (Nat.pow_le_pow_right (by decide) (by omega))

namespace Binary

variable {format : Format}

/-- A significand of the format at an exponent, infinite where that is too large. -/
def ofParts (negative : Bool) (significand : Nat) (bounded : significand < 2 ^ format.precision)
    (exponent : Int) (least : format.minExponent ≤ exponent) : Binary format :=
  if most : exponent ≤ format.maxExponent then
    ⟨.finite negative significand exponent, bounded, least, most⟩
  else ⟨.infinite negative, trivial⟩

/-- The number of the format nearest to `significand * 2 ^ exponent`. -/
def round (negative : Bool) (significand : Nat) (exponent : Int) : Binary format :=
  if significand = 0 then
    ofParts negative 0 (Nat.two_pow_pos _) format.minExponent (Int.le_refl _)
  else
    if bounded : rescale significand exponent (format.target significand exponent) <
        2 ^ format.precision then
      ofParts negative (rescale significand exponent (format.target significand exponent)) bounded
        (format.target significand exponent) (Int.le_max_left _ _)
    else
      ofParts negative (rescale significand exponent (format.target significand exponent) / 2)
        (Nat.lt_of_lt_of_le
          (Nat.div_lt_self (Nat.lt_of_lt_of_le (Nat.two_pow_pos _) (Nat.not_lt.mp bounded))
            (by decide))
          (rescale_target_le format significand exponent))
        (format.target significand exponent + 1)
        (Int.le_trans (Int.le_max_left _ _) (Int.le_add_one (Int.le_refl _)))

/-- The product by minus one: a number that is none keeps its sign. -/
def negate : Binary format → Binary format
  | ⟨.nan negative, _⟩ => ⟨.nan negative, trivial⟩
  | ⟨.infinite negative, _⟩ => ⟨.infinite (!negative), trivial⟩
  | ⟨.finite negative significand exponent, fits⟩ =>
      ⟨.finite (!negative) significand exponent, fits⟩

def mul (x y : Binary format) : Binary format :=
  match x.value, y.value with
  | .nan negative, _ | _, .nan negative => ⟨.nan negative, trivial⟩
  | .infinite negative, .infinite other => ⟨.infinite (negative ^^ other), trivial⟩
  | .infinite negative, .finite other significand _
  | .finite negative significand _, .infinite other =>
      if significand = 0 then ⟨.nan false, trivial⟩ else ⟨.infinite (negative ^^ other), trivial⟩
  | .finite negative significand exponent, .finite other factor power =>
      round (negative ^^ other) (significand * factor) (exponent + power)

/-- A significand with its sign, moved down to an exponent. -/
def aligned (negative : Bool) (significand : Nat) (exponent least : Int) : Int :=
  (if negative then -1 else 1) * (significand * 2 ^ (exponent - least).toNat : Nat)

def add (x y : Binary format) : Binary format :=
  match x.value, y.value with
  | .nan negative, _ | _, .nan negative => ⟨.nan negative, trivial⟩
  | .infinite negative, .infinite other =>
      if negative = other then ⟨.infinite negative, trivial⟩ else ⟨.nan false, trivial⟩
  | .infinite negative, .finite _ _ _ | .finite _ _ _, .infinite negative =>
      ⟨.infinite negative, trivial⟩
  | .finite negative significand exponent, .finite other addend power =>
      let least := min exponent power
      let sum := aligned negative significand exponent least + aligned other addend power least
      round (if sum = 0 then negative && other else decide (sum < 0)) sum.natAbs least

def sub (x y : Binary format) : Binary format := x.add y.negate

def isPositive (x : Binary format) : Bool :=
  match x.value with
  | .infinite negative => !negative
  | .finite negative significand _ => !negative && significand != 0
  | .nan _ => false

def isNegative (x : Binary format) : Bool :=
  match x.value with
  | .infinite negative => negative
  | .finite negative significand _ => negative && significand != 0
  | .nan _ => false

end Binary

theorem Value.Fits.promote {value : Value} (fits : value.Fits binary32) : value.Fits binary64 :=
  match value, fits with
  | .nan _, _ | .infinite _, _ => trivial
  | .finite _ _ _, ⟨bounded, least, most⟩ =>
      ⟨Nat.lt_of_lt_of_le bounded (by decide), Int.le_trans (by decide) least,
        Int.le_trans most (by decide)⟩

/-- A `float` as a `double`: every one is exact there. -/
def Binary.promote (x : Single) : Double := ⟨x.value, x.fits.promote⟩

/-- A `double` as a `float`. -/
def Binary.narrow (x : Double) : Single :=
  match x.value with
  | .nan negative => ⟨.nan negative, trivial⟩
  | .infinite negative => ⟨.infinite negative, trivial⟩
  | .finite negative significand exponent => .round negative significand exponent

/-- `significand * 2 ^ exponent` as a fraction of whole numbers. -/
def numerator (significand : Nat) (exponent : Int) : Nat := significand * 2 ^ exponent.toNat
def denominator (exponent : Int) : Nat := 2 ^ (-exponent).toNat

theorem denominator_pos (exponent : Int) : 0 < denominator exponent := Nat.two_pow_pos _

/-- The whole number towards zero, and the one below. -/
def Value.truncate : Value → Option Int
  | .finite negative significand exponent =>
      some (((if negative then -1 else 1) * (numerator significand exponent : Int)).tdiv
        (denominator exponent))
  | _ => none

def Value.floor : Value → Option Int
  | .finite negative significand exponent =>
      some (((if negative then -1 else 1) * (numerator significand exponent : Int)).fdiv
        (denominator exponent))
  | _ => none

theorem numerator_le (bits top : Nat) {significand : Nat} {exponent : Int}
    (bounded : significand < 2 ^ bits) (most : exponent ≤ top) :
    numerator significand exponent ≤ 2 ^ (bits + top) * denominator exponent := by
  have power : (2 : Nat) ^ exponent.toNat ≤ 2 ^ top :=
    Nat.pow_le_pow_right (by decide) (by omega)
  unfold numerator
  calc significand * 2 ^ exponent.toNat
      ≤ 2 ^ bits * 2 ^ top := Nat.mul_le_mul (Nat.le_of_lt bounded) power
    _ = 2 ^ (bits + top) := (Nat.pow_add ..).symm
    _ ≤ 2 ^ (bits + top) * denominator exponent :=
        Nat.le_mul_of_pos_right _ (denominator_pos exponent)

theorem remainder_fits {significand divisor : Nat} {exponent : Int}
    (bounded : significand < 2 ^ binary64.precision) (least : binary64.minExponent ≤ exponent)
    (positive : 0 < divisor) (small : divisor ≤ 2 ^ binary64.precision) (negative : Bool) :
    (Value.finite negative (numerator significand exponent % (divisor * denominator exponent))
      (min exponent 0)).Fits binary64 := by
  refine ⟨?_, ?_, ?_⟩
  · have remainder := Nat.mod_lt (numerator significand exponent)
      (Nat.mul_pos positive (denominator_pos exponent))
    rcases Int.lt_or_le exponent 0 with below | above
    · have whole : numerator significand exponent = significand := by
        unfold numerator
        rw [Int.toNat_of_nonpos (Int.le_of_lt below), Nat.pow_zero, Nat.mul_one]
      rw [whole]
      exact Nat.lt_of_le_of_lt (Nat.mod_le _ _) bounded
    · have whole : denominator exponent = 1 := by
        unfold denominator
        rw [Int.toNat_of_nonpos (by omega), Nat.pow_zero]
      rw [whole, Nat.mul_one] at remainder ⊢
      exact Nat.lt_of_lt_of_le remainder small
  · have room : binary64.minExponent ≤ 0 := by decide
    omega
  · have room : (0 : Int) ≤ binary64.maxExponent := by decide
    omega

theorem remainder_le {divisor : Nat} (positive : 0 < divisor) (significand : Nat) (exponent : Int) :
    numerator (numerator significand exponent % (divisor * denominator exponent))
      (min exponent 0) ≤ divisor * denominator (min exponent 0) := by
  have whole : (min exponent 0).toNat = 0 := by omega
  have fraction : denominator (min exponent 0) = denominator exponent := by
    have same : (-min exponent 0).toNat = (-exponent).toNat := by omega
    rw [denominator, denominator, same]
  have remainder := Nat.mod_lt (numerator significand exponent)
    (Nat.mul_pos positive (denominator_pos exponent))
  rw [numerator, whole, Nat.pow_zero, Nat.mul_one, fraction]
  exact Nat.le_of_lt remainder

/-- The remainder by a whole number, with the sign of the dividend. -/
def fmod (divisor : Nat) (positive : 0 < divisor) (small : divisor ≤ 2 ^ binary64.precision) :
    Double → Double
  | ⟨.nan negative, _⟩ => ⟨.nan negative, trivial⟩
  | ⟨.infinite _, _⟩ => ⟨.nan false, trivial⟩
  | ⟨.finite negative _ _, bounded, least, _⟩ =>
      ⟨_, remainder_fits bounded least positive small negative⟩

end A5Common.Number
