import Mathlib.Algebra.Group.Nat.Defs

set_option autoImplicit false

namespace A5Common.Run

/-- The bytes of a number, from the lowest on, in a width. -/
def leBytes : Nat → Nat → List UInt8
  | 0, _ => []
  | width + 1, value => UInt8.ofNat value :: leBytes width (value / 256)

def leValue : List UInt8 → Nat
  | [] => 0
  | byte :: rest => byte.toNat + 256 * leValue rest

/-- Bytes that are written to a buffer at an offset. -/
def overwrite (offset : Nat) (bytes buffer : List UInt8) : List UInt8 :=
  buffer.take offset ++ bytes ++ buffer.drop (offset + bytes.length)

/-- A number as a signed integer of 32 bits. -/
def int32 (value : Nat) : Int :=
  (BitVec.ofNat 32 value).toInt

@[simp] theorem length_leBytes (width value : Nat) : (leBytes width value).length = width := by
  induction width generalizing value with
  | zero => rfl
  | succ width ih =>
      unfold leBytes
      rw [List.length_cons, ih]

theorem leValue_leBytes {width value : Nat} (fits : value < 256 ^ width) :
    leValue (leBytes width value) = value := by
  induction width generalizing value with
  | zero =>
      rw [Nat.pow_zero] at fits
      unfold leBytes leValue
      omega
  | succ width ih =>
      have rest : value / 256 < 256 ^ width := by
        rw [Nat.div_lt_iff_lt_mul (by decide)]
        exact fits
      unfold leBytes leValue
      rw [ih rest, UInt8.toNat_ofNat']
      omega

theorem overwrite_zero (bytes buffer : List UInt8) :
    overwrite 0 bytes buffer = bytes ++ buffer.drop bytes.length := by
  unfold overwrite
  rw [List.take_zero, List.nil_append, Nat.zero_add]

theorem int32_of_lt {value : Nat} (small : value < 2147483648) : int32 value = value := by
  have same : (BitVec.ofNat 32 value).toNat = value := by
    rw [BitVec.toNat_ofNat, Nat.mod_eq_of_lt (Nat.lt_trans small (by decide))]
  unfold int32
  rw [BitVec.toInt_eq_toNat_of_lt (by rw [same]; omega), same]

theorem int32_le (value : Nat) : int32 value ≤ value := by
  have low : (BitVec.ofNat 32 value).toNat ≤ value := by
    rw [BitVec.toNat_ofNat]
    exact Nat.mod_le _ _
  unfold int32
  rw [BitVec.toInt_eq_toNat_cond]
  split <;> omega

end A5Common.Run
