import A5Common.Nmea.Report

set_option autoImplicit false

namespace A5Common.Nmea

open A5Common.Number

/-- A text of a width at most, without a character that has a meaning in the framing. -/
structure Printed (width : Nat) (text : List Char) : Prop where
  short : text.length ≤ width
  plain : ∀ c ∈ text, Plain c

theorem plain_of_numeral {c : Char} (numeral : Numeral c) : Plain c := by
  intro special
  unfold Numeral at numeral
  simp only [List.mem_cons, List.not_mem_nil, or_false] at special
  rcases special with rfl | rfl | rfl | rfl <;> exact absurd numeral (by decide)

namespace Printed

variable {width more : Nat} {text rest : List Char}

theorem append (printed : Printed width text) (next : Printed more rest) :
    Printed (width + more) (text ++ rest) where
  short := by
    have first := printed.short
    have second := next.short
    rw [List.length_append]
    omega
  plain := List.forall_mem_append.mpr ⟨printed.plain, next.plain⟩

theorem cons {c : Char} (plain : Plain c) (next : Printed more rest) :
    Printed (more + 1) (c :: rest) where
  short := Nat.succ_le_succ next.short
  plain := List.forall_mem_cons.mpr ⟨plain, next.plain⟩

theorem mono (printed : Printed width text) (wider : width ≤ more) : Printed more text :=
  ⟨Nat.le_trans printed.short wider, printed.plain⟩

theorem literal (short : text.length ≤ width) (plain : text.all fun c => Plain c) :
    Printed width text :=
  ⟨short, fun c member => of_decide_eq_true (List.all_eq_true.mp plain c member)⟩

theorem nil : Printed 0 [] := ⟨Nat.le_refl 0, fun _ member => nomatch member⟩

theorem flatten (texts : List (List Char)) (printed : ∀ text ∈ texts, Printed width text) :
    Printed (texts.length * width) texts.flatten := by
  induction texts with
  | nil =>
      rw [List.length_nil, Nat.zero_mul]
      exact nil
  | cons text texts ih =>
      obtain ⟨first, others⟩ := List.forall_mem_cons.mp printed
      rw [List.length_cons, Nat.succ_mul, Nat.add_comm, List.flatten_cons]
      exact first.append (ih others)

end Printed

theorem printed_decimal (width digits : Nat) {n : Int} (some_digits : 0 < digits)
    (small : n.natAbs < 10 ^ digits) : Printed (max width (digits + 1)) (decimal width n) :=
  ⟨length_decimal_le width some_digits small, fun c member => plain_of_numeral (numeral_decimal width n c member)⟩

theorem printed_natural (width digits : Nat) {n : Nat} (some_digits : 0 < digits)
    (small : n < 10 ^ digits) : Printed (max width digits) (decimal width n) :=
  ⟨length_decimal_natural_le width some_digits small,
    fun c member => plain_of_numeral (numeral_decimal width n c member)⟩

theorem printed_precise (precision digits : Nat) {n : Int} (some_digits : 0 < digits)
    (small : n.natAbs < 10 ^ digits) :
    Printed (max precision digits + 1) (precise precision n) :=
  ⟨length_precise_le precision some_digits small,
    fun c member => plain_of_numeral (numeral_precise precision n c member)⟩

theorem Printed.framed {body : List Char} (printed : Printed 193 body) : Framed (framed body) :=
  framed_framed printed.plain (Nat.add_lt_add_right (Nat.lt_succ_of_le printed.short) 6)

theorem plain_comma : Plain ',' := by decide

theorem printed_comma : Printed 1 [','] := Printed.nil.cons plain_comma

theorem printed_letter {c : Char} (plain : Plain c) : Printed 3 [',', c, ','] :=
  (printed_comma.cons plain).cons plain_comma

end A5Common.Nmea
