import A5Common.Cfg.Param
import A5Common.Number.Decimal
import Mathlib.Data.List.TakeWhile

set_option autoImplicit false

namespace A5Common.Cfg

open A5Common.Number

/-- A text behind its sign. -/
def unsigned (text : List Char) : List Char :=
  if text.head? = some '-' ∨ text.head? = some '+' then text.tail else text

def isDecimal (c : Char) : Bool :=
  (digit 10 c).isSome

/-- The `endptr` of `strtol` in base 10: the text itself if it begins with no number. -/
def strtolEnd (text : List Char) : List Char :=
  let number := unsigned (text.dropWhile isspace)
  if number.head?.any isDecimal = true then number.dropWhile isDecimal else text

/-- The base that `strtol` takes if it is given 0. -/
def detectedBase : List Char → Nat
  | '0' :: x :: c :: _ => if tolower x = 'x' ∧ (digit 16 c).isSome then 16 else 8
  | '0' :: _ => 8
  | _ => 10

/-- `strtol` with the base 0. -/
def strtolAny {F : Type} (platform : Platform F) (text : List Char) : Int :=
  strtol platform (detectedBase (unsigned (text.dropWhile isspace))) text

theorem isDecimal_eq (c : Char) : isDecimal c = c.isDigit := by
  have standard : c.isDigit = true ↔ 48 ≤ c.toNat ∧ c.toNat ≤ 57 := by
    rw [Char.isDigit, Bool.and_eq_true, decide_eq_true_iff, decide_eq_true_iff]
    exact Iff.rfl
  rw [Bool.eq_iff_iff, standard]
  unfold isDecimal digit
  by_cases here : 48 ≤ c.toNat ∧ c.toNat ≤ 57
  · simp only [if_pos here]
    have small : c.toNat - 48 < 10 := by omega
    rw [if_pos small]
    exact iff_of_true rfl here
  · simp only [if_neg here]
    refine iff_of_false ?_ here
    split
    · have large : ¬ (tolower c).toNat - 87 < 10 := by omega
      rw [if_neg large]
      exact Bool.false_ne_true
    · exact Bool.false_ne_true

/-- A digit is no space and no sign. -/
theorem isDecimal_plain {c : Char} (decimal : isDecimal c = true) :
    isspace c = false ∧ c ≠ '-' ∧ c ≠ '+' := by
  rw [isDecimal_eq, Char.isDigit, Bool.and_eq_true, decide_eq_true_iff] at decimal
  have low : 48 ≤ c.toNat := decimal.1
  refine ⟨?_, fun same => ?_, fun same => ?_⟩
  · unfold isspace
    rw [Bool.or_eq_false_iff, decide_eq_false_iff_not, Bool.and_eq_false_iff,
      decide_eq_false_iff_not, decide_eq_false_iff_not]
    refine ⟨fun same => ?_, Or.inr (by omega)⟩
    rw [same] at low
    exact absurd low (by decide)
  · rw [same] at low
    exact absurd low (by decide)
  · rw [same] at low
    exact absurd low (by decide)

theorem digit_digitChar {n : Nat} (small : n < 10) : digit 10 n.digitChar = some n := by
  revert n
  decide

theorem digits_stop (base value : Nat) {c : Char} (stop : digit base c = none)
    (front rest : List Char) :
    digits base value (front ++ c :: rest) = digits base value front := by
  induction front generalizing value with
  | nil => simp only [List.nil_append, digits, stop]
  | cons d front ih =>
      rw [List.cons_append, digits, digits]
      cases digit base d with
      | none => rfl
      | some d => exact ih _

theorem digits_decimal (base value : Nat) {front : List Char} {c : Char} {d : Nat}
    (all : ∀ c ∈ front, (digit base c).isSome = true) (found : digit base c = some d) :
    digits base value (front ++ [c]) = digits base value front * base + d := by
  induction front generalizing value with
  | nil => simp only [List.nil_append, digits, found]
  | cons first front ih =>
      rw [List.forall_mem_cons] at all
      obtain ⟨n, taken⟩ := Option.isSome_iff_exists.mp all.1
      rw [List.cons_append, digits, digits, taken]
      exact ih _ all.2

/-- What holds of the characters of all digits holds of those of a number. -/
theorem forall_toDigits {base : Nat} (two : 1 < base) {p : Char → Prop}
    (each : ∀ d, d < base → p d.digitChar) (n : Nat) : ∀ c ∈ Nat.toDigits base n, p c := by
  induction n using Nat.strongRecOn with
  | ind n ih =>
      intro c member
      rw [Nat.toDigits_eq_if two] at member
      split at member
      · rename_i small
        rw [List.mem_singleton.mp member]
        exact each n small
      · rename_i large
        have smaller : n / base < n := Nat.div_lt_self (by omega) two
        rcases List.mem_append.mp member with front | last
        · exact ih _ smaller c front
        · rw [List.mem_singleton.mp last]
          exact each _ (Nat.mod_lt n (Nat.lt_of_succ_lt two))

theorem isDecimal_toDigits {n : Nat} : ∀ c ∈ Nat.toDigits 10 n, isDecimal c = true :=
  forall_toDigits (by decide) (by decide) n

/-- The digits of a number have its value. -/
theorem digits_toDigits {base : Nat} (two : 1 < base)
    (each : ∀ d, d < base → digit base d.digitChar = some d) (n : Nat) :
    digits base 0 (Nat.toDigits base n) = n := by
  have all : ∀ n, ∀ c ∈ Nat.toDigits base n, (digit base c).isSome = true := by
    refine forall_toDigits two (fun d small => ?_)
    rw [each d small]
    rfl
  induction n using Nat.strongRecOn with
  | ind n ih =>
      rw [Nat.toDigits_eq_if two]
      split
      · rename_i small
        simp only [digits, each n small, Nat.zero_mul, Nat.zero_add]
      · rename_i large
        have smaller : n / base < n := Nat.div_lt_self (by omega) two
        have last : n % base < base := Nat.mod_lt n (Nat.lt_of_succ_lt two)
        rw [digits_decimal base 0 (all _) (each _ last), ih _ smaller, Nat.mul_comm]
        exact Nat.div_add_mod n base

/-- A character that is no part of a number and no space in front of one. -/
structure Stops (c : Char) : Prop where
  space : isspace c = false
  minus : c ≠ '-'
  plus : c ≠ '+'
  decimal : isDecimal c = false

theorem Stops.digit {c : Char} (stops : Stops c) : digit 10 c = none :=
  Option.not_isSome_iff_eq_none.mp (ne_true_of_eq_false stops.decimal)

theorem dropWhile_stop {p : Char → Bool} {c : Char} (stop : p c = false) (front rest : List Char) :
    (front ++ c :: rest).dropWhile p = front.dropWhile p ++ c :: rest := by
  induction front with
  | nil => exact List.dropWhile_cons_of_neg (ne_true_of_eq_false stop)
  | cons d front ih =>
      cases skipped : p d with
      | true => rw [List.cons_append, List.dropWhile_cons_of_pos skipped, ih,
          List.dropWhile_cons_of_pos skipped]
      | false =>
          have kept := ne_true_of_eq_false skipped
          rw [List.cons_append, List.dropWhile_cons_of_neg kept, List.dropWhile_cons_of_neg kept]
          rfl

theorem Stops.unsigned_append {c : Char} (stops : Stops c) (front rest : List Char) :
    unsigned (front ++ c :: rest) = unsigned front ++ c :: rest := by
  cases front with
  | nil =>
      have plain : ¬ ((c :: rest).head? = some '-' ∨ (c :: rest).head? = some '+') := by
        rw [List.head?_cons, Option.some_inj, Option.some_inj, not_or]
        exact ⟨stops.minus, stops.plus⟩
      exact if_neg plain
  | cons d front =>
      unfold unsigned
      rw [List.cons_append, List.head?_cons, List.head?_cons]
      split
      · rfl
      · rfl

variable {F : Type} (platform : Platform F)

theorem strtol_eq (text : List Char) :
    strtol platform 10 text =
      if (text.dropWhile isspace).head? = some '-' then
        max (-(platform.LONG_MAX + 1) : Int) (-(digits 10 0 (unsigned (text.dropWhile isspace)) : Int))
      else min platform.LONG_MAX (digits 10 0 (unsigned (text.dropWhile isspace)) : Int) := by
  unfold strtol
  rfl

/-- What stands behind a character that stops `strtol` makes no difference. -/
theorem Stops.strtol_append {c : Char} (stops : Stops c) (front rest : List Char) :
    strtol platform 10 (front ++ c :: rest) = strtol platform 10 front := by
  rw [strtol_eq, strtol_eq, dropWhile_stop stops.space, stops.unsigned_append,
    digits_stop 10 0 stops.digit]
  cases front.dropWhile isspace with
  | nil =>
      have no_minus : ¬ ([] ++ c :: rest).head? = some '-' :=
        fun minus => stops.minus (Option.some_inj.mp minus)
      rw [if_neg no_minus]
      exact (if_neg (Option.some_ne_none _).symm).symm
  | cons d front => rfl

theorem Stops.strtolEnd_append {c : Char} (stops : Stops c) (front rest : List Char) :
    strtolEnd (front ++ c :: rest) = strtolEnd front ++ c :: rest := by
  unfold strtolEnd
  rw [dropWhile_stop stops.space, stops.unsigned_append]
  cases unsigned (front.dropWhile isspace) with
  | nil =>
      have none_found : ¬ ([] ++ c :: rest).head?.any isDecimal = true := by
        rw [List.nil_append, List.head?_cons, Option.any_some]
        exact ne_true_of_eq_false stops.decimal
      exact if_neg none_found
  | cons d number =>
      have same_head : ((d :: number) ++ c :: rest).head? = (d :: number).head? := rfl
      simp only [same_head, dropWhile_stop stops.decimal]
      split
      · rfl
      · rfl

theorem strtolEnd_suffix (text : List Char) : strtolEnd text <:+ text := by
  unfold strtolEnd
  simp only
  split
  · have signless : unsigned (text.dropWhile isspace) <:+ text.dropWhile isspace := by
      unfold unsigned
      split
      · exact List.tail_suffix _
      · exact List.suffix_rfl
    exact (List.dropWhile_suffix _).trans (signless.trans (List.dropWhile_suffix _))
  · exact List.suffix_rfl

theorem decimal_zero (n : Int) : decimal 0 n = sign (n < 0) ++ Nat.toDigits 10 n.natAbs := by
  unfold decimal zeroPadded
  rw [Nat.zero_sub, Nat.zero_sub]
  rfl

/-- Where the digits of a printed number begin. -/
theorem dropWhile_decimal (n : Int) :
    (decimal 0 n).dropWhile isspace = decimal 0 n ∧
      unsigned (decimal 0 n) = Nat.toDigits 10 n.natAbs ∧
      ((decimal 0 n).head? = some '-' ↔ n < 0) := by
  obtain ⟨c, rest, parts⟩ := List.exists_cons_of_ne_nil (@Nat.toDigits_ne_nil n.natAbs 10)
  have plain := isDecimal_plain (isDecimal_toDigits c (parts ▸ List.mem_cons_self))
  rw [decimal_zero, parts]
  by_cases negative : n < 0
  · rw [decide_eq_true negative]
    exact ⟨rfl, rfl, iff_of_true rfl negative⟩
  · rw [decide_eq_false negative]
    have head : ¬ ((c :: rest).head? = some '-' ∨ (c :: rest).head? = some '+') := by
      rw [List.head?_cons, Option.some_inj, Option.some_inj, not_or]
      exact plain.2
    exact ⟨List.dropWhile_cons_of_neg (ne_true_of_eq_false plain.1), if_neg head,
      iff_of_false (fun minus => head (Or.inl minus)) negative⟩

/-- A number that `long` can hold is read again from what is printed. -/
theorem strtol_decimal {n : Int} (low : -(platform.LONG_MAX + 1 : Int) ≤ n)
    (high : n ≤ platform.LONG_MAX) : strtol platform 10 (decimal 0 n) = n := by
  obtain ⟨trimmed, number, minus⟩ := dropWhile_decimal n
  rw [strtol_eq, trimmed, number, digits_toDigits (by decide) (fun _ => digit_digitChar)]
  by_cases negative : n < 0
  · rw [if_pos (minus.mpr negative)]
    omega
  · rw [if_neg (fun head => negative (minus.mp head))]
    omega

theorem strtolEnd_decimal (n : Int) : strtolEnd (decimal 0 n) = [] := by
  obtain ⟨trimmed, number, minus⟩ := dropWhile_decimal n
  obtain ⟨c, rest, parts⟩ := List.exists_cons_of_ne_nil (@Nat.toDigits_ne_nil n.natAbs 10)
  have first : (Nat.toDigits 10 n.natAbs).head?.any isDecimal = true := by
    rw [parts]
    exact isDecimal_toDigits c (parts ▸ List.mem_cons_self)
  unfold strtolEnd
  simp only [trimmed, number, if_pos first]
  exact List.dropWhile_eq_nil_iff.mpr (fun c member => isDecimal_toDigits c member)

/-- Only the number 0 is printed with a 0 in front. -/
theorem toDigits_zero_head {n : Nat} (zero : (Nat.toDigits 10 n).head? = some '0') : n = 0 := by
  induction n using Nat.strongRecOn with
  | ind n ih =>
      rw [Nat.toDigits_eq_if (by decide)] at zero
      split at zero
      · exact Nat.digitChar_eq_zero.mp (Option.some_inj.mp zero)
      · rename_i large
        obtain ⟨c, rest, parts⟩ := List.exists_cons_of_ne_nil (@Nat.toDigits_ne_nil (n / 10) 10)
        rw [parts, List.cons_append, List.head?_cons] at zero
        have first : (Nat.toDigits 10 (n / 10)).head? = some '0' := by
          rw [parts, List.head?_cons, zero]
        have less := ih (n / 10) (Nat.div_lt_self (by omega) (by decide)) first
        omega

theorem detectedBase_of_head {text : List Char} (head : text.head? ≠ some '0') :
    detectedBase text = 10 := by
  unfold detectedBase
  split
  · exact absurd rfl head
  · exact absurd rfl head
  · rfl

theorem strtolAny_decimal {n : Int} (low : -(platform.LONG_MAX + 1 : Int) ≤ n)
    (high : n ≤ platform.LONG_MAX) : strtolAny platform (decimal 0 n) = n := by
  have printed := strtol_decimal platform low high
  obtain ⟨trimmed, number, minus⟩ := dropWhile_decimal n
  unfold strtolAny
  rw [trimmed, number]
  by_cases zero : (Nat.toDigits 10 n.natAbs).head? = some '0'
  · have nothing : n = 0 := Int.natAbs_eq_zero.mp (toDigits_zero_head zero)
    rw [nothing]
    exact Int.min_eq_right (Int.natCast_nonneg platform.LONG_MAX)
  · rw [detectedBase_of_head zero, printed]

end A5Common.Cfg
