import A5Common.Cfg.Param
import A5Common.Run.Memory
import Mathlib.Data.List.TakeWhile

set_option autoImplicit false

namespace A5Common.Utils

open A5Common.Run
open A5Common.Cfg (cString)

/-- Memory with a string and its terminator. -/
structure StringMemory where
  cells : List Char
  terminated : Char.ofNat 0 ∈ cells

/-- `strlen`, which has no result if there is no terminator in the memory. -/
def strlen (memory : List Char) : Option Nat :=
  if Char.ofNat 0 ∈ memory then some (cString memory).length else none

/-- `strlcpy` to a buffer of a size. -/
def strlcpy (dst src : List Char) (size : Nat) : Option (List Char) :=
  storeAll dst ((cString src).take (size - 1) ++ [Char.ofNat 0])

theorem cString_terminated {text : List Char} (inside : Char.ofNat 0 ∉ text)
    (rest : List Char) : cString (text ++ Char.ofNat 0 :: rest) = text :=
  takeWhile_terminated inside rest

theorem strlen_terminated {text : List Char} (inside : Char.ofNat 0 ∉ text)
    (rest : List Char) : strlen (text ++ Char.ofNat 0 :: rest) = some text.length := by
  have terminated : Char.ofNat 0 ∈ text ++ Char.ofNat 0 :: rest :=
    List.mem_append_right text List.mem_cons_self
  rw [strlen, if_pos terminated, cString_terminated inside]

theorem eq_cString_append {memory : List Char} (terminated : Char.ofNat 0 ∈ memory) :
    ∃ rest, memory = cString memory ++ Char.ofNat 0 :: rest := by
  obtain ⟨text, rest, rfl, inside⟩ := List.eq_append_cons_of_mem terminated
  exact ⟨rest, by rw [cString_terminated inside]⟩

/-- Whatever lies in front of a terminator, nothing behind it is of the string. -/
theorem cString_append (front rest : List Char) :
    cString (front ++ Char.ofNat 0 :: rest) = cString front := by
  induction front with
  | nil => rfl
  | cons c front ih =>
      unfold cString at ih ⊢
      rw [List.cons_append, List.takeWhile_cons, List.takeWhile_cons, ih]

/-- What is copied to a buffer of at least one character ends in a terminator. -/
theorem strlcpy_eq {dst : List Char} {size : Nat} (array : dst.length = size) (some : 0 < size)
    (src : List Char) :
    ∃ rest, strlcpy dst src size = .some ((cString src).take (size - 1) ++ Char.ofNat 0 :: rest) ∧
      ((cString src).take (size - 1) ++ Char.ofNat 0 :: rest).length = size := by
  have short : ((cString src).take (size - 1)).length ≤ size - 1 := List.length_take_le _ _
  have length : ((cString src).take (size - 1) ++ [Char.ofNat 0]).length =
      ((cString src).take (size - 1)).length + 1 := by
    rw [List.length_append, List.length_singleton]
  refine ⟨dst.drop (((cString src).take (size - 1)).length + 1), ?_, ?_⟩
  · rw [strlcpy, storeAll, length, if_pos (by omega), List.append_assoc]
    rfl
  · rw [List.length_append, List.length_cons, List.length_drop]
    omega

theorem cString_clean (memory : List Char) : Char.ofNat 0 ∉ cString memory := by
  intro mem
  have text := List.mem_takeWhile_imp mem
  rw [bne_self_eq_false] at text
  cases text

end A5Common.Utils
