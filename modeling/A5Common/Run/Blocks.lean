import Mathlib.Data.List.Basic
import Mathlib.Data.List.Count

set_option autoImplicit false

namespace A5Common.Run

/-- A pointer to one of the blocks that have been handed out, or to something else. -/
inductive Pointer (Address : Type) where
  | block (number : Nat)
  | wild (address : Address)
deriving DecidableEq

/-- The blocks are handed out in order, and no number twice. What is freed is recorded,
whether it was to be freed or not. -/
structure Blocks (Address : Type) where
  next : Nat
  freed : List (Pointer Address)
deriving DecidableEq

namespace Blocks

variable {Address : Type}

def fresh : Blocks Address where
  next := 0
  freed := []

def alloc (blocks : Blocks Address) : Blocks Address :=
  { blocks with next := blocks.next + 1 }

/-- To free the null pointer does nothing. -/
def free (blocks : Blocks Address) : Option (Pointer Address) → Blocks Address
  | none => blocks
  | some pointer => { blocks with freed := blocks.freed ++ [pointer] }

variable [DecidableEq Address]

/-- Only blocks have been freed, and each of them once, but for the one that is held. -/
structure Accounted (held : Option Nat) (blocks : Blocks Address) : Prop where
  known : ∀ pointer ∈ blocks.freed, ∃ number, number < blocks.next ∧ pointer = .block number
  once : ∀ number, number < blocks.next →
    blocks.freed.count (.block number) = if held = some number then 0 else 1

/-- Something has been freed that is no block, or twice. -/
def Excess (blocks : Blocks Address) : Prop :=
  ∃ pointer ∈ blocks.freed,
    (∀ number, number < blocks.next → pointer ≠ .block number) ∨ 2 ≤ blocks.freed.count pointer

variable {blocks : Blocks Address} {held : Option Nat}

theorem accounted_fresh : (fresh : Blocks Address).Accounted none where
  known := by
    intro pointer none
    cases none
  once := by
    intro number before
    cases before

/-- A block that has not been handed out has not been freed. -/
theorem Accounted.count_next (accounted : blocks.Accounted held) :
    blocks.freed.count (.block blocks.next) = 0 := by
  apply List.count_eq_zero.mpr
  intro mem
  obtain ⟨number, before, same⟩ := accounted.known _ mem
  cases same
  exact Nat.lt_irrefl _ before

theorem Accounted.alloc (accounted : blocks.Accounted none) :
    blocks.alloc.Accounted (some blocks.next) where
  known := by
    intro pointer mem
    obtain ⟨number, before, same⟩ := accounted.known pointer mem
    exact ⟨number, Nat.lt_succ_of_lt before, same⟩
  once := by
    intro number before
    show blocks.freed.count (.block number) = _
    rcases Nat.lt_succ_iff_lt_or_eq.mp before with earlier | rfl
    · have other : ¬ some blocks.next = some number := by
        intro same
        cases same
        exact Nat.lt_irrefl _ earlier
      rw [if_neg other]
      exact accounted.once number earlier
    · rw [if_pos rfl]
      exact accounted.count_next

theorem Accounted.free {number : Nat} (accounted : blocks.Accounted (some number))
    (out : number < blocks.next) : (blocks.free (some (.block number))).Accounted none where
  known := by
    intro pointer mem
    rcases List.mem_append.mp mem with earlier | now
    · exact accounted.known pointer earlier
    · exact ⟨number, out, List.mem_singleton.mp now⟩
  once := by
    intro other before
    have count := accounted.once other before
    show (blocks.freed ++ [Pointer.block number]).count (Pointer.block other) = 1
    rw [List.count_append, count]
    by_cases same : number = other
    · subst same
      rw [if_pos rfl, List.count_singleton_self]
    · have differs : ¬ some number = some other := fun eq => same (Option.some.inj eq)
      have apart : ¬ (Pointer.block other : Pointer Address) = .block number := by
        intro eq
        cases eq
        exact same rfl
      rw [if_neg differs, List.count_eq_zero.mpr (fun mem => apart (List.mem_singleton.mp mem))]

/-- If no block is held, nothing can be freed. -/
theorem Accounted.free_excess (accounted : blocks.Accounted none) (pointer : Pointer Address) :
    (blocks.free (some pointer)).Excess := by
  refine ⟨pointer, List.mem_append_right _ (List.mem_singleton.mpr rfl), ?_⟩
  by_cases known : ∃ number, number < blocks.next ∧ pointer = .block number
  · obtain ⟨number, before, rfl⟩ := known
    right
    have count := accounted.once number before
    show 2 ≤ (blocks.freed ++ [Pointer.block number]).count (Pointer.block number)
    rw [List.count_append, List.count_singleton_self, count]
    exact Nat.le_refl 2
  · left
    intro number before same
    exact known ⟨number, before, same⟩

theorem Excess.free (excess : blocks.Excess) (pointer : Option (Pointer Address)) :
    (blocks.free pointer).Excess := by
  cases pointer with
  | none => exact excess
  | some pointer =>
      obtain ⟨bad, mem, why⟩ := excess
      refine ⟨bad, List.mem_append_left _ mem, why.imp_right ?_⟩
      intro twice
      show 2 ≤ (blocks.freed ++ [pointer]).count bad
      rw [List.count_append]
      exact Nat.le_add_right_of_le twice

/-- What was freed too often stays so. -/
theorem Excess.not_accounted (excess : blocks.Excess) (held : Option Nat) :
    ¬ blocks.Accounted held := by
  intro accounted
  obtain ⟨bad, mem, why⟩ := excess
  obtain ⟨number, before, rfl⟩ := accounted.known bad mem
  rcases why with unknown | twice
  · exact unknown number before rfl
  · rw [accounted.once number before] at twice
    split at twice <;> omega

/-- If no block is held and all is accounted for after two frees, nothing was freed. -/
theorem Accounted.nothing_freed (accounted : blocks.Accounted none)
    {first second : Option (Pointer Address)}
    (after : ((blocks.free first).free second).Accounted held) : first = none ∧ second = none := by
  cases first with
  | some pointer =>
      have excess := (accounted.free_excess pointer).free second
      exact absurd after (excess.not_accounted held)
  | none =>
      cases second with
      | some pointer => exact absurd after ((accounted.free_excess pointer).not_accounted held)
      | none => exact ⟨rfl, rfl⟩

end Blocks

end A5Common.Run
