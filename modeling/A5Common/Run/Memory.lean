import Mathlib.Data.List.Basic

set_option autoImplicit false

namespace A5Common.Run

universe u

variable {Cell : Type u}

/-- A store to an address of a memory, if it is inside. -/
def store (memory : List Cell) (address : Nat) (cell : Cell) : Option (List Cell) :=
  if address < memory.length then some (memory.set address cell) else none

/-- Cells that are stored from the first address of a memory on, if they fit. -/
def storeAll (memory cells : List Cell) : Option (List Cell) :=
  if cells.length ≤ memory.length then some (cells ++ memory.drop cells.length) else none

theorem load_at (front : List Cell) (cell : Cell) (back : List Cell) {address : Nat}
    (place : address = front.length) : (front ++ cell :: back)[address]? = some cell := by
  subst place
  rw [List.getElem?_append_right (Nat.le_refl _), Nat.sub_self]
  rfl

theorem store_at (front : List Cell) (old : Cell) (back : List Cell) {address : Nat}
    (place : address = front.length) (cell : Cell) :
    store (front ++ old :: back) address cell = some (front ++ cell :: back) := by
  subst place
  have inside : front.length < (front ++ old :: back).length := by
    rw [List.length_append, List.length_cons]
    omega
  rw [store, if_pos inside, List.set_append_right front.length cell (Nat.le_refl _), Nat.sub_self]
  rfl

/-- A gap is filled from its front. -/
theorem store_gap (front gap back : List Cell) (cell : Cell) {address : Nat}
    (place : address = front.length) :
    ∃ gap', gap'.length = gap.length ∧
      store (front ++ gap ++ cell :: back) address cell =
        some (front ++ [cell] ++ gap' ++ back) := by
  cases gap with
  | nil =>
      refine ⟨[], rfl, ?_⟩
      rw [List.append_nil, store_at front cell back place, List.append_nil, List.append_assoc]
      rfl
  | cons first rest =>
      refine ⟨rest ++ [cell], ?_, ?_⟩
      · rw [List.length_append]
        rfl
      · have split : front ++ first :: rest ++ cell :: back =
            front ++ first :: (rest ++ cell :: back) := by
          rw [List.append_assoc]
          rfl
        rw [split, store_at front first (rest ++ cell :: back) place]
        simp only [List.append_assoc, List.cons_append, List.nil_append]

theorem length_of_store {memory after : List Cell} {address : Nat} {cell : Cell}
    (stored : store memory address cell = some after) : after.length = memory.length := by
  unfold store at stored
  split at stored
  · rw [← Option.some.inj stored, List.length_set]
  · cases stored

/-- What lies behind an address is left by a store to it. -/
theorem drop_of_store {memory after : List Cell} {address : Nat} {cell : Cell}
    (stored : store memory address cell = some after) {start : Nat} (behind : address < start) :
    after.drop start = memory.drop start := by
  unfold store at stored
  split at stored
  · rw [← Option.some.inj stored, List.drop_set_of_lt behind]
  · cases stored

/-- A store that is inside, from its address on. -/
theorem store_drop {memory : List Cell} {address : Nat} (inside : address < memory.length)
    (cell : Cell) :
    ∃ after, store memory address cell = some after ∧ after.length = memory.length ∧
      after.drop address = cell :: memory.drop (address + 1) := by
  have stored : store memory address cell = some (memory.set address cell) := if_pos inside
  refine ⟨_, stored, length_of_store stored, ?_⟩
  rw [List.drop_eq_getElem_cons (by rw [List.length_set]; exact inside), List.getElem_set_self,
    List.drop_set_of_lt (Nat.lt_succ_self address)]

theorem drop_after (front : List Cell) (cell : Cell) (back : List Cell) :
    (front ++ cell :: back).drop (front.length + 1) = back := by
  rw [← List.drop_drop, List.drop_left, List.drop_one, List.tail_cons]

section Terminated

variable [DecidableEq Cell] {terminator : Cell}

theorem takeWhile_terminated {text : List Cell} (inside : terminator ∉ text)
    (rest : List Cell) :
    (text ++ terminator :: rest).takeWhile (fun cell => cell != terminator) = text := by
  have all : ∀ cell ∈ text, (cell != terminator) = true := by
    intro cell mem
    rw [bne_iff_ne]
    intro same
    exact inside (same ▸ mem)
  rw [List.takeWhile_append_of_pos all, List.takeWhile_cons_of_neg, List.append_nil]
  rw [bne_self_eq_false]
  exact Bool.false_ne_true

end Terminated

end A5Common.Run
