set_option autoImplicit false

namespace A5Common.Run

universe u v

variable {Item : Type u} {State : Type v}

/-- The items that are processed until their costs have used up the budget. -/
def spend (cost : Item → Nat) : Nat → List Item → List Item
  | _, [] => []
  | budget, item :: rest =>
      if budget = 0 then [] else item :: spend cost (budget - cost item) rest

/-- The items that are left when the budget is used up. -/
def unspent (cost : Item → Nat) : Nat → List Item → List Item
  | _, [] => []
  | budget, item :: rest =>
      if budget = 0 then item :: rest else unspent cost (budget - cost item) rest

/-- What the items that are processed cost. -/
def spent (cost : Item → Nat) : Nat → List Item → Nat
  | _, [] => 0
  | budget, item :: rest =>
      if budget = 0 then 0 else cost item + spent cost (budget - cost item) rest

/-- A loop that takes the cost of each item off an unsigned counter, and stops when
that is zero or the items are used up. -/
def drain {w : Nat} (process : State → Item → Nat × State) :
    BitVec w → List Item → State → State × List Item
  | _, [], state => (state, [])
  | budget, item :: rest, state =>
      if budget = 0 then (state, item :: rest)
      else
        let done := process state item
        drain process (budget - BitVec.ofNat w done.1) rest done.2

/-- The counter of the loop wraps below zero. -/
def underflows {w : Nat} (process : State → Item → Nat × State) :
    BitVec w → List Item → State → Bool
  | _, [], _ => false
  | budget, item :: rest, state =>
      if budget = 0 then false
      else
        let done := process state item
        decide (budget.toNat < done.1) ||
          underflows process (budget - BitVec.ofNat w done.1) rest done.2

variable (cost : Item → Nat)

theorem spend_append_unspent (budget : Nat) (items : List Item) :
    spend cost budget items ++ unspent cost budget items = items := by
  induction items generalizing budget with
  | nil => rfl
  | cons item rest ih =>
      unfold spend unspent
      split
      · rfl
      · rw [List.cons_append, ih]

theorem take_eq_spent (budget : Nat) (items : List Item) :
    items.take (items.length - (unspent cost budget items).length) = spend cost budget items := by
  have parts := spend_append_unspent cost budget items
  have sizes := congrArg List.length parts
  rw [List.length_append] at sizes
  have bought : items.length - (unspent cost budget items).length =
      (spend cost budget items).length := by omega
  rw [bought]
  exact (List.prefix_iff_eq_take.mp ⟨_, parts⟩).symm

theorem mem_of_spend {budget : Nat} {items : List Item} {item : Item}
    (mem : item ∈ spend cost budget items) : item ∈ items := by
  rw [← spend_append_unspent cost budget items]
  exact List.mem_append_left _ mem

theorem mem_of_unspent {budget : Nat} {items : List Item} {item : Item}
    (mem : item ∈ unspent cost budget items) : item ∈ items := by
  rw [← spend_append_unspent cost budget items]
  exact List.mem_append_right _ mem

theorem spend_zero (items : List Item) : spend cost 0 items = [] := by
  cases items <;> rfl

theorem spend_cons {budget : Nat} (left : budget ≠ 0) (item : Item) (rest : List Item) :
    spend cost budget (item :: rest) = item :: spend cost (budget - cost item) rest := by
  rw [spend, if_neg left]

/-- A budget buys as many items as it counts, if each of the first ones costs one. -/
theorem spend_eq_take {budget : Nat} {items : List Item}
    (one : ∀ item ∈ items.take budget, cost item = 1) :
    spend cost budget items = items.take budget := by
  induction items generalizing budget with
  | nil => rw [spend, List.take_nil]
  | cons item rest ih =>
      cases budget with
      | zero => rw [spend_zero, List.take_zero]
      | succ budget =>
          rw [List.take_succ_cons] at one ⊢
          rw [spend_cons cost (Nat.succ_ne_zero budget), one item List.mem_cons_self]
          congr 1
          exact ih (fun other later => one other (List.mem_cons_of_mem item later))

theorem take_eq_spend {budget : Nat} {items : List Item}
    (one : ∀ item ∈ spend cost budget items, cost item = 1) :
    spend cost budget items = items.take budget := by
  induction items generalizing budget with
  | nil => rw [spend, List.take_nil]
  | cons item rest ih =>
      cases budget with
      | zero => rw [spend_zero, List.take_zero]
      | succ budget =>
          rw [spend_cons cost (Nat.succ_ne_zero budget)] at one ⊢
          rw [one item List.mem_cons_self] at one ⊢
          rw [List.take_succ_cons]
          congr 1
          exact ih (fun other later => one other (List.mem_cons_of_mem item later))

/-- Items that are dropped beforehand cost nothing. -/
theorem spend_filterMap {Line : Type u} (parse : Line → Option Item) (budget : Nat)
    (lines : List Line) :
    (spend (fun line => ((parse line).map cost).getD 0) budget lines).filterMap parse =
      spend cost budget (lines.filterMap parse) := by
  induction lines generalizing budget with
  | nil => rfl
  | cons line rest ih =>
      by_cases out : budget = 0
      · rw [out, spend_zero, spend_zero]
        rfl
      · rw [spend_cons _ out]
        cases parsed : parse line with
        | none =>
            rw [List.filterMap_cons_none parsed, List.filterMap_cons_none parsed]
            exact ih budget
        | some item =>
            rw [List.filterMap_cons_some parsed, List.filterMap_cons_some parsed,
              spend_cons _ out, ih]
            rfl

theorem spent_zero (items : List Item) : spent cost 0 items = 0 := by
  cases items <;> rfl

theorem spent_cons {budget : Nat} (left : budget ≠ 0) (item : Item) (rest : List Item) :
    spent cost budget (item :: rest) = cost item + spent cost (budget - cost item) rest := by
  rw [spent, if_neg left]

theorem spent_filterMap {Line : Type u} (parse : Line → Option Item) (budget : Nat)
    (lines : List Line) :
    spent (fun line => ((parse line).map cost).getD 0) budget lines =
      spent cost budget (lines.filterMap parse) := by
  induction lines generalizing budget with
  | nil => rfl
  | cons line rest ih =>
      by_cases out : budget = 0
      · rw [out, spent_zero, spent_zero]
      · rw [spent_cons _ out, ih]
        cases parsed : parse line with
        | none =>
            rw [List.filterMap_cons_none parsed]
            exact Nat.zero_add _
        | some item =>
            rw [List.filterMap_cons_some parsed, spent_cons _ out]
            rfl

/-- A budget that no item exceeds on its own step is never exceeded. -/
theorem spent_le_of_le_one (cheap : ∀ item, cost item ≤ 1) (budget : Nat) (items : List Item) :
    spent cost budget items ≤ budget := by
  induction items generalizing budget with
  | nil => exact Nat.zero_le _
  | cons item rest ih =>
      by_cases out : budget = 0
      · subst out
        exact Nat.le_of_eq (spent_zero cost _)
      · rw [spent_cons _ out]
        have later := ih (budget - cost item)
        have one := cheap item
        omega

theorem toNat_charge {w : Nat} {budget : BitVec w} {charge : Nat} (within : charge ≤ budget.toNat) :
    (budget - BitVec.ofNat w charge).toNat = budget.toNat - charge := by
  have same : (BitVec.ofNat w charge).toNat = charge := by
    rw [BitVec.toNat_ofNat]
    exact Nat.mod_eq_of_lt (Nat.lt_of_le_of_lt within budget.isLt)
  have le : BitVec.ofNat w charge ≤ budget := by
    rw [BitVec.le_def, same]
    exact within
  rw [BitVec.toNat_sub_of_le le, same]

theorem toNat_ne_zero {w : Nat} {budget : BitVec w} (left : budget ≠ 0) : budget.toNat ≠ 0 := by
  intro zero
  apply left
  apply BitVec.eq_of_toNat_eq
  rw [zero]
  rfl

theorem drain_left_le {w : Nat} (process : State → Item → Nat × State) (budget : BitVec w)
    (items : List Item) (state : State) :
    (drain process budget items state).2.length ≤ items.length := by
  induction items generalizing budget state with
  | nil => exact Nat.le_refl _
  | cons item rest ih =>
      rw [drain]
      split
      · exact Nat.le_refl _
      · exact Nat.le_succ_of_le (ih _ _)

variable {cost}

/-- As long as its counter does not wrap, the loop processes what the budget allows. -/
theorem drain_eq {w : Nat} {process : State → Item → Nat × State}
    (charges : ∀ state item, (process state item).1 = cost item) {budget : BitVec w}
    {items : List Item} (state : State) (within : spent cost budget.toNat items ≤ budget.toNat) :
    drain process budget items state =
      ((spend cost budget.toNat items).foldl (fun state item => (process state item).2) state,
        unspent cost budget.toNat items) := by
  induction items generalizing budget state with
  | nil => rfl
  | cons item rest ih =>
      by_cases out : budget = 0
      · subst out
        rfl
      · have left := toNat_ne_zero out
        rw [spent_cons cost left] at within
        have charged : (budget - BitVec.ofNat w (cost item)).toNat = budget.toNat - cost item :=
          toNat_charge (by omega)
        have later : spent cost (budget - BitVec.ofNat w (cost item)).toNat rest ≤
            (budget - BitVec.ofNat w (cost item)).toNat := by
          rw [charged]
          omega
        rw [drain, if_neg out, spend_cons cost left, unspent, if_neg left]
        simp only [charges]
        rw [ih _ later, charged]
        rfl

theorem underflows_iff {w : Nat} {process : State → Item → Nat × State}
    (charges : ∀ state item, (process state item).1 = cost item) (budget : BitVec w)
    (items : List Item) (state : State) :
    underflows process budget items state = true ↔
      budget.toNat < spent cost budget.toNat items := by
  induction items generalizing budget state with
  | nil =>
      constructor
      · intro wrapped
        cases wrapped
      · intro more
        exact absurd more (Nat.not_lt_zero _)
  | cons item rest ih =>
      by_cases out : budget = 0
      · subst out
        rw [underflows, if_pos rfl]
        constructor
        · intro wrapped
          cases wrapped
        · intro more
          exact absurd more (Nat.not_lt_zero _)
      · have left := toNat_ne_zero out
        rw [underflows, if_neg out, spent_cons cost left]
        simp only [charges, Bool.or_eq_true, decide_eq_true_eq]
        by_cases within : cost item ≤ budget.toNat
        · rw [ih, toNat_charge within]
          omega
        · omega

/-- Items that cost and do nothing can be left out. -/
theorem drain_idle {w : Nat} {process : State → Item → Nat × State} {idle : List Item}
    (nothing : ∀ item ∈ idle, ∀ state, process state item = (0, state)) (budget : BitVec w)
    (front back : List Item) (state : State) :
    (drain process budget (front ++ (idle ++ back)) state).1 =
      (drain process budget (front ++ back) state).1 := by
  induction front generalizing budget state with
  | nil =>
      rw [List.nil_append, List.nil_append]
      induction idle with
      | nil => rfl
      | cons item rest ih =>
          have later : (drain process budget (rest ++ back) state).1 =
              (drain process budget back state).1 :=
            ih (fun item' mem => nothing item' (List.mem_cons_of_mem item mem))
          rw [List.cons_append, drain]
          by_cases out : budget = 0
          · rw [if_pos out, ← later, out]
            cases rest ++ back <;> rfl
          · simp only [if_neg out, nothing item List.mem_cons_self state, BitVec.sub_zero]
            exact later
  | cons item rest ih =>
      rw [List.cons_append, List.cons_append, drain, drain]
      by_cases out : budget = 0
      · rw [if_pos out, if_pos out]
      · rw [if_neg out, if_neg out]
        exact ih _ _

section Agree

variable {Place : Type u} (Agree : Place → State → State → Prop)
  {process : State → Item → Nat × State}
  (charges : ∀ state item, (process state item).1 = cost item)
  (kept : ∀ place state state' item, Agree place state state' →
    Agree place (process state item).2 (process state' item).2)

include charges kept

/-- What two states agree on, the loop leaves them agreed on. -/
theorem drain_agree {w : Nat} (place : Place) (budget : BitVec w) (items : List Item)
    {state state' : State} (agree : Agree place state state') :
    Agree place (drain process budget items state).1 (drain process budget items state').1 := by
  induction items generalizing budget state state' with
  | nil => exact agree
  | cons item rest ih =>
      rw [drain, drain]
      by_cases out : budget = 0
      · rw [if_pos out, if_pos out]
        exact agree
      · simp only [if_neg out, charges]
        exact ih _ (kept place state state' item agree)

/-- The first item that costs something settles a place, whatever was there before. -/
theorem drain_settles {w : Nat}
    (nothing : ∀ item, cost item = 0 → ∀ state, process state item = (0, state))
    (settles : ∀ item, cost item ≠ 0 →
      ∃ place, ∀ state state', Agree place (process state item).2 (process state' item).2)
    {budget : BitVec w} (left : budget ≠ 0) {items : List Item}
    (costly : ∃ item ∈ items, cost item ≠ 0) :
    ∃ place, ∀ state state',
      Agree place (drain process budget items state).1 (drain process budget items state').1 := by
  induction items with
  | nil =>
      obtain ⟨item, none, -⟩ := costly
      cases none
  | cons item rest ih =>
      by_cases free : cost item = 0
      · obtain ⟨other, mem, costs⟩ := costly
        have later : other ∈ rest := by
          rcases List.mem_cons.mp mem with rfl | later
          · exact absurd free costs
          · exact later
        obtain ⟨place, agree⟩ := ih ⟨other, later, costs⟩
        refine ⟨place, ?_⟩
        intro state state'
        simp only [drain, if_neg left, nothing item free, BitVec.sub_zero]
        exact agree state state'
      · obtain ⟨place, agree⟩ := settles item free
        refine ⟨place, ?_⟩
        intro state state'
        simp only [drain, if_neg left, charges]
        exact drain_agree Agree charges kept place _ rest (agree state state')

end Agree

end A5Common.Run
