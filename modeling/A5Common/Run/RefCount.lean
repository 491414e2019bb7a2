import Mathlib.Algebra.BigOperators.Group.Finset.Basic
import Mathlib.Data.Fintype.Card

set_option autoImplicit false

namespace A5Common.Run

/-- Where a holder of a reference is: it has the reference, it is giving it back, or it is
done. It gives it back by a test of the count, under a mutex by a load and a store of the
count, and by the deletion of the object if it was the last one. -/
inductive Holding where
  | holds
  | tests
  | locks
  | loads
  | stores (count : Int)
  | unlocks (callDelete : Bool)
  | deletes
  | done
deriving DecidableEq

/-- The references that a holder still has. -/
def Holding.share : Holding → Nat
  | holds | tests | locks | loads | stores _ => 1
  | unlocks _ | deletes | done => 0

/-- The deletions that a holder has still to do. -/
def Holding.pending : Holding → Nat
  | unlocks true | deletes => 1
  | _ => 0

def Holding.Locked : Holding → Prop
  | loads | stores _ | unlocks _ => True
  | _ => False

/-- An object with a count of its references, and a mutex for the count. Its deletions are
counted, and an access to it after one is a record. -/
structure RefCounted (Holder : Type) where
  count : Int
  mutex : Option Holder
  holding : Holder → Holding
  deleted : Nat
  dangling : Bool

namespace RefCounted

variable {Holder : Type}

def new (count : Int) : RefCounted Holder where
  count := count
  mutex := none
  holding := fun _ => .holds
  deleted := 0
  dangling := false

/-- An access to the object. -/
def touch (σ : RefCounted Holder) : RefCounted Holder :=
  { σ with dangling := σ.dangling || σ.deleted != 0 }

section

variable [DecidableEq Holder]

def set (holder : Holder) (next : Holding) (σ : RefCounted Holder) : RefCounted Holder :=
  { σ with holding := Function.update σ.holding holder next }

/-- A holder goes on with giving its reference back. -/
def step (holder : Holder) (σ : RefCounted Holder) : Option (RefCounted Holder) :=
  match σ.holding holder with
  | .holds => some (σ.set holder .tests)
  | .tests => some (σ.touch.set holder (if 0 < σ.count then .locks else .done))
  | .locks =>
      if σ.mutex = none then some { σ.touch.set holder .loads with mutex := some holder }
      else none
  | .loads => some (σ.touch.set holder (.stores σ.count))
  | .stores count =>
      some { σ.touch.set holder (.unlocks (count = 1)) with count := count - 1 }
  | .unlocks callDelete =>
      some { σ.touch.set holder (if callDelete then .deletes else .done) with mutex := none }
  | .deletes => some { σ.touch.set holder .done with deleted := σ.deleted + 1 }
  | .done => none

/-- A holder leaves where the others are. -/
theorem step_other {σ after : RefCounted Holder} {holder other : Holder}
    (taken : σ.step holder = some after) (differs : other ≠ holder) : after.holding other = σ.holding other := by
  unfold step at taken
  split at taken
  case h_3 =>
    split at taken
    · cases taken
      exact Function.update_of_ne differs _ _
    · cases taken
  case h_8 => cases taken
  all_goals
    cases taken
    exact Function.update_of_ne differs _ _

end

def total [Fintype Holder] (weight : Holding → Nat) (σ : RefCounted Holder) : Nat :=
  Finset.univ.sum (fun holder => weight (σ.holding holder))

/-- The count is the number of references that are held, and the object is deleted, or will
be by one of the holders, exactly if no reference is held. -/
structure Counted [Fintype Holder] (σ : RefCounted Holder) : Prop where
  count : σ.count = σ.total Holding.share
  once : σ.deleted + σ.total Holding.pending = if σ.count = 0 then 1 else 0
  held : ∀ holder, (σ.holding holder).Locked ↔ σ.mutex = some holder
  loaded : ∀ holder count, σ.holding holder = .stores count → count = σ.count
  spared : ∀ holder, σ.holding holder = .unlocks false → σ.count ≠ 0
  alive : σ.dangling = false

variable [Fintype Holder] {σ after : RefCounted Holder} {holder : Holder}

theorem total_new (weight : Holding → Nat) (count : Int) :
    (new count : RefCounted Holder).total weight = Fintype.card Holder * weight .holds :=
  Finset.sum_const_nat (fun _ _ => rfl)

theorem new_counted [Nonempty Holder] :
    Counted (new (Fintype.card Holder) : RefCounted Holder) where
  count := by
    rw [total_new, Holding.share, Nat.mul_one]
    rfl
  once := by
    have none_pending : (new (Fintype.card Holder) : RefCounted Holder).total Holding.pending = 0 :=
      (total_new _ _).trans (Nat.mul_zero _)
    rw [none_pending]
    exact (if_neg (Int.natCast_ne_zero.mpr Fintype.card_ne_zero)).symm
  held _ := ⟨False.elim, nofun⟩
  loaded _ _ := nofun
  spared _ := nofun
  alive := rfl

/-- Only the holder with the mutex changes the count. -/
theorem Counted.unlocked {count : Int} (counted : σ.Counted) {other : Holder}
    (locked : (σ.holding other).Locked) (differs : other ≠ holder)
    (stays : count = σ.count ∨ (σ.holding holder).Locked) : count = σ.count := by
  apply stays.resolve_right
  intro both
  have mine := (counted.held holder).mp both
  rw [(counted.held other).mp locked] at mine
  exact differs (Option.some.inj mine)

/-- When every holder is done the object has been deleted once. -/
theorem Counted.deleted_once (counted : σ.Counted) (done : ∀ holder, σ.holding holder = .done) :
    σ.deleted = 1 := by
  have nothing : ∀ weight : Holding → Nat, weight .done = 0 → σ.total weight = 0 :=
    fun weight none_left => Finset.sum_eq_zero (fun holder _ => done holder ▸ none_left)
  have once := counted.once
  rw [nothing Holding.pending rfl, counted.count, nothing Holding.share rfl] at once
  exact once

variable [DecidableEq Holder] {now : Holding}

theorem total_update (weight : Holding → Nat) (here : σ.holding holder = now) {next : Holding}
    (moved : after.holding = Function.update σ.holding holder next) :
    after.total weight + weight now = σ.total weight + weight next := by
  have rest : (Finset.univ.erase holder).sum (fun other => weight (after.holding other)) =
      (Finset.univ.erase holder).sum (fun other => weight (σ.holding other)) := by
    apply Finset.sum_congr rfl
    intro other inside
    rw [moved, Function.update_of_ne (Finset.ne_of_mem_erase inside)]
  have before := Finset.add_sum_erase Finset.univ (fun other => weight (σ.holding other))
    (Finset.mem_univ holder)
  have after_sum := Finset.add_sum_erase Finset.univ
    (fun other => weight (after.holding other)) (Finset.mem_univ holder)
  have there : after.holding holder = next := by rw [moved, Function.update_self]
  rw [rest, there] at after_sum
  unfold total
  rw [← before, ← after_sum, here]
  omega

theorem le_total (weight : Holding → Nat) (holder : Holder) :
    weight (σ.holding holder) ≤ σ.total weight := by
  have split := Finset.add_sum_erase Finset.univ (fun other => weight (σ.holding other))
    (Finset.mem_univ holder)
  exact (Nat.le_add_right _ _).trans_eq split

/-- The object is not deleted before the last holder is done. -/
theorem Counted.undeleted (counted : σ.Counted) (active : σ.holding holder ≠ .done) :
    σ.deleted = 0 := by
  have once := counted.once
  split at once
  · rename_i zero
    have share := σ.le_total Holding.share holder
    have pending := σ.le_total Holding.pending holder
    have count := counted.count
    cases here : σ.holding holder with
    | unlocks callDelete =>
        cases callDelete with
        | false => exact absurd zero (counted.spared holder here)
        | true =>
            rw [here, Holding.pending] at pending
            omega
    | deletes =>
        rw [here, Holding.pending] at pending
        omega
    | done => exact absurd here active
    | _ =>
        rw [here, Holding.share] at share
        omega
  · omega

/-- An access by a holder that is not done is one to an object that is not deleted. -/
theorem Counted.touch_eq (counted : σ.Counted) (active : σ.holding holder ≠ .done) :
    σ.touch = σ := by
  unfold touch
  rw [bne_eq_false_iff_eq.mpr (counted.undeleted active), Bool.or_false]

/-- A holder moves on, and the count, the mutex and the deletions follow. -/
theorem Counted.move (counted : σ.Counted) (here : σ.holding holder = now) (next : Holding)
    (moved : after.holding = Function.update σ.holding holder next)
    (count : after.count + now.share = σ.count + next.share)
    (once : after.deleted + next.pending + (if σ.count = 0 then 1 else 0) =
      σ.deleted + now.pending + (if after.count = 0 then 1 else 0))
    (held : next.Locked ↔ after.mutex = some holder)
    (others : ∀ other, other ≠ holder → (σ.mutex = some other ↔ after.mutex = some other))
    (loaded : ∀ count, next = .stores count → count = after.count)
    (stays : after.count = σ.count ∨ now.Locked)
    (spared : next = .unlocks false → after.count ≠ 0)
    (alive : after.dangling = false) : after.Counted where
  count := by
    have total := total_update Holding.share here moved
    have before := counted.count
    omega
  once := by
    have total := total_update Holding.pending here moved
    have before := counted.once
    omega
  held other := by
    rw [moved]
    by_cases same : other = holder
    · rw [same, Function.update_self]
      exact held
    · rw [Function.update_of_ne same]
      exact (counted.held other).trans (others other same)
  loaded other count stores := by
    rw [moved] at stores
    by_cases same : other = holder
    · rw [same, Function.update_self] at stores
      exact loaded count stores
    · rw [Function.update_of_ne same] at stores
      have locked : (σ.holding other).Locked := stores ▸ trivial
      rw [← here] at stays
      rw [counted.loaded other count stores, counted.unlocked locked same stays]
  spared other unlocks := by
    rw [moved] at unlocks
    by_cases same : other = holder
    · rw [same, Function.update_self] at unlocks
      exact spared unlocks
    · rw [Function.update_of_ne same] at unlocks
      have locked : (σ.holding other).Locked := unlocks ▸ trivial
      rw [← here] at stays
      rw [counted.unlocked locked same stays]
      exact counted.spared other unlocks
  alive := alive

theorem Counted.step (counted : σ.Counted) (taken : σ.step holder = some after) :
    after.Counted := by
  have held := counted.held holder
  by_cases active : σ.holding holder = .done
  · unfold RefCounted.step at taken
    rw [active] at taken
    cases taken
  · have share := σ.le_total Holding.share holder
    rw [← Int.ofNat_le, ← counted.count] at share
    have undeleted := counted.undeleted active
    unfold RefCounted.step at taken
    rw [counted.touch_eq active] at taken
    cases here : σ.holding holder with
    | holds =>
        rw [here] at taken held
        cases taken
        exact counted.move here .tests rfl rfl rfl held (fun _ _ => Iff.rfl) nofun (Or.inl rfl)
          nofun counted.alive
    | tests =>
        rw [here] at taken held share
        have some_held : 0 < σ.count := share
        rw [if_pos some_held] at taken
        cases taken
        exact counted.move here .locks rfl rfl rfl held (fun _ _ => Iff.rfl) nofun (Or.inl rfl)
          nofun counted.alive
    | locks =>
        simp only [here] at taken
        split at taken
        · rename_i free
          cases taken
          refine counted.move here .loads rfl rfl rfl ⟨fun _ => rfl, fun _ => trivial⟩ ?_ nofun
            (Or.inl rfl) nofun counted.alive
          intro other differs
          rw [free]
          exact ⟨nofun, fun same => absurd (Option.some.inj same).symm differs⟩
        · cases taken
    | loads =>
        rw [here] at taken held
        cases taken
        exact counted.move here (.stores σ.count) rfl rfl rfl held (fun _ _ => Iff.rfl)
          (fun _ same => (Holding.stores.inj same).symm) (Or.inl rfl) nofun counted.alive
    | stores count =>
        rw [here] at taken held share
        have some_held : 1 ≤ σ.count := share
        cases counted.loaded holder count here
        cases taken
        refine counted.move here (.unlocks (σ.count = 1)) rfl ?_ ?_ held (fun _ _ => Iff.rfl)
          nofun (Or.inr trivial) ?_ counted.alive
        · exact (Int.sub_add_cancel _ _).trans (Int.add_zero _).symm
        · by_cases last : σ.count = 1
          · simp only [last]
            rfl
          · have spared : σ.count - 1 ≠ 0 := fun zero => last (Int.sub_eq_zero.mp zero)
            have counts : σ.count ≠ 0 := fun zero => by omega
            simp only [if_neg counts, if_neg spared, decide_eq_false last]
            rfl
        · intro same
          have last := of_decide_eq_false (Holding.unlocks.inj same)
          exact fun zero => last (Int.sub_eq_zero.mp zero)
    | unlocks callDelete =>
        rw [here] at taken held
        have mutex := held.mp trivial
        have others : ∀ other, other ≠ holder → (σ.mutex = some other ↔ none = some other) := by
          intro other differs
          rw [mutex]
          exact ⟨fun same => absurd (Option.some.inj same).symm differs, nofun⟩
        cases callDelete with
        | true =>
            cases taken
            exact counted.move here .deletes rfl rfl rfl ⟨nofun, nofun⟩ others nofun (Or.inl rfl)
              nofun counted.alive
        | false =>
            cases taken
            exact counted.move here .done rfl rfl rfl ⟨nofun, nofun⟩ others nofun (Or.inl rfl)
              nofun counted.alive
    | deletes =>
        rw [here] at taken held
        cases taken
        exact counted.move here .done rfl rfl rfl held (fun _ _ => Iff.rfl) nofun (Or.inl rfl)
          nofun counted.alive
    | done => exact absurd here active

end RefCounted

end A5Common.Run
