import A5Common.Core.LocApiBase

set_option autoImplicit false

namespace A5Common.Core

open A5Common.Run

variable {Adapter : Type}

namespace Adapters

/-- The array is a prefix of distinct adapters, and NULL after it. -/
structure Holds (mLocAdapters : Adapters Adapter) (adapters : List Adapter) : Prop where
  nodup : adapters.Nodup
  fits : adapters.length ≤ MAX_ADAPTERS
  slots : ∀ i (bound : i < MAX_ADAPTERS), mLocAdapters[i] = adapters[i]?

variable {mLocAdapters : Adapters Adapter} {adapters : List Adapter}

/-- What the adapters are from an index on, by the slot there. -/
theorem Holds.drop (holds : mLocAdapters.Holds adapters) {i : Nat} (bound : i < MAX_ADAPTERS) :
    adapters.drop i =
      (mLocAdapters[i]).elim [] (fun found => found :: adapters.drop (i + 1)) := by
  rw [holds.slots i bound]
  by_cases inside : i < adapters.length
  · rw [List.getElem?_eq_getElem inside]
    exact List.drop_eq_getElem_cons inside
  · rw [List.getElem?_eq_none (Nat.le_of_not_lt inside)]
    exact List.drop_eq_nil_of_le (Nat.le_of_not_lt inside)

theorem Holds.toAllFrom (holds : mLocAdapters.Holds adapters) (i : Nat) :
    mLocAdapters.toAllFrom i = adapters.drop i := by
  fun_induction Adapters.toAllFrom mLocAdapters i with
  | case1 i bound null =>
      rw [holds.slots i bound] at null
      exact (List.drop_eq_nil_of_le (List.getElem?_eq_none_iff.mp null)).symm
  | case2 i bound adapter found ih =>
      rw [holds.slots i bound] at found
      obtain ⟨inside, rfl⟩ := List.getElem?_eq_some_iff.mp found
      rw [ih, List.drop_eq_getElem_cons inside]
  | case3 i outside =>
      exact (List.drop_eq_nil_of_le (Nat.le_trans holds.fits (Nat.le_of_not_lt outside))).symm

theorem Holds.toAll (holds : mLocAdapters.Holds adapters) : mLocAdapters.toAll = adapters :=
  holds.toAllFrom 0

theorem firstNull_eq {i : Nat}
    (slots : ∀ j (bound : j < MAX_ADAPTERS), i ≤ j → mLocAdapters[j] = adapters[j]?)
    (fits : adapters.length ≤ MAX_ADAPTERS) (below : i ≤ adapters.length) :
    mLocAdapters.firstNull i = adapters.length := by
  fun_induction firstNull mLocAdapters i with
  | case1 i bound null =>
      rw [slots i bound (Nat.le_refl _)] at null
      exact Nat.le_antisymm below (List.getElem?_eq_none_iff.mp null)
  | case2 i bound adapter found ih =>
      rw [slots i bound (Nat.le_refl _)] at found
      obtain ⟨inside, -⟩ := List.getElem?_eq_some_iff.mp found
      exact ih (fun j bound above => slots j bound (Nat.le_of_succ_le above)) inside
  | case3 i outside => omega

/-- What is left of adapters when one between them is gone: the last moves up. -/
def compacted (front back : List Adapter) : List Adapter :=
  front ++ (back.getLast?.toList ++ back.dropLast)

theorem compacted_perm (front back : List Adapter) :
    (compacted front back).Perm (front ++ back) := by
  unfold compacted
  apply List.Perm.append_left
  rcases List.eq_nil_or_concat' back with rfl | ⟨rest, last, rfl⟩
  · exact .refl _
  · rw [List.getLast?_concat, List.dropLast_concat]
    have moved : ([last] ++ rest).Perm (rest ++ [last]) := List.perm_append_comm
    exact moved

theorem length_compacted (front back : List Adapter) :
    (compacted front back).length = front.length + back.length := by
  rw [(compacted_perm front back).length_eq, List.length_append]

/-- What a removal leaves at each index. -/
theorem getElem?_compacted (front back : List Adapter) (adapter : Adapter) (i : Nat) :
    (compacted front back)[i]? =
      if i = front.length + back.length then none
      else if i = front.length then (front ++ adapter :: back)[front.length + back.length]?
      else (front ++ adapter :: back)[i]? := by
  rcases List.eq_nil_or_concat' back with rfl | ⟨rest, last, rfl⟩
  · unfold compacted
    rw [List.getLast?_nil, Option.toList_none, List.dropLast_nil]
    grind
  · unfold compacted
    rw [List.getLast?_concat, List.dropLast_concat, Option.toList_some]
    grind

/-- A removal at an index leaves the adapters without that one. -/
theorem Holds.removeAt {front back : List Adapter} {adapter : Adapter}
    (holds : mLocAdapters.Holds (front ++ adapter :: back)) (bound : front.length < MAX_ADAPTERS) :
    (LocApiBase.removeAt front.length bound mLocAdapters).1 = front.length + back.length ∧
      Holds (LocApiBase.removeAt front.length bound mLocAdapters).2 (compacted front back) := by
  have length : (front ++ adapter :: back).length = front.length + back.length + 1 := by
    rw [List.length_append, List.length_cons, Nat.add_assoc]
  have last : Adapters.firstNull (mLocAdapters.set front.length none) (front.length + 1) =
      front.length + back.length + 1 := by
    rw [← length]
    apply firstNull_eq
    · intro j inside above
      rw [Vector.getElem_set_ne bound inside (by omega)]
      exact holds.slots j inside
    · exact holds.fits
    · omega
  have index : (LocApiBase.removeAt front.length bound mLocAdapters).1 =
      front.length + back.length := by
    unfold LocApiBase.removeAt
    dsimp only
    rw [last]
    rfl
  refine ⟨index, ?_, ?_, ?_⟩
  · have nodup := holds.nodup
    rw [List.perm_middle.nodup_iff] at nodup
    exact (compacted_perm front back).nodup_iff.mpr nodup.of_cons
  · have fits := holds.fits
    rw [length_compacted]
    omega
  · intro i inside
    rw [getElem?_compacted front back adapter]
    simp only [LocApiBase.removeAt, last, Nat.add_sub_cancel, Vector.getElem_set]
    by_cases past : i = front.length + back.length
    · rw [if_pos past.symm, if_pos past]
    · rw [if_neg (Ne.symm past), if_neg past]
      by_cases here : i = front.length
      · have others : ¬ front.length = front.length + back.length := here ▸ past
        rw [if_pos here.symm, if_pos here, if_neg others]
        exact holds.slots _ _
      · rw [if_neg (Ne.symm here), if_neg (Ne.symm here), if_neg here]
        exact holds.slots i inside

end Adapters

namespace LocApiBase

variable {σ : LocApiBase Adapter} {adapters : List Adapter}

/-- The mask of the adapters has the bits that some adapter has, less the excluded ones. -/
theorem getEvtMask_bit (holds : σ.mLocAdapters.Holds adapters) (mEvtMask : Adapter → EventMask)
    (bit : Nat) (inside : bit < 32) :
    (σ.getEvtMask mEvtMask).getLsbD bit =
      (adapters.any (fun adapter => (mEvtMask adapter).getLsbD bit) &&
        !σ.mExcludedMask.getLsbD bit) := by
  have all : ∀ mask : EventMask,
      (adapters.foldl (fun mask adapter => mask ||| mEvtMask adapter) mask).getLsbD bit =
        (mask.getLsbD bit || adapters.any (fun adapter => (mEvtMask adapter).getLsbD bit)) := by
    clear holds
    induction adapters with
    | nil => exact fun mask => (Bool.or_false _).symm
    | cons adapter rest ih =>
        intro mask
        rw [List.foldl_cons, ih, BitVec.getLsbD_or, List.any_cons, Bool.or_assoc]
  have zero : (0 : EventMask).getLsbD bit = false := BitVec.getLsbD_zero
  unfold getEvtMask
  rw [holds.toAll, BitVec.getLsbD_and, BitVec.getLsbD_not, all, decide_eq_true inside,
    Bool.true_and, zero, Bool.false_or]

variable [DecidableEq Adapter] {adapter : Adapter} (mEvtMask : Adapter → EventMask)

/-- An adapter that is registered is not added again. -/
theorem addFrom_registered (holds : σ.mLocAdapters.Holds adapters) {i : Nat}
    (member : adapter ∈ adapters.drop i) : σ.addFrom mEvtMask adapter i = σ := by
  fun_induction addFrom mEvtMask adapter i σ with
  | case1 => rfl
  | case2 i bound other null =>
      rw [holds.drop bound, null] at member
      exact absurd member List.not_mem_nil
  | case3 i bound other some ih =>
      obtain ⟨found, here⟩ := Option.ne_none_iff_exists'.mp some
      rw [here, Option.some.injEq] at other
      rw [holds.drop bound, here] at member
      exact ih ((List.mem_cons.mp member).resolve_left (Ne.symm other))
  | case4 => rfl

/-- An adapter that is not registered is added after those that are. -/
theorem addFrom_new (holds : σ.mLocAdapters.Holds adapters) {i : Nat}
    (absent : adapter ∉ adapters.drop i) (below : i ≤ adapters.length)
    (room : adapters.length < MAX_ADAPTERS) :
    σ.addFrom mEvtMask adapter i = sendMsg (mEvtMask adapter)
      { σ with mLocAdapters := σ.mLocAdapters.set adapters.length (some adapter) } := by
  fun_induction addFrom mEvtMask adapter i σ with
  | case1 i bound same =>
      rw [holds.drop bound, same] at absent
      exact absurd List.mem_cons_self absent
  | case2 i bound other null =>
      rw [holds.slots i bound] at null
      obtain rfl := Nat.le_antisymm below (List.getElem?_eq_none_iff.mp null)
      rfl
  | case3 i bound other some ih =>
      obtain ⟨found, here⟩ := Option.ne_none_iff_exists'.mp some
      have inside := holds.slots i bound
      rw [here] at inside
      obtain ⟨before, -⟩ := List.getElem?_eq_some_iff.mp inside.symm
      rw [holds.drop bound, here] at absent
      exact ih (fun later => absent (List.mem_cons_of_mem _ later)) before
  | case4 i outside => omega

omit [DecidableEq Adapter] in
theorem holds_add (holds : σ.mLocAdapters.Holds adapters) (absent : adapter ∉ adapters)
    (room : adapters.length < MAX_ADAPTERS) :
    Adapters.Holds (σ.mLocAdapters.set adapters.length (some adapter)) (adapters ++ [adapter]) := by
  refine ⟨?_, ?_, ?_⟩
  · exact (List.perm_append_singleton adapter adapters).nodup_iff.mpr
      (List.nodup_cons.mpr ⟨absent, holds.nodup⟩)
  · rw [List.length_append, List.length_singleton]
    exact room
  · intro i bound
    rw [Vector.getElem_set, List.getElem?_append, holds.slots i bound]
    split
    · rename_i here
      rw [← here, if_neg (Nat.lt_irrefl _), Nat.sub_self]
      rfl
    · split
      · rfl
      · rw [List.getElem?_eq_none (by omega), List.getElem?_eq_none (by
          rw [List.length_singleton]
          omega)]

/-- An adapter that is not registered is not removed. -/
theorem removeFrom_absent (holds : σ.mLocAdapters.Holds adapters) {i : Nat}
    (absent : adapter ∉ adapters.drop i) : σ.removeFrom mEvtMask adapter i = σ := by
  fun_induction removeFrom mEvtMask adapter i σ with
  | case1 => rfl
  | case2 i σ bound removed rest found ih =>
      rw [holds.drop bound, found] at absent
      exact absurd List.mem_cons_self absent
  | case3 i σ bound other found differs ih =>
      rw [holds.drop bound, found] at absent
      exact ih holds (fun later => absent (List.mem_cons_of_mem _ later))
  | case4 => rfl

/-- The loop stops behind the adapter that it has removed. -/
theorem removeFrom_registered {front back : List Adapter}
    (holds : σ.mLocAdapters.Holds (front ++ adapter :: back)) {i : Nat}
    (before : i ≤ front.length) :
    ∃ rest : LocApiBase Adapter, rest.mLocAdapters.Holds (Adapters.compacted front back) ∧
      rest.mExcludedMask = σ.mExcludedMask ∧ rest.calls = σ.calls ∧
      σ.removeFrom mEvtMask adapter i =
        if front.length + back.length = 0 then rest.close
        else rest.sendMsg (rest.getEvtMask mEvtMask) := by
  fun_induction removeFrom mEvtMask adapter i σ with
  | case1 i σ bound null =>
      rw [holds.slots i bound, List.getElem?_eq_none_iff, List.length_append,
        List.length_cons] at null
      omega
  | case2 i σ bound removed rest found ih =>
      have here : i = front.length := by
        rw [holds.slots i bound] at found
        apply Nat.le_antisymm before
        apply Nat.le_of_not_lt
        intro earlier
        rw [List.getElem?_append_left earlier] at found
        have twice := List.mem_of_getElem? found
        have nodup := holds.nodup
        rw [List.nodup_append] at nodup
        exact nodup.2.2 adapter twice adapter List.mem_cons_self rfl
      subst here
      obtain ⟨last, left⟩ := holds.removeAt bound
      refine ⟨rest, left, rfl, rfl, ?_⟩
      have passed : adapter ∉
          (Adapters.compacted front back).drop (front.length + back.length + 1) := by
        rw [List.drop_eq_nil_of_le (by rw [Adapters.length_compacted]; omega)]
        exact List.not_mem_nil
      have index : removed.1 = front.length + back.length := last
      rw [index]
      split
      · exact removeFrom_absent mEvtMask left passed
      · exact removeFrom_absent mEvtMask left passed
  | case3 i σ bound other found differs ih =>
      have further : i ≠ front.length := by
        intro here
        rw [holds.slots i bound, here, List.getElem?_append_right (Nat.le_refl _),
          Nat.sub_self, List.getElem?_cons_zero, Option.some.injEq] at found
        exact differs found.symm
      exact ih holds (by omega)
  | case4 i σ outside =>
      have fits := holds.fits
      rw [List.length_append, List.length_cons] at fits
      omega

end LocApiBase

variable [DecidableEq Adapter]

/-- A `LocApiBase`, and the adapters that were added and not removed since. -/
structure Registry (Adapter : Type) where
  api : LocApiBase Adapter
  registered : List Adapter

namespace Registry

inductive Call (Adapter : Type) where
  | addAdapter (mEvtMask : Adapter → EventMask) (adapter : Adapter)
  | removeAdapter (mEvtMask : Adapter → EventMask) (adapter : Adapter)

def registeredAfter (registered : List Adapter) : Call Adapter → List Adapter
  | .addAdapter _ adapter =>
      if adapter ∈ registered then registered else adapter :: registered
  | .removeAdapter _ adapter => registered.erase adapter

def call (σ : Registry Adapter) (next : Call Adapter) : Registry Adapter where
  api :=
    match next with
    | .addAdapter mEvtMask adapter => σ.api.addAdapter mEvtMask adapter
    | .removeAdapter mEvtMask adapter => σ.api.removeAdapter mEvtMask adapter
  registered := registeredAfter σ.registered next

/-- A call after which no more adapters are registered than there are slots. -/
def FewEnough (σ : Registry Adapter) (next : Call Adapter) : Prop :=
  (registeredAfter σ.registered next).length ≤ MAX_ADAPTERS

instance (σ : Registry Adapter) (next : Call Adapter) : Decidable (FewEnough σ next) :=
  inferInstanceAs (Decidable (_ ≤ _))

theorem call_excluded (σ : Registry Adapter) (next : Call Adapter) :
    (σ.call next).api.mExcludedMask = σ.api.mExcludedMask := by
  cases next with
  | addAdapter mEvtMask adapter => exact LocApiBase.addFrom_excluded mEvtMask adapter 0 σ.api
  | removeAdapter mEvtMask adapter =>
      exact LocApiBase.removeFrom_excluded mEvtMask adapter 0 σ.api

/-- The slots hold the adapters that are registered. -/
def Sound (σ : Registry Adapter) : Prop :=
  ∃ adapters, σ.api.mLocAdapters.Holds adapters ∧ adapters.Perm σ.registered

theorem Sound.addAdapter {σ : Registry Adapter} (sound : σ.Sound)
    {mEvtMask : Adapter → EventMask} {adapter : Adapter}
    (few : FewEnough σ (.addAdapter mEvtMask adapter)) :
    (σ.call (.addAdapter mEvtMask adapter)).Sound := by
  obtain ⟨adapters, holds, same⟩ := sound
  unfold FewEnough at few
  unfold call
  dsimp only [registeredAfter] at few ⊢
  by_cases member : adapter ∈ σ.registered
  · have added := LocApiBase.addFrom_registered mEvtMask holds (i := 0) (same.mem_iff.mpr member)
    rw [if_pos member]
    refine ⟨adapters, ?_, same⟩
    dsimp only [LocApiBase.addAdapter]
    rw [added]
    exact holds
  · rw [if_neg member, List.length_cons] at few
    have absent : adapter ∉ adapters := fun stored => member (same.mem_iff.mp stored)
    have room : adapters.length < MAX_ADAPTERS := by
      rw [same.length_eq]
      exact few
    have added := LocApiBase.addFrom_new mEvtMask holds (i := 0) absent (Nat.zero_le _) room
    rw [if_neg member]
    refine ⟨adapters ++ [adapter], ?_, ?_⟩
    · dsimp only [LocApiBase.addAdapter]
      rw [added]
      exact LocApiBase.holds_add holds absent room
    · exact (List.perm_append_singleton adapter adapters).trans (same.cons adapter)

/-- What a removal leaves, and what it makes happen. -/
theorem Sound.removeAdapter {σ : Registry Adapter} (sound : σ.Sound)
    (mEvtMask : Adapter → EventMask) (adapter : Adapter) :
    (σ.call (.removeAdapter mEvtMask adapter)).Sound ∧
      ∃ made, (σ.api.removeAdapter mEvtMask adapter).calls = σ.api.calls ++ made ∧
        made.count .close = if σ.registered = [adapter] then 1 else 0 := by
  obtain ⟨adapters, holds, same⟩ := sound
  unfold call
  dsimp only [registeredAfter, LocApiBase.removeAdapter]
  by_cases member : adapter ∈ adapters
  · obtain ⟨front, back, rfl⟩ := List.append_of_mem member
    obtain ⟨rest, left, -, calls, removed⟩ :=
      LocApiBase.removeFrom_registered mEvtMask holds (Nat.zero_le _)
    have kept : (Adapters.compacted front back).Perm (σ.registered.erase adapter) := by
      have cut : adapter ∉ front := by
        have nodup := holds.nodup
        rw [List.nodup_append] at nodup
        exact fun early => nodup.2.2 adapter early adapter List.mem_cons_self rfl
      have erased := same.erase adapter
      rw [List.erase_append_right _ cut, List.erase_cons_head] at erased
      exact (Adapters.compacted_perm front back).trans erased
    have total := same.length_eq
    rw [List.length_append, List.length_cons] at total
    rw [removed]
    by_cases last : front.length + back.length = 0
    · rw [if_pos last]
      refine ⟨⟨_, left, kept⟩, [.close], ?_, ?_⟩
      · rw [← calls]
        rfl
      · have only : σ.registered = [adapter] := by
          obtain ⟨other, one⟩ := List.length_eq_one_iff.mp (total.symm.trans (by omega))
          have found := same.mem_iff.mp member
          rw [one, List.mem_singleton] at found
          rw [one, found]
        rw [if_pos only]
        rfl
    · rw [if_neg last]
      refine ⟨⟨_, left, kept⟩, [.sendOpen (rest.getEvtMask mEvtMask)], ?_, ?_⟩
      · rw [← calls]
        rfl
      · have others : σ.registered ≠ [adapter] := by
          intro only
          rw [only, List.length_singleton] at total
          omega
        rw [if_neg others]
        rfl
  · have absent : adapter ∉ σ.registered := fun stored => member (same.mem_iff.mpr stored)
    have kept := LocApiBase.removeFrom_absent mEvtMask holds (i := 0) member
    rw [kept, List.erase_of_not_mem absent]
    refine ⟨⟨adapters, holds, same⟩, [], (List.append_nil _).symm, ?_⟩
    have others : σ.registered ≠ [adapter] := by
      intro only
      rw [only] at absent
      exact absent (List.mem_singleton_self adapter)
    rw [if_neg others]
    rfl

end Registry

/-- Any calls on a `LocApiBase` with an excluded mask. -/
def registry (mExcludedMask : EventMask) : System (Registry Adapter) (Registry.Call Adapter) where
  initial σ := σ = ⟨.new mExcludedMask, []⟩
  step σ next := some (σ.call next)

/-- As long as no more than `MAX_ADAPTERS` adapters are registered at a time, the slots are
a prefix of the registered ones, each once. Each of them is reached once by an event, the
mask is the union of theirs less what is excluded, and a removal closes when it is that
of the last one. -/
theorem adapters_registered {mExcludedMask : EventMask} {σ : Registry Adapter}
    (run : (registry mExcludedMask).ReachableUnder Registry.FewEnough σ) :
    (∃ adapters : List Adapter, adapters.Nodup ∧
        (∀ adapter, adapter ∈ adapters ↔ adapter ∈ σ.registered) ∧
        adapters.length ≤ MAX_ADAPTERS ∧
        (∀ i (bound : i < MAX_ADAPTERS), σ.api.mLocAdapters[i] = adapters[i]?)) ∧
      (∀ adapter, σ.api.mLocAdapters.toAll.count adapter =
        if adapter ∈ σ.registered then 1 else 0) ∧
      (∀ (mEvtMask : Adapter → EventMask) (bit : Nat), bit < 32 →
        (σ.api.getEvtMask mEvtMask).getLsbD bit =
          (σ.registered.any (fun adapter => (mEvtMask adapter).getLsbD bit) &&
            !mExcludedMask.getLsbD bit)) ∧
      ∀ mEvtMask adapter, ∃ made,
        (σ.api.removeAdapter mEvtMask adapter).calls = σ.api.calls ++ made ∧
          made.count .close = if σ.registered = [adapter] then 1 else 0 := by
  have sound : σ.Sound ∧ σ.api.mExcludedMask = mExcludedMask := by
    apply run.invariant (fun σ => σ.Sound ∧ σ.api.mExcludedMask = mExcludedMask)
    · intro σ first
      rw [first]
      refine ⟨⟨[], ⟨List.nodup_nil, Nat.zero_le _, ?_⟩, .refl _⟩, rfl⟩
      intro i bound
      exact Vector.getElem_replicate bound
    · intro before next after _ ⟨sound, excluded⟩ few taken
      obtain rfl := Option.some.inj taken
      refine ⟨?_, (before.call_excluded next).trans excluded⟩
      cases next with
      | addAdapter mEvtMask adapter => exact sound.addAdapter few
      | removeAdapter mEvtMask adapter => exact (sound.removeAdapter mEvtMask adapter).1
  obtain ⟨sound, excluded⟩ := sound
  obtain ⟨adapters, holds, same⟩ := id sound
  refine ⟨⟨adapters, holds.nodup, fun _ => same.mem_iff, holds.fits, holds.slots⟩, ?_, ?_, ?_⟩
  · intro adapter
    rw [holds.toAll, holds.nodup.count]
    simp only [same.mem_iff]
  · intro mEvtMask bit inside
    rw [LocApiBase.getEvtMask_bit holds mEvtMask bit inside, excluded, same.any_eq]
  · exact fun mEvtMask adapter => (sound.removeAdapter mEvtMask adapter).2

/-- Three adapters, one of them added twice, and the first one removed. -/
theorem adapters_registered_three :
    ∃ σ, (registry 4).execUnder Registry.FewEnough ⟨.new 4, []⟩
        [.addAdapter (BitVec.ofNat 32) 1, .addAdapter (BitVec.ofNat 32) 2,
          .addAdapter (BitVec.ofNat 32) 1, .addAdapter (BitVec.ofNat 32) 5,
          .removeAdapter (BitVec.ofNat 32) 1] = some σ ∧
      (σ.api.mLocAdapters.toAll = [5, 2] ∧ σ.api.getEvtMask (BitVec.ofNat 32) = 3) ∧
      (∀ adapter, σ.api.mLocAdapters.toAll.count adapter =
        if adapter ∈ σ.registered then 1 else 0) ∧
      ∀ mEvtMask adapter, ∃ made,
        (σ.api.removeAdapter mEvtMask adapter).calls = σ.api.calls ++ made ∧
          made.count .close = if σ.registered = [adapter] then 1 else 0 := by
  apply System.execUnder_then rfl
  · intro σ run _
    have registered := adapters_registered run
    exact ⟨registered.2.1, registered.2.2.2⟩
  · decide +kernel

end A5Common.Core
