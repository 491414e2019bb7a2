import A5Common.Timer.HeapOrder

set_option autoImplicit false

namespace A5Common.Timer

open A5Common.Run

universe u

namespace LocHeapNode

variable {α : Type u}

section

variable (outRanks : α → α → Bool)

/-- A tree that data are pushed to and nothing else. -/
def pushAll (data : List α) : LocHeapNode α :=
  data.foldl (push outRanks) null

/-- A pop that returns data returns the top, and leaves the rest. -/
theorem pop_some {tree rest : LocHeapNode α} {data : α}
    (popped : tree.pop outRanks = (some data, rest)) :
    tree.peek = some data ∧ rest = tree.popTop outRanks :=
  ⟨congrArg Prod.fst popped, (congrArg Prod.snd popped).symm⟩

/-- What `LocHeap::pop` returns when it is called until it returns NULL. -/
def popAll (tree : LocHeapNode α) : List α :=
  match _ : tree.pop outRanks with
  | (none, _) => []
  | (some data, rest) => data :: popAll rest
termination_by tree.toList.length
decreasing_by
  rename_i popped
  obtain ⟨top, rfl⟩ := pop_some outRanks popped
  have fewer := (pop_perm outRanks top).length_eq
  rw [List.length_cons] at fewer
  omega

/-- `LocHeapNode::remove` without the comparison that cuts its search short. -/
def removeExhaustive [DecidableEq α] (data : α) : LocHeapNode α → Option (LocHeapNode α)
  | null => none
  | node mSize mLeft mRight mData =>
      if data = mData then
        some (popTop outRanks (node mSize mLeft mRight mData))
      else
        match mLeft.removeExhaustive data with
        | some left => some (node (mSize - 1) left mRight mData)
        | none =>
            (mRight.removeExhaustive data).map (fun right => node (mSize - 1) mLeft right mData)

theorem popAll_null : (null : LocHeapNode α).popAll outRanks = [] := by
  unfold popAll
  rfl

theorem popAll_of_peek {tree : LocHeapNode α} {data : α} (top : tree.peek = some data) :
    tree.popAll outRanks = data :: (tree.popTop outRanks).popAll outRanks := by
  rw [popAll]
  split
  · rename_i empty
    cases top.symm.trans (congrArg Prod.fst empty)
  · rename_i popped
    obtain ⟨again, rfl⟩ := pop_some outRanks popped
    cases top.symm.trans again
    rfl

end

variable {outRanks : α → α → Bool}

theorem peek_eq_none {tree : LocHeapNode α} : tree.peek = none ↔ tree = null := by
  cases tree with
  | null => exact ⟨fun _ => rfl, fun _ => rfl⟩
  | node mSize mLeft mRight mData => exact ⟨nofun, nofun⟩

theorem popAll_perm (tree : LocHeapNode α) : (tree.popAll outRanks).Perm tree.toList := by
  induction tree using popAll.induct outRanks with
  | case1 tree rest popped =>
      obtain rfl := peek_eq_none.mp (congrArg Prod.fst popped)
      rw [popAll_null]
      exact .refl _
  | case2 tree data rest popped ih =>
      obtain ⟨top, rfl⟩ := pop_some outRanks popped
      rw [popAll_of_peek outRanks top]
      exact (ih.cons data).trans (pop_perm outRanks top).symm

/-- The data come out of an ordered tree from the highest on. -/
theorem Ordered.popAll (comparable : Comparable outRanks (fun _ => True))
    {tree : LocHeapNode α} (ordered : tree.Ordered outRanks) :
    (tree.popAll outRanks).Pairwise (fun earlier later => outRanks later earlier = false) := by
  induction tree using popAll.induct outRanks with
  | case1 tree rest popped =>
      obtain rfl := peek_eq_none.mp (congrArg Prod.fst popped)
      rw [popAll_null]
      exact .nil
  | case2 tree data rest popped ih =>
      obtain ⟨top, rfl⟩ := pop_some outRanks popped
      have known : ∀ other ∈ tree.toList, True := fun _ _ => trivial
      have below := ordered.below_peek comparable known top
      rw [popAll_of_peek outRanks top]
      refine .cons ?_ (ih (ordered.popTop comparable known))
      intro later member
      exact below later (popTop_subset tree ((popAll_perm _).mem_iff.mp member))

/-- Parents that rank above their children rank above all that is below them. -/
theorem ParentRanks.ordered (comparable : Comparable outRanks (fun _ => True))
    {tree : LocHeapNode α} (ranks : tree.ParentRanks outRanks) : tree.Ordered outRanks := by
  induction tree with
  | null => trivial
  | node mSize mLeft mRight mData left right =>
      obtain ⟨rankedLeft, rankedRight, ranksLeft, ranksRight⟩ := ranks
      have orderedLeft := left ranksLeft
      have orderedRight := right ranksRight
      exact ⟨below_of_peek comparable orderedLeft (fun _ _ => trivial) trivial rankedLeft,
        below_of_peek comparable orderedRight (fun _ _ => trivial) trivial rankedRight,
        orderedLeft, orderedRight⟩

theorem removeExhaustive_eq_none [DecidableEq α] {tree : LocHeapNode α} {data : α}
    (absent : data ∉ tree.toList) : tree.removeExhaustive outRanks data = none := by
  induction tree with
  | null => rfl
  | node mSize mLeft mRight mData left right =>
      rw [toList_node, List.mem_cons, List.mem_append, not_or, not_or] at absent
      obtain ⟨other, absentLeft, absentRight⟩ := absent
      unfold removeExhaustive
      rw [if_neg other, left absentLeft, right absentRight]
      rfl

/-- In an ordered tree the search is cut short only where the data is not stored. -/
theorem Ordered.removeNode_eq [DecidableEq α] {tree : LocHeapNode α} {data : α}
    (ordered : tree.Ordered outRanks) :
    tree.removeNode outRanks data = tree.removeExhaustive outRanks data := by
  induction tree with
  | null => rfl
  | node mSize mLeft mRight mData left right =>
      obtain ⟨belowLeft, belowRight, orderedLeft, orderedRight⟩ := ordered
      unfold LocHeapNode.removeNode removeExhaustive
      by_cases same : data = mData
      · rw [if_pos same, if_pos same]
      · rw [if_neg same, if_neg same]
        by_cases higher : outRanks data mData = true
        · have absentLeft : data ∉ mLeft.toList := fun member =>
            absurd (belowLeft data member) (Bool.not_eq_false _ ▸ higher)
          have absentRight : data ∉ mRight.toList := fun member =>
            absurd (belowRight data member) (Bool.not_eq_false _ ▸ higher)
          rw [if_pos higher, removeExhaustive_eq_none absentLeft,
            removeExhaustive_eq_none absentRight]
          rfl
        · rewrite [if_neg higher, left orderedLeft, right orderedRight]
          rfl

end LocHeapNode

/-- In any heap a pop returns data that nothing stored outranks, or NULL if there is none,
and pops until NULL return all that is stored, from the highest on. -/
theorem pop_priority {α : Type u} [DecidableEq α] {outRanks : α → α → Bool} {le : α → α → Prop}
    (ranks : RanksBy outRanks le) {heap : LocHeap α}
    (run : (LocHeap.calls outRanks).Reachable heap) :
    ((heap.mTree.pop outRanks).1 = none ↔ heap.mTree = .null) ∧
      (∀ data, (heap.mTree.pop outRanks).1 = some data →
        data ∈ heap.mTree.toList ∧ ∀ other ∈ heap.mTree.toList, outRanks other data = false) ∧
      (heap.mTree.popAll outRanks).Perm heap.mTree.toList ∧
      (heap.mTree.popAll outRanks).Pairwise
        (fun earlier later => outRanks later earlier = false) := by
  have comparable := ranks.comparable
  have correct := LocHeap.correct_of_calls comparable run
  refine ⟨LocHeapNode.peek_eq_none, ?_, LocHeapNode.popAll_perm _,
    correct.ordered.popAll comparable⟩
  intro data top
  exact ⟨LocHeapNode.peek_mem top,
    correct.ordered.below_peek comparable (fun _ _ => trivial) top⟩

theorem pop_priority_three :
    ∃ heap, (LocHeap.calls (fun a b : Nat => decide (a < b))).exec .empty
        [.push 3, .push 1, .push 2] = some heap ∧
      ((heap.mTree.pop (fun a b : Nat => decide (a < b))).1 = none ↔ heap.mTree = .null) ∧
      (∀ data, (heap.mTree.pop (fun a b : Nat => decide (a < b))).1 = some data →
        data ∈ heap.mTree.toList ∧
          ∀ other ∈ heap.mTree.toList, decide (other < data) = false) ∧
      (heap.mTree.popAll (fun a b : Nat => decide (a < b))).Perm heap.mTree.toList ∧
      (heap.mTree.popAll (fun a b : Nat => decide (a < b))).Pairwise
        (fun earlier later => decide (later < earlier) = false) := by
  refine ⟨_, rfl, ?_⟩
  have run : (LocHeap.calls (fun a b : Nat => decide (a < b))).Reachable _ :=
    System.ReachableUnder.exec (.start rfl) [.push 3, .push 1, .push 2] rfl
  exact pop_priority ranksBy_less run

/-- The removal of data that an ordered heap stores once, or not at all, does what a search
of the whole tree does. -/
theorem remove_exact {α : Type u} [DecidableEq α] {outRanks : α → α → Bool} {le : α → α → Prop}
    (ranks : RanksBy outRanks le) {tree : LocHeapNode α} (ordered : tree.ParentRanks outRanks)
    {data : α} (once : tree.toList.count data ≤ 1) :
    (data ∈ tree.toList →
      ∃ rest, tree.remove outRanks data = (some data, rest) ∧
        rest.toList.Perm (tree.toList.filter (fun other => other ≠ data)) ∧
        rest.ParentRanks outRanks ∧ (tree.Sized → rest.Sized)) ∧
      (data ∉ tree.toList → tree.remove outRanks data = (none, tree)) ∧
      tree.removeNode outRanks data = tree.removeExhaustive outRanks data := by
  have comparable := ranks.comparable
  have inOrder := ordered.ordered comparable
  have searched : tree.removeNode outRanks data = tree.removeExhaustive outRanks data :=
    inOrder.removeNode_eq
  refine ⟨?_, ?_, searched⟩
  · intro stored
    obtain ⟨rest, found⟩ := Option.isSome_iff_exists.mp (inOrder.removeNode_isSome stored)
    have removed : tree.remove outRanks data = (some data, rest) := by
      unfold LocHeapNode.remove
      rw [found]
    have gone := inOrder.not_mem_remove once
    rw [removed] at gone
    have others : (data :: rest.toList).filter (fun other => other ≠ data) = rest.toList := by
      rw [List.filter_cons_of_neg (by simp)]
      apply List.filter_eq_self.mpr
      intro other member
      exact decide_eq_true (fun same => gone (same ▸ member))
    have left := (LocHeapNode.removeNode_perm outRanks found).filter (fun other => other ≠ data)
    rw [others] at left
    have kept := inOrder.removeNode comparable (fun _ _ => trivial) found
    exact ⟨rest, removed, left.symm, kept.parentRanks, fun sized => sized.removeNode found⟩
  · intro absent
    unfold LocHeapNode.remove
    rw [searched, LocHeapNode.removeExhaustive_eq_none absent]

/-- Of four numbers, two of them equal in rank, one that is not the top. -/
theorem remove_exact_pair :
    let outRanks := fun a b : Nat × Bool => decide (a.1 < b.1)
    let tree := LocHeapNode.pushAll outRanks [(2, true), (1, true), (2, false), (3, true)]
    ((2, false) ∈ tree.toList →
      ∃ rest, tree.remove outRanks (2, false) = (some (2, false), rest) ∧
        rest.toList.Perm (tree.toList.filter (fun other => other ≠ (2, false))) ∧
        rest.ParentRanks outRanks ∧ (tree.Sized → rest.Sized)) ∧
      ((2, false) ∉ tree.toList → tree.remove outRanks (2, false) = (none, tree)) ∧
      tree.removeNode outRanks (2, false) = tree.removeExhaustive outRanks (2, false) := by
  intro outRanks tree
  have ranks : RanksBy outRanks (fun a b => b.1 ≤ a.1) :=
    .of_key Prod.fst (fun _ _ => decide_eq_true_iff)
  have valid : tree.checkNodes outRanks = true := by decide +kernel
  exact remove_exact ranks ((LocHeapNode.checkNodes_iff tree).mp valid).1 (by decide +kernel)

end A5Common.Timer
