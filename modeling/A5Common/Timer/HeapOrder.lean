import A5Common.Run.System
import A5Common.Timer.LocHeap
import Mathlib.Data.Multiset.AddSub
import Mathlib.Order.Lattice

set_option autoImplicit false

namespace A5Common.Timer

open A5Common.Run

universe u v

/-- Among these data the comparison is the strict part of a total preorder. -/
structure Comparable {α : Type u} (outRanks : α → α → Bool) (among : α → Prop) : Prop where
  asymm : ∀ a b, among a → among b → outRanks a b = true → outRanks b a = false
  trans : ∀ a b c, among a → among b → among c →
    outRanks a b = false → outRanks b c = false → outRanks a c = false

namespace LocHeapNode

variable {α : Type u}

section

variable (outRanks : α → α → Bool)

/-- `LocHeapNode::checkNodes`, and `LocHeap::checkTree` of an empty tree. -/
def checkNodes : LocHeapNode α → Bool
  | null => true
  | node mSize mLeft mRight mData =>
      (mLeft.peek.all (fun top => !outRanks top mData) && mLeft.checkNodes) &&
        (mRight.peek.all (fun top => !outRanks top mData) && mRight.checkNodes) &&
        mSize - mLeft.getSize - mRight.getSize == 1

/-- No node outranks its parent. -/
def ParentRanks : LocHeapNode α → Prop
  | null => True
  | node _ mLeft mRight mData =>
      (∀ top ∈ mLeft.peek, outRanks top mData = false) ∧
        (∀ top ∈ mRight.peek, outRanks top mData = false) ∧
        mLeft.ParentRanks ∧ mRight.ParentRanks

/-- Nothing in the tree outranks the data. -/
def Below (data : α) (tree : LocHeapNode α) : Prop :=
  ∀ other ∈ tree.toList, outRanks other data = false

/-- No node outranks any node above it. -/
def Ordered : LocHeapNode α → Prop
  | null => True
  | node _ mLeft mRight mData =>
      Below outRanks mData mLeft ∧ Below outRanks mData mRight ∧ mLeft.Ordered ∧ mRight.Ordered

end

/-- Every `mSize` is the number of nodes of its subtree. -/
def Sized : LocHeapNode α → Prop
  | null => True
  | node mSize mLeft mRight _ =>
      mSize = mLeft.toList.length + mRight.toList.length + 1 ∧ mLeft.Sized ∧ mRight.Sized

theorem Sized.getSize {tree : LocHeapNode α} (sized : tree.Sized) :
    tree.getSize = tree.toList.length := by
  cases tree with
  | null => rfl
  | node mSize mLeft mRight mData =>
      rw [LocHeapNode.getSize, sized.1]
      simp only [toList_node, List.length_cons, List.length_append]
      omega

variable {outRanks : α → α → Bool}

theorem Ordered.parentRanks {tree : LocHeapNode α} (ordered : tree.Ordered outRanks) :
    tree.ParentRanks outRanks := by
  induction tree with
  | null => trivial
  | node mSize mLeft mRight mData left right =>
      obtain ⟨belowLeft, belowRight, orderedLeft, orderedRight⟩ := ordered
      exact ⟨fun top peeked => belowLeft top (peek_mem peeked),
        fun top peeked => belowRight top (peek_mem peeked), left orderedLeft, right orderedRight⟩

/-- The check of the source tests the ranks and the sizes. -/
theorem checkNodes_iff (tree : LocHeapNode α) :
    tree.checkNodes outRanks = true ↔ tree.ParentRanks outRanks ∧ tree.Sized := by
  induction tree with
  | null => exact ⟨fun _ => ⟨trivial, trivial⟩, fun _ => rfl⟩
  | node mSize mLeft mRight mData left right =>
      simp only [checkNodes, Bool.and_eq_true, Option.all_eq_true, Bool.not_eq_eq_eq_not,
        Bool.not_true, beq_iff_eq, left, right]
      constructor
      · intro ⟨⟨⟨rankedLeft, ranksLeft, sizedLeft⟩, rankedRight, ranksRight, sizedRight⟩, total⟩
        rw [sizedLeft.getSize, sizedRight.getSize] at total
        have size : mSize = mLeft.toList.length + mRight.toList.length + 1 := by omega
        exact ⟨⟨rankedLeft, rankedRight, ranksLeft, ranksRight⟩, size, sizedLeft, sizedRight⟩
      · intro ⟨⟨rankedLeft, rankedRight, ranksLeft, ranksRight⟩, size, sizedLeft, sizedRight⟩
        refine ⟨⟨⟨rankedLeft, ranksLeft, sizedLeft⟩, rankedRight, ranksRight, sizedRight⟩, ?_⟩
        rw [sizedLeft.getSize, sizedRight.getSize]
        omega

theorem push_length (tree : LocHeapNode α) (data : α) :
    (tree.push outRanks data).toList.length = tree.toList.length + 1 :=
  (push_perm outRanks tree data).length_eq

theorem Sized.push {tree : LocHeapNode α} (sized : tree.Sized) (data : α) :
    (tree.push outRanks data).Sized := by
  induction tree generalizing data with
  | null => exact ⟨rfl, trivial, trivial⟩
  | node mSize mLeft mRight mData left right =>
      obtain ⟨size, sizedLeft, sizedRight⟩ := sized
      obtain ⟨top, incoming, -, pushed⟩ := push_node outRanks mSize mLeft mRight mData data
      rcases pushed with pushed | pushed
      · rw [pushed]
        refine ⟨?_, left sizedLeft incoming, sizedRight⟩
        rw [push_length, size]
        omega
      · rw [pushed]
        refine ⟨?_, sizedLeft, right sizedRight incoming⟩
        rw [push_length, size]
        omega

theorem Sized.popTop {tree : LocHeapNode α} (sized : tree.Sized) :
    (tree.popTop outRanks).Sized := by
  induction tree with
  | null => trivial
  | node mSize mLeft mRight mData left right =>
      obtain ⟨size, sizedLeft, sizedRight⟩ := sized
      rcases popTop_node outRanks mSize mLeft mRight mData with
        ⟨-, -, popped⟩ | ⟨top, higher, -, popped⟩ | ⟨top, higher, -, popped⟩
      · rw [popped]
        trivial
      · rw [popped]
        have fewer := (pop_perm outRanks higher).length_eq
        rw [List.length_cons] at fewer
        refine ⟨?_, left sizedLeft, sizedRight⟩
        omega
      · rw [popped]
        have fewer := (pop_perm outRanks higher).length_eq
        rw [List.length_cons] at fewer
        refine ⟨?_, sizedLeft, right sizedRight⟩
        omega

theorem Sized.removeNode [DecidableEq α] {tree rest : LocHeapNode α} {data : α}
    (sized : tree.Sized) (removed : tree.removeNode outRanks data = some rest) : rest.Sized := by
  induction tree generalizing rest with
  | null => cases removed
  | node mSize mLeft mRight mData left right =>
      rcases removeNode_node outRanks removed with
        ⟨-, rfl⟩ | ⟨subtree, -, found, rfl⟩ | ⟨subtree, -, found, rfl⟩
      · exact sized.popTop
      · have fewer := (removeNode_perm outRanks found).length_eq
        obtain ⟨size, sizedLeft, sizedRight⟩ := sized
        refine ⟨?_, left sizedLeft found, sizedRight⟩
        rw [List.length_cons] at fewer
        omega
      · have fewer := (removeNode_perm outRanks found).length_eq
        obtain ⟨size, sizedLeft, sizedRight⟩ := sized
        refine ⟨?_, sizedLeft, right sizedRight found⟩
        rw [List.length_cons] at fewer
        omega

theorem Sized.remove [DecidableEq α] {tree : LocHeapNode α} (sized : tree.Sized) (data : α) :
    (tree.remove outRanks data).2.Sized := by
  unfold LocHeapNode.remove
  split
  · rename_i removed
    exact sized.removeNode removed
  · exact sized

theorem Below.anti {data : α} {tree rest : LocHeapNode α} (below : Below outRanks data tree)
    (fewer : rest.toList ⊆ tree.toList) : Below outRanks data rest :=
  fun other member => below other (fewer member)

theorem removeNode_subset [DecidableEq α] {tree rest : LocHeapNode α} {data : α}
    (removed : tree.removeNode outRanks data = some rest) : rest.toList ⊆ tree.toList := by
  intro other member
  exact (removeNode_perm outRanks removed).mem_iff.mpr (List.mem_cons_of_mem _ member)

theorem Below.push {data top : α} {tree : LocHeapNode α} (below : Below outRanks top tree)
    (ranked : outRanks data top = false) : Below outRanks top (tree.push outRanks data) := by
  intro other member
  rcases mem_push.mp member with rfl | before
  · exact ranked
  · exact below other before

theorem forall_node {holds : α → Prop} {mSize : Int} {mLeft mRight : LocHeapNode α} {mData : α}
    (all : ∀ other ∈ (node mSize mLeft mRight mData).toList, holds other) :
    holds mData ∧ (∀ other ∈ mLeft.toList, holds other) ∧
      ∀ other ∈ mRight.toList, holds other := by
  simpa only [toList_node, List.forall_mem_cons, List.forall_mem_append] using all

section

variable {among : α → Prop} (comparable : Comparable outRanks among)
include comparable

theorem below_of_peek {data : α} {tree : LocHeapNode α} (ordered : tree.Ordered outRanks)
    (known : ∀ other ∈ tree.toList, among other) (self : among data)
    (top : ∀ other ∈ tree.peek, outRanks other data = false) : Below outRanks data tree := by
  cases tree with
  | null =>
      intro other member
      cases member
  | node mSize mLeft mRight mData =>
      obtain ⟨belowLeft, belowRight, -, -⟩ := ordered
      have ranked : outRanks mData data = false := top mData rfl
      obtain ⟨head, -, -⟩ := forall_node known
      intro other member
      have listed : among other := known other member
      simp only [toList_node, List.mem_cons, List.mem_append] at member
      rcases member with rfl | left | right
      · exact ranked
      · exact comparable.trans other mData data listed head self (belowLeft other left) ranked
      · exact comparable.trans other mData data listed head self (belowRight other right) ranked

/-- Nothing in an ordered tree outranks its top. -/
theorem Ordered.below_peek {top : α} {tree : LocHeapNode α} (ordered : tree.Ordered outRanks)
    (known : ∀ other ∈ tree.toList, among other) (peeked : tree.peek = some top) :
    Below outRanks top tree := by
  have self : among top := known top (peek_mem peeked)
  apply below_of_peek comparable ordered known self
  intro other same
  obtain rfl : top = other := Option.some.inj (peeked.symm.trans same)
  by_cases itself : outRanks top top = true
  · exact comparable.asymm top top self self itself
  · exact Bool.eq_false_iff.mpr itself

/-- The data that a node keeps in a push ranks above all it ranked above before,
and above the data that it passes on. -/
theorem Exchanged.below {data mData top incoming : α} {tree : LocHeapNode α}
    (exchanged : Exchanged outRanks data mData top incoming) (fresh : among data)
    (head : among mData) (known : ∀ other ∈ tree.toList, among other)
    (below : Below outRanks mData tree) :
    outRanks incoming top = false ∧ Below outRanks top tree := by
  rcases exchanged with ⟨higher, rfl, rfl⟩ | ⟨lower, rfl, rfl⟩
  · have ranked := comparable.asymm top incoming fresh head higher
    refine ⟨ranked, ?_⟩
    intro other member
    exact comparable.trans other incoming top (known other member) head fresh
      (below other member) ranked
  · exact ⟨lower, below⟩

theorem Ordered.push {tree : LocHeapNode α} {data : α} (ordered : tree.Ordered outRanks)
    (known : ∀ other ∈ tree.toList, among other) (fresh : among data) :
    (tree.push outRanks data).Ordered outRanks := by
  induction tree generalizing data with
  | null =>
      have none : Below outRanks data null := fun _ member => by cases member
      exact ⟨none, none, trivial, trivial⟩
  | node mSize mLeft mRight mData left right =>
      obtain ⟨belowLeft, belowRight, orderedLeft, orderedRight⟩ := ordered
      obtain ⟨head, knownLeft, knownRight⟩ := forall_node known
      obtain ⟨top, incoming, exchanged, pushed⟩ := push_node outRanks mSize mLeft mRight mData data
      have passed : among incoming := by
        rcases exchanged with ⟨-, -, rfl⟩ | ⟨-, -, rfl⟩
        · exact head
        · exact fresh
      obtain ⟨ranked, keptLeft⟩ := exchanged.below comparable fresh head knownLeft belowLeft
      obtain ⟨-, keptRight⟩ := exchanged.below comparable fresh head knownRight belowRight
      rcases pushed with pushed | pushed
      · rw [pushed]
        exact ⟨keptLeft.push ranked, keptRight, left orderedLeft knownLeft passed, orderedRight⟩
      · rw [pushed]
        exact ⟨keptLeft, keptRight.push ranked, orderedLeft, right orderedRight knownRight passed⟩

theorem Ordered.popTop {tree : LocHeapNode α} (ordered : tree.Ordered outRanks)
    (known : ∀ other ∈ tree.toList, among other) : (tree.popTop outRanks).Ordered outRanks := by
  induction tree with
  | null => trivial
  | node mSize mLeft mRight mData left right =>
      obtain ⟨-, -, orderedLeft, orderedRight⟩ := ordered
      obtain ⟨-, knownLeft, knownRight⟩ := forall_node known
      rcases popTop_node outRanks mSize mLeft mRight mData with
        ⟨-, -, popped⟩ | ⟨top, peeked, higher, popped⟩ | ⟨top, peeked, higher, popped⟩
      · rw [popped]
        trivial
      · rw [popped]
        have self : among top := knownLeft top (peek_mem peeked)
        have belowLeft := orderedLeft.below_peek comparable knownLeft peeked
        have belowRight : Below outRanks top mRight := by
          apply below_of_peek comparable orderedRight knownRight self
          intro other peekedRight
          exact comparable.asymm top other self (knownRight other (peek_mem peekedRight))
            (higher other peekedRight)
        exact ⟨belowLeft.anti (popTop_subset mLeft), belowRight, left orderedLeft knownLeft,
          orderedRight⟩
      · rw [popped]
        have self : among top := knownRight top (peek_mem peeked)
        have belowRight := orderedRight.below_peek comparable knownRight peeked
        have belowLeft := below_of_peek comparable orderedLeft knownLeft self higher
        exact ⟨belowLeft, belowRight.anti (popTop_subset mRight), orderedLeft,
          right orderedRight knownRight⟩

theorem Ordered.removeNode [DecidableEq α] {tree rest : LocHeapNode α} {data : α}
    (ordered : tree.Ordered outRanks) (known : ∀ other ∈ tree.toList, among other)
    (removed : tree.removeNode outRanks data = some rest) : rest.Ordered outRanks := by
  induction tree generalizing rest with
  | null => cases removed
  | node mSize mLeft mRight mData left right =>
      rcases removeNode_node outRanks removed with
        ⟨-, rfl⟩ | ⟨subtree, -, found, rfl⟩ | ⟨subtree, -, found, rfl⟩
      · exact ordered.popTop comparable known
      · obtain ⟨belowLeft, belowRight, orderedLeft, orderedRight⟩ := ordered
        obtain ⟨-, knownLeft, -⟩ := forall_node known
        exact ⟨belowLeft.anti (removeNode_subset found), belowRight,
          left orderedLeft knownLeft found, orderedRight⟩
      · obtain ⟨belowLeft, belowRight, orderedLeft, orderedRight⟩ := ordered
        obtain ⟨-, -, knownRight⟩ := forall_node known
        exact ⟨belowLeft, belowRight.anti (removeNode_subset found), orderedLeft,
          right orderedRight knownRight found⟩

theorem Ordered.remove [DecidableEq α] {tree : LocHeapNode α} (ordered : tree.Ordered outRanks)
    (known : ∀ other ∈ tree.toList, among other) (data : α) :
    (tree.remove outRanks data).2.Ordered outRanks := by
  unfold LocHeapNode.remove
  split
  · rename_i removed
    exact ordered.removeNode comparable known removed
  · exact ordered

end

/-- In an ordered tree the search is never cut short above the data. -/
theorem Ordered.removeNode_isSome [DecidableEq α] {tree : LocHeapNode α} {data : α}
    (ordered : tree.Ordered outRanks) (member : data ∈ tree.toList) :
    (tree.removeNode outRanks data).isSome = true := by
  induction tree with
  | null => cases member
  | node mSize mLeft mRight mData left right =>
      obtain ⟨belowLeft, belowRight, orderedLeft, orderedRight⟩ := ordered
      unfold LocHeapNode.removeNode
      by_cases same : data = mData
      · rw [if_pos same]
        rfl
      · rw [if_neg same]
        simp only [toList_node, List.mem_cons, List.mem_append, same, false_or] at member
        have ranked : outRanks data mData = false := by
          rcases member with inLeft | inRight
          · exact belowLeft data inLeft
          · exact belowRight data inRight
        rw [if_neg (Bool.eq_false_iff.mp ranked)]
        cases found : mLeft.removeNode outRanks data with
        | some rest => rfl
        | none =>
            have inRight : data ∈ mRight.toList := by
              apply member.resolve_left
              intro inLeft
              have some := left orderedLeft inLeft
              rw [found] at some
              cases some
            rw [Option.isSome_map]
            exact right orderedRight inRight

/-- A removal from an ordered tree leaves no trace of data that is stored once. -/
theorem Ordered.not_mem_remove [DecidableEq α] {tree : LocHeapNode α}
    (ordered : tree.Ordered outRanks) {data : α} (once : tree.toList.count data ≤ 1) :
    data ∉ (tree.remove outRanks data).2.toList := by
  unfold LocHeapNode.remove
  cases found : tree.removeNode outRanks data with
  | some rest =>
      have total := (removeNode_perm outRanks found).count_eq data
      rw [List.count_cons_self] at total
      apply List.count_eq_zero.mp
      show rest.toList.count data = 0
      omega
  | none =>
      intro member
      have some := ordered.removeNode_isSome member
      rw [found] at some
      cases some

end LocHeapNode

/-- A heap with what was pushed into it and what its calls returned. -/
structure LocHeap (α : Type u) where
  mTree : LocHeapNode α
  pushed : List α
  returned : List α

namespace LocHeap

variable {α : Type u}

def empty : LocHeap α :=
  ⟨.null, [], []⟩

inductive Call (α : Type u) where
  | push (data : α)
  | pop
  | remove (data : α)

section

variable [DecidableEq α] (outRanks : α → α → Bool)

def call (heap : LocHeap α) : Call α → LocHeap α
  | .push data =>
      { heap with mTree := heap.mTree.push outRanks data, pushed := data :: heap.pushed }
  | .pop =>
      let popped := heap.mTree.pop outRanks
      { heap with mTree := popped.2, returned := popped.1.toList ++ heap.returned }
  | .remove data =>
      let removed := heap.mTree.remove outRanks data
      { heap with mTree := removed.2, returned := removed.1.toList ++ heap.returned }

/-- Any sequence of calls on a heap that starts empty. -/
def calls : System (LocHeap α) (Call α) where
  initial heap := heap = empty
  step heap next := some (heap.call outRanks next)

end

structure Correct (outRanks : α → α → Bool) (heap : LocHeap α) : Prop where
  ordered : heap.mTree.Ordered outRanks
  sized : heap.mTree.Sized
  contents : heap.pushed.Perm (heap.returned ++ heap.mTree.toList)

variable {outRanks : α → α → Bool}

/-- A call that returns what it takes out of the tree. -/
theorem Correct.returning {heap : LocHeap α} (correct : heap.Correct outRanks)
    {tree : LocHeapNode α} {taken : Option α} (ordered : tree.Ordered outRanks)
    (sized : tree.Sized) (moved : heap.mTree.toList.Perm (taken.toList ++ tree.toList)) :
    Correct outRanks { heap with mTree := tree, returned := taken.toList ++ heap.returned } where
  ordered := ordered
  sized := sized
  contents := calc
    heap.pushed.Perm (heap.returned ++ heap.mTree.toList) := correct.contents
    List.Perm _ (heap.returned ++ (taken.toList ++ tree.toList)) := moved.append_left _
    List.Perm _ (taken.toList ++ heap.returned ++ tree.toList) := by
      rw [← List.append_assoc]
      exact List.perm_append_comm.append_right _

variable [DecidableEq α]

theorem Correct.call {heap : LocHeap α} (correct : heap.Correct outRanks)
    (comparable : Comparable outRanks (fun _ => True)) (next : Call α) :
    (heap.call outRanks next).Correct outRanks := by
  have known : ∀ other ∈ heap.mTree.toList, True := fun _ _ => trivial
  cases next with
  | push data =>
      refine ⟨correct.ordered.push comparable known trivial, correct.sized.push data, ?_⟩
      have pushed := LocHeapNode.push_perm outRanks heap.mTree data
      exact (correct.contents.cons data).trans
        (List.perm_middle.symm.trans (pushed.symm.append_left _))
  | pop =>
      exact correct.returning (correct.ordered.popTop comparable known) correct.sized.popTop
        (LocHeapNode.pop_contents outRanks heap.mTree)
  | remove data =>
      have moved := LocHeapNode.remove_contents outRanks heap.mTree data
      exact correct.returning (correct.ordered.remove comparable known data)
        (correct.sized.remove data) moved

theorem correct_of_calls (comparable : Comparable outRanks (fun _ => True)) {heap : LocHeap α}
    (run : (calls outRanks).Reachable heap) : heap.Correct outRanks := by
  apply run.invariant (Correct outRanks)
  · intro heap first
    subst first
    exact ⟨trivial, trivial, .refl _⟩
  · intro before next after _ correct _ taken
    obtain rfl := Option.some.inj taken
    exact correct.call comparable next

end LocHeap

/-- The comparison asks whether one data is not below the other in a total preorder. -/
structure RanksBy {α : Type u} (outRanks : α → α → Bool) (le : α → α → Prop) : Prop where
  total : ∀ a b, le a b ∨ le b a
  trans : ∀ a b c, le a b → le b c → le a c
  outRanks_iff : ∀ a b, outRanks a b = true ↔ ¬ le a b

theorem RanksBy.comparable {α : Type u} {outRanks : α → α → Bool} {le : α → α → Prop}
    (ranks : RanksBy outRanks le) : Comparable outRanks (fun _ => True) := by
  have le_iff : ∀ a b, outRanks a b = false ↔ le a b := by
    intro a b
    rw [← Bool.not_eq_true, ranks.outRanks_iff, Classical.not_not]
  constructor
  · intro a b _ _ higher
    rw [le_iff]
    exact (ranks.total a b).resolve_left ((ranks.outRanks_iff a b).mp higher)
  · intro a b c _ _ _ first second
    rw [le_iff] at first second ⊢
    exact ranks.trans a b c first second

/-- A comparison that asks for the smaller key is one that a heap may use. -/
theorem RanksBy.of_key {α : Type u} {Key : Type v} [LinearOrder Key]
    {outRanks : α → α → Bool} (key : α → Key)
    (smaller : ∀ a b, outRanks a b = true ↔ key a < key b) :
    RanksBy outRanks (fun a b => key b ≤ key a) where
  total := fun a b => le_total (key b) (key a)
  trans := fun _ _ _ first second => le_trans second first
  outRanks_iff := fun a b => by rw [smaller, not_le]

/-- After any sequence of calls no node outranks its parent, every size is that
of its subtree, and the heap holds what was pushed less what was returned. -/
theorem heap_correct {α : Type u} [DecidableEq α] {outRanks : α → α → Bool} {le : α → α → Prop}
    (ranks : RanksBy outRanks le) {heap : LocHeap α}
    (run : (LocHeap.calls outRanks).Reachable heap) :
    heap.mTree.ParentRanks outRanks ∧ heap.mTree.Sized ∧
      (heap.returned : Multiset α) ≤ heap.pushed ∧
      (heap.mTree.toList : Multiset α) = heap.pushed - heap.returned := by
  have correct := LocHeap.correct_of_calls ranks.comparable run
  have contents : (heap.pushed : Multiset α) = heap.returned + heap.mTree.toList :=
    Multiset.coe_eq_coe.mpr correct.contents
  refine ⟨correct.ordered.parentRanks, correct.sized, ?_, ?_⟩
  · rw [contents]
    exact Multiset.le_add_right _ _
  · apply Multiset.eq_sub_of_add_eq
    rw [contents, Multiset.add_comm]

theorem ranksBy_less : RanksBy (fun a b : Nat => decide (a < b)) (fun a b => b ≤ a) :=
  .of_key id (fun _ _ => decide_eq_true_iff)

/-- Two of three numbers taken out again, the first one pushed among them. -/
theorem heap_correct_three :
    ∃ heap, (LocHeap.calls (fun a b : Nat => decide (a < b))).exec .empty
        [.push 3, .push 1, .push 2, .pop, .remove 3] = some heap ∧
      heap.returned = [3, 1] ∧ heap.mTree.ParentRanks (fun a b : Nat => decide (a < b)) ∧
      heap.mTree.Sized ∧ (heap.returned : Multiset Nat) ≤ heap.pushed ∧
      (heap.mTree.toList : Multiset Nat) = heap.pushed - heap.returned := by
  refine ⟨_, rfl, rfl, ?_⟩
  have run : (LocHeap.calls (fun a b : Nat => decide (a < b))).Reachable _ :=
    System.ReachableUnder.exec (.start rfl)
      [.push 3, .push 1, .push 2, .pop, .remove 3] rfl
  exact heap_correct ranksBy_less run

end A5Common.Timer
