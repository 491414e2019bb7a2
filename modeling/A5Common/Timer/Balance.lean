import A5Common.Timer.PriorityQueue
import Mathlib.Data.Nat.Log

set_option autoImplicit false

namespace A5Common.Timer

open A5Common.Run

universe u

/-- The height of a tree of so many nodes that is as low as it can be. -/
def lowest (n : Nat) : Nat :=
  if n = 0 then 0 else Nat.log 2 n + 1

theorem lowest_half {n : Nat} (positive : 0 < n) : lowest n = lowest (n / 2) + 1 := by
  unfold lowest
  rw [if_neg (Nat.ne_of_gt positive)]
  by_cases small : n < 2
  · have one : n = 1 := by omega
    rw [one]
    rfl
  · have half : n / 2 ≠ 0 := by omega
    rw [if_neg half, Nat.log_of_one_lt_of_le (by decide) (Nat.le_of_not_lt small)]

theorem lowest_mono {m n : Nat} (below : m ≤ n) : lowest m ≤ lowest n := by
  unfold lowest
  by_cases zero : m = 0
  · rw [if_pos zero]
    exact Nat.zero_le _
  · rw [if_neg zero, if_neg (by omega)]
    exact Nat.succ_le_succ (Nat.log_mono_right below)

namespace LocHeapNode

variable {α : Type u}

def height : LocHeapNode α → Nat
  | null => 0
  | node _ mLeft mRight _ => max mLeft.height mRight.height + 1

/-- At every node, the numbers of nodes in the two subtrees differ by at most one. -/
def Balanced : LocHeapNode α → Prop
  | null => True
  | node _ mLeft mRight _ =>
      mLeft.toList.length ≤ mRight.toList.length + 1 ∧
        mRight.toList.length ≤ mLeft.toList.length + 1 ∧ mLeft.Balanced ∧ mRight.Balanced

/-- A tree and the trees below its nodes. -/
inductive Subtree : LocHeapNode α → LocHeapNode α → Prop
  | self (tree : LocHeapNode α) : Subtree tree tree
  | left {tree mLeft : LocHeapNode α} (below : Subtree tree mLeft) (mSize : Int)
      (mRight : LocHeapNode α) (mData : α) : Subtree tree (node mSize mLeft mRight mData)
  | right {tree mRight : LocHeapNode α} (below : Subtree tree mRight) (mSize : Int)
      (mLeft : LocHeapNode α) (mData : α) : Subtree tree (node mSize mLeft mRight mData)

theorem Subtree.sized {subtree tree : LocHeapNode α} (below : Subtree subtree tree)
    (sized : tree.Sized) : subtree.Sized := by
  induction below with
  | self => exact sized
  | left _ _ _ _ ih => exact ih sized.2.1
  | right _ _ _ _ ih => exact ih sized.2.2

variable (outRanks : α → α → Bool)

/-- The side that a push goes down, where the sizes are right. -/
theorem push_smaller {mSize : Int} {mLeft mRight : LocHeapNode α} {mData : α}
    (sized : (node mSize mLeft mRight mData).Sized) (data : α) :
    ∃ top incoming,
      (mLeft.toList.length ≤ mRight.toList.length ∧
        (node mSize mLeft mRight mData).push outRanks data =
          node (mSize + 1) (mLeft.push outRanks incoming) mRight top) ∨
      (mRight.toList.length < mLeft.toList.length ∧
        (node mSize mLeft mRight mData).push outRanks data =
          node (mSize + 1) mLeft (mRight.push outRanks incoming) top) := by
  obtain ⟨-, sizedLeft, sizedRight⟩ := sized
  refine ⟨if outRanks data mData then data else mData,
    if outRanks data mData then mData else data, ?_⟩
  cases mLeft with
  | null => exact .inl ⟨Nat.zero_le _, rfl⟩
  | node lSize lLeft lRight lData =>
      cases mRight with
      | null => exact .inr ⟨Nat.zero_lt_succ _, rfl⟩
      | node rSize rLeft rRight rData =>
          have left := sizedLeft.getSize
          have right := sizedRight.getSize
          rw [getSize] at left right
          by_cases smaller : lSize ≤ rSize
          · exact .inl ⟨by omega, if_pos smaller⟩
          · exact .inr ⟨by omega, if_neg smaller⟩

variable {outRanks} in
theorem Balanced.push {tree : LocHeapNode α} (balanced : tree.Balanced) (sized : tree.Sized)
    (data : α) : (tree.push outRanks data).Balanced := by
  induction tree generalizing data with
  | null => exact ⟨Nat.zero_le _, Nat.zero_le _, trivial, trivial⟩
  | node mSize mLeft mRight mData left right =>
      obtain ⟨top, incoming, goes⟩ := push_smaller outRanks sized data
      obtain ⟨longLeft, longRight, balancedLeft, balancedRight⟩ := balanced
      obtain ⟨-, sizedLeft, sizedRight⟩ := sized
      rcases goes with ⟨smaller, pushed⟩ | ⟨smaller, pushed⟩
      · rw [pushed]
        refine ⟨?_, ?_, left balancedLeft sizedLeft incoming, balancedRight⟩
        · rw [push_length]
          omega
        · rw [push_length]
          omega
      · rw [pushed]
        refine ⟨?_, ?_, balancedLeft, right balancedRight sizedRight incoming⟩
        · rw [push_length]
          omega
        · rw [push_length]
          omega

/-- A balanced tree is as low as a tree of its nodes can be. -/
theorem Balanced.height {tree : LocHeapNode α} (balanced : tree.Balanced) :
    tree.height = lowest tree.toList.length := by
  induction tree with
  | null => rfl
  | node mSize mLeft mRight mData left right =>
      obtain ⟨longLeft, longRight, balancedLeft, balancedRight⟩ := balanced
      have some : 0 < (node mSize mLeft mRight mData).toList.length := Nat.zero_lt_succ _
      have half : (node mSize mLeft mRight mData).toList.length / 2 =
          max mLeft.toList.length mRight.toList.length := by
        rw [toList_node, List.length_cons, List.length_append]
        omega
      unfold LocHeapNode.height
      rw [left balancedLeft, right balancedRight, lowest_half some, half]
      rcases Nat.le_total mLeft.toList.length mRight.toList.length with below | below
      · rw [Nat.max_eq_right below, Nat.max_eq_right (lowest_mono below)]
      · rw [Nat.max_eq_left below, Nat.max_eq_left (lowest_mono below)]

theorem pushAll_sound (data : List α) :
    (pushAll outRanks data).Sized ∧ (pushAll outRanks data).Balanced ∧
      (pushAll outRanks data).toList.length = data.length := by
  have from_tree : ∀ tree : LocHeapNode α, tree.Sized → tree.Balanced →
      (data.foldl (push outRanks) tree).Sized ∧ (data.foldl (push outRanks) tree).Balanced ∧
        (data.foldl (push outRanks) tree).toList.length = tree.toList.length + data.length := by
    induction data with
    | nil => exact fun tree sized balanced => ⟨sized, balanced, rfl⟩
    | cons first rest ih =>
        intro tree sized balanced
        obtain ⟨sizedAll, balancedAll, length⟩ :=
          ih (tree.push outRanks first) (sized.push first) (balanced.push sized first)
        refine ⟨sizedAll, balancedAll, ?_⟩
        rw [List.foldl_cons, length, push_length, List.length_cons]
        omega
  obtain ⟨sized, balanced, length⟩ := from_tree null trivial trivial
  exact ⟨sized, balanced, length.trans (Nat.zero_add _)⟩

end LocHeapNode

theorem LocHeap.sized_of_calls {α : Type u} [DecidableEq α] {outRanks : α → α → Bool}
    {heap : LocHeap α} (run : (LocHeap.calls outRanks).Reachable heap) : heap.mTree.Sized := by
  apply run.invariant (fun heap => heap.mTree.Sized)
  · intro heap first
    subst first
    exact trivial
  · intro before next after _ sized _ taken
    obtain rfl := Option.some.inj taken
    cases next with
    | push data => exact sized.push data
    | pop => exact sized.popTop
    | remove data => exact sized.remove data

/-- Pushes keep a heap balanced and as low as it can be. In any heap, whatever was popped
and removed, a push that comes to two subtrees goes down one that is not the larger. -/
theorem push_balances {α : Type u} [DecidableEq α] (outRanks : α → α → Bool) :
    (∀ data : List α, (LocHeapNode.pushAll outRanks data).Balanced ∧
      (LocHeapNode.pushAll outRanks data).toList.length = data.length ∧
      (data ≠ [] →
        (LocHeapNode.pushAll outRanks data).height = Nat.log 2 data.length + 1)) ∧
      ∀ heap, (LocHeap.calls outRanks).Reachable heap → ∀ mSize mLeft mRight mData,
        LocHeapNode.Subtree (.node mSize mLeft mRight mData) heap.mTree →
        mLeft ≠ .null → mRight ≠ .null → ∀ data, ∃ top incoming,
          ((LocHeapNode.node mSize mLeft mRight mData).push outRanks data =
              .node (mSize + 1) (mLeft.push outRanks incoming) mRight top ∧
            mLeft.toList.length ≤ mRight.toList.length) ∨
          ((LocHeapNode.node mSize mLeft mRight mData).push outRanks data =
              .node (mSize + 1) mLeft (mRight.push outRanks incoming) top ∧
            mRight.toList.length ≤ mLeft.toList.length) := by
  constructor
  · intro data
    obtain ⟨-, balanced, length⟩ := LocHeapNode.pushAll_sound outRanks data
    refine ⟨balanced, length, ?_⟩
    intro some
    rw [balanced.height, length, lowest, if_neg (by simpa using some)]
  · intro heap run mSize mLeft mRight mData below _ _ data
    have sized : heap.mTree.Sized := LocHeap.sized_of_calls run
    obtain ⟨top, incoming, goes⟩ := LocHeapNode.push_smaller outRanks (below.sized sized) data
    refine ⟨top, incoming, ?_⟩
    rcases goes with ⟨smaller, pushed⟩ | ⟨smaller, pushed⟩
    · exact .inl ⟨pushed, smaller⟩
    · exact .inr ⟨pushed, Nat.le_of_lt smaller⟩

/-- Five pushes, and one more after a pop has left two subtrees. -/
theorem push_balances_five :
    let outRanks := fun a b : Nat => decide (a < b)
    let mLeft := LocHeapNode.node 2 (.node 1 .null .null 4) .null 3
    let mRight := LocHeapNode.node 1 .null .null 5
    (LocHeapNode.pushAll outRanks [3, 1, 2, 4, 5]).height = Nat.log 2 5 + 1 ∧
      ∃ top incoming,
        ((LocHeapNode.node 4 mLeft mRight 2).push outRanks 6 =
            .node 5 (mLeft.push outRanks incoming) mRight top ∧
          mLeft.toList.length ≤ mRight.toList.length) ∨
        ((LocHeapNode.node 4 mLeft mRight 2).push outRanks 6 =
            .node 5 mLeft (mRight.push outRanks incoming) top ∧
          mRight.toList.length ≤ mLeft.toList.length) := by
  intro outRanks mLeft mRight
  have run : (LocHeap.calls outRanks).Reachable
      ⟨.node 4 mLeft mRight 2, [5, 4, 2, 1, 3], [1]⟩ :=
    System.ReachableUnder.exec (.start rfl) [.push 3, .push 1, .push 2, .push 4, .push 5, .pop] rfl
  have balances := push_balances outRanks
  exact ⟨(balances.1 [3, 1, 2, 4, 5]).2.2 (by decide),
    balances.2 _ run _ _ _ _ (.self _) nofun nofun 6⟩

end A5Common.Timer
