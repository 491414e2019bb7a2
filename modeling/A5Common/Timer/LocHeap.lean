import Mathlib.Data.List.Perm.Basic

set_option autoImplicit false

namespace A5Common.Timer

universe u

/-- A tree of `LocHeapNode`s. The data stand for the `LocRankable` pointers, so
equality of data is equality of addresses. -/
inductive LocHeapNode (α : Type u) where
  | null
  | node (mSize : Int) (mLeft mRight : LocHeapNode α) (mData : α)

namespace LocHeapNode

variable {α : Type u}

def toList : LocHeapNode α → List α
  | null => []
  | node _ mLeft mRight mData => mData :: (mLeft.toList ++ mRight.toList)

@[simp] theorem toList_null : (null : LocHeapNode α).toList = [] := rfl

@[simp] theorem toList_node (mSize : Int) (mLeft mRight : LocHeapNode α) (mData : α) :
    (node mSize mLeft mRight mData).toList = mData :: (mLeft.toList ++ mRight.toList) := rfl

def getSize : LocHeapNode α → Int
  | null => 0
  | node mSize _ _ _ => mSize

/-- `LocHeap::peek`. -/
def peek : LocHeapNode α → Option α
  | null => none
  | node _ _ _ mData => some mData

section

variable (outRanks : α → α → Bool)

/-- `LocHeap::push` with `LocHeapNode::push`: the incoming data changes places
with the top's if it outranks it, and what is left goes into a subtree. -/
def push : LocHeapNode α → α → LocHeapNode α
  | null, data => node 1 null null data
  | node mSize mLeft mRight mData, data =>
      let top := if outRanks data mData then data else mData
      let incoming := if outRanks data mData then mData else data
      match mLeft, mRight with
      | null, _ => node (mSize + 1) (node 1 null null incoming) mRight top
      | node .., null => node (mSize + 1) mLeft (node 1 null null incoming) top
      | node .., node .. =>
          if mLeft.getSize ≤ mRight.getSize then
            node (mSize + 1) (mLeft.push incoming) mRight top
          else
            node (mSize + 1) mLeft (mRight.push incoming) top

/-- `LocHeapNode::pop`: the data of the popped top is replaced, all the way down
to a leaf, by that of the child that ranks higher. -/
def popTop : LocHeapNode α → LocHeapNode α
  | null => null
  | node _ null null _ => null
  | node mSize null (node rSize rLeft rRight rData) _ =>
      node (mSize - 1) null (popTop (node rSize rLeft rRight rData)) rData
  | node mSize (node lSize lLeft lRight lData) null _ =>
      node (mSize - 1) (popTop (node lSize lLeft lRight lData)) null lData
  | node mSize (node lSize lLeft lRight lData) (node rSize rLeft rRight rData) _ =>
      if outRanks lData rData then
        node (mSize - 1) (popTop (node lSize lLeft lRight lData)) (node rSize rLeft rRight rData)
          lData
      else
        node (mSize - 1) (node lSize lLeft lRight lData) (popTop (node rSize rLeft rRight rData))
          rData

/-- `LocHeap::pop`. -/
def pop (tree : LocHeapNode α) : Option α × LocHeapNode α :=
  (tree.peek, tree.popTop outRanks)

/-- `LocHeapNode::remove`: the tree without the node of the data, or nothing when
the search does not find it. -/
def removeNode [DecidableEq α] (data : α) : LocHeapNode α → Option (LocHeapNode α)
  | null => none
  | node mSize mLeft mRight mData =>
      if data = mData then
        some (popTop outRanks (node mSize mLeft mRight mData))
      else if outRanks data mData then
        none
      else
        match mLeft.removeNode data with
        | some left => some (node (mSize - 1) left mRight mData)
        | none => (mRight.removeNode data).map (fun right => node (mSize - 1) mLeft right mData)

/-- `LocHeap::remove`. -/
def remove [DecidableEq α] (tree : LocHeapNode α) (data : α) : Option α × LocHeapNode α :=
  match tree.removeNode outRanks data with
  | some rest => (some data, rest)
  | none => (none, tree)

/-- The data that a pushed-to node keeps, and the data that it passes on. -/
def Exchanged (data mData top incoming : α) : Prop :=
  (outRanks data mData = true ∧ top = data ∧ incoming = mData) ∨
    (outRanks data mData = false ∧ top = mData ∧ incoming = data)

theorem Exchanged.perm {data mData top incoming : α}
    (exchanged : Exchanged outRanks data mData top incoming) (rest : List α) :
    (top :: incoming :: rest).Perm (data :: mData :: rest) := by
  rcases exchanged with ⟨-, rfl, rfl⟩ | ⟨-, rfl, rfl⟩
  · exact .refl _
  · exact .swap _ _ rest

/-- What a push does at a node: it goes on in one of the subtrees. -/
theorem push_node (mSize : Int) (mLeft mRight : LocHeapNode α) (mData data : α) :
    ∃ top incoming, Exchanged outRanks data mData top incoming ∧
      ((node mSize mLeft mRight mData).push outRanks data =
          node (mSize + 1) (mLeft.push outRanks incoming) mRight top ∨
        (node mSize mLeft mRight mData).push outRanks data =
          node (mSize + 1) mLeft (mRight.push outRanks incoming) top) := by
  refine ⟨if outRanks data mData then data else mData,
    if outRanks data mData then mData else data, ?_, ?_⟩
  · by_cases higher : outRanks data mData = true
    · exact .inl ⟨higher, if_pos higher, if_pos higher⟩
    · exact .inr ⟨Bool.eq_false_iff.mpr higher, if_neg higher, if_neg higher⟩
  · cases mLeft with
    | null => exact .inl rfl
    | node lSize lLeft lRight lData =>
        cases mRight with
        | null => exact .inr rfl
        | node rSize rLeft rRight rData =>
            by_cases smaller : lSize ≤ rSize
            · exact .inl (if_pos smaller)
            · exact .inr (if_neg smaller)

/-- What a pop does at a node: the higher child moves up, and is popped below. -/
theorem popTop_node (mSize : Int) (mLeft mRight : LocHeapNode α) (mData : α) :
    (mLeft = null ∧ mRight = null ∧ (node mSize mLeft mRight mData).popTop outRanks = null) ∨
    (∃ top, mLeft.peek = some top ∧ (∀ other ∈ mRight.peek, outRanks top other = true) ∧
      (node mSize mLeft mRight mData).popTop outRanks =
        node (mSize - 1) (mLeft.popTop outRanks) mRight top) ∨
    (∃ top, mRight.peek = some top ∧ (∀ other ∈ mLeft.peek, outRanks other top = false) ∧
      (node mSize mLeft mRight mData).popTop outRanks =
        node (mSize - 1) mLeft (mRight.popTop outRanks) top) := by
  cases mLeft with
  | null =>
      cases mRight with
      | null => exact .inl ⟨rfl, rfl, rfl⟩
      | node rSize rLeft rRight rData =>
          exact .inr (.inr ⟨rData, rfl, fun _ none => (Option.not_mem_none _ none).elim, rfl⟩)
  | node lSize lLeft lRight lData =>
      cases mRight with
      | null => exact .inr (.inl ⟨lData, rfl, fun _ none => (Option.not_mem_none _ none).elim, rfl⟩)
      | node rSize rLeft rRight rData =>
          by_cases higher : outRanks lData rData = true
          · refine .inr (.inl ⟨lData, rfl, ?_, if_pos higher⟩)
            intro other top
            cases top
            exact higher
          · refine .inr (.inr ⟨rData, rfl, ?_, if_neg higher⟩)
            intro other top
            cases top
            exact Bool.eq_false_iff.mpr higher

theorem push_perm (tree : LocHeapNode α) (data : α) :
    (tree.push outRanks data).toList.Perm (data :: tree.toList) := by
  induction tree generalizing data with
  | null => exact .refl _
  | node mSize mLeft mRight mData left right =>
      obtain ⟨top, incoming, exchanged, pushed⟩ := push_node outRanks mSize mLeft mRight mData data
      apply List.Perm.trans ?_ (exchanged.perm outRanks (mLeft.toList ++ mRight.toList))
      rcases pushed with pushed | pushed
      · rw [pushed]
        exact .cons _ ((left incoming).append_right _)
      · rw [pushed]
        exact .cons _ (((right incoming).append_left _).trans List.perm_middle)

/-- Popping takes the top away and nothing else. -/
theorem pop_perm {tree : LocHeapNode α} {data : α} (top : tree.peek = some data) :
    tree.toList.Perm (data :: (tree.popTop outRanks).toList) := by
  induction tree generalizing data with
  | null => cases top
  | node mSize mLeft mRight mData left right =>
      cases top
      apply List.Perm.cons
      rcases popTop_node outRanks mSize mLeft mRight mData with
        ⟨rfl, rfl, popped⟩ | ⟨top, higher, -, popped⟩ | ⟨top, higher, -, popped⟩
      · rw [popped]
        exact .refl _
      · rw [popped]
        exact (left higher).append_right _
      · rw [popped]
        exact ((right higher).append_left _).trans List.perm_middle

/-- What a successful removal does at a node. -/
theorem removeNode_node [DecidableEq α] {mSize : Int} {mLeft mRight rest : LocHeapNode α}
    {mData data : α}
    (removed : (node mSize mLeft mRight mData).removeNode outRanks data = some rest) :
    (data = mData ∧ rest = (node mSize mLeft mRight mData).popTop outRanks) ∨
    (∃ left, data ≠ mData ∧ mLeft.removeNode outRanks data = some left ∧
      rest = node (mSize - 1) left mRight mData) ∨
    (∃ right, data ≠ mData ∧ mRight.removeNode outRanks data = some right ∧
      rest = node (mSize - 1) mLeft right mData) := by
  unfold removeNode at removed
  by_cases same : data = mData
  · rw [if_pos same] at removed
    exact .inl ⟨same, (Option.some.inj removed).symm⟩
  · rw [if_neg same] at removed
    split at removed
    · cases removed
    · split at removed
      · rename_i left found
        exact .inr (.inl ⟨left, same, found, (Option.some.inj removed).symm⟩)
      · obtain ⟨right, found, moved⟩ := Option.map_eq_some_iff.mp removed
        exact .inr (.inr ⟨right, same, found, moved.symm⟩)

theorem removeNode_perm [DecidableEq α] {data : α} {tree rest : LocHeapNode α}
    (removed : tree.removeNode outRanks data = some rest) :
    tree.toList.Perm (data :: rest.toList) := by
  induction tree generalizing rest with
  | null => cases removed
  | node mSize mLeft mRight mData left right =>
      rcases removeNode_node outRanks removed with
        ⟨rfl, rfl⟩ | ⟨subtree, -, found, rfl⟩ | ⟨subtree, -, found, rfl⟩
      · exact pop_perm outRanks rfl
      · exact (List.Perm.cons _ ((left found).append_right _)).trans (.swap _ _ _)
      · have below : (mLeft.toList ++ mRight.toList).Perm
            (data :: (mLeft.toList ++ subtree.toList)) :=
          ((right found).append_left _).trans List.perm_middle
        exact (List.Perm.cons _ below).trans (.swap _ _ _)

/-- What is popped and what is left make up the tree. -/
theorem pop_contents (tree : LocHeapNode α) :
    tree.toList.Perm ((tree.pop outRanks).1.toList ++ (tree.pop outRanks).2.toList) := by
  unfold pop
  cases tree with
  | null => exact .refl _
  | node mSize mLeft mRight mData => exact pop_perm outRanks rfl

theorem remove_contents [DecidableEq α] (tree : LocHeapNode α) (data : α) :
    tree.toList.Perm ((tree.remove outRanks data).1.toList ++
      (tree.remove outRanks data).2.toList) := by
  unfold remove
  split
  · rename_i removed
    exact removeNode_perm outRanks removed
  · exact .refl _

end

variable {outRanks : α → α → Bool}

theorem mem_push {tree : LocHeapNode α} {data other : α} :
    other ∈ (tree.push outRanks data).toList ↔ other = data ∨ other ∈ tree.toList :=
  (push_perm outRanks tree data).mem_iff.trans List.mem_cons

theorem peek_mem {tree : LocHeapNode α} {data : α} (top : tree.peek = some data) :
    data ∈ tree.toList := by
  cases tree with
  | null => cases top
  | node mSize mLeft mRight mData =>
      cases top
      exact List.mem_cons_self

theorem push_peek (tree : LocHeapNode α) (data : α) :
    (tree.push outRanks data).peek = some data ∧
        (∀ top ∈ tree.peek, outRanks data top = true) ∨
      (tree.push outRanks data).peek = tree.peek ∧ tree.peek.isSome = true := by
  cases tree with
  | null => exact .inl ⟨rfl, fun top peeked => by cases peeked⟩
  | node mSize mLeft mRight mData =>
      obtain ⟨top, incoming, exchanged, pushed⟩ := push_node outRanks mSize mLeft mRight mData data
      have peeked : ((node mSize mLeft mRight mData).push outRanks data).peek = some top := by
        rcases pushed with pushed | pushed <;> rw [pushed] <;> rfl
      rcases exchanged with ⟨higher, rfl, rfl⟩ | ⟨-, rfl, rfl⟩
      · refine .inl ⟨peeked, ?_⟩
        intro other same
        cases same
        exact higher
      · exact .inr ⟨peeked, rfl⟩

/-- A removal returns the data it was asked for. -/
theorem remove_returns [DecidableEq α] {tree : LocHeapNode α} {data other : α}
    (returned : (tree.remove outRanks data).1 = some other) : other = data := by
  unfold remove at returned
  split at returned
  · exact (Option.some.inj returned).symm
  · cases returned

/-- Removing the data of another node leaves the top. -/
theorem remove_peek [DecidableEq α] {tree : LocHeapNode α} {data : α}
    (other : tree.peek ≠ (tree.remove outRanks data).1) :
    (tree.remove outRanks data).2.peek = tree.peek := by
  unfold remove at other ⊢
  cases found : tree.removeNode outRanks data with
  | none => rfl
  | some rest =>
      simp only [found] at other ⊢
      cases tree with
      | null => cases found
      | node mSize mLeft mRight mData =>
          rcases removeNode_node outRanks found with
            ⟨rfl, -⟩ | ⟨left, -, -, rfl⟩ | ⟨right, -, -, rfl⟩
          · exact absurd rfl other
          · rfl
          · rfl

theorem popTop_subset (tree : LocHeapNode α) :
    (tree.popTop outRanks).toList ⊆ tree.toList := by
  intro other member
  cases tree with
  | null => exact member
  | node mSize mLeft mRight mData =>
      have top : (node mSize mLeft mRight mData).peek = some mData := rfl
      exact (pop_perm outRanks top).mem_iff.mpr (List.mem_cons_of_mem _ member)

theorem remove_subset [DecidableEq α] (tree : LocHeapNode α) (data : α) :
    (tree.remove outRanks data).2.toList ⊆ tree.toList := by
  intro other member
  unfold remove at member
  split at member
  · rename_i removed
    exact (removeNode_perm outRanks removed).mem_iff.mpr (List.mem_cons_of_mem _ member)
  · exact member

end LocHeapNode

end A5Common.Timer
