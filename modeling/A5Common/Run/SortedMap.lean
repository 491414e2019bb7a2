import Mathlib.Order.Lattice
import Mathlib.Order.Defs.LinearOrder
import Mathlib.Data.List.Perm.Basic

set_option autoImplicit false

namespace A5Common.Run

universe u v

/-- Bindings in the order of their keys, at most one for each key. -/
structure SortedMap (Key : Type u) (Value : Type v) [LinearOrder Key] where
  bindings : List (Key × Value)
  sorted : bindings.Pairwise (fun earlier later => earlier.1 < later.1)

namespace SortedMap

section

variable {Key : Type u} {Value : Type v} [LinearOrder Key]

instance [DecidableEq Value] : DecidableEq (SortedMap Key Value) := fun first second =>
  decidable_of_iff (first.bindings = second.bindings)
    ⟨fun same => by cases first; cases second; cases same; rfl, congrArg SortedMap.bindings⟩

def empty : SortedMap Key Value := ⟨[], .nil⟩

/-- A binding takes the place of the one with its key, or else its own place. -/
def insertBinding (key : Key) (value : Value) : List (Key × Value) → List (Key × Value)
  | [] => [(key, value)]
  | binding :: rest =>
      if key < binding.1 then (key, value) :: binding :: rest
      else if key = binding.1 then (key, value) :: rest
      else binding :: insertBinding key value rest

/-- The value of the first binding of a key. -/
def find (key : Key) : List (Key × Value) → Option Value
  | [] => none
  | binding :: rest => if binding.1 = key then some binding.2 else find key rest

theorem mem_insertBinding {key : Key} {value : Value} {binding : Key × Value}
    {bindings : List (Key × Value)} (member : binding ∈ insertBinding key value bindings) :
    binding = (key, value) ∨ binding ∈ bindings := by
  induction bindings with
  | nil => exact Or.inl (List.mem_singleton.mp member)
  | cons first rest ih =>
      unfold insertBinding at member
      split at member
      · exact List.mem_cons.mp member
      · split at member
        · rcases List.mem_cons.mp member with here | later
          · exact Or.inl here
          · exact Or.inr (List.mem_cons_of_mem _ later)
        · rcases List.mem_cons.mp member with here | later
          · exact Or.inr (here ▸ List.mem_cons_self)
          · exact (ih later).imp_right (List.mem_cons_of_mem _)

theorem sorted_insertBinding (key : Key) (value : Value) {bindings : List (Key × Value)}
    (sorted : bindings.Pairwise (fun earlier later => earlier.1 < later.1)) :
    (insertBinding key value bindings).Pairwise (fun earlier later => earlier.1 < later.1) := by
  induction bindings with
  | nil => exact List.pairwise_singleton _ _
  | cons first rest ih =>
      have ⟨before, tail⟩ := List.pairwise_cons.mp sorted
      unfold insertBinding
      split
      · rename_i less
        refine List.pairwise_cons.mpr ⟨fun binding member => ?_, sorted⟩
        rcases List.mem_cons.mp member with rfl | later
        · exact less
        · exact less.trans (before binding later)
      · rename_i not_less
        split
        · rename_i same
          exact List.pairwise_cons.mpr ⟨fun binding later => same ▸ before binding later, tail⟩
        · rename_i different
          refine List.pairwise_cons.mpr ⟨fun binding member => ?_, ih tail⟩
          rcases mem_insertBinding member with rfl | later
          · exact lt_of_le_of_ne (not_lt.mp not_less) (Ne.symm different)
          · exact before binding later

theorem find_insertBinding (key other : Key) (value : Value) (bindings : List (Key × Value)) :
    find other (insertBinding key value bindings) =
      if key = other then some value else find other bindings := by
  induction bindings with
  | nil => rfl
  | cons first rest ih =>
      unfold insertBinding
      split
      · rfl
      · split
        · rename_i same
          unfold find
          rw [← same]
          by_cases found : key = other
          · rw [if_pos found, if_pos found]
          · rw [if_neg found, if_neg found, if_neg found]
        · rename_i different
          unfold find
          rw [ih]
          by_cases here : first.1 = other
          · rw [if_pos here, if_pos here, if_neg (fun same => different (same.trans here.symm))]
          · rw [if_neg here, if_neg here]

def insert (key : Key) (value : Value) (map : SortedMap Key Value) : SortedMap Key Value :=
  ⟨insertBinding key value map.bindings, sorted_insertBinding key value map.sorted⟩

def lookup (key : Key) (map : SortedMap Key Value) : Option Value :=
  find key map.bindings

def erase (key : Key) (map : SortedMap Key Value) : SortedMap Key Value :=
  ⟨map.bindings.filter (fun binding => binding.1 ≠ key), map.sorted.filter _⟩

/-- Bindings that are inserted one after the other. -/
def insertAll (bindings : List (Key × Value)) (map : SortedMap Key Value) :
    SortedMap Key Value :=
  bindings.foldl (fun map binding => map.insert binding.1 binding.2) map

variable {key : Key} {value : Value} {map : SortedMap Key Value}

theorem ext_bindings {first second : SortedMap Key Value}
    (same : first.bindings = second.bindings) : first = second := by
  cases first
  cases second
  cases same
  rfl

@[simp] theorem lookup_empty (key : Key) : (empty : SortedMap Key Value).lookup key = none := rfl

theorem lookup_insert (key other : Key) (value : Value) (map : SortedMap Key Value) :
    (map.insert key value).lookup other =
      if key = other then some value else map.lookup other :=
  find_insertBinding key other value map.bindings

theorem find_filter_ne (key other : Key) (bindings : List (Key × Value)) :
    find other (bindings.filter (fun binding => binding.1 ≠ key)) =
      if key = other then none else find other bindings := by
  induction bindings with
  | nil => exact (ite_self none).symm
  | cons first rest ih =>
      by_cases erased : first.1 = key
      · rw [List.filter_cons_of_neg (by simpa using erased), ih, find, erased]
        by_cases here : key = other
        · rw [if_pos here, if_pos here]
        · rw [if_neg here, if_neg here, if_neg here]
      · rw [List.filter_cons_of_pos (by simpa using erased), find, find, ih]
        by_cases here : first.1 = other
        · rw [if_pos here, if_pos here, if_neg (fun same => erased (here.trans same.symm))]
        · rw [if_neg here, if_neg here]

theorem lookup_erase (key other : Key) (map : SortedMap Key Value) :
    (map.erase key).lookup other = if key = other then none else map.lookup other :=
  find_filter_ne key other map.bindings

theorem mem_of_find {bindings : List (Key × Value)} (found : find key bindings = some value) :
    (key, value) ∈ bindings := by
  induction bindings with
  | nil => cases found
  | cons first rest ih =>
      unfold find at found
      split at found
      · rename_i same
        cases found
        rw [← same]
        exact List.mem_cons_self
      · exact List.mem_cons_of_mem _ (ih found)

/-- The keys of the bindings are not equal. -/
def Distinct (bindings : List (Key × Value)) : Prop :=
  bindings.Pairwise (fun earlier later => earlier.1 ≠ later.1)

theorem distinct (map : SortedMap Key Value) : Distinct map.bindings :=
  map.sorted.imp (fun less => less.ne)

omit [LinearOrder Key] in
theorem Distinct.reverse {bindings : List (Key × Value)} (distinct : Distinct bindings) :
    Distinct bindings.reverse :=
  List.pairwise_reverse.mpr (distinct.imp (fun different => different.symm))

theorem Distinct.find_eq_some {bindings : List (Key × Value)} (distinct : Distinct bindings) :
    find key bindings = some value ↔ (key, value) ∈ bindings := by
  refine ⟨mem_of_find, fun member => ?_⟩
  induction bindings with
  | nil => cases member
  | cons first rest ih =>
      have ⟨before, tail⟩ := List.pairwise_cons.mp distinct
      unfold find
      rcases List.mem_cons.mp member with rfl | later
      · exact if_pos rfl
      · rw [if_neg (before _ later), ih tail later]

theorem lookup_eq_some : map.lookup key = some value ↔ (key, value) ∈ map.bindings :=
  map.distinct.find_eq_some

/-- What is found under each key determines a map. -/
theorem ext_lookup {first second : SortedMap Key Value}
    (same : ∀ key, first.lookup key = second.lookup key) : first = second := by
  apply ext_bindings
  have members : ∀ binding, binding ∈ first.bindings ↔ binding ∈ second.bindings := by
    intro binding
    have found := same binding.1
    rw [← lookup_eq_some, ← lookup_eq_some, found]
  have nodup : ∀ map : SortedMap Key Value, map.bindings.Nodup :=
    fun map => map.distinct.imp (fun different same => different (congrArg Prod.fst same))
  have shuffled : first.bindings.Perm second.bindings :=
    (List.perm_ext_iff_of_nodup (nodup first) (nodup second)).mpr members
  exact shuffled.eq_of_pairwise
    (fun _ _ _ _ less greater => absurd less (not_lt.mpr greater.le)) first.sorted second.sorted

theorem forall_insert {holds : Key × Value → Prop} (new : holds (key, value))
    (old : ∀ binding ∈ map.bindings, holds binding) :
    ∀ binding ∈ (map.insert key value).bindings, holds binding := by
  intro binding member
  rcases mem_insertBinding member with rfl | before
  · exact new
  · exact old binding before

theorem forall_erase {holds : Key × Value → Prop}
    (old : ∀ binding ∈ map.bindings, holds binding) :
    ∀ binding ∈ (map.erase key).bindings, holds binding :=
  fun binding member => old binding (List.mem_of_mem_filter member)

theorem forall_insertAll {holds : Key × Value → Prop} {bindings : List (Key × Value)}
    (new : ∀ binding ∈ bindings, holds binding) (old : ∀ binding ∈ map.bindings, holds binding) :
    ∀ binding ∈ (map.insertAll bindings).bindings, holds binding := by
  induction bindings generalizing map with
  | nil => exact old
  | cons first rest ih =>
      rw [List.forall_mem_cons] at new
      exact ih new.2 (forall_insert new.1 old)

/-- The last binding of a key counts. -/
theorem lookup_insertAll (key : Key) (bindings : List (Key × Value)) (map : SortedMap Key Value) :
    (map.insertAll bindings).lookup key = (find key bindings.reverse).or (map.lookup key) := by
  have find_append : ∀ front back : List (Key × Value),
      find key (front ++ back) = (find key front).or (find key back) := by
    intro front back
    induction front with
    | nil => rfl
    | cons first rest ih =>
        rw [List.cons_append, find, find, ih]
        by_cases here : first.1 = key
        · rw [if_pos here, if_pos here, Option.some_or]
        · rw [if_neg here, if_neg here]
  induction bindings generalizing map with
  | nil => rfl
  | cons first rest ih =>
      have after : (map.insertAll (first :: rest)) = (map.insert first.1 first.2).insertAll rest :=
        rfl
      rw [after, ih, lookup_insert, List.reverse_cons, find_append, Option.or_assoc, find, find]
      by_cases here : first.1 = key
      · rw [if_pos here, if_pos here, Option.some_or]
      · rw [if_neg here, if_neg here, Option.none_or]

/-- The bindings of a map, inserted into the empty one, make it again. -/
theorem insertAll_bindings (map : SortedMap Key Value) :
    (empty : SortedMap Key Value).insertAll map.bindings = map := by
  apply ext_lookup
  intro key
  rw [lookup_insertAll, lookup_empty, Option.or_none]
  apply Option.ext
  intro value
  rw [map.distinct.reverse.find_eq_some, List.mem_reverse, lookup_eq_some]

end

end SortedMap

end A5Common.Run
