import A5Common.Run.Links
import Mathlib.Order.Lattice.Nat

set_option autoImplicit false

namespace A5Common.Utils

open A5Common.Run

/-- `linked_list_err_type` -/
inductive LinkedListErr where
  | eLINKED_LIST_SUCCESS
  | eLINKED_LIST_FAILURE_GENERAL
  | eLINKED_LIST_INVALID_PARAMETER
  | eLINKED_LIST_INVALID_HANDLE
  | eLINKED_LIST_UNAVAILABLE_RESOURCE
  | eLINKED_LIST_INSUFFICIENT_BUFFER
deriving DecidableEq

/-- What a `list_element` carries beside its links. Data in a list is never NULL. -/
structure Element (Data Dealloc : Type) where
  data_ptr : Data
  dealloc_func : Option Dealloc
deriving DecidableEq

/-- The call of the function that deallocates the data, if there is one. -/
def Element.released {Data Dealloc : Type} (elem : Element Data Dealloc) :
    List (Dealloc × Data) :=
  match elem.dealloc_func with
  | none => []
  | some dealloc => [(dealloc, elem.data_ptr)]

/-- A `list_state`, the elements that are allocated and the calls that deallocate data. -/
structure ListState (Addr Data Dealloc : Type) where
  cells : Cells Addr (Element Data Dealloc)
  p_head : Option Addr
  p_tail : Option Addr
  deallocated : List (Dealloc × Data)

/-- An answer of `malloc` other than NULL, an address that nothing is allocated at. -/
structure Malloc (Addr Data Dealloc : Type) where
  address : Cells Addr (Element Data Dealloc) → Addr
  fresh : ∀ cells, address cells ∉ cells

/-- An allocator that gives the address after the highest one in use. -/
def Malloc.next (Data Dealloc : Type) : Malloc Nat Data Dealloc where
  address cells := cells.keys.sup id + 1
  fresh _ found :=
    absurd (Finset.le_sup (f := id) (Finmap.mem_keys.mpr found)) (Nat.not_succ_le_self _)

/-- What a call returns, and what it writes to the caller's pointer if it does. -/
structure Returned (Data : Type) where
  rv : LinkedListErr
  out : Option (Option Data)
deriving DecidableEq

variable {Addr Data Dealloc : Type}

/-- What `linked_list_init` leaves. -/
def linkedListInit : ListState Addr Data Dealloc where
  cells := ∅
  p_head := none
  p_tail := none
  deallocated := []

variable [DecidableEq Addr]

/-- A change to an element, by one of the pointers to it. -/
def ListState.store (addr : Addr)
    (change : Cell Addr (Element Data Dealloc) → Cell Addr (Element Data Dealloc))
    (p_list : ListState Addr Data Dealloc) : Option (ListState Addr Data Dealloc) :=
  (p_list.cells.store addr change).map (fun cells => { p_list with cells := cells })

def ListState.free (addr : Addr) (p_list : ListState Addr Data Dealloc) :
    Option (ListState Addr Data Dealloc) :=
  (p_list.cells.free addr).map (fun cells => { p_list with cells := cells })

/-- The functions have no result when a pointer they follow points to nothing. -/
def linkedListAdd (malloc : Option (Malloc Addr Data Dealloc)) (data_obj : Option Data)
    (dealloc : Option Dealloc) (p_list : ListState Addr Data Dealloc) :
    Option (Returned Data × ListState Addr Data Dealloc) :=
  match data_obj, malloc with
  | none, _ => some (⟨.eLINKED_LIST_INVALID_PARAMETER, none⟩, p_list)
  | some _, none => some (⟨.eLINKED_LIST_FAILURE_GENERAL, none⟩, p_list)
  | some data_obj, some malloc => do
      let elem := malloc.address p_list.cells
      let tmp := p_list.p_head
      let p_list ← ListState.store elem (fun cell => { cell with next := tmp })
        { p_list with
          cells := p_list.cells.insert elem ⟨none, none, ⟨data_obj, dealloc⟩⟩
          p_head := some elem }
      let p_list ← match tmp with
        | some tmp => p_list.store tmp (fun cell => { cell with prev := p_list.p_head })
        | none => some { p_list with p_tail := p_list.p_head }
      some (⟨.eLINKED_LIST_SUCCESS, none⟩, p_list)

/-- The caller passes a pointer for the data, or NULL. -/
def linkedListRemove (data_obj : Bool) (p_list : ListState Addr Data Dealloc) :
    Option (Returned Data × ListState Addr Data Dealloc) :=
  if !data_obj then some (⟨.eLINKED_LIST_INVALID_PARAMETER, none⟩, p_list)
  else
    match p_list.p_tail with
    | none => some (⟨.eLINKED_LIST_UNAVAILABLE_RESOURCE, none⟩, p_list)
    | some tmp => do
        let elem ← p_list.cells.lookup tmp
        let p_list := { p_list with p_tail := elem.prev }
        let p_list ← match p_list.p_tail with
          | some p_tail => p_list.store p_tail (fun cell => { cell with next := none })
          | none => some { p_list with p_head := p_list.p_tail }
        let elem ← p_list.cells.lookup tmp
        let p_list ← p_list.free tmp
        some (⟨.eLINKED_LIST_SUCCESS, some (some elem.content.data_ptr)⟩, p_list)

def linkedListEmpty (p_list : ListState Addr Data Dealloc) : Int :=
  if p_list.p_head = none then 1 else 0

/-- The loop of `linked_list_flush`, with a bound on its rounds. -/
def flushLoop : Nat → ListState Addr Data Dealloc → Option (ListState Addr Data Dealloc)
  | 0, p_list => if p_list.p_head = none then some p_list else none
  | rounds + 1, p_list =>
      match p_list.p_head with
      | none => some p_list
      | some p_head => do
          let elem ← p_list.cells.lookup p_head
          let tmp := elem.next
          let p_list := { p_list with
            deallocated := p_list.deallocated ++ elem.content.released }
          let p_list ← p_list.free p_head
          flushLoop rounds { p_list with p_head := tmp }

def linkedListFlush (p_list : ListState Addr Data Dealloc) :
    Option (Returned Data × ListState Addr Data Dealloc) := do
  let p_list ← flushLoop p_list.cells.keys.card p_list
  some (⟨.eLINKED_LIST_SUCCESS, none⟩, { p_list with p_tail := none })

/-- What leads to the next element: a link of the one before it, or the head. -/
def ListState.setNext (prev next : Option Addr) (p_list : ListState Addr Data Dealloc) :
    Option (ListState Addr Data Dealloc) :=
  match prev with
  | none => some { p_list with p_head := next }
  | some prev => p_list.store prev (fun cell => { cell with next := next })

/-- What leads to the element before: a link of the next one, or the tail. -/
def ListState.setPrev (next prev : Option Addr) (p_list : ListState Addr Data Dealloc) :
    Option (ListState Addr Data Dealloc) :=
  match next with
  | none => some { p_list with p_tail := prev }
  | some next => p_list.store next (fun cell => { cell with prev := prev })

/-- What `linked_list_search` does with the element it found, if it removes it. -/
def removeFound (data_p : Bool) (tmp : Addr) (p_list : ListState Addr Data Dealloc) :
    Option (ListState Addr Data Dealloc) := do
  let elem ← p_list.cells.lookup tmp
  let p_list ← p_list.setNext elem.prev elem.next
  let elem ← p_list.cells.lookup tmp
  let p_list ← p_list.setPrev elem.next elem.prev
  let p_list ← p_list.store tmp (fun cell => { cell with next := none, prev := none })
  let p_list := { p_list with
    deallocated := p_list.deallocated ++ if data_p then [] else elem.content.released }
  p_list.free tmp

/-- The loop of `linked_list_search`, with a bound on its rounds. -/
def searchLoop (data_p : Bool) (equal : Data → Bool) (rm_if_found : Bool) :
    Nat → Option Addr → Option (Option Data) → ListState Addr Data Dealloc →
      Option (Returned Data × ListState Addr Data Dealloc)
  | _, none, out, p_list => some (⟨.eLINKED_LIST_SUCCESS, out⟩, p_list)
  | 0, some _, _, _ => none
  | rounds + 1, some tmp, out, p_list => do
      let elem ← p_list.cells.lookup tmp
      if equal elem.content.data_ptr then
        let out := if data_p then some (some elem.content.data_ptr) else out
        let p_list ← if rm_if_found then removeFound data_p tmp p_list else some p_list
        some (⟨.eLINKED_LIST_SUCCESS, out⟩, p_list)
      else searchLoop data_p equal rm_if_found rounds elem.next out p_list

/-- The caller passes a pointer for the data, or NULL; `data_0` is what `equal`
compares with. -/
def linkedListSearch {Data_0 : Type} (data_p : Bool) (equal : Option (Data_0 → Data → Bool))
    (data_0 : Data_0) (rm_if_found : Bool) (p_list : ListState Addr Data Dealloc) :
    Option (Returned Data × ListState Addr Data Dealloc) :=
  match equal with
  | none => some (⟨.eLINKED_LIST_INVALID_HANDLE, none⟩, p_list)
  | some equal =>
      if p_list.p_tail = none then some (⟨.eLINKED_LIST_UNAVAILABLE_RESOURCE, none⟩, p_list)
      else
        searchLoop data_p (equal data_0) rm_if_found p_list.cells.keys.card p_list.p_head
          (if data_p then some none else none) p_list

/-- A list is the chain of these elements, from the head to the tail. -/
structure ListState.Holds (p_list : ListState Addr Data Dealloc)
    (items : List (Addr × Element Data Dealloc)) : Prop where
  chain : p_list.cells.Chain items
  head : p_list.p_head = firstOf none items
  tail : p_list.p_tail = lastOf none items

theorem linkedListInit_holds : (linkedListInit : ListState Addr Data Dealloc).Holds [] where
  chain := Cells.chain_empty
  head := rfl
  tail := rfl

namespace ListState

theorem setNext_eq (prev next : Option Addr) (p_list : ListState Addr Data Dealloc) :
    p_list.setNext prev next = (p_list.cells.relinkNext prev next).map (fun cells =>
      { p_list with cells := cells, p_head := prev.elim next (fun _ => p_list.p_head) }) := by
  cases prev with
  | none => rfl
  | some prev => rfl

theorem setPrev_eq (next prev : Option Addr) (p_list : ListState Addr Data Dealloc) :
    p_list.setPrev next prev = (p_list.cells.relinkPrev next prev).map (fun cells =>
      { p_list with cells := cells, p_tail := next.elim prev (fun _ => p_list.p_tail) }) := by
  cases next with
  | none => rfl
  | some next => rfl

end ListState

variable {p_list : ListState Addr Data Dealloc} {items : List (Addr × Element Data Dealloc)}

/-- An element that is added is the new head. -/
theorem linkedListAdd_holds (holds : p_list.Holds items) (malloc : Malloc Addr Data Dealloc)
    (data_obj : Data) (dealloc : Option Dealloc) :
    ∃ after,
      linkedListAdd (some malloc) (some data_obj) dealloc p_list =
        some (⟨.eLINKED_LIST_SUCCESS, none⟩, after) ∧
      after.Holds ((malloc.address p_list.cells, ⟨data_obj, dealloc⟩) :: items) ∧
      after.deallocated = p_list.deallocated := by
  obtain ⟨cells, relinked, chain⟩ :=
    holds.chain.push (malloc.fresh p_list.cells) ⟨data_obj, dealloc⟩
  unfold linkedListAdd ListState.store
  simp only [Cells.lookup_store (Finmap.lookup_insert p_list.cells), Finmap.insert_insert,
    holds.head, Option.map_some, Option.bind_eq_bind, Option.bind_some]
  cases items with
  | nil =>
      cases relinked
      exact ⟨_, rfl, ⟨chain, rfl, rfl⟩, rfl⟩
  | cons first rest =>
      obtain ⟨first, content⟩ := first
      have stored := relinked
      simp only [firstOf, Cells.relinkPrev] at stored
      simp only [firstOf, stored, Option.map_some, Option.bind_some]
      exact ⟨_, rfl, ⟨chain, rfl, holds.tail⟩, rfl⟩

/-- `linked_list_remove` with a pointer for the data, on a list that has a tail. -/
theorem linkedListRemove_eq {tmp : Addr} (tail : p_list.p_tail = some tmp) :
    linkedListRemove true p_list = (do
      let elem ← p_list.cells.lookup tmp
      let p_list ← ListState.setNext elem.prev none { p_list with p_tail := elem.prev }
      let elem ← p_list.cells.lookup tmp
      let p_list ← p_list.free tmp
      some (⟨.eLINKED_LIST_SUCCESS, some (some elem.content.data_ptr)⟩, p_list)) := by
  unfold linkedListRemove
  rw [tail]
  apply bind_congr
  intro elem
  cases prev : elem.prev with
  | none => rfl
  | some prev => rfl

/-- The tail is removed, and its data is handed out. -/
theorem linkedListRemove_holds {addr : Addr} {content : Element Data Dealloc}
    (holds : p_list.Holds (items ++ [(addr, content)])) :
    ∃ after,
      linkedListRemove true p_list =
        some (⟨.eLINKED_LIST_SUCCESS, some (some content.data_ptr)⟩, after) ∧
      after.Holds items ∧ after.deallocated = p_list.deallocated := by
  have tail := holds.tail
  rw [lastOf_append] at tail
  obtain ⟨middle, others, relinked, same, stays, found, chain⟩ := holds.chain.unlink
  cases stays
  have lookup := holds.chain.lookup
  rw [List.append_nil] at chain
  simp only [firstOf] at relinked lookup
  simp only [linkedListRemove_eq tail, ListState.setNext_eq, ListState.free, lookup, relinked,
    same, Cells.free_eq (same.trans lookup), Option.bind_eq_bind, Option.bind_some,
    Option.map_some]
  refine ⟨_, rfl, ⟨chain, ?_, rfl⟩, rfl⟩
  have head := firstOf_unlink items [] (addr, content)
  rw [List.append_nil] at head
  rw [← head, ← holds.head]
  rfl

/-- An element that is found is removed, and its data deallocated if it is not handed out. -/
theorem removeFound_holds {front back : List (Addr × Element Data Dealloc)} {addr : Addr}
    {content : Element Data Dealloc} (holds : p_list.Holds (front ++ (addr, content) :: back))
    (data_p : Bool) :
    ∃ after, removeFound data_p addr p_list = some after ∧ after.Holds (front ++ back) ∧
      after.deallocated = p_list.deallocated ++ if data_p then [] else content.released := by
  obtain ⟨middle, others, relinked_next, same, relinked_prev, found, chain⟩ := holds.chain.unlink
  have lookup := holds.chain.lookup
  have freed := Cells.free_store (found.trans lookup) (fun cell =>
    { cell with next := none, prev := none })
  obtain ⟨written, stored, freed⟩ := Option.bind_eq_some_iff.mp freed
  simp only [removeFound, ListState.setNext_eq, ListState.setPrev_eq, ListState.store,
    ListState.free, lookup, same, relinked_next, relinked_prev, stored, freed,
    Option.bind_eq_bind, Option.bind_some, Option.map_some]
  refine ⟨_, rfl, ⟨chain, ?_, ?_⟩, rfl⟩
  · rw [← firstOf_unlink front back (addr, content), ← holds.head]
  · rw [← lastOf_unlink front back (addr, content), ← holds.tail]

/-- The elements before the one that the loop of a search has come to stay as they are. -/
theorem searchLoop_holds {rounds : Nat} {front back : List (Addr × Element Data Dealloc)}
    (holds : p_list.Holds (front ++ back)) (enough : back.length ≤ rounds) (data_p : Bool)
    (equal : Data → Bool) (rm_if_found : Bool) (out : Option (Option Data)) :
    ∃ after,
      searchLoop data_p equal rm_if_found rounds (firstOf none back) out p_list =
        some (⟨.eLINKED_LIST_SUCCESS,
          ((back.map Prod.snd).find? (fun elem => equal elem.data_ptr)).elim out
            (fun elem => if data_p then some (some elem.data_ptr) else out)⟩, after) ∧
      after.Holds
        (front ++ if rm_if_found then back.eraseP (fun item => equal item.2.data_ptr) else back) ∧
      after.deallocated = p_list.deallocated ++
        if rm_if_found && !data_p then
          ((back.map Prod.snd).find? (fun elem => equal elem.data_ptr)).elim [] Element.released
        else [] := by
  induction back generalizing front rounds with
  | nil =>
      refine ⟨p_list, ?_, ?_, ?_⟩
      · unfold searchLoop firstOf
        cases rounds with
        | zero => rfl
        | succ rounds => rfl
      · rw [List.eraseP_nil, ite_self]
        exact holds
      · rw [List.map_nil, List.find?_nil, Option.elim_none, ite_self, List.append_nil]
  | cons item rest ih =>
      obtain ⟨addr, content⟩ := item
      obtain ⟨rounds, rfl⟩ := Nat.exists_eq_add_one_of_ne_zero
        (Nat.ne_zero_of_lt (Nat.lt_of_succ_le enough))
      have lookup := holds.chain.lookup
      rw [List.map_cons, List.find?_cons, List.eraseP_cons]
      unfold searchLoop firstOf
      simp only [lookup, Option.bind_eq_bind, Option.bind_some]
      cases found : equal content.data_ptr with
      | true =>
          cases rm_if_found with
          | true =>
              obtain ⟨after, ran, holds, released⟩ := removeFound_holds holds data_p
              refine ⟨after, ?_, holds, ?_⟩
              · simp only [if_true, ran, Option.bind_some, Option.elim_some]
              · rw [released]
                cases data_p with
                | true => rfl
                | false => rfl
          | false => exact ⟨p_list, rfl, holds, (List.append_nil _).symm⟩
      | false =>
          rw [List.append_cons] at holds
          obtain ⟨after, ran, holds, released⟩ := ih holds (Nat.le_of_succ_le_succ enough)
          refine ⟨after, ran, ?_, released⟩
          rw [List.append_assoc] at holds
          cases rm_if_found with
          | true => exact holds
          | false => exact holds

/-- The loop of a flush goes on from an element whose predecessor is gone. -/
theorem flushLoop_holds {rounds : Nat} (enough : items.length ≤ rounds) {before : Option Addr}
    (stretch : p_list.cells.Stretch before none items) (nodup : (items.map Prod.fst).Nodup)
    (owned : ∀ addr, addr ∈ p_list.cells ↔ addr ∈ items.map Prod.fst)
    (head : p_list.p_head = firstOf none items) :
    ∃ after, flushLoop rounds p_list = some after ∧ after.cells.Chain [] ∧
      after.p_head = none ∧
      after.deallocated =
        p_list.deallocated ++ items.flatMap (fun item => item.2.released) := by
  induction rounds generalizing p_list items before with
  | zero =>
      cases List.eq_nil_of_length_eq_zero (Nat.le_zero.mp enough)
      exact ⟨p_list, if_pos head, ⟨trivial, nodup, owned⟩, head, (List.append_nil _).symm⟩
  | succ rounds ih =>
      cases items with
      | nil =>
          unfold flushLoop
          rw [head]
          exact ⟨p_list, rfl, ⟨trivial, nodup, owned⟩, head, (List.append_nil _).symm⟩
      | cons item rest =>
          obtain ⟨addr, content⟩ := item
          obtain ⟨found, stretch⟩ := stretch
          obtain ⟨outside, nodup⟩ := List.nodup_cons.mp nodup
          have owned_rest : ∀ other,
              other ∈ p_list.cells.erase addr ↔ other ∈ rest.map Prod.fst := by
            intro other
            rw [Finmap.mem_erase, owned, List.map_cons, List.mem_cons]
            constructor
            · exact fun inside => inside.2.resolve_left inside.1
            · exact fun inside => ⟨fun same => outside (same ▸ inside), .inr inside⟩
          obtain ⟨after, ran, chain, empty, released⟩ :=
            @ih { p_list with
              cells := p_list.cells.erase addr
              p_head := firstOf none rest
              deallocated := p_list.deallocated ++ content.released } rest
              (Nat.le_of_succ_le_succ enough) (some addr) (stretch.erase outside) nodup owned_rest
              rfl
          refine ⟨after, ?_, chain, empty, ?_⟩
          · unfold flushLoop
            simp only [head, firstOf, found, ListState.free, Cells.free_eq found,
              Option.bind_eq_bind, Option.bind_some, Option.map_some]
            exact ran
          · rw [released, List.flatMap_cons, List.append_assoc]

theorem linkedListFlush_holds (holds : p_list.Holds items) :
    ∃ after, linkedListFlush p_list = some (⟨.eLINKED_LIST_SUCCESS, none⟩, after) ∧
      after.Holds [] ∧
      after.deallocated =
        p_list.deallocated ++ items.flatMap (fun item => item.2.released) := by
  obtain ⟨after, ran, chain, empty, released⟩ :=
    flushLoop_holds holds.chain.card_keys.ge holds.chain.stretch holds.chain.nodup
      holds.chain.owned holds.head
  refine ⟨{ after with p_tail := none }, ?_, ⟨chain, empty, rfl⟩, released⟩
  unfold linkedListFlush
  rw [ran]
  rfl

end A5Common.Utils
