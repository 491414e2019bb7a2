import A5Common.Utils.LinkedList

set_option autoImplicit false

namespace A5Common.Utils

open A5Common.Run

variable {Addr Data Dealloc Data_0 : Type}

/-- A call on an initialised list, with what `malloc` answers in it. -/
inductive Call (Addr Data Dealloc Data_0 : Type) where
  | add (malloc : Option (Malloc Addr Data Dealloc)) (data_obj : Option Data)
      (dealloc : Option Dealloc)
  | remove (data_obj : Bool)
  | search (data_p : Bool) (equal : Option (Data_0 → Data → Bool)) (data_0 : Data_0)
      (rm_if_found : Bool)
  | empty
  | flush

/-- What a call of the list returns, or `linked_list_empty`. -/
inductive Answer (Data : Type) where
  | err (returned : Returned Data)
  | int (rv : Int)
deriving DecidableEq

/-- What the list is for: a sequence, which keeps the calls that deallocate data. -/
structure AbstractList (Data Dealloc : Type) where
  contents : List (Element Data Dealloc)
  deallocated : List (Dealloc × Data)

namespace AbstractList

def new : AbstractList Data Dealloc where
  contents := []
  deallocated := []

/-- Puts at the head, if there is data and memory for it. -/
def add (memory : Bool) (data_obj : Option Data) (dealloc : Option Dealloc)
    (σ : AbstractList Data Dealloc) : Returned Data × AbstractList Data Dealloc :=
  match data_obj with
  | none => (⟨.eLINKED_LIST_INVALID_PARAMETER, none⟩, σ)
  | some data_obj =>
      if memory then
        (⟨.eLINKED_LIST_SUCCESS, none⟩,
          { σ with contents := ⟨data_obj, dealloc⟩ :: σ.contents })
      else (⟨.eLINKED_LIST_FAILURE_GENERAL, none⟩, σ)

/-- Takes from the tail. -/
def remove (data_obj : Bool) (σ : AbstractList Data Dealloc) :
    Returned Data × AbstractList Data Dealloc :=
  if !data_obj then (⟨.eLINKED_LIST_INVALID_PARAMETER, none⟩, σ)
  else
    match σ.contents.getLast? with
    | none => (⟨.eLINKED_LIST_UNAVAILABLE_RESOURCE, none⟩, σ)
    | some elem =>
        (⟨.eLINKED_LIST_SUCCESS, some (some elem.data_ptr)⟩,
          { σ with contents := σ.contents.dropLast })

/-- Returns the first match from the head, or NULL, and removes it if asked to. Data that
is not handed out is deallocated. -/
def search (data_p : Bool) (equal : Option (Data_0 → Data → Bool)) (data_0 : Data_0)
    (rm_if_found : Bool) (σ : AbstractList Data Dealloc) :
    Returned Data × AbstractList Data Dealloc :=
  match equal with
  | none => (⟨.eLINKED_LIST_INVALID_HANDLE, none⟩, σ)
  | some equal =>
      if σ.contents.isEmpty then (⟨.eLINKED_LIST_UNAVAILABLE_RESOURCE, none⟩, σ)
      else
        let fits (elem : Element Data Dealloc) := equal data_0 elem.data_ptr
        let found := σ.contents.find? fits
        (⟨.eLINKED_LIST_SUCCESS,
            if data_p then some (found.map Element.data_ptr) else none⟩,
          { contents := if rm_if_found then σ.contents.eraseP fits else σ.contents
            deallocated := σ.deallocated ++
              if rm_if_found && !data_p then found.elim [] Element.released else [] })

/-- Deallocates all the data, from the head on. -/
def flush (σ : AbstractList Data Dealloc) : Returned Data × AbstractList Data Dealloc :=
  (⟨.eLINKED_LIST_SUCCESS, none⟩,
    { contents := []
      deallocated := σ.deallocated ++ σ.contents.flatMap Element.released })

def call (σ : AbstractList Data Dealloc) :
    Call Addr Data Dealloc Data_0 → Answer Data × AbstractList Data Dealloc
  | .add malloc data_obj dealloc =>
      (σ.add malloc.isSome data_obj dealloc).map .err id
  | .remove data_obj => (σ.remove data_obj).map .err id
  | .search data_p equal data_0 rm_if_found =>
      (σ.search data_p equal data_0 rm_if_found).map .err id
  | .empty => (.int (if σ.contents.isEmpty then 1 else 0), σ)
  | .flush => σ.flush.map .err id

def run (σ : AbstractList Data Dealloc) :
    List (Call Addr Data Dealloc Data_0) → List (Answer Data) × AbstractList Data Dealloc
  | [] => ([], σ)
  | call :: rest =>
      let (answer, σ) := σ.call call
      let (answers, σ) := σ.run rest
      (answer :: answers, σ)

end AbstractList

variable [DecidableEq Addr]

namespace ListState

def call (p_list : ListState Addr Data Dealloc) :
    Call Addr Data Dealloc Data_0 → Option (Answer Data × ListState Addr Data Dealloc)
  | .add malloc data_obj dealloc =>
      (linkedListAdd malloc data_obj dealloc p_list).map (Prod.map .err id)
  | .remove data_obj => (linkedListRemove data_obj p_list).map (Prod.map .err id)
  | .search data_p equal data_0 rm_if_found =>
      (linkedListSearch data_p equal data_0 rm_if_found p_list).map (Prod.map .err id)
  | .empty => some (.int (linkedListEmpty p_list), p_list)
  | .flush => (linkedListFlush p_list).map (Prod.map .err id)

def run (p_list : ListState Addr Data Dealloc) :
    List (Call Addr Data Dealloc Data_0) →
      Option (List (Answer Data) × ListState Addr Data Dealloc)
  | [] => some ([], p_list)
  | call :: rest => do
      let (answer, p_list) ← p_list.call call
      let (answers, p_list) ← p_list.run rest
      some (answer :: answers, p_list)

/-- A list is a chain whose elements, from the head on, are those of the sequence. -/
structure Mirrors (p_list : ListState Addr Data Dealloc) (σ : AbstractList Data Dealloc) :
    Prop where
  items : ∃ items, p_list.Holds items ∧ items.map Prod.snd = σ.contents
  deallocated : p_list.deallocated = σ.deallocated

variable {p_list : ListState Addr Data Dealloc} {σ : AbstractList Data Dealloc}

theorem mirrors_new : Mirrors (linkedListInit : ListState Addr Data Dealloc) .new where
  items := ⟨[], linkedListInit_holds, rfl⟩
  deallocated := rfl

theorem Mirrors.add (mirrors : p_list.Mirrors σ) (malloc : Option (Malloc Addr Data Dealloc))
    (data_obj : Option Data) (dealloc : Option Dealloc) :
    ∃ after,
      linkedListAdd malloc data_obj dealloc p_list =
        some ((σ.add malloc.isSome data_obj dealloc).1, after) ∧
      after.Mirrors (σ.add malloc.isSome data_obj dealloc).2 := by
  cases data_obj with
  | none => exact ⟨p_list, rfl, mirrors⟩
  | some data_obj =>
      cases malloc with
      | none => exact ⟨p_list, rfl, mirrors⟩
      | some malloc =>
          obtain ⟨items, holds, contents⟩ := mirrors.items
          obtain ⟨after, ran, holds, released⟩ :=
            linkedListAdd_holds holds malloc data_obj dealloc
          refine ⟨after, ran, ⟨_, holds, ?_⟩, released.trans mirrors.deallocated⟩
          rw [List.map_cons, contents]
          rfl

theorem Mirrors.remove (mirrors : p_list.Mirrors σ) (data_obj : Bool) :
    ∃ after, linkedListRemove data_obj p_list = some ((σ.remove data_obj).1, after) ∧
      after.Mirrors (σ.remove data_obj).2 := by
  cases data_obj with
  | false => exact ⟨p_list, rfl, mirrors⟩
  | true =>
      obtain ⟨items, holds, contents⟩ := mirrors.items
      rcases List.eq_nil_or_concat' items with rfl | ⟨front, ⟨addr, content⟩, rfl⟩
      · refine ⟨p_list, ?_, ?_⟩
        · unfold linkedListRemove AbstractList.remove
          rw [holds.tail, ← contents]
          rfl
        · unfold AbstractList.remove
          rw [← contents]
          exact mirrors
      · obtain ⟨after, ran, holds, released⟩ := linkedListRemove_holds holds
        rw [List.map_append] at contents
        unfold AbstractList.remove
        rw [← contents, List.map_singleton, List.getLast?_concat]
        refine ⟨after, ran, ⟨front, holds, ?_⟩, released.trans mirrors.deallocated⟩
        exact List.dropLast_concat.symm

theorem Mirrors.search (mirrors : p_list.Mirrors σ) (data_p : Bool)
    (equal : Option (Data_0 → Data → Bool)) (data_0 : Data_0) (rm_if_found : Bool) :
    ∃ after,
      linkedListSearch data_p equal data_0 rm_if_found p_list =
        some ((σ.search data_p equal data_0 rm_if_found).1, after) ∧
      after.Mirrors (σ.search data_p equal data_0 rm_if_found).2 := by
  cases equal with
  | none => exact ⟨p_list, rfl, mirrors⟩
  | some equal =>
      obtain ⟨items, holds, contents⟩ := mirrors.items
      unfold linkedListSearch AbstractList.search
      by_cases empty : items = []
      · rw [holds.tail, empty, ← contents, empty]
        exact ⟨p_list, rfl, mirrors⟩
      · have tail : p_list.p_tail ≠ none :=
          fun null => empty (lastOf_eq_none.mp (holds.tail ▸ null))
        have some_left : σ.contents.isEmpty = false := by
          rw [← contents, List.isEmpty_map, List.isEmpty_eq_false_iff]
          exact empty
        have start : p_list.Holds ([] ++ items) := holds
        obtain ⟨after, ran, kept, released⟩ :=
          searchLoop_holds start holds.chain.card_keys.ge data_p (equal data_0) rm_if_found
            (if data_p then some none else none)
        rw [contents] at ran released
        simp only [if_neg tail, some_left, Bool.false_eq_true, if_false, holds.head]
        refine ⟨after, ran.trans ?_, ⟨_, kept, ?_⟩, released.trans ?_⟩
        · cases σ.contents.find? (fun elem => equal data_0 elem.data_ptr) with
          | none => cases data_p <;> rfl
          | some elem => cases data_p <;> rfl
        · cases rm_if_found with
          | true =>
              rw [if_pos rfl, if_pos rfl, ← contents, List.eraseP_map]
              rfl
          | false => exact contents
        · rw [mirrors.deallocated]

theorem Mirrors.flush (mirrors : p_list.Mirrors σ) :
    ∃ after, linkedListFlush p_list = some (σ.flush.1, after) ∧ after.Mirrors σ.flush.2 := by
  obtain ⟨items, holds, contents⟩ := mirrors.items
  obtain ⟨after, ran, holds, released⟩ := linkedListFlush_holds holds
  refine ⟨after, ran, ⟨[], holds, rfl⟩, ?_⟩
  rw [released, mirrors.deallocated, AbstractList.flush, ← contents, List.flatMap_map]

theorem Mirrors.empty (mirrors : p_list.Mirrors σ) :
    linkedListEmpty p_list = if σ.contents.isEmpty then 1 else 0 := by
  obtain ⟨items, holds, contents⟩ := mirrors.items
  unfold linkedListEmpty
  rw [holds.head, ← contents, List.isEmpty_map]
  cases items with
  | nil => rfl
  | cons item rest => rfl

/-- A call answers as on the sequence. -/
theorem Mirrors.call (mirrors : p_list.Mirrors σ) (call : Call Addr Data Dealloc Data_0) :
    ∃ after, p_list.call call = some ((σ.call call).1, after) ∧
      after.Mirrors (σ.call call).2 := by
  cases call with
  | add malloc data_obj dealloc =>
      obtain ⟨after, ran, mirrors⟩ := mirrors.add malloc data_obj dealloc
      exact ⟨after, congrArg (Option.map (Prod.map Answer.err id)) ran, mirrors⟩
  | remove data_obj =>
      obtain ⟨after, ran, mirrors⟩ := mirrors.remove data_obj
      exact ⟨after, congrArg (Option.map (Prod.map Answer.err id)) ran, mirrors⟩
  | search data_p equal data_0 rm_if_found =>
      obtain ⟨after, ran, mirrors⟩ := mirrors.search data_p equal data_0 rm_if_found
      exact ⟨after, congrArg (Option.map (Prod.map Answer.err id)) ran, mirrors⟩
  | empty =>
      exact ⟨p_list, congrArg (fun rv => some (Answer.int rv, p_list)) mirrors.empty, mirrors⟩
  | flush =>
      obtain ⟨after, ran, mirrors⟩ := mirrors.flush
      exact ⟨after, congrArg (Option.map (Prod.map Answer.err id)) ran, mirrors⟩

theorem Mirrors.run (mirrors : p_list.Mirrors σ) (calls : List (Call Addr Data Dealloc Data_0)) :
    ∃ after, p_list.run calls = some ((σ.run calls).1, after) ∧ after.Mirrors (σ.run calls).2 := by
  induction calls generalizing p_list σ with
  | nil => exact ⟨p_list, rfl, mirrors⟩
  | cons call rest ih =>
      obtain ⟨middle, answered, mirrors⟩ := mirrors.call call
      obtain ⟨after, ran, mirrors⟩ := ih mirrors
      refine ⟨after, ?_, mirrors⟩
      unfold ListState.run
      simp only [answered, ran, Option.bind_eq_bind, Option.bind_some]
      rfl

end ListState

/-- After any calls on a list that was initialised, the links from the head and those from
the tail go through the same elements, in both directions up to NULL. The elements, the
answers and the data that was deallocated are those of the sequence. -/
theorem linked_list_refines (calls : List (Call Addr Data Dealloc Data_0)) :
    ∃ answers, ∃ p_list : ListState Addr Data Dealloc, ∃ addrs contents,
      linkedListInit.run calls = some (answers, p_list) ∧
      Walk (fun addr => (p_list.cells.lookup addr).map Cell.next) p_list.p_head addrs ∧
      Walk (fun addr => (p_list.cells.lookup addr).map Cell.prev) p_list.p_tail addrs.reverse ∧
      (p_list.p_head = none ↔ p_list.p_tail = none) ∧
      addrs.map (fun addr => (p_list.cells.lookup addr).map Cell.content) =
        contents.map some ∧
      AbstractList.new.run calls = (answers, ⟨contents, p_list.deallocated⟩) := by
  obtain ⟨p_list, ran, mirrors⟩ := ListState.mirrors_new.run calls
  obtain ⟨items, holds, contents⟩ := mirrors.items
  have forward := holds.chain.stretch.walk_next .null
  have backward := holds.chain.stretch.walk_prev .null
  rw [List.append_nil, ← holds.head] at forward
  rw [List.append_nil, ← holds.tail] at backward
  refine ⟨_, p_list, items.map Prod.fst, items.map Prod.snd, ran, forward, backward, ?_,
    holds.chain.stretch.contents, ?_⟩
  · rw [holds.head, holds.tail, firstOf_eq_none, lastOf_eq_none]
  · rw [contents, mirrors.deallocated]

end A5Common.Utils
