import A5Common.Agps.Notify
import Mathlib.Data.List.InsertIdx

set_option autoImplicit false

namespace A5Common.Agps

/-- A subscriber object in memory. -/
structure SubscriberObject where
  address : Nat
  value : Subscriber

/-- A machine whose list holds pointers to live objects, each once. The list of
`machine` itself is not used. -/
structure ObjectMachine where
  machine : AgpsStateMachine
  mSubscribers : List SubscriberObject
  live : Nat → Bool
  distinct : (mSubscribers.map SubscriberObject.address).Nodup
  listed : ∀ s ∈ mSubscribers, live s.address = true

namespace ObjectMachine

/-- The machine with the values of the objects. -/
def view (σ : ObjectMachine) : AgpsStateMachine :=
  { σ.machine with mSubscribers := σ.mSubscribers.map SubscriberObject.value }

theorem address_injective {σ : ObjectMachine} {i j : Nat} {first second : SubscriberObject}
    (one : σ.mSubscribers[i]? = some first) (other : σ.mSubscribers[j]? = some second)
    (same : first.address = second.address) : i = j := by
  have inside : i < (σ.mSubscribers.map SubscriberObject.address).length := by
    rw [List.length_map]
    exact (List.getElem?_eq_some_iff.mp one).1
  refine (List.getElem?_inj inside σ.distinct).mp ?_
  rw [List.getElem?_map, List.getElem?_map, one, other]
  exact congrArg some same

/-- An entry is unlinked and its object deleted. -/
def delete (position : Nat) (σ : ObjectMachine) : ObjectMachine where
  machine := σ.machine
  mSubscribers := σ.mSubscribers.eraseIdx position
  live := fun address =>
    σ.live address && (σ.mSubscribers[position]?.all fun s => s.address != address)
  distinct := by
    rw [← List.eraseIdx_map]
    exact σ.distinct.eraseIdx position
  listed := by
    intro s member
    rw [Bool.and_eq_true]
    refine ⟨σ.listed s (List.mem_of_mem_eraseIdx member), ?_⟩
    rw [Option.all_eq_true]
    intro gone found
    obtain ⟨other, apart, held⟩ := List.mem_eraseIdx_iff_getElem?.mp member
    simp only [bne_iff_ne, ne_eq]
    intro same
    exact apart (address_injective held found same.symm)

/-- The callback notifySubscriber: comparing an entry with the receiver reads the
receiver, which has to be live. -/
def notifySubscriber (live : Nat → Bool) (rcver : SubscriberObject) (s : SubscriberObject)
    (m : AgpsStateMachine) : Option (Bool × AgpsStateMachine) :=
  if live rcver.address then
    some (m.notifySubscriber s.value (.unicast rcver.value .unsubscribe true))
  else none

def searchNotify (live : Nat → Bool) (rcver : SubscriberObject) :
    List SubscriberObject → AgpsStateMachine → Option (Option Nat × AgpsStateMachine)
  | [], m => some (none, m)
  | s :: rest, m => do
      let called ← notifySubscriber live rcver s m
      if called.1 then return (some 0, called.2)
      let searched ← searchNotify live rcver rest called.2
      return (searched.1.map (· + 1), searched.2)

/-- The while loop of notifySubscribers, which deletes what a search has found
before it searches again. -/
def notifyDeleteLoop (rcver : SubscriberObject) : Nat → ObjectMachine → Option ObjectMachine
  | 0, σ => some σ
  | fuel + 1, σ => do
      let searched ← searchNotify σ.live rcver σ.mSubscribers σ.view
      match searched with
      | (none, m) => return { σ with machine := m }
      | (some position, m) => notifyDeleteLoop rcver fuel ({ σ with machine := m }.delete position)

def notifySubscribers (rcver : SubscriberObject) (σ : ObjectMachine) : Option ObjectMachine :=
  notifyDeleteLoop rcver (σ.mSubscribers.length + 1) σ

/-- The entry itself becomes the receiver of its notification. -/
def unsubscribeEntry (position : Nat) (σ : ObjectMachine) : Option AgpsStateMachine :=
  match σ.mSubscribers[position]? with
  | some subscriber =>
      if subscriber.value.waitForCloseComplete then some (σ.view.setInactive position)
      else (σ.notifySubscribers subscriber).map view
  | none => some σ.view

/-- The RSRC_UNSUBSCRIBE cases. Only the entry's own object is compared in the
released state. -/
def onUnsubscribe (send : SendRsrcRequest) (position : Nat) (σ : ObjectMachine) :
    Option (AgpsStateMachine × AgpsState) :=
  match σ.machine.mStatePtr with
  | .released => some (releasedOnRsrcEvent send (.unsubscribe position) σ.view)
  | .pending => (σ.unsubscribeEntry position).map (releaseIfUnused send .pending)
  | .acquired => (σ.unsubscribeEntry position).map (releaseIfUnused send .acquired)
  | .releasing => (σ.unsubscribeEntry position).map fun m =>
      if !m.hasSubscribers then (m, .released) else (m, .releasing)

/-- unsubscribeRsrc over objects; `none` is a comparison with a deleted one. -/
def unsubscribeRsrc (send : SendRsrcRequest) (subscriber : Subscriber) (σ : ObjectMachine) :
    Option (Bool × AgpsStateMachine) :=
  match σ.mSubscribers.findIdx? (·.value.forMe (.searchFor subscriber)) with
  | some position => (σ.onUnsubscribe send position).map fun handled =>
      (true, { handled.1 with mStatePtr := handled.2 })
  | none => some (false, σ.view)

@[simp] theorem view_mSubscribers (σ : ObjectMachine) :
    σ.view.mSubscribers = σ.mSubscribers.map SubscriberObject.value := rfl

theorem delete_view (position : Nat) (σ : ObjectMachine) :
    (σ.delete position).view =
      { σ.view with mSubscribers := σ.view.mSubscribers.eraseIdx position } := by
  unfold view delete
  simp only [List.eraseIdx_map]

theorem delete_live {position : Nat} {σ : ObjectMachine} {s : SubscriberObject}
    (found : σ.mSubscribers[position]? = some s) : (σ.delete position).live s.address = false := by
  simp [delete, found]

/-- While the receiver lives, a search is the one over the values. -/
theorem searchNotify_live {live : Nat → Bool} {rcver : SubscriberObject}
    (alive : live rcver.address = true) (list : List SubscriberObject) (m : AgpsStateMachine) :
    searchNotify live rcver list m =
      some (AgpsStateMachine.searchNotify (.unicast rcver.value .unsubscribe true)
        (list.map SubscriberObject.value) m) := by
  induction list generalizing m with
  | nil => rfl
  | cons s rest ih =>
      simp only [searchNotify, notifySubscriber, alive, if_true, Option.bind_eq_bind,
        Option.bind_some, List.map_cons, AgpsStateMachine.searchNotify]
      split
      · rfl
      · rw [ih]
        rfl

/-- Once it is deleted, only a search of the empty list goes well. -/
theorem searchNotify_deleted {live : Nat → Bool} {rcver : SubscriberObject}
    (gone : live rcver.address = false) {list : List SubscriberObject} (m : AgpsStateMachine)
    (compares : list ≠ []) : searchNotify live rcver list m = none := by
  cases list with
  | nil => exact absurd rfl compares
  | cons s rest => simp [searchNotify, notifySubscriber, gone]

theorem notifyDeleteLoop_deleted {rcver : SubscriberObject} {σ : ObjectMachine}
    (gone : σ.live rcver.address = false) {fuel : Nat} (enough : 0 < fuel) :
    (notifyDeleteLoop rcver fuel σ).isSome = true ↔ σ.mSubscribers = [] := by
  obtain ⟨fuel, rfl⟩ := Nat.exists_eq_succ_of_ne_zero (Nat.ne_of_gt enough)
  by_cases empty : σ.mSubscribers = []
  · simp [notifyDeleteLoop, empty, searchNotify]
  · simp [notifyDeleteLoop, searchNotify_deleted gone _ empty, empty]

/-- One turn of the loop while the receiver lives. -/
theorem notifyDeleteLoop_found {rcver s : SubscriberObject} {σ : ObjectMachine}
    {front back : List SubscriberObject} (alive : σ.live rcver.address = true)
    (split : σ.mSubscribers = front ++ s :: back)
    (before : ∀ other ∈ front, other.value.equals rcver.value = false)
    (mine : s.value.equals rcver.value = true) (fuel : Nat) :
    notifyDeleteLoop rcver (fuel + 1) σ =
      notifyDeleteLoop rcver fuel
        ({ σ with machine := σ.view.inform s.value .unsubscribe }.delete front.length) := by
  have skipped : ∀ other ∈ front.map SubscriberObject.value,
      other.forMe (.unicast rcver.value .unsubscribe true) = false := by
    intro other member
    obtain ⟨object, inside, rfl⟩ := List.mem_map.mp member
    exact before object inside
  have values : σ.mSubscribers.map SubscriberObject.value =
      front.map SubscriberObject.value ++ s.value :: back.map SubscriberObject.value := by
    rw [split, List.map_append, List.map_cons]
  have searched : AgpsStateMachine.searchNotify (.unicast rcver.value .unsubscribe true)
      (front.map SubscriberObject.value ++ s.value :: back.map SubscriberObject.value) σ.view =
        (some (front.map SubscriberObject.value).length, σ.view.inform s.value .unsubscribe) :=
    AgpsStateMachine.searchNotify_delete rfl rfl skipped mine σ.view
  rw [List.length_map] at searched
  rw [notifyDeleteLoop, searchNotify_live alive, values, searched]
  rfl

/-- Of the entries before the receiver those that equal it go first, whatever stands
after the receiver makes the loop search again. -/
theorem notifyDeleteLoop_isSome {rcver : SubscriberObject} {σ : ObjectMachine}
    {front back : List SubscriberObject} (split : σ.mSubscribers = front ++ rcver :: back)
    {fuel : Nat} (enough : front.length + 1 < fuel) :
    (notifyDeleteLoop rcver fuel σ).isSome = true ↔
      back = [] ∧ ∀ other ∈ front, other.value.equals rcver.value = true := by
  induction fuel generalizing σ front with
  | zero => omega
  | succ fuel ih =>
      have alive : σ.live rcver.address = true := σ.listed rcver (by simp [split])
      cases found : front.find? (·.value.equals rcver.value) with
      | none =>
          have others : ∀ other ∈ front, other.value.equals rcver.value = false := by
            simpa using found
          rw [notifyDeleteLoop_found alive split others (Subscriber.equals_self rcver.value)]
          have place : σ.mSubscribers[front.length]? = some rcver := by simp [split]
          have rest : σ.mSubscribers.eraseIdx front.length = front ++ back := by
            rw [split, List.eraseIdx_append_of_length_le (Nat.le_refl _), Nat.sub_self]
            rfl
          let τ : ObjectMachine := { σ with machine := σ.view.inform rcver.value .unsubscribe }
          have gone : (τ.delete front.length).live rcver.address = false := delete_live place
          rw [notifyDeleteLoop_deleted gone (by omega)]
          change σ.mSubscribers.eraseIdx front.length = [] ↔ _
          rw [rest, List.append_eq_nil_iff]
          constructor
          · rintro ⟨rfl, rfl⟩
            exact ⟨rfl, fun other member => absurd member List.not_mem_nil⟩
          · intro ⟨last, all⟩
            refine ⟨List.eq_nil_iff_forall_not_mem.mpr ?_, last⟩
            intro other member
            have apart := others other member
            rw [all other member] at apart
            exact Bool.noConfusion apart
      | some s =>
          obtain ⟨mine, first, second, parts, before⟩ := List.find?_eq_some_iff_append.mp found
          have others : ∀ other ∈ first, other.value.equals rcver.value = false := by
            simpa using before
          have whole : σ.mSubscribers = first ++ s :: (second ++ rcver :: back) := by
            rw [split, parts, List.append_assoc]
            rfl
          rw [notifyDeleteLoop_found alive whole others mine]
          have rest : σ.mSubscribers.eraseIdx first.length =
              (first ++ second) ++ rcver :: back := by
            rw [whole, List.eraseIdx_append_of_length_le (Nat.le_refl _), Nat.sub_self,
              List.append_assoc]
            rfl
          have shorter : (first ++ second).length + 1 < fuel := by
            rw [parts, List.length_append, List.length_cons] at enough
            rw [List.length_append]
            omega
          rw [ih rest shorter, parts]
          constructor
          · intro ⟨last, all⟩
            refine ⟨last, fun other member => ?_⟩
            rcases List.mem_append.mp member with earlier | later
            · exact all other (List.mem_append_left _ earlier)
            · rcases List.mem_cons.mp later with rfl | later
              · exact mine
              · exact all other (List.mem_append_right _ later)
          · intro ⟨last, all⟩
            refine ⟨last, fun other member => all other ?_⟩
            rcases List.mem_append.mp member with earlier | later
            · exact List.mem_append_left _ earlier
            · exact List.mem_append_right _ (List.mem_cons_of_mem s later)

/-- When no comparison reads a deleted object, the loop is the one over the values. -/
theorem notifyDeleteLoop_view {rcver : SubscriberObject} (fuel : Nat) {σ τ : ObjectMachine}
    (ends : notifyDeleteLoop rcver fuel σ = some τ) :
    τ.view = AgpsStateMachine.notifyDeleteLoop (.unicast rcver.value .unsubscribe true) fuel
      σ.view := by
  induction fuel generalizing σ with
  | zero =>
      cases ends
      rfl
  | succ fuel ih =>
      let notification : Notification := .unicast rcver.value .unsubscribe true
      have inside := AgpsStateMachine.searchNotify_inside notification
        σ.view.mSubscribers σ.view
      have searched : searchNotify σ.live rcver σ.mSubscribers σ.view =
          some (AgpsStateMachine.searchNotify notification σ.view.mSubscribers σ.view) := by
        cases alive : σ.live rcver.address with
        | true => exact searchNotify_live alive _ _
        | false =>
            have empty : σ.mSubscribers = [] := by
              apply (notifyDeleteLoop_deleted alive (Nat.succ_pos fuel)).mp
              rw [ends]
              rfl
            rw [view_mSubscribers, empty]
            rfl
      rw [notifyDeleteLoop, searched, Option.bind_eq_bind, Option.bind_some] at ends
      rw [AgpsStateMachine.notifyDeleteLoop]
      revert ends inside
      rcases AgpsStateMachine.searchNotify notification σ.view.mSubscribers σ.view with ⟨found, m⟩
      intro ends inside
      have same : m.mSubscribers = σ.mSubscribers.map SubscriberObject.value := inside.1
      cases found with
      | none =>
          cases ends
          unfold view
          dsimp only
          rw [← same]
      | some position =>
          dsimp only at ends ⊢
          rw [ih ends, delete_view]
          unfold view
          dsimp only
          rw [← same]

theorem unsubscribeEntry_view {position : Nat} {σ : ObjectMachine} {m : AgpsStateMachine}
    (ends : σ.unsubscribeEntry position = some m) :
    m = A5Common.Agps.unsubscribeEntry position σ.view := by
  have value : σ.view.mSubscribers[position]? =
      (σ.mSubscribers[position]?).map SubscriberObject.value := by
    rw [view_mSubscribers, List.getElem?_map]
  unfold unsubscribeEntry at ends
  unfold A5Common.Agps.unsubscribeEntry
  rw [value]
  cases listed : σ.mSubscribers[position]? with
  | none =>
      rw [listed] at ends
      cases ends
      rfl
  | some s =>
      rw [listed] at ends
      simp only [Option.map_some] at ends ⊢
      split at ends
      · rename_i waits
        cases ends
        rw [if_pos waits]
      · rename_i leaves
        obtain ⟨τ, looped, rfl⟩ := Option.map_eq_some_iff.mp ends
        rw [if_neg leaves, notifyDeleteLoop_view _ looped]
        unfold AgpsStateMachine.notifySubscribers
        rw [view_mSubscribers, List.length_map]
        rfl

/-- The machine of the values does what the machine of the objects does, as long
as no comparison reads a deleted object. -/
theorem unsubscribeRsrc_view {send : SendRsrcRequest} {subscriber : Subscriber}
    {σ : ObjectMachine} {result : Bool × AgpsStateMachine}
    (ends : σ.unsubscribeRsrc send subscriber = some result) :
    result = σ.view.unsubscribeRsrc send subscriber := by
  have value : σ.view.mSubscribers.findIdx? (·.forMe (.searchFor subscriber)) =
      σ.mSubscribers.findIdx? (·.value.forMe (.searchFor subscriber)) := by
    rw [view_mSubscribers, List.findIdx?_map]
    rfl
  unfold unsubscribeRsrc at ends
  unfold AgpsStateMachine.unsubscribeRsrc
  rw [value]
  cases found : σ.mSubscribers.findIdx? (·.value.forMe (.searchFor subscriber)) with
  | none =>
      rw [found] at ends
      cases ends
      rfl
  | some position =>
      rw [found] at ends
      obtain ⟨handled, next, rfl⟩ := Option.map_eq_some_iff.mp ends
      have state : σ.view.mStatePtr = σ.machine.mStatePtr := rfl
      unfold onUnsubscribe at next
      dsimp only
      unfold AgpsStateMachine.onStateEvent
      rw [state]
      cases place : σ.machine.mStatePtr with
      | released =>
          rw [place] at next
          cases next
          rfl
      | pending | acquired | releasing =>
          rw [place] at next
          obtain ⟨m, entry, rfl⟩ := Option.map_eq_some_iff.mp next
          rw [unsubscribeEntry_view entry]
          rfl

/-- The entry that is unsubscribed leaves last: it waits for its close instead, or
it ends the list and all before it equal it. -/
def LeavesLast (subscriber : Subscriber) (σ : ObjectMachine) : Prop :=
  ∀ position s, σ.mSubscribers.findIdx? (·.value.forMe (.searchFor subscriber)) = some position →
    σ.mSubscribers[position]? = some s → s.value.waitForCloseComplete = true ∨
      position + 1 = σ.mSubscribers.length ∧
        ∀ other ∈ σ.mSubscribers.take position, other.value.equals s.value = true

theorem unsubscribeEntry_isSome {position : Nat} {σ : ObjectMachine} {s : SubscriberObject}
    (listed : σ.mSubscribers[position]? = some s) :
    (σ.unsubscribeEntry position).isSome = true ↔ s.value.waitForCloseComplete = true ∨
      position + 1 = σ.mSubscribers.length ∧
        ∀ other ∈ σ.mSubscribers.take position, other.value.equals s.value = true := by
  obtain ⟨inside, held⟩ := List.getElem?_eq_some_iff.mp listed
  have split : σ.mSubscribers =
      σ.mSubscribers.take position ++ s :: σ.mSubscribers.drop (position + 1) := by
    rw [← held, List.getElem_cons_drop, List.take_append_drop]
  have front : (σ.mSubscribers.take position).length = position :=
    List.length_take_of_le (Nat.le_of_lt inside)
  simp only [unsubscribeEntry, listed]
  cases waits : s.value.waitForCloseComplete with
  | true => simp
  | false =>
      have loop := notifyDeleteLoop_isSome split
        (show (σ.mSubscribers.take position).length + 1 < σ.mSubscribers.length + 1 by omega)
      rw [if_neg Bool.false_ne_true, Option.isSome_map]
      unfold notifySubscribers
      rw [loop, List.drop_eq_nil_iff]
      have last : σ.mSubscribers.length ≤ position + 1 ↔ position + 1 = σ.mSubscribers.length := by
        omega
      rw [last]
      simp

/-- In every state, with every list: no comparison of an unsubscribe reads a deleted
receiver exactly if the machine is released or the entry leaves last. -/
theorem unsubscribeRsrc_live_iff (send : SendRsrcRequest) (subscriber : Subscriber)
    (σ : ObjectMachine) :
    (σ.unsubscribeRsrc send subscriber).isSome = true ↔
      σ.machine.mStatePtr = .released ∨ σ.LeavesLast subscriber := by
  unfold unsubscribeRsrc LeavesLast
  cases found : σ.mSubscribers.findIdx? (·.value.forMe (.searchFor subscriber)) with
  | none => simp
  | some position =>
      obtain ⟨inside, -⟩ := List.findIdx?_eq_some_iff_getElem.mp found
      have listed := List.getElem?_eq_getElem inside
      have entry := unsubscribeEntry_isSome listed
      dsimp only
      rw [Option.isSome_map]
      unfold onUnsubscribe
      cases place : σ.machine.mStatePtr with
      | released => simp
      | pending | acquired | releasing =>
          simp only [Option.isSome_map, entry]
          constructor
          · intro leaves
            refine .inr fun other s same held => ?_
            cases same
            rw [listed] at held
            cases held
            exact leaves
          · rintro (released | leaves)
            · cases released
            · exact leaves position _ rfl listed

/-- Two clients of an acquired machine, of which the one listed first leaves. -/
def twoClients : ObjectMachine where
  machine := { AgpsStateMachine.new AGPS_TYPE_SUPL false with mStatePtr := .acquired }
  mSubscribers := [⟨1, .atl 5 false (Vector.replicate 16 0)⟩,
    ⟨2, .atl 7 false (Vector.replicate 16 0)⟩]
  live := fun address => address == 1 || address == 2
  distinct := by decide
  listed := by decide

/-- The search after the removal compares the second client with the deleted first. -/
theorem unsubscribeRsrc_dangling :
    ¬ ∀ (σ : ObjectMachine) (subscriber : Subscriber), σ.machine.mStatePtr ≠ .released →
      (σ.unsubscribeRsrc AgpsStateMachine.sendRsrcRequest subscriber).isSome = true := by
  intro live
  have compared := live twoClients (.atl 5 false (Vector.replicate 16 0)) (by decide)
  exact absurd compared (by decide)

end ObjectMachine

end A5Common.Agps
