import A5Common.Agps.DataService
import Mathlib.Data.List.Pairwise

set_option autoImplicit false

namespace A5Common.Agps

/-- No entry equals one that was listed after it; the newest entry is the first. -/
def Distinct (list : List Subscriber) : Prop :=
  list.Pairwise (fun newer older => older.equals newer = false)

theorem distinct_nil : Distinct [] := List.Pairwise.nil

theorem Distinct.filter {list : List Subscriber} (distinct : Distinct list)
    (keep : Subscriber → Bool) : Distinct (list.filter keep) :=
  List.Pairwise.filter keep distinct

/-- Two entries that compare IDs have different ones. -/
theorem Distinct.ID_ne {list : List Subscriber} (distinct : Distinct list)
    {first second : Subscriber}
    (firstListed : first ∈ list) (secondListed : second ∈ list) (apart : first ≠ second)
    (firstKind : first.kind ≠ .bit) (secondKind : second.kind ≠ .bit) : first.ID ≠ second.ID := by
  let Apart := fun x y : Subscriber => x.kind ≠ .bit → y.kind ≠ .bit → x.ID ≠ y.ID
  have symm : Std.Symm Apart := ⟨fun x y differ yKind xKind => (differ xKind yKind).symm⟩
  have pairwise : list.Pairwise Apart := by
    refine distinct.imp ?_
    intro newer older differ newerKind olderKind same
    rw [Subscriber.equals_of_not_bit olderKind, same] at differ
    simp at differ
  exact pairwise.forall firstListed secondListed apart firstKind secondKind

theorem Distinct.addSubscriber {m : AgpsStateMachine} (distinct : Distinct m.mSubscribers)
    (s : Subscriber) : Distinct (m.addSubscriber s).mSubscribers := by
  rcases m.addSubscriber_cases s with ⟨fresh, added⟩ | ⟨-, kept⟩
  · rw [added]
    refine List.Pairwise.cons ?_ distinct
    intro older listed
    rw [Subscriber.equals_clone_right]
    exact fresh older listed
  · rw [kept]
    exact distinct

theorem mem_modify_markInactive {list : List Subscriber} {position : Nat} {s : Subscriber}
    (member : s ∈ list.modify position Subscriber.markInactive) :
    ∃ original ∈ list, s = original ∨ s = original.markInactive := by
  obtain ⟨i, inside, rfl⟩ := List.mem_iff_getElem.mp member
  rw [List.length_modify] at inside
  refine ⟨list[i], List.getElem_mem inside, ?_⟩
  rw [List.getElem_modify]
  split
  · exact .inr rfl
  · exact .inl rfl

theorem Distinct.markInactive {list : List Subscriber} (distinct : Distinct list)
    (position : Nat) : Distinct (list.modify position Subscriber.markInactive) := by
  induction list generalizing position with
  | nil => simpa using distinct
  | cons s rest ih =>
      obtain ⟨apart, tail⟩ := List.pairwise_cons.mp distinct
      cases position with
      | zero =>
          rw [List.modify_zero_cons]
          refine List.Pairwise.cons ?_ tail
          intro older listed
          rw [Subscriber.equals_markInactive_right]
          exact apart older listed
      | succ position =>
          rw [List.modify_succ_cons]
          refine List.Pairwise.cons ?_ (ih tail position)
          intro older listed
          obtain ⟨original, member, rfl | rfl⟩ := mem_modify_markInactive listed
          · exact apart older member
          · rw [Subscriber.equals_markInactive_left]
            exact apart original member

theorem Distinct.notifySubscribers {m : AgpsStateMachine} (distinct : Distinct m.mSubscribers)
    (notification : Notification) (known : notification.rsrcStatus.known = true) :
    Distinct (m.notifySubscribers notification).mSubscribers := by
  rw [m.notifySubscribers_eq notification known]
  dsimp only
  split
  · exact distinct.filter _
  · exact distinct

theorem Distinct.unsubscribeEntry {m : AgpsStateMachine} (distinct : Distinct m.mSubscribers)
    (position : Nat) : Distinct (unsubscribeEntry position m).mSubscribers := by
  cases listed : m.mSubscribers[position]? with
  | none => simpa only [Agps.unsubscribeEntry, listed] using distinct
  | some s =>
      rcases unsubscribeEntry_cases listed with ⟨-, marked⟩ | ⟨-, removed⟩
      · rw [marked, m.setInactive_mSubscribers]
        exact distinct.markInactive position
      · rw [removed]
        exact distinct.notifySubscribers _ rfl

section Handlers

variable {send : SendRsrcRequest} (frames : send.Frames)
include frames

theorem Distinct.releasingFinish {m : AgpsStateMachine} (distinct : Distinct m.mSubscribers)
    {status : AgpsRsrcStatus} (known : status.known = true) :
    Distinct (releasingFinish send status m).1.mSubscribers := by
  unfold Agps.releasingFinish
  dsimp only
  split
  · rw [frames.mSubscribers]
    exact distinct.notifySubscribers _ known
  · exact distinct.notifySubscribers _ known

theorem Distinct.onStateEvent {m : AgpsStateMachine} (distinct : Distinct m.mSubscribers)
    (event : RsrcEvent) : Distinct (m.onStateEvent send event).mSubscribers := by
  unfold AgpsStateMachine.onStateEvent
  cases m.mStatePtr with
  | released =>
      cases event with
      | subscribe s =>
          have added := distinct.addSubscriber s
          rw [← frames.mSubscribers .requestAgpsDataConn] at added
          simp only [releasedOnRsrcEvent]
          split <;> exact added
      | unsubscribe position =>
          simp only [releasedOnRsrcEvent]
          split <;> simpa using distinct
      | granted | released | denied => exact distinct
  | pending =>
      cases event with
      | subscribe s => exact distinct.addSubscriber s
      | unsubscribe position =>
          simp only [pendingOnRsrcEvent, releaseIfUnused_mSubscribers frames]
          exact distinct.unsubscribeEntry position
      | granted => exact distinct.notifySubscribers _ rfl
      | released => exact distinct
      | denied => exact distinct.notifySubscribers _ rfl
  | acquired =>
      cases event with
      | subscribe s =>
          refine Distinct.addSubscriber ?_ s
          rw [AgpsStateMachine.notifyRsrcStatus_mSubscribers]
          exact distinct
      | unsubscribe position =>
          simp only [acquiredOnRsrcEvent, releaseIfUnused_mSubscribers frames]
          exact distinct.unsubscribeEntry position
      | granted | denied => exact distinct
      | released => exact distinct.notifySubscribers _ rfl
  | releasing =>
      cases event with
      | subscribe s => exact distinct.addSubscriber s
      | unsubscribe position =>
          simp only [releasingOnRsrcEvent]
          split <;> exact distinct.unsubscribeEntry position
      | granted => exact distinct
      | released => exact distinct.releasingFinish frames rfl
      | denied => exact distinct.releasingFinish frames rfl

theorem Distinct.subscribeRsrc {m : AgpsStateMachine} (distinct : Distinct m.mSubscribers)
    (s : Subscriber) : Distinct (m.subscribeRsrc send s).mSubscribers := by
  unfold AgpsStateMachine.subscribeRsrc
  split
  · simpa [AgpsStateMachine.notifySubscriber] using distinct
  · exact distinct.onStateEvent frames _

theorem Distinct.unsubscribeRsrc {m : AgpsStateMachine} (distinct : Distinct m.mSubscribers)
    (s : Subscriber) : Distinct (m.unsubscribeRsrc send s).2.mSubscribers := by
  unfold AgpsStateMachine.unsubscribeRsrc
  split
  · exact distinct.onStateEvent frames _
  · exact distinct

end Handlers

theorem Distinct.perform {m : AgpsStateMachine} (distinct : Distinct m.mSubscribers)
    (operation : Operation) : Distinct (m.perform operation).mSubscribers := by
  have frames := sendRsrcRequest_frames
  have started : Distinct m.cleared.mSubscribers := distinct
  cases operation with
  | subscribeRsrc s => exact started.subscribeRsrc frames s
  | unsubscribeRsrc s => exact started.unsubscribeRsrc frames s
  | onRsrcEvent event => exact started.onStateEvent frames _
  | setAPN apn => exact distinct
  | setBearer bearer => exact distinct

theorem Distinct.performDS {m : AgpsStateMachine} (distinct : Distinct m.mSubscribers)
    (answer : StartAnswer) (operation : Operation) :
    Distinct (DSStateMachine.perform answer m operation).mSubscribers := by
  have frames := DSStateMachine.sendRsrcRequest_frames answer
  have started : Distinct m.cleared.mSubscribers := distinct
  cases operation with
  | subscribeRsrc s => exact started.subscribeRsrc frames s
  | unsubscribeRsrc s => exact started.unsubscribeRsrc frames s
  | onRsrcEvent event =>
      simp only [DSStateMachine.perform, DSStateMachine.onRsrcEvent_eq]
      exact started.onStateEvent frames _
  | setAPN apn => exact distinct
  | setBearer bearer => exact distinct

end A5Common.Agps
