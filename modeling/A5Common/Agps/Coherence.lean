import A5Common.Agps.MachineFacts
import A5Common.Run.System

set_option autoImplicit false

namespace A5Common.Agps

open A5Common.Run

/-- How the state and the subscriber list of a machine belong together. -/
structure Coherent (state : AgpsState) (list : List Subscriber) : Prop where
  released : state = .released ↔ list = []
  active : state = .pending ∨ state = .acquired → ∃ s ∈ list, s.isInactive = false

theorem coherent_released : Coherent .released [] :=
  ⟨by simp, by simp⟩

theorem coherent_of_active {state : AgpsState} {list : List Subscriber}
    (held : state ≠ .released) (active : ∃ s ∈ list, s.isInactive = false) :
    Coherent state list := by
  obtain ⟨s, member, live⟩ := active
  exact ⟨⟨fun same => absurd same held, fun empty => by simp [empty] at member⟩,
    fun _ => ⟨s, member, live⟩⟩

theorem coherent_releasing {list : List Subscriber} (listed : list ≠ []) :
    Coherent .releasing list :=
  ⟨by simp [listed], by simp⟩

/-- The notifications taken and the closes reported. -/
def Action.told? : Action → Option Action
  | .notified s status => some (.notified s status)
  | .atlCloseStatus handle is_succ => some (.atlCloseStatus handle is_succ)
  | _ => none

def told (actions : List Action) : List Action := actions.filterMap Action.told?

/-- A request method that leaves the list and the enforcement alone and tells
no subscriber anything. -/
structure SendRsrcRequest.Frames (send : SendRsrcRequest) : Prop where
  mSubscribers : ∀ action m, (send action m).1.mSubscribers = m.mSubscribers
  mEnforceSingleSubscriber : ∀ action m,
    (send action m).1.mEnforceSingleSubscriber = m.mEnforceSingleSubscriber
  told : ∀ action m, told (send action m).1.out = told m.out

theorem sendRsrcRequest_frames : SendRsrcRequest.Frames AgpsStateMachine.sendRsrcRequest where
  mSubscribers := AgpsStateMachine.sendRsrcRequest_mSubscribers
  mEnforceSingleSubscriber := AgpsStateMachine.sendRsrcRequest_mEnforceSingleSubscriber
  told action m := by
    rw [AgpsStateMachine.sendRsrcRequest_eq]
    dsimp only
    split
    · simp [told, Action.told?]
    · rfl

section Handlers

variable {send : SendRsrcRequest} (frames : send.Frames)
include frames

theorem releaseIfUnused_mSubscribers (stay : AgpsState) (m : AgpsStateMachine) :
    (releaseIfUnused send stay m).1.mSubscribers = m.mSubscribers := by
  unfold releaseIfUnused
  split
  · exact frames.mSubscribers _ _
  · split
    · exact frames.mSubscribers _ _
    · rfl

theorem releaseIfUnused_mEnforceSingleSubscriber (stay : AgpsState) (m : AgpsStateMachine) :
    (releaseIfUnused send stay m).1.mEnforceSingleSubscriber = m.mEnforceSingleSubscriber := by
  unfold releaseIfUnused
  split
  · exact frames.mEnforceSingleSubscriber _ _
  · split
    · exact frames.mEnforceSingleSubscriber _ _
    · rfl

theorem releasingFinish_mEnforceSingleSubscriber {status : AgpsRsrcStatus}
    (known : status.known = true) (m : AgpsStateMachine) :
    (releasingFinish send status m).1.mEnforceSingleSubscriber = m.mEnforceSingleSubscriber := by
  unfold releasingFinish
  dsimp only
  split
  · rw [frames.mEnforceSingleSubscriber, m.notifySubscribers_mEnforceSingleSubscriber _ known]
  · rw [m.notifySubscribers_mEnforceSingleSubscriber _ known]

/-- No event changes whether the machine enforces a single subscriber. -/
theorem onStateEvent_mEnforceSingleSubscriber (event : RsrcEvent) (m : AgpsStateMachine) :
    (m.onStateEvent send event).mEnforceSingleSubscriber = m.mEnforceSingleSubscriber := by
  have notified : ∀ group status deleteAfterwards, AgpsRsrcStatus.known status = true →
      (m.notifySubscribers (.broadcast group status deleteAfterwards)).mEnforceSingleSubscriber =
        m.mEnforceSingleSubscriber := fun group status deleteAfterwards known =>
    m.notifySubscribers_mEnforceSingleSubscriber (.broadcast group status deleteAfterwards) known
  have entry := fun position => unsubscribeEntry_mEnforceSingleSubscriber position m
  unfold AgpsStateMachine.onStateEvent
  cases m.mStatePtr with
  | released =>
      cases event with
      | subscribe s =>
          simp only [releasedOnRsrcEvent]
          split <;> simp [frames.mEnforceSingleSubscriber]
      | unsubscribe position =>
          simp only [releasedOnRsrcEvent]
          split <;> simp
      | granted | released | denied => rfl
  | pending =>
      cases event with
      | subscribe s => exact m.addSubscriber_mEnforceSingleSubscriber s
      | unsubscribe position =>
          exact (releaseIfUnused_mEnforceSingleSubscriber frames _ _).trans (entry position)
      | granted => exact notified _ _ _ rfl
      | released => rfl
      | denied => exact notified _ _ _ rfl
  | acquired =>
      cases event with
      | subscribe s => simp [acquiredOnRsrcEvent]
      | unsubscribe position =>
          exact (releaseIfUnused_mEnforceSingleSubscriber frames _ _).trans (entry position)
      | granted | denied => rfl
      | released => exact notified _ _ _ rfl
  | releasing =>
      cases event with
      | subscribe s => exact m.addSubscriber_mEnforceSingleSubscriber s
      | unsubscribe position =>
          simp only [releasingOnRsrcEvent]
          split <;> exact entry position
      | granted => rfl
      | released => exact releasingFinish_mEnforceSingleSubscriber frames rfl m
      | denied => exact releasingFinish_mEnforceSingleSubscriber frames rfl m

theorem releaseIfUnused_coherent {stay : AgpsState} (held : stay ≠ .released)
    (m : AgpsStateMachine) :
    Coherent (releaseIfUnused send stay m).2 (releaseIfUnused send stay m).1.mSubscribers := by
  rw [releaseIfUnused_mSubscribers frames]
  unfold releaseIfUnused
  split
  · rename_i unused
    have empty : m.mSubscribers = [] :=
      AgpsStateMachine.hasSubscribers_eq_false.mp (by simpa using unused)
    rw [empty]
    exact coherent_released
  · rename_i used
    have listed : m.mSubscribers ≠ [] :=
      AgpsStateMachine.hasSubscribers_eq_true.mp (by simpa using used)
    split
    · exact coherent_releasing listed
    · rename_i active
      exact coherent_of_active held
        (AgpsStateMachine.hasActiveSubscribers_eq_true.mp (by simpa using active))

theorem pendingOnRsrcEvent_coherent (event : RsrcEvent) {m : AgpsStateMachine}
    (coherent : Coherent .pending m.mSubscribers) :
    Coherent (pendingOnRsrcEvent send event m).2
      (pendingOnRsrcEvent send event m).1.mSubscribers := by
  have active := AgpsStateMachine.hasActiveSubscribers_eq_true.mpr (coherent.active (by simp))
  cases event with
  | subscribe subscriber =>
      exact coherent_of_active AgpsState.noConfusion
        (AgpsStateMachine.hasActiveSubscribers_eq_true.mp
          (m.addSubscriber_active subscriber active))
  | unsubscribe position => exact releaseIfUnused_coherent frames AgpsState.noConfusion _
  | granted =>
      simp only [pendingOnRsrcEvent, m.notifySubscribers_broadcast .active .granted rfl]
      exact coherent_of_active AgpsState.noConfusion (coherent.active (by simp))
  | released => exact coherent
  | denied =>
      simp only [pendingOnRsrcEvent, m.notifySubscribers_all .denied rfl]
      exact coherent_released

theorem acquiredOnRsrcEvent_coherent (event : RsrcEvent) {m : AgpsStateMachine}
    (coherent : Coherent .acquired m.mSubscribers) :
    Coherent (acquiredOnRsrcEvent send event m).2
      (acquiredOnRsrcEvent send event m).1.mSubscribers := by
  have active := coherent.active (by simp)
  cases event with
  | subscribe subscriber =>
      refine coherent_of_active AgpsState.noConfusion
        (AgpsStateMachine.hasActiveSubscribers_eq_true.mp ?_)
      refine AgpsStateMachine.addSubscriber_active subscriber ?_
      rw [AgpsStateMachine.hasActiveSubscribers_eq_true,
        AgpsStateMachine.notifyRsrcStatus_mSubscribers]
      exact active
  | unsubscribe position => exact releaseIfUnused_coherent frames AgpsState.noConfusion _
  | granted => exact coherent
  | released =>
      simp only [acquiredOnRsrcEvent, m.notifySubscribers_all .released rfl]
      exact coherent_released
  | denied => exact coherent

theorem releasingFinish_coherent {status : AgpsRsrcStatus} (known : status.known = true)
    (m : AgpsStateMachine) :
    Coherent (releasingFinish send status m).2
      (releasingFinish send status m).1.mSubscribers := by
  unfold releasingFinish
  dsimp only
  split
  · rename_i active
    rw [frames.mSubscribers]
    exact coherent_of_active (by simp) (AgpsStateMachine.hasActiveSubscribers_eq_true.mp active)
  · rename_i inactive
    have empty : (m.notifySubscribers (.broadcast .inactive status true)).mSubscribers = [] := by
      rw [AgpsStateMachine.hasActiveSubscribers_eq] at inactive
      rw [m.notifySubscribers_inactive status known] at inactive ⊢
      simpa using inactive
    rw [empty]
    exact coherent_released

theorem releasingOnRsrcEvent_coherent (event : RsrcEvent) {m : AgpsStateMachine}
    (coherent : Coherent .releasing m.mSubscribers) :
    Coherent (releasingOnRsrcEvent send event m).2
      (releasingOnRsrcEvent send event m).1.mSubscribers := by
  cases event with
  | subscribe subscriber => exact coherent_releasing (m.addSubscriber_ne_nil subscriber)
  | unsubscribe position =>
      simp only [releasingOnRsrcEvent]
      split
      · rename_i unused
        have empty := AgpsStateMachine.hasSubscribers_eq_false.mp (by simpa using unused)
        rw [empty]
        exact coherent_released
      · rename_i used
        exact coherent_releasing (AgpsStateMachine.hasSubscribers_eq_true.mp (by simpa using used))
  | granted => exact coherent
  | released => exact releasingFinish_coherent frames rfl m
  | denied => exact releasingFinish_coherent frames rfl m

/-- The released state is left when the request is taken. -/
theorem releasedOnRsrcEvent_coherent (sends : ∀ m, (send .requestAgpsDataConn m).2 = 0)
    (event : RsrcEvent) {m : AgpsStateMachine} (coherent : Coherent .released m.mSubscribers) :
    Coherent (releasedOnRsrcEvent send event m).2
      (releasedOnRsrcEvent send event m).1.mSubscribers := by
  have empty := coherent.released.mp rfl
  cases event with
  | subscribe subscriber =>
      simp only [releasedOnRsrcEvent, sends, if_true, frames.mSubscribers]
      rw [AgpsStateMachine.addSubscriber_of_nil empty]
      exact coherent_of_active (by simp) ⟨subscriber.clone, by simp⟩
  | unsubscribe position =>
      simp only [releasedOnRsrcEvent, empty, List.getElem?_nil]
      exact coherent_released
  | granted | released | denied => exact coherent

/-- Every state but the released one keeps the list and the next state together. -/
theorem onStateEvent_coherent_of_held (event : RsrcEvent) {m : AgpsStateMachine}
    (held : m.mStatePtr ≠ .released) (coherent : Coherent m.mStatePtr m.mSubscribers) :
    Coherent (m.onStateEvent send event).mStatePtr (m.onStateEvent send event).mSubscribers := by
  unfold AgpsStateMachine.onStateEvent
  cases state : m.mStatePtr with
  | released => exact absurd state held
  | pending => exact pendingOnRsrcEvent_coherent frames event (state ▸ coherent)
  | acquired => exact acquiredOnRsrcEvent_coherent frames event (state ▸ coherent)
  | releasing => exact releasingOnRsrcEvent_coherent frames event (state ▸ coherent)

theorem onStateEvent_coherent (sends : ∀ m, (send .requestAgpsDataConn m).2 = 0)
    (event : RsrcEvent) {m : AgpsStateMachine} (coherent : Coherent m.mStatePtr m.mSubscribers) :
    Coherent (m.onStateEvent send event).mStatePtr (m.onStateEvent send event).mSubscribers := by
  by_cases state : m.mStatePtr = .released
  · unfold AgpsStateMachine.onStateEvent
    rw [state] at coherent ⊢
    exact releasedOnRsrcEvent_coherent frames sends event coherent
  · exact onStateEvent_coherent_of_held frames event state coherent

theorem subscribeRsrc_coherent (sends : ∀ m, (send .requestAgpsDataConn m).2 = 0)
    (subscriber : Subscriber) {m : AgpsStateMachine}
    (coherent : Coherent m.mStatePtr m.mSubscribers) :
    Coherent (m.subscribeRsrc send subscriber).mStatePtr
      (m.subscribeRsrc send subscriber).mSubscribers := by
  unfold AgpsStateMachine.subscribeRsrc
  split
  · simpa [AgpsStateMachine.notifySubscriber] using coherent
  · exact onStateEvent_coherent frames sends _ coherent

theorem unsubscribeRsrc_coherent (sends : ∀ m, (send .requestAgpsDataConn m).2 = 0)
    (subscriber : Subscriber) {m : AgpsStateMachine}
    (coherent : Coherent m.mStatePtr m.mSubscribers) :
    Coherent (m.unsubscribeRsrc send subscriber).2.mStatePtr
      (m.unsubscribeRsrc send subscriber).2.mSubscribers := by
  unfold AgpsStateMachine.unsubscribeRsrc
  split
  · exact onStateEvent_coherent frames sends _ coherent
  · exact coherent

end Handlers

namespace AgpsStateMachine

abbrev Coherent (m : AgpsStateMachine) : Prop := Agps.Coherent m.mStatePtr m.mSubscribers

theorem Coherent.perform {m : AgpsStateMachine} (coherent : m.Coherent) (operation : Operation) :
    (m.perform operation).Coherent := by
  have sends : ∀ m, (sendRsrcRequest .requestAgpsDataConn m).2 = 0 :=
    sendRsrcRequest_result .requestAgpsDataConn
  cases operation with
  | subscribeRsrc subscriber =>
      exact subscribeRsrc_coherent sendRsrcRequest_frames sends subscriber coherent
  | unsubscribeRsrc subscriber =>
      exact unsubscribeRsrc_coherent sendRsrcRequest_frames sends subscriber coherent
  | onRsrcEvent event => exact onStateEvent_coherent sendRsrcRequest_frames sends _ coherent
  | setAPN apn => exact coherent
  | setBearer bearer => exact coherent

end AgpsStateMachine

/-- A base machine and all calls on it. -/
def agpsMachine : System AgpsStateMachine Operation where
  initial m := ∃ mType enforceSingleSubscriber, m = .new mType enforceSingleSubscriber
  step m operation := if operation.onBase then some (m.perform operation) else none

theorem agpsMachine_step {before after : AgpsStateMachine} {operation : Operation}
    (taken : agpsMachine.step before operation = some after) :
    operation.onBase = true ∧ before.perform operation = after := by
  simp only [agpsMachine] at taken
  split at taken
  · rename_i onBase
    exact ⟨onBase, Option.some.inj taken⟩
  · cases taken

theorem reachable_perform {m : AgpsStateMachine} (run : agpsMachine.Reachable m)
    {operation : Operation} (onBase : operation.onBase = true) :
    agpsMachine.Reachable (m.perform operation) :=
  .next run trivial (if_pos onBase)

theorem coherent_of_reachable {m : AgpsStateMachine} (run : agpsMachine.Reachable m) :
    m.Coherent := by
  refine run.invariant AgpsStateMachine.Coherent ?_ ?_
  · rintro m ⟨mType, enforce, rfl⟩
    exact coherent_released
  · intro before operation after _ coherent _ taken
    obtain ⟨-, rfl⟩ := agpsMachine_step taken
    exact coherent.perform operation

/-- In every run the machine is released exactly when nobody is listed, holds
or awaits the connection for an active subscriber, and awaits a release for
somebody. -/
theorem agpsMachine_state_coherence {m : AgpsStateMachine} (run : agpsMachine.Reachable m) :
    (m.mStatePtr = .released ↔ m.mSubscribers = []) ∧
    (m.mStatePtr = .pending ∨ m.mStatePtr = .acquired →
      ∃ s ∈ m.mSubscribers, s.isInactive = false) ∧
    (m.mStatePtr = .releasing → m.mSubscribers ≠ []) := by
  have coherent := coherent_of_reachable run
  refine ⟨coherent.released, coherent.active, ?_⟩
  intro releasing empty
  rw [coherent.released.mpr empty] at releasing
  cases releasing

/-- A machine whose only subscriber, a WIFI one, has left. -/
theorem agpsMachine_state_coherence_releasing :
    let wifi := Subscriber.wifi 7 none none false (Vector.replicate 16 0)
    let left := ((AgpsStateMachine.new AGPS_TYPE_SUPL false).perform (.subscribeRsrc wifi)).perform
      (.unsubscribeRsrc wifi)
    left.mStatePtr = .releasing ∧ left.mSubscribers ≠ [] := by
  intro wifi left
  have started : agpsMachine.Reachable (.new AGPS_TYPE_SUPL false) := .start ⟨_, _, rfl⟩
  have run : agpsMachine.Reachable left := reachable_perform (reachable_perform started rfl) rfl
  have releasing : left.mStatePtr = .releasing := by decide
  exact ⟨releasing, (agpsMachine_state_coherence run).2.2 releasing⟩

end A5Common.Agps
