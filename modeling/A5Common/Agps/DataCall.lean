import A5Common.Agps.DataService

set_option autoImplicit false

namespace A5Common.Agps

open A5Common.Run

namespace DSStateMachine

open AgpsStateMachine

theorem dataCalls_notifySubscribers (notification : Notification)
    (known : notification.rsrcStatus.known = true) (m : AgpsStateMachine) :
    dataCalls (m.notifySubscribers notification).out = dataCalls m.out :=
  notifySubscribers_silent (dataCall_silent _) known m

theorem dataCalls_unsubscribeEntry (position : Nat) (m : AgpsStateMachine) :
    dataCalls (unsubscribeEntry position m).out = dataCalls m.out :=
  unsubscribeEntry_silent (dataCall_silent _) position m

/-- How a call ends in the pending state: it was there and no data call was
made, or the last data call is a start. The result of a start from the releasing
state may be anything. -/
inductive Awaits (answer : StartAnswer) (m : AgpsStateMachine) :
    Operation → List (AGpsStatusValue × Int) → Prop
  | still {operation : Operation} (pending : m.mStatePtr = .pending) : Awaits answer m operation []
  | started {subscriber : Subscriber} :
      Awaits answer m (.subscribeRsrc subscriber)
        [(.requestAgpsDataConn, LOC_API_ADAPTER_ERR_SUCCESS)]
  | restarted {event : ServicerEvent} (releasing : m.mStatePtr = .releasing)
      (closed : event = .released ∨ event = .denied) (wanted : m.hasActiveSubscribers = true) :
      Awaits answer m (.onRsrcEvent event) [(.requestAgpsDataConn, answer.openAndStartDataCall)]

theorem subscribeRsrc_awaits {answer : StartAnswer} {m : AgpsStateMachine} {subscriber : Subscriber}
    (clear : m.out = [])
    (pending : (m.subscribeRsrc (sendRsrcRequest answer) subscriber).mStatePtr = .pending) :
    Awaits answer m (.subscribeRsrc subscriber)
      (dataCalls (m.subscribeRsrc (sendRsrcRequest answer) subscriber).out) := by
  unfold subscribeRsrc at pending ⊢
  split at pending
  · rename_i refused
    rw [if_pos refused]
    have quiet :
        dataCalls (m.notifySubscriber subscriber (.broadcast .all .denied true)).2.out = [] :=
      (notifyRsrcStatus_silent (dataCall_silent _) m subscriber).trans (by rw [clear]; rfl)
    rw [quiet]
    exact .still (by simpa [notifySubscriber] using pending)
  · rename_i accepted
    rw [if_neg accepted]
    unfold onStateEvent at pending ⊢
    cases state : m.mStatePtr with
    | released =>
        simp only [state, releasedOnRsrcEvent] at pending ⊢
        split at pending
        · rename_i success
          simp only [success, if_true]
          rw [sendRsrcRequest_dataCalls, addSubscriber_out, clear]
          have code := start_result success
          simp only [dataCallCb, code]
          exact .started
        · cases pending
    | pending =>
        simp only [pendingOnRsrcEvent, addSubscriber_out, clear]
        exact .still state
    | acquired => simp [state, acquiredOnRsrcEvent] at pending
    | releasing => simp [state, releasingOnRsrcEvent] at pending

theorem releaseIfUnused_pending {send : SendRsrcRequest} {stay : AgpsState} {m : AgpsStateMachine}
    (pending : (releaseIfUnused send stay m).2 = .pending) :
    stay = .pending ∧ (releaseIfUnused send stay m).1 = m := by
  unfold releaseIfUnused at pending ⊢
  split at pending
  · cases pending
  · split at pending
    · cases pending
    · rename_i used active
      simp only [used, active]
      exact ⟨pending, rfl⟩

theorem unsubscribeRsrc_awaits {answer : StartAnswer} {m : AgpsStateMachine}
    {subscriber : Subscriber} (clear : m.out = [])
    (pending : (m.unsubscribeRsrc (sendRsrcRequest answer) subscriber).2.mStatePtr = .pending) :
    Awaits answer m (.unsubscribeRsrc subscriber)
      (dataCalls (m.unsubscribeRsrc (sendRsrcRequest answer) subscriber).2.out) := by
  rcases m.unsubscribeRsrc_cases (sendRsrcRequest answer) subscriber with
    ⟨position, s, listed, -, -, found⟩ | ⟨-, absent⟩
  · rw [found] at pending ⊢
    dsimp only [onStateEvent] at pending ⊢
    cases state : m.mStatePtr with
    | released => simp [state, releasedOnRsrcEvent, listed] at pending
    | pending =>
        simp only [state, pendingOnRsrcEvent] at pending ⊢
        obtain ⟨-, same⟩ := releaseIfUnused_pending pending
        rw [same, dataCalls_unsubscribeEntry, clear]
        exact .still state
    | acquired =>
        simp only [state, acquiredOnRsrcEvent] at pending
        cases (releaseIfUnused_pending pending).1
    | releasing =>
        simp only [state, releasingOnRsrcEvent] at pending
        split at pending <;> cases pending
  · rw [absent] at pending ⊢
    rw [clear]
    exact .still pending

theorem releasingFinish_pending {answer : StartAnswer} {status : AgpsRsrcStatus}
    (known : status.known = true) {m : AgpsStateMachine}
    (pending : (releasingFinish (sendRsrcRequest answer) status m).2 = .pending) :
    m.hasActiveSubscribers = true ∧
    dataCalls (releasingFinish (sendRsrcRequest answer) status m).1.out =
      dataCalls m.out ++ [(.requestAgpsDataConn, answer.openAndStartDataCall)] := by
  unfold releasingFinish at pending ⊢
  dsimp only at pending ⊢
  split at pending
  · rename_i active
    rw [if_pos active, sendRsrcRequest_dataCalls, dataCalls_notifySubscribers _ known]
    refine ⟨?_, rfl⟩
    rw [hasActiveSubscribers_eq] at active ⊢
    rw [m.notifySubscribers_inactive status known] at active
    simpa [List.any_filter] using active
  · cases pending

theorem onRsrcEvent_awaits {answer : StartAnswer} {event : ServicerEvent} {m : AgpsStateMachine}
    (clear : m.out = []) (pending : (onRsrcEvent answer event m).mStatePtr = .pending) :
    Awaits answer m (.onRsrcEvent event) (dataCalls (onRsrcEvent answer event m).out) := by
  rw [onRsrcEvent_eq] at pending ⊢
  unfold onStateEvent at pending ⊢
  cases state : m.mStatePtr with
  | released => cases event <;> simp [state, effective, ServicerEvent.toRsrcEvent,
      releasedOnRsrcEvent] at pending
  | pending => cases event <;> simp [state, effective, ServicerEvent.toRsrcEvent,
      pendingOnRsrcEvent] at pending
  | acquired => cases event <;> simp [state, effective, ServicerEvent.toRsrcEvent,
      acquiredOnRsrcEvent] at pending
  | releasing =>
      simp only [state] at pending
      cases event with
      | granted => cases pending
      | released =>
          obtain ⟨wanted, calls⟩ := releasingFinish_pending rfl pending
          rw [clear] at calls
          exact calls ▸ .restarted state (.inl rfl) wanted
      | denied =>
          obtain ⟨wanted, calls⟩ := releasingFinish_pending rfl pending
          rw [clear] at calls
          exact calls ▸ .restarted state (.inr rfl) wanted

/-- The inversion of a call that ends in the pending state. -/
theorem perform_awaits {answer : StartAnswer} {m : AgpsStateMachine} {operation : Operation}
    (pending : (perform answer m operation).mStatePtr = .pending) :
    Awaits answer m operation (dataCalls (perform answer m operation).out) := by
  have transfer : ∀ {calls}, Awaits answer m.cleared operation calls →
      Awaits answer m operation calls := by
    intro calls awaits
    cases awaits with
    | still pending => exact .still pending
    | started => exact .started
    | restarted releasing closed wanted => exact .restarted releasing closed wanted
  cases operation with
  | subscribeRsrc subscriber => exact transfer (subscribeRsrc_awaits rfl pending)
  | unsubscribeRsrc subscriber => exact transfer (unsubscribeRsrc_awaits rfl pending)
  | onRsrcEvent event => exact transfer (onRsrcEvent_awaits rfl pending)
  | setAPN apn => exact .still pending
  | setBearer bearer => exact .still pending

end DSStateMachine

/-- A start that the end of a release makes is taken. Every other start is
followed by its result. -/
def Emergency.restartTaken (σ : Emergency) : Emergency.Label → Prop
  | .call (.onRsrcEvent event) answer =>
      σ.machine.mStatePtr = .releasing → event ≠ .granted →
      σ.machine.hasActiveSubscribers = true →
      answer.openAndStartDataCall = LOC_API_ADAPTER_ERR_SUCCESS
  | _ => True

instance (σ : Emergency) (label : Emergency.Label) : Decidable (σ.restartTaken label) :=
  match label with
  | .call (.onRsrcEvent _) _ => inferInstanceAs (Decidable (_ → _))
  | .call (.subscribeRsrc _) _ | .call (.unsubscribeRsrc _) _ | .call (.setAPN _) _
  | .call (.setBearer _) _ | .timerExpiry | .suplEs .. => inferInstanceAs (Decidable True)

/-- In the pending state a data call has been started and not stopped since. -/
def Emergency.CallOutstanding (σ : Emergency) : Prop :=
  σ.machine.mStatePtr = .pending →
    σ.lastDataCall = some (.requestAgpsDataConn, LOC_API_ADAPTER_ERR_SUCCESS)

theorem Emergency.CallOutstanding.settle {σ : Emergency} (outstanding : σ.CallOutstanding)
    {operation : Operation} {answer : StartAnswer}
    (taken : σ.restartTaken (.call operation answer)) :
    (σ.settle (DSStateMachine.perform answer σ.machine operation)).CallOutstanding := by
  intro (pending : (DSStateMachine.perform answer σ.machine operation).mStatePtr = .pending)
  have awaits := DSStateMachine.perform_awaits pending
  simp only [Emergency.settle]
  generalize dataCalls (DSStateMachine.perform answer σ.machine operation).out = calls at awaits ⊢
  cases awaits with
  | still before => exact outstanding before
  | started => rfl
  | restarted releasing closed wanted =>
      have code := taken releasing (by rcases closed with rfl | rfl <;> simp) wanted
      simp [code]

theorem emergency_callOutstanding {σ : Emergency}
    (run : emergency.ReachableUnder Emergency.restartTaken σ) : σ.CallOutstanding := by
  refine run.invariant Emergency.CallOutstanding ?_ ?_
  · rintro σ rfl
    intro pending
    cases pending
  · intro before label after _ outstanding met taken
    cases label with
    | call operation answer =>
        obtain rfl := Option.some.inj taken
        exact outstanding.settle met
    | timerExpiry =>
        simp only [emergency, Emergency.timerExpiry] at taken
        split at taken
        · cases taken
        · obtain rfl := Option.some.inj taken
          exact outstanding
    | suplEs beyond answer =>
        simp only [emergency, Emergency.handleSuplEs] at taken
        split at taken
        · cases taken
        · rename_i mID rest queue
          obtain rfl := Option.some.inj taken
          have kept : Emergency.CallOutstanding { before with suplEs := rest } := outstanding
          exact kept.settle trivial

/-- In every run in which the restarts out of the releasing state are taken, a
pending machine has a started data call. -/
theorem emergency_pending {σ : Emergency}
    (run : emergency.ReachableUnder Emergency.restartTaken σ)
    (pending : σ.machine.mStatePtr = .pending) :
    σ.lastDataCall = some (.requestAgpsDataConn, LOC_API_ADAPTER_ERR_SUCCESS) ∨ 0 < σ.timers :=
  .inl (emergency_callOutstanding run pending)

/-- A first subscriber whose data call starts. -/
theorem emergency_pending_started :
    let ds := Subscriber.ds 7 false (Vector.replicate 16 0)
    ∃ σ, emergency.execUnder Emergency.restartTaken ⟨DSStateMachine.new, 0, [], none⟩
        [.call (.subscribeRsrc ds) ⟨LOC_API_ADAPTER_ERR_SUCCESS, true⟩] = some σ ∧
      σ.machine.mStatePtr = .pending ∧
      (σ.lastDataCall = some (.requestAgpsDataConn, LOC_API_ADAPTER_ERR_SUCCESS) ∨
        0 < σ.timers) := by
  intro ds
  refine ⟨_, rfl, rfl, ?_⟩
  have run : emergency.ReachableUnder Emergency.restartTaken _ :=
    System.ReachableUnder.exec (.start rfl)
      [.call (.subscribeRsrc ds) ⟨LOC_API_ADAPTER_ERR_SUCCESS, true⟩] rfl
  exact emergency_pending run rfl

/-- The data call of a second subscriber, restarted at the end of the release
for the first, is refused: the machine waits for an answer to no call. -/
theorem emergency_pending_without_call :
    ¬ ∀ σ, emergency.Reachable σ → σ.machine.mStatePtr = .pending →
      σ.lastDataCall = some (.requestAgpsDataConn, LOC_API_ADAPTER_ERR_SUCCESS) ∨
        0 < σ.timers := by
  intro outstanding
  let first := Subscriber.ds 7 false (Vector.replicate 16 0)
  let second := Subscriber.ds 8 false (Vector.replicate 16 0)
  let taken : StartAnswer := ⟨LOC_API_ADAPTER_ERR_SUCCESS, true⟩
  have start : emergency.initial ⟨DSStateMachine.new, 0, [], none⟩ := rfl
  obtain ⟨σ, run, seen⟩ := System.reachable_of_exec start
    [.call (.subscribeRsrc first) taken, .call (.onRsrcEvent .granted) taken,
      .call (.unsubscribeRsrc first) taken, .call (.subscribeRsrc second) taken,
      .call (.onRsrcEvent .released) ⟨LOC_API_ADAPTER_ERR_UNSUPPORTED, true⟩]
    (fun σ => σ.machine.mStatePtr == .pending && σ.timers == 0 &&
      σ.lastDataCall == some (.requestAgpsDataConn, LOC_API_ADAPTER_ERR_UNSUPPORTED)) (by decide)
  simp only [Bool.and_eq_true, beq_iff_eq] at seen
  obtain ⟨⟨pending, noTimer⟩, refused⟩ := seen
  rcases outstanding σ run pending with started | timer
  · rw [refused] at started
    cases started
  · omega

end A5Common.Agps
