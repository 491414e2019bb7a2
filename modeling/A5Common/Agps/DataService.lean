import A5Common.Agps.Coherence

set_option autoImplicit false

namespace A5Common.Agps

open A5Common.Run

def LOC_API_ADAPTER_ERR_SUCCESS : Int := 0

def LOC_API_ADAPTER_ERR_UNSUPPORTED : Int := 2

def LOC_API_ADAPTER_ERR_ENGINE_BUSY : Int := 6

def MAX_START_DATA_CALL_RETRIES : BitVec 8 := 4#8

/-- What the world answers to the start of a data call: the code that
openAndStartDataCall returns, and whether loc_timer_start returns a handle. -/
structure StartAnswer where
  openAndStartDataCall : Int
  timerHandle : Bool
  deriving DecidableEq, Repr

/-- dataCallCb: stopDataCall has no result. -/
def dataCallCb (answer : StartAnswer) : AGpsStatusValue → Int
  | .requestAgpsDataConn => answer.openAndStartDataCall
  | .releaseAgpsDataConn => 0

namespace DSStateMachine

open AgpsStateMachine

/-- The connection handle of the first active subscriber, or -1. -/
def connHandle (m : AgpsStateMachine) : BitVec 32 :=
  match m.mSubscribers.find? (·.forMe (.searchGroup .active)) with
  | some s => s.ID
  | none => BitVec.ofInt 32 (-1)

def incRetries (m : AgpsStateMachine) : AgpsStateMachine :=
  { m with mRetries := m.mRetries + 1#8 }

/-- The ENGINE_BUSY case of DSStateMachine::sendRsrcRequest. -/
def engineBusy (answer : StartAnswer) (m : AgpsStateMachine) : AgpsStateMachine × Int :=
  let handle := connHandle m
  let m := incRetries m
  if MAX_START_DATA_CALL_RETRIES < m.mRetries then
    (m.informStatus .denied handle, LOC_API_ADAPTER_ERR_ENGINE_BUSY)
  else
    -- a handle is taken for an error here, which keeps the machine where it is
    (m.emit (.startTimer answer.timerHandle),
      if answer.timerHandle then -1 else LOC_API_ADAPTER_ERR_ENGINE_BUSY)

/-- DSStateMachine::sendRsrcRequest. -/
def sendRsrcRequest (answer : StartAnswer) : SendRsrcRequest := fun action m =>
  let ret := dataCallCb answer action
  let m := m.emit (.dataCall action ret)
  if ret = LOC_API_ADAPTER_ERR_ENGINE_BUSY then engineBusy answer m
  else if ret = LOC_API_ADAPTER_ERR_UNSUPPORTED ∨ ret = -1 then
    (m.informStatus .denied (connHandle m), ret)
  else (m, ret)

/-- DSStateMachine::onRsrcEvent: a release that changes no state is handled
once more as a denial. -/
def onRsrcEvent (answer : StartAnswer) (event : ServicerEvent) (m : AgpsStateMachine) :
    AgpsStateMachine :=
  match event with
  | .granted => m.onStateEvent (sendRsrcRequest answer) .granted
  | .released =>
      let released := m.onStateEvent (sendRsrcRequest answer) .released
      if released.mStatePtr = m.mStatePtr then
        released.onStateEvent (sendRsrcRequest answer) .denied
      else released
  | .denied => m.onStateEvent (sendRsrcRequest answer) .denied

/-- DSStateMachine::retryCallback: the handle that goes into requestSuplES. -/
def retryCallback (m : AgpsStateMachine) : Option (BitVec 32) :=
  (m.mSubscribers.find? (·.forMe (.searchGroup .active))).map Subscriber.ID

def new : AgpsStateMachine := .new AGPS_TYPE_INVALID false

/-- One call on a DSStateMachine; `out` is left with what this call has done. -/
def perform (answer : StartAnswer) (m : AgpsStateMachine) (operation : Operation) :
    AgpsStateMachine :=
  let m := m.cleared
  match operation with
  | .subscribeRsrc subscriber => m.subscribeRsrc (sendRsrcRequest answer) subscriber
  | .unsubscribeRsrc subscriber => (m.unsubscribeRsrc (sendRsrcRequest answer) subscriber).2
  | .onRsrcEvent event => onRsrcEvent answer event m
  | .setAPN apn => m.setAPN apn
  | .setBearer bearer => m.setBearer bearer

end DSStateMachine

/-- A call that starts or stops the data call, with its result. -/
def Action.dataCall? : Action → Option (AGpsStatusValue × Int)
  | .dataCall action ret => some (action, ret)
  | _ => none

def dataCalls (actions : List Action) : List (AGpsStatusValue × Int) :=
  actions.filterMap Action.dataCall?

/-- The handles given to requestATL. -/
def Action.handedOver? : Action → Option (BitVec 32)
  | .requestATL connHandle _ => some connHandle
  | _ => none

def handedOver (actions : List Action) : List (BitVec 32) := actions.filterMap Action.handedOver?

def Action.timer? : Action → Option Unit
  | .startTimer true => some ()
  | _ => none

/-- How many retry timers were really started. -/
def timersStarted (actions : List Action) : Nat := (actions.filterMap Action.timer?).length

theorem dataCall_silent (status : AgpsRsrcStatus) : Silent Action.dataCall? status := by
  intro m s
  cases s <;> cases status <;> rfl

/-- Only a denial hands a connection over. -/
theorem handedOver_silent {status : AgpsRsrcStatus} (other : status ≠ .denied) :
    Silent Action.handedOver? status := by
  intro m s
  cases s <;> cases status <;> first | rfl | exact absurd rfl other

namespace DSStateMachine

open AgpsStateMachine

/-- The start falls back to the default path. -/
def fallsBack (answer : StartAnswer) (mRetries : BitVec 8) : Prop :=
  answer.openAndStartDataCall = LOC_API_ADAPTER_ERR_UNSUPPORTED ∨
  answer.openAndStartDataCall = -1 ∨
  answer.openAndStartDataCall = LOC_API_ADAPTER_ERR_ENGINE_BUSY ∧
    MAX_START_DATA_CALL_RETRIES < mRetries + 1#8

instance (answer : StartAnswer) (mRetries : BitVec 8) : Decidable (fallsBack answer mRetries) :=
  inferInstanceAs (Decidable (_ ∨ _ ∨ _))

/-- The start fails for now, and a retry timer runs. -/
def retries (answer : StartAnswer) (mRetries : BitVec 8) : Prop :=
  answer.openAndStartDataCall = LOC_API_ADAPTER_ERR_ENGINE_BUSY ∧
    ¬ MAX_START_DATA_CALL_RETRIES < mRetries + 1#8 ∧ answer.timerHandle = true

instance (answer : StartAnswer) (mRetries : BitVec 8) : Decidable (retries answer mRetries) :=
  inferInstanceAs (Decidable (_ ∧ _ ∧ _))

theorem release_eq (answer : StartAnswer) (m : AgpsStateMachine) :
    sendRsrcRequest answer .releaseAgpsDataConn m =
      (m.emit (.dataCall .releaseAgpsDataConn 0), 0) := rfl

/-- All that a start can do. -/
theorem start_cases (answer : StartAnswer) (m : AgpsStateMachine) :
    (fallsBack answer m.mRetries ∧ ∃ mRetries,
      sendRsrcRequest answer .requestAgpsDataConn m =
        ({ m with
            mRetries := mRetries
            out := m.out ++ [.dataCall .requestAgpsDataConn answer.openAndStartDataCall,
              .requestATL (connHandle m) AGPS_TYPE_SUPL] },
          answer.openAndStartDataCall)) ∨
    (¬ fallsBack answer m.mRetries ∧
      answer.openAndStartDataCall = LOC_API_ADAPTER_ERR_ENGINE_BUSY ∧
      sendRsrcRequest answer .requestAgpsDataConn m =
        ({ m with
            mRetries := m.mRetries + 1#8
            out := m.out ++ [.dataCall .requestAgpsDataConn answer.openAndStartDataCall,
              .startTimer answer.timerHandle] },
          if answer.timerHandle then -1 else LOC_API_ADAPTER_ERR_ENGINE_BUSY)) ∨
    (¬ fallsBack answer m.mRetries ∧
      answer.openAndStartDataCall ≠ LOC_API_ADAPTER_ERR_ENGINE_BUSY ∧
      sendRsrcRequest answer .requestAgpsDataConn m =
        ({ m with
            out := m.out ++ [.dataCall .requestAgpsDataConn answer.openAndStartDataCall] },
          answer.openAndStartDataCall)) := by
  by_cases busy : answer.openAndStartDataCall = LOC_API_ADAPTER_ERR_ENGINE_BUSY
  · by_cases spent : MAX_START_DATA_CALL_RETRIES < m.mRetries + 1#8
    · refine .inl ⟨.inr (.inr ⟨busy, spent⟩), 0, ?_⟩
      simp [sendRsrcRequest, dataCallCb, busy, engineBusy, incRetries, emit, spent, informStatus,
        connHandle]
    · refine .inr (.inl ⟨?_, busy, ?_⟩)
      · rintro (unsupported | failed | ⟨-, ended⟩)
        · rw [busy] at unsupported
          cases unsupported
        · rw [busy] at failed
          cases failed
        · exact spent ended
      · simp [sendRsrcRequest, dataCallCb, busy, engineBusy, incRetries, emit, spent]
  · by_cases failed : answer.openAndStartDataCall = LOC_API_ADAPTER_ERR_UNSUPPORTED ∨
        answer.openAndStartDataCall = -1
    · refine .inl ⟨failed.elim .inl (fun lost => .inr (.inl lost)), 0, ?_⟩
      simp [sendRsrcRequest, dataCallCb, busy, emit, failed, informStatus, connHandle]
    · refine .inr (.inr ⟨?_, busy, ?_⟩)
      · rintro (unsupported | lost | ⟨now, -⟩)
        · exact failed (.inl unsupported)
        · exact failed (.inr lost)
        · exact busy now
      · simp [sendRsrcRequest, dataCallCb, busy, emit, failed]

theorem sendRsrcRequest_frames (answer : StartAnswer) : (sendRsrcRequest answer).Frames := by
  refine ⟨?_, ?_, ?_⟩ <;> intro action m <;> cases action with
  | releaseAgpsDataConn => simp [release_eq, told, Action.told?]
  | requestAgpsDataConn =>
      rcases start_cases answer m with ⟨-, _, sent⟩ | ⟨-, -, sent⟩ | ⟨-, -, sent⟩ <;>
        simp [sent, told, Action.told?]

theorem sendRsrcRequest_dataCalls (answer : StartAnswer) (action : AGpsStatusValue)
    (m : AgpsStateMachine) :
    dataCalls (sendRsrcRequest answer action m).1.out =
      dataCalls m.out ++ [(action, dataCallCb answer action)] := by
  cases action with
  | releaseAgpsDataConn => simp [release_eq, dataCalls, Action.dataCall?, dataCallCb]
  | requestAgpsDataConn =>
      rcases start_cases answer m with ⟨-, _, sent⟩ | ⟨-, -, sent⟩ | ⟨-, -, sent⟩ <;>
        simp [sent, dataCalls, Action.dataCall?, dataCallCb]

/-- The result 0 is the code of a start that was made. -/
theorem start_result {answer : StartAnswer} {m : AgpsStateMachine}
    (success : (sendRsrcRequest answer .requestAgpsDataConn m).2 = 0) :
    answer.openAndStartDataCall = LOC_API_ADAPTER_ERR_SUCCESS := by
  rcases start_cases answer m with ⟨-, _, sent⟩ | ⟨-, -, sent⟩ | ⟨-, -, sent⟩
  · rwa [sent] at success
  · rw [sent] at success
    dsimp only at success
    split at success <;> cases success
  · rwa [sent] at success

/-- What the events of the data service are for the states. -/
def effective : AgpsState → ServicerEvent → RsrcEvent
  | .pending, .released => .denied
  | _, event => event.toRsrcEvent

theorem releasingFinish_ne (send : SendRsrcRequest) (status : AgpsRsrcStatus)
    (m : AgpsStateMachine) : (releasingFinish send status m).2 ≠ .releasing := by
  unfold releasingFinish
  dsimp only
  split <;> exact AgpsState.noConfusion

/-- Handling a release twice makes a difference in the pending state only. -/
theorem onRsrcEvent_eq (answer : StartAnswer) (event : ServicerEvent) (m : AgpsStateMachine) :
    onRsrcEvent answer event m =
      m.onStateEvent (sendRsrcRequest answer) (effective m.mStatePtr event) := by
  cases event with
  | granted => cases state : m.mStatePtr <;> rfl
  | denied => cases state : m.mStatePtr <;> rfl
  | released =>
      cases state : m.mStatePtr with
      | released | acquired =>
          simp [onRsrcEvent, onStateEvent, state, effective, releasedOnRsrcEvent,
            acquiredOnRsrcEvent, ServicerEvent.toRsrcEvent]
      | pending =>
          have same : m.onStateEvent (sendRsrcRequest answer) .released = m := by
            simp only [onStateEvent, state, pendingOnRsrcEvent]
            rw [← state]
          simp only [onRsrcEvent, same, if_true]
          rfl
      | releasing =>
          have left := releasingFinish_ne (sendRsrcRequest answer) .released m
          simp [onRsrcEvent, onStateEvent, state, effective, releasingOnRsrcEvent,
            ServicerEvent.toRsrcEvent, left]

end DSStateMachine

/-- The emergency data service: the machine, its running retry timers, the
LocEngRequestSuplEs messages on their way and the last data call made. -/
structure Emergency where
  machine : AgpsStateMachine
  timers : Nat
  suplEs : List (BitVec 32)
  lastDataCall : Option (AGpsStatusValue × Int)

inductive Emergency.Label where
  | call (operation : Operation) (answer : StartAnswer)
  | timerExpiry
  | suplEs (beyond : IPv6Addr) (answer : StartAnswer)

namespace Emergency

/-- The effects of a finished call outside the machine. -/
def settle (σ : Emergency) (machine : AgpsStateMachine) : Emergency :=
  { σ with
    machine := machine
    timers := σ.timers + timersStarted machine.out
    lastDataCall := (dataCalls machine.out).getLast?.or σ.lastDataCall }

/-- delay_callback posts a LocEngRequestSuplEs for the first active subscriber. -/
def timerExpiry (σ : Emergency) : Option Emergency :=
  match σ.timers with
  | 0 => none
  | timers + 1 =>
      some { σ with
        timers := timers
        suplEs := σ.suplEs ++ (DSStateMachine.retryCallback σ.machine).toList }

/-- LocEngRequestSuplEs::proc, with the emergency PDN in use. -/
def handleSuplEs (σ : Emergency) (beyond : IPv6Addr) (answer : StartAnswer) : Option Emergency :=
  match σ.suplEs with
  | [] => none
  | mID :: rest =>
      some ({ σ with suplEs := rest }.settle
        (DSStateMachine.perform answer σ.machine (.subscribeRsrc (.ds mID false beyond))))

end Emergency

/-- All interleavings of calls, retry timers and the messages they post. -/
def emergency : System Emergency Emergency.Label where
  initial σ := σ = ⟨DSStateMachine.new, 0, [], none⟩
  step σ
    | .call operation answer => some (σ.settle (DSStateMachine.perform answer σ.machine operation))
    | .timerExpiry => σ.timerExpiry
    | .suplEs beyond answer => σ.handleSuplEs beyond answer

end A5Common.Agps
