import A5Common.Agps.Identity

set_option autoImplicit false

namespace A5Common.Agps

open A5Common.Run

namespace AgpsStateMachine

theorem inform_mRetries (m : AgpsStateMachine) (s : Subscriber) (status : AgpsRsrcStatus) :
    (m.inform s status).mRetries =
      if status = .denied ∧ s.kind = .ds then 0 else m.mRetries := by
  cases s <;> cases status <;> rfl

theorem informAll_mRetries (m : AgpsStateMachine) (list : List Subscriber)
    (status : AgpsRsrcStatus) :
    (m.informAll list status).mRetries =
      if status = .denied ∧ ∃ s ∈ list, s.kind = .ds then 0 else m.mRetries := by
  induction list generalizing m with
  | nil => simp
  | cons s rest ih =>
      rw [informAll_cons, ih, inform_mRetries]
      by_cases denied : status = .denied <;> by_cases ds : s.kind = .ds <;> simp [denied, ds]

end AgpsStateMachine

namespace DSStateMachine

open AgpsStateMachine

/-- The retries counted when the end of a release makes a start: a denial that
a leaving DS subscriber is told of clears them first. -/
def retriesAtRestart (m : AgpsStateMachine) (event : ServicerEvent) : BitVec 8 :=
  if event = .denied ∧ ∃ s ∈ m.mSubscribers, s.isInactive = true ∧ s.kind = .ds then 0
  else m.mRetries

instance (m : AgpsStateMachine) (event : ServicerEvent) :
    Decidable (event = .denied ∧ ∃ s ∈ m.mSubscribers, s.isInactive = true ∧ s.kind = .ds) :=
  inferInstance

/-- A start from the released state that leaves the machine with a data call or
a retry timer. -/
def startTaken (answer : StartAnswer) (m : AgpsStateMachine) : Prop :=
  answer.openAndStartDataCall = LOC_API_ADAPTER_ERR_SUCCESS ∨ retries answer m.mRetries

instance (answer : StartAnswer) (m : AgpsStateMachine) : Decidable (startTaken answer m) :=
  inferInstanceAs (Decidable (_ ∨ _))

/-- What a start that is taken does. -/
theorem start_taken {answer : StartAnswer} {m : AgpsStateMachine} (taken : startTaken answer m) :
    handedOver (sendRsrcRequest answer .requestAgpsDataConn m).1.out = handedOver m.out ∧
    ((sendRsrcRequest answer .requestAgpsDataConn m).2 = 0 ∨
      (sendRsrcRequest answer .requestAgpsDataConn m).2 ≠ 0 ∧
      timersStarted (sendRsrcRequest answer .requestAgpsDataConn m).1.out =
        timersStarted m.out + 1) := by
  rcases start_cases answer m with ⟨lost, _, -⟩ | ⟨-, busy, sent⟩ | ⟨-, other, sent⟩
  · exfalso
    rcases taken with success | ⟨busy, within, -⟩
    · rcases lost with lost | lost | ⟨lost, -⟩ <;> rw [success] at lost <;> cases lost
    · rcases lost with lost | lost | ⟨-, ended⟩
      · rw [busy] at lost
        cases lost
      · rw [busy] at lost
        cases lost
      · exact within ended
  · have handle : answer.timerHandle = true := by
      rcases taken with success | ⟨-, -, handle⟩
      · rw [busy] at success
        cases success
      · exact handle
    rw [sent, handle]
    refine ⟨by simp [handedOver, Action.handedOver?], .inr ⟨by simp, ?_⟩⟩
    simp only [timersStarted, List.filterMap_append, List.length_append]
    rfl
  · have success : answer.openAndStartDataCall = LOC_API_ADAPTER_ERR_SUCCESS := by
      rcases taken with success | ⟨busy, -, -⟩
      · exact success
      · exact absurd busy other
    rw [sent]
    exact ⟨by simp [handedOver, Action.handedOver?], .inl success⟩

/-- Only a start that falls back hands a connection over. -/
theorem handedOver_start {answer : StartAnswer} {m : AgpsStateMachine}
    (kept : ¬ fallsBack answer m.mRetries) :
    handedOver (sendRsrcRequest answer .requestAgpsDataConn m).1.out = handedOver m.out := by
  rcases start_cases answer m with ⟨lost, _, -⟩ | ⟨-, -, sent⟩ | ⟨-, -, sent⟩
  · exact absurd lost kept
  · simp [sent, handedOver, Action.handedOver?]
  · simp [sent, handedOver, Action.handedOver?]

theorem handedOver_releaseIfUnused (answer : StartAnswer) (stay : AgpsState)
    (m : AgpsStateMachine) :
    handedOver (releaseIfUnused (sendRsrcRequest answer) stay m).1.out = handedOver m.out := by
  have released : handedOver (sendRsrcRequest answer .releaseAgpsDataConn m).1.out =
      handedOver m.out := by
    simp [release_eq, handedOver, Action.handedOver?]
  unfold releaseIfUnused
  split
  · exact released
  · split
    · exact released
    · rfl

theorem handedOver_unsubscribeEntry (position : Nat) (m : AgpsStateMachine) :
    handedOver (unsubscribeEntry position m).out = handedOver m.out :=
  unsubscribeEntry_silent (handedOver_silent (by simp)) position m

/-- An unsubscription hands nothing over. -/
theorem unsubscribe_handedOver (answer : StartAnswer) (position : Nat) (m : AgpsStateMachine) :
    handedOver (m.onStateEvent (sendRsrcRequest answer) (.unsubscribe position)).out =
      handedOver m.out := by
  unfold onStateEvent
  cases m.mStatePtr with
  | released =>
      simp only [releasedOnRsrcEvent]
      split
      · exact notifyRsrcStatus_silent (handedOver_silent (by simp [Notification.unicast])) m _
      · rfl
  | pending | acquired =>
      exact (handedOver_releaseIfUnused answer _ _).trans (handedOver_unsubscribeEntry position m)
  | releasing =>
      simp only [releasingOnRsrcEvent]
      split <;> exact handedOver_unsubscribeEntry position m

/-- A denial hands over the connections of the DS subscribers it informs. -/
theorem mem_handedOver_denied {m : AgpsStateMachine} (clear : m.out = [])
    {handle : BitVec 32}
    (member : handle ∈ handedOver (m.notifySubscribers (.broadcast .inactive .denied true)).out) :
    ∃ s ∈ m.mSubscribers, s.isInactive = true ∧ s.kind = .ds ∧ s.ID = handle := by
  rw [m.notifySubscribers_out _ rfl, clear, List.nil_append] at member
  obtain ⟨a, informed, given⟩ := List.mem_filterMap.mp member
  obtain ⟨s, listed, reported⟩ := List.mem_flatMap.mp informed
  obtain ⟨listed, inactive⟩ := List.mem_filter.mp listed
  refine ⟨s, listed, inactive, ?_⟩
  have here : handle ∈ (m.reports s .denied).filterMap Action.handedOver? :=
    List.mem_filterMap.mpr ⟨a, reported, given⟩
  cases s with
  | bit | atl | wifi =>
      simp [reports, inform, emit, Action.handedOver?] at here
  | ds ID mIsInactive beyond =>
      simp [reports, inform, informStatus, emit, Action.handedOver?] at here
      exact ⟨rfl, here⟩

theorem notifySubscribers_inactive_mRetries (m : AgpsStateMachine) (event : ServicerEvent)
    {status : AgpsRsrcStatus} (closed : status = .released ∧ event = .released ∨
      status = .denied ∧ event = .denied) :
    (m.notifySubscribers (.broadcast .inactive status true)).mRetries =
      retriesAtRestart m event := by
  have known : status.known = true := by
    rcases closed with ⟨rfl, -⟩ | ⟨rfl, -⟩ <;> rfl
  rw [m.notifySubscribers_eq _ known]
  simp only [informAll_mRetries, retriesAtRestart]
  rcases closed with ⟨rfl, rfl⟩ | ⟨rfl, rfl⟩
  · simp [Notification.broadcast]
  · simp [Notification.broadcast, Subscriber.forMe, and_assoc]

/-- The end of a release hands over the connections of leaving subscribers
only, when its restart does not fall back. -/
theorem releasingFinish_handedOver {answer : StartAnswer} {m : AgpsStateMachine}
    (clear : m.out = []) {event : ServicerEvent} {status : AgpsRsrcStatus}
    (closed : status = .released ∧ event = .released ∨ status = .denied ∧ event = .denied)
    (kept : m.hasActiveSubscribers = true → ¬ fallsBack answer (retriesAtRestart m event))
    {handle : BitVec 32}
    (member : handle ∈ handedOver (releasingFinish (sendRsrcRequest answer) status m).1.out) :
    ∃ s ∈ m.mSubscribers, s.isInactive = true ∧ s.kind = .ds ∧ s.ID = handle := by
  have known : status.known = true := by
    rcases closed with ⟨rfl, -⟩ | ⟨rfl, -⟩ <;> rfl
  have notified : handle ∈
      handedOver (m.notifySubscribers (.broadcast .inactive status true)).out := by
    unfold releasingFinish at member
    dsimp only at member
    split at member
    · rename_i active
      have wanted : m.hasActiveSubscribers = true := by
        rw [hasActiveSubscribers_eq] at active ⊢
        rw [m.notifySubscribers_inactive status known] at active
        simpa [List.any_filter] using active
      have same := notifySubscribers_inactive_mRetries m event closed
      rwa [handedOver_start (same ▸ kept wanted)] at member
    · exact member
  rcases closed with ⟨rfl, -⟩ | ⟨rfl, -⟩
  · have silent : handedOver (m.notifySubscribers (.broadcast .inactive .released true)).out = [] :=
      (notifySubscribers_silent (handedOver_silent (by simp [Notification.broadcast])) rfl m).trans
        (by rw [clear]; rfl)
    rw [silent] at notified
    cases notified
  · exact mem_handedOver_denied clear notified

theorem releasingFinish_mSubscribers (answer : StartAnswer) {status : AgpsRsrcStatus}
    (known : status.known = true) (m : AgpsStateMachine) :
    (releasingFinish (sendRsrcRequest answer) status m).1.mSubscribers =
      m.mSubscribers.filter (!·.isInactive) := by
  rw [← m.notifySubscribers_inactive status known]
  unfold releasingFinish
  dsimp only
  split
  · rw [(sendRsrcRequest_frames answer).mSubscribers]
  · rfl

/-- No connection handed over by the call belongs to an entry that compares
handles. -/
def HandedOff (m : AgpsStateMachine) : Prop :=
  ∀ handle ∈ handedOver m.out, ∀ e ∈ m.mSubscribers, e.kind ≠ .bit → e.ID ≠ handle

theorem handedOff_of_nil {m : AgpsStateMachine} (none : handedOver m.out = []) : HandedOff m := by
  intro handle member
  rw [none] at member
  cases member

/-- The events of the data service, with a restart that does not fall back. -/
theorem onRsrcEvent_handedOff (answer : StartAnswer) (event : ServicerEvent) {m : AgpsStateMachine}
    (clear : m.out = []) (distinct : Distinct m.mSubscribers)
    (kept : m.mStatePtr = .releasing → event ≠ .granted → m.hasActiveSubscribers = true →
      ¬ fallsBack answer (retriesAtRestart m event)) :
    HandedOff (onRsrcEvent answer event m) := by
  rw [onRsrcEvent_eq]
  have leaving : ∀ {status}, (status = .released ∧ event = .released ∨
        status = .denied ∧ event = .denied) → m.mStatePtr = .releasing →
      HandedOff { (releasingFinish (sendRsrcRequest answer) status m).1 with
        mStatePtr := (releasingFinish (sendRsrcRequest answer) status m).2 } := by
    intro status closed state handle member e listed kind
    have known : status.known = true := by
      rcases closed with ⟨rfl, -⟩ | ⟨rfl, -⟩ <;> rfl
    have notGranted : event ≠ .granted := by
      rcases closed with ⟨-, rfl⟩ | ⟨-, rfl⟩ <;> simp
    obtain ⟨s, left, inactive, ds, rfl⟩ :=
      releasingFinish_handedOver clear closed (kept state notGranted) member
    rw [releasingFinish_mSubscribers answer known] at listed
    obtain ⟨listed, active⟩ := List.mem_filter.mp listed
    refine distinct.ID_ne listed left ?_ kind (by simp [ds])
    rintro rfl
    simp [inactive] at active
  unfold onStateEvent
  cases state : m.mStatePtr with
  | released =>
      cases event <;> exact handedOff_of_nil (by simp [effective, ServicerEvent.toRsrcEvent,
        releasedOnRsrcEvent, clear, handedOver])
  | acquired =>
      cases event with
      | granted | denied => exact handedOff_of_nil (by simp [effective, ServicerEvent.toRsrcEvent,
          acquiredOnRsrcEvent, clear, handedOver])
      | released =>
          intro handle member e listed
          simp [effective, ServicerEvent.toRsrcEvent, acquiredOnRsrcEvent,
            m.notifySubscribers_all .released rfl] at listed
  | pending =>
      cases event with
      | granted =>
          refine handedOff_of_nil ?_
          exact (notifySubscribers_silent (handedOver_silent (by simp [Notification.broadcast]))
            rfl m).trans (by rw [clear]; rfl)
      | released | denied =>
          intro handle member e listed
          simp [effective, ServicerEvent.toRsrcEvent, pendingOnRsrcEvent,
            m.notifySubscribers_all .denied rfl] at listed
  | releasing =>
      cases event with
      | granted => exact handedOff_of_nil (by simp [effective, ServicerEvent.toRsrcEvent,
          releasingOnRsrcEvent, clear, handedOver])
      | released => exact leaving (.inl ⟨rfl, rfl⟩) state
      | denied => exact leaving (.inr ⟨rfl, rfl⟩) state

/-- What holds of the machine between calls: the released state keeps active
entries only, whose start is being retried. -/
structure Orderly (m : AgpsStateMachine) : Prop where
  single : m.mEnforceSingleSubscriber = false
  distinct : Distinct m.mSubscribers
  held : m.mStatePtr ≠ .released → Coherent m.mStatePtr m.mSubscribers
  idle : m.mStatePtr = .released → ∀ s ∈ m.mSubscribers, s.isInactive = false

theorem Orderly.addSubscriber_active {m : AgpsStateMachine} (orderly : Orderly m)
    (released : m.mStatePtr = .released) (s : Subscriber) :
    ∀ e ∈ (m.addSubscriber s).mSubscribers, e.isInactive = false := by
  rcases m.addSubscriber_cases s with ⟨-, added⟩ | ⟨-, kept⟩
  · rw [added]
    intro e listed
    rcases List.mem_cons.mp listed with rfl | listed
    · simp
    · exact orderly.idle released e listed
  · rw [kept]
    exact orderly.idle released

/-- A subscription leaves the machine waiting for an answer, or released with a
new retry timer. -/
theorem Orderly.subscribeRsrc {answer : StartAnswer} {m : AgpsStateMachine} (orderly : Orderly m)
    (clear : m.out = []) (s : Subscriber)
    (taken : m.mStatePtr = .released → startTaken answer m) :
    Orderly (m.subscribeRsrc (sendRsrcRequest answer) s) ∧
    handedOver (m.subscribeRsrc (sendRsrcRequest answer) s).out = [] ∧
    ((m.subscribeRsrc (sendRsrcRequest answer) s).mStatePtr = .released →
      0 < timersStarted (m.subscribeRsrc (sendRsrcRequest answer) s).out) := by
  have frames := sendRsrcRequest_frames answer
  have accepted : m.subscribeRsrc (sendRsrcRequest answer) s =
      m.onStateEvent (sendRsrcRequest answer) (.subscribe s) := by
    simp [AgpsStateMachine.subscribeRsrc, orderly.single]
  rw [accepted]
  have single := onStateEvent_mEnforceSingleSubscriber frames (.subscribe s) m
  rw [orderly.single] at single
  have distinct := orderly.distinct.onStateEvent frames (.subscribe s)
  by_cases state : m.mStatePtr = .released
  · have listed := orderly.addSubscriber_active state s
    have start : startTaken answer (m.addSubscriber s) := by
      have same : (m.addSubscriber s).mRetries = m.mRetries := by
        rcases m.addSubscriber_cases s with ⟨-, added⟩ | ⟨-, kept⟩
        · rw [added]
        · rw [kept]
      simpa only [startTaken, same] using taken state
    obtain ⟨quiet, result⟩ := start_taken start
    rw [AgpsStateMachine.addSubscriber_out, clear] at quiet result
    simp only [onStateEvent, state, releasedOnRsrcEvent] at single distinct ⊢
    rcases result with success | ⟨failed, timer⟩
    · simp only [success, if_true] at single distinct ⊢
      refine ⟨⟨single, distinct, fun _ => ?_, fun released => by cases released⟩, quiet,
        fun released => by cases released⟩
      rw [frames.mSubscribers]
      obtain ⟨e, member⟩ := List.exists_mem_of_ne_nil _ (m.addSubscriber_ne_nil s)
      exact coherent_of_active AgpsState.noConfusion ⟨e, member, listed e member⟩
    · simp only [failed, if_false] at single distinct ⊢
      refine ⟨⟨single, distinct, fun held => absurd rfl held, fun _ => ?_⟩, quiet, fun _ => ?_⟩
      · rw [frames.mSubscribers]
        exact listed
      · rw [timer]
        exact Nat.succ_pos _
  · have coherent := onStateEvent_coherent_of_held frames (.subscribe s) state (orderly.held state)
    have still :
        (m.onStateEvent (sendRsrcRequest answer) (.subscribe s)).mStatePtr ≠ .released := by
      unfold onStateEvent
      cases state' : m.mStatePtr with
      | released => exact absurd state' state
      | pending | acquired | releasing => exact AgpsState.noConfusion
    refine ⟨⟨single, distinct, fun _ => coherent, fun released => absurd released still⟩, ?_,
      fun released => absurd released still⟩
    unfold onStateEvent
    cases state' : m.mStatePtr with
    | released => exact absurd state' state
    | pending | releasing => simp [pendingOnRsrcEvent, releasingOnRsrcEvent, clear, handedOver]
    | acquired =>
        simp only [acquiredOnRsrcEvent, AgpsStateMachine.addSubscriber_out]
        exact (notifyRsrcStatus_silent
          (handedOver_silent (by simp [Notification.unicast])) m s).trans
          (by rw [clear]; rfl)

/-- In the released state an event other than a subscription changes neither
the state nor the list. -/
theorem onStateEvent_idle (answer : StartAnswer) {m : AgpsStateMachine} {event : RsrcEvent}
    (released : m.mStatePtr = .released) (other : ∀ s, event ≠ .subscribe s) :
    (m.onStateEvent (sendRsrcRequest answer) event).mStatePtr = .released ∧
    (m.onStateEvent (sendRsrcRequest answer) event).mSubscribers = m.mSubscribers := by
  simp only [onStateEvent, released]
  cases event with
  | subscribe s => exact absurd rfl (other s)
  | unsubscribe position =>
      simp only [releasedOnRsrcEvent]
      split <;> simp
  | granted | released | denied => exact ⟨rfl, rfl⟩

/-- Events other than subscriptions keep the machine orderly, and do not make
it released with a list. -/
theorem Orderly.onStateEvent {m : AgpsStateMachine} (orderly : Orderly m) (answer : StartAnswer)
    {event : RsrcEvent} (other : ∀ s, event ≠ .subscribe s) :
    Orderly (m.onStateEvent (sendRsrcRequest answer) event) ∧
    ((m.onStateEvent (sendRsrcRequest answer) event).mStatePtr = .released →
      (m.onStateEvent (sendRsrcRequest answer) event).mSubscribers ≠ [] →
      m.mStatePtr = .released ∧ m.mSubscribers ≠ []) := by
  have frames := sendRsrcRequest_frames answer
  have single := onStateEvent_mEnforceSingleSubscriber frames event m
  rw [orderly.single] at single
  have distinct := orderly.distinct.onStateEvent frames event
  by_cases state : m.mStatePtr = .released
  · obtain ⟨still, list⟩ := onStateEvent_idle answer state other
    refine ⟨⟨single, distinct, fun held => absurd still held, fun _ => ?_⟩, fun _ listed => ?_⟩
    · rw [list]
      exact orderly.idle state
    · rw [list] at listed
      exact ⟨state, listed⟩
  · have coherent := onStateEvent_coherent_of_held frames event state (orderly.held state)
    refine ⟨⟨single, distinct, fun _ => coherent, fun released => ?_⟩, fun released listed => ?_⟩
    · rw [coherent.released.mp released]
      simp
    · exact absurd (coherent.released.mp released) listed

end DSStateMachine

open DSStateMachine

/-- Every start that is made leaves a data call or a retry timer behind when it
comes from the released state, and does not fall back when it comes from the
releasing one. -/
def Emergency.startsKept (σ : Emergency) : Emergency.Label → Prop
  | .call (.subscribeRsrc _) answer | .suplEs _ answer =>
      σ.machine.mStatePtr = .released → startTaken answer σ.machine
  | .call (.onRsrcEvent event) answer =>
      σ.machine.mStatePtr = .releasing → event ≠ .granted →
      σ.machine.hasActiveSubscribers = true →
      ¬ fallsBack answer (retriesAtRestart σ.machine event)
  | _ => True

instance (σ : Emergency) (label : Emergency.Label) : Decidable (σ.startsKept label) :=
  match label with
  | .call (.subscribeRsrc _) _ | .suplEs .. => inferInstanceAs (Decidable (_ → _))
  | .call (.onRsrcEvent _) _ => inferInstanceAs (Decidable (_ → _))
  | .call (.unsubscribeRsrc _) _ | .call (.setAPN _) _ | .call (.setBearer _) _
  | .timerExpiry => inferInstanceAs (Decidable True)

/-- The emergency data service between two events. -/
structure Emergency.Orderly (σ : Emergency) : Prop where
  machine : DSStateMachine.Orderly σ.machine
  handedOff : HandedOff σ.machine
  retried : σ.machine.mStatePtr = .released → σ.machine.mSubscribers ≠ [] →
    0 < σ.timers ∨ σ.suplEs ≠ []

theorem DSStateMachine.Orderly.clear {m : AgpsStateMachine} (orderly : DSStateMachine.Orderly m) :
    DSStateMachine.Orderly m.cleared :=
  ⟨orderly.single, orderly.distinct, orderly.held, orderly.idle⟩

theorem Emergency.Orderly.subscribe {σ : Emergency} (machine : DSStateMachine.Orderly σ.machine)
    {answer : StartAnswer} (s : Subscriber)
    (taken : σ.machine.mStatePtr = .released → startTaken answer σ.machine) :
    (σ.settle (DSStateMachine.perform answer σ.machine (.subscribeRsrc s))).Orderly := by
  obtain ⟨orderly, quiet, timer⟩ := machine.clear.subscribeRsrc rfl s taken
  refine ⟨orderly, handedOff_of_nil quiet, fun released _ => .inl ?_⟩
  exact Nat.lt_of_lt_of_le (timer released) (Nat.le_add_left _ _)

theorem Emergency.Orderly.call {σ : Emergency} (orderly : σ.Orderly) {operation : Operation}
    {answer : StartAnswer} (kept : σ.startsKept (.call operation answer)) :
    (σ.settle (DSStateMachine.perform answer σ.machine operation)).Orderly := by
  -- outside subscriptions the retry in progress is the one there was
  have retried : ∀ {after : AgpsStateMachine},
      (after.mStatePtr = .released → after.mSubscribers ≠ [] →
        σ.machine.mStatePtr = .released ∧ σ.machine.mSubscribers ≠ []) →
      after.mStatePtr = .released → after.mSubscribers ≠ [] →
      0 < (σ.settle after).timers ∨ (σ.settle after).suplEs ≠ [] := by
    intro after before released listed
    obtain ⟨idle, waiting⟩ := before released listed
    exact (orderly.retried idle waiting).imp_left (fun timer => Nat.add_pos_left timer _)
  cases operation with
  | subscribeRsrc s => exact Emergency.Orderly.subscribe orderly.machine s kept
  | unsubscribeRsrc s =>
      simp only [DSStateMachine.perform]
      rcases σ.machine.cleared.unsubscribeRsrc_cases
          (sendRsrcRequest answer) s with ⟨position, -, -, -, -, found⟩ | ⟨-, absent⟩
      · rw [found]
        have other : ∀ s, RsrcEvent.unsubscribe position ≠ .subscribe s := by simp
        obtain ⟨machine, before⟩ := orderly.machine.clear.onStateEvent answer other
        exact ⟨machine, handedOff_of_nil (unsubscribe_handedOver answer position _),
          retried before⟩
      · rw [absent]
        exact ⟨orderly.machine.clear, handedOff_of_nil rfl,
          retried (fun released listed => ⟨released, listed⟩)⟩
  | onRsrcEvent event =>
      have clear := orderly.machine.clear
      have off := onRsrcEvent_handedOff answer event rfl clear.distinct kept
      have other : ∀ s, effective σ.machine.mStatePtr event ≠ .subscribe s := by
        intro s
        cases event <;> cases σ.machine.mStatePtr <;> simp [effective, ServicerEvent.toRsrcEvent]
      simp only [DSStateMachine.perform]
      rw [onRsrcEvent_eq] at off ⊢
      obtain ⟨machine, before⟩ := clear.onStateEvent answer other
      exact ⟨machine, off, retried before⟩
  | setAPN _ | setBearer _ =>
      exact ⟨⟨orderly.machine.single, orderly.machine.distinct, orderly.machine.held,
        orderly.machine.idle⟩, handedOff_of_nil rfl,
        retried (fun released listed => ⟨released, listed⟩)⟩

/-- The timer of a released machine finds an active subscriber to retry for. -/
theorem Emergency.Orderly.timerExpiry {σ after : Emergency} (orderly : σ.Orderly)
    (taken : σ.timerExpiry = some after) : after.Orderly := by
  unfold Emergency.timerExpiry at taken
  split at taken
  · cases taken
  · obtain rfl := Option.some.inj taken
    refine ⟨orderly.machine, orderly.handedOff, fun released listed => .inr ?_⟩
    obtain ⟨s, member⟩ := List.exists_mem_of_ne_nil _ listed
    have active : (σ.machine.mSubscribers.find? (·.forMe (.searchGroup .active))).isSome := by
      rw [List.find?_isSome]
      exact ⟨s, member, by simp [orderly.machine.idle released s member]⟩
    obtain ⟨first, found⟩ := Option.isSome_iff_exists.mp active
    have posted : retryCallback σ.machine = some first.ID := by
      rw [retryCallback, found]
      rfl
    simp [posted]

theorem emergency_orderly {σ : Emergency}
    (run : emergency.ReachableUnder Emergency.startsKept σ) : σ.Orderly := by
  refine run.invariant Emergency.Orderly ?_ ?_
  · rintro σ rfl
    refine ⟨⟨rfl, distinct_nil, fun held => absurd rfl held, fun _ s member => by cases member⟩,
      handedOff_of_nil rfl, fun _ listed => absurd rfl listed⟩
  · intro before label after _ orderly kept taken
    cases label with
    | call operation answer =>
        obtain rfl := Option.some.inj taken
        exact orderly.call kept
    | timerExpiry => exact orderly.timerExpiry taken
    | suplEs beyond answer =>
        simp only [emergency, Emergency.handleSuplEs] at taken
        split at taken
        · cases taken
        · rename_i mID rest queue
          obtain rfl := Option.some.inj taken
          have machine : DSStateMachine.Orderly
              ({ before with suplEs := rest } : Emergency).machine := orderly.machine
          exact Emergency.Orderly.subscribe machine _ kept

/-- In every run whose starts are kept, no connection that an event hands over
to the default path is listed after it, and a released machine whose start is
not being retried has nobody listed. -/
theorem emergency_no_zombie {σ : Emergency}
    (run : emergency.ReachableUnder Emergency.startsKept σ) :
    (∀ handle ∈ handedOver σ.machine.out, ∀ e ∈ σ.machine.mSubscribers,
      e.kind ≠ .bit → e.ID ≠ handle) ∧
    (σ.machine.mStatePtr = .released → σ.timers = 0 → σ.suplEs = [] →
      σ.machine.mSubscribers = []) := by
  have orderly := emergency_orderly run
  refine ⟨orderly.handedOff, ?_⟩
  intro released noTimer noRetry
  by_contra listed
  rcases orderly.retried released listed with timer | retry
  · omega
  · exact retry noRetry

/-- A data call that is started and then denied by the modem. -/
theorem emergency_no_zombie_denied :
    let ds := Subscriber.ds 7 false (Vector.replicate 16 0)
    let taken : StartAnswer := ⟨LOC_API_ADAPTER_ERR_SUCCESS, true⟩
    ∃ σ, emergency.execUnder Emergency.startsKept ⟨DSStateMachine.new, 0, [], none⟩
        [.call (.subscribeRsrc ds) taken, .call (.onRsrcEvent .denied) taken] = some σ ∧
      handedOver σ.machine.out = [7] ∧ σ.machine.mSubscribers = [] := by
  intro ds taken
  refine ⟨_, rfl, rfl, ?_⟩
  have run : emergency.ReachableUnder Emergency.startsKept _ :=
    System.ReachableUnder.exec (.start rfl)
      [.call (.subscribeRsrc ds) taken, .call (.onRsrcEvent .denied) taken] rfl
  exact (emergency_no_zombie run).2 rfl rfl rfl

/-- A modem without an emergency profile: the handle is handed over and stays
listed in a released machine that nothing will move. -/
theorem emergency_zombie :
    (¬ ∀ σ, emergency.Reachable σ →
      ∀ handle ∈ handedOver σ.machine.out, ∀ e ∈ σ.machine.mSubscribers,
        e.kind ≠ .bit → e.ID ≠ handle) ∧
    (¬ ∀ σ, emergency.Reachable σ →
      σ.machine.mStatePtr = .released → σ.timers = 0 → σ.suplEs = [] →
      σ.machine.mSubscribers = []) := by
  let ds := Subscriber.ds 7 false (Vector.replicate 16 0)
  have start : emergency.initial ⟨DSStateMachine.new, 0, [], none⟩ := rfl
  obtain ⟨σ, run, seen⟩ := System.reachable_of_exec start
    [.call (.subscribeRsrc ds) ⟨LOC_API_ADAPTER_ERR_UNSUPPORTED, true⟩]
    (fun σ => handedOver σ.machine.out == [7] && σ.machine.mSubscribers == [ds] &&
      σ.machine.mStatePtr == .released && σ.timers == 0 && σ.suplEs == []) (by decide)
  simp only [Bool.and_eq_true, beq_iff_eq] at seen
  obtain ⟨⟨⟨⟨handed, listed⟩, released⟩, noTimer⟩, noRetry⟩ := seen
  refine ⟨fun off => ?_, fun empty => ?_⟩
  · exact off σ run 7 (by simp [handed]) ds (by simp [listed]) (by decide) rfl
  · rw [empty σ run released noTimer noRetry] at listed
    cases listed

end A5Common.Agps
