import A5Common.Agps.Fallback
import A5Common.Agps.Subscription

set_option autoImplicit false

namespace A5Common.Agps

open A5Common.Run

/-- What came of the starts among some actions: the handle given to requestATL by a
start that fell back at once, nothing for the others. -/
def outcomes : List Action → List (Option (BitVec 32))
  | .dataCall .requestAgpsDataConn _ :: .requestATL connHandle _ :: rest =>
      some connHandle :: outcomes rest
  | .dataCall .requestAgpsDataConn _ :: rest => none :: outcomes rest
  | _ :: rest => outcomes rest
  | [] => []

/-- The data call is not started, but it may be stopped. -/
def Quiet (actions : List Action) : Prop :=
  ∀ call ∈ dataCalls actions, call.1 = .releaseAgpsDataConn

theorem quiet_nil : Quiet [] := by
  intro call member
  exact absurd member List.not_mem_nil

theorem outcomes_append {front : List Action} (quiet : Quiet front) (rest : List Action) :
    outcomes (front ++ rest) = outcomes rest := by
  induction front with
  | nil => rfl
  | cons action front ih =>
      have tail : Quiet front := by
        intro call member
        refine quiet call ?_
        unfold dataCalls at member ⊢
        rw [List.filterMap_cons]
        split
        · exact member
        · exact List.mem_cons_of_mem _ member
      rw [List.cons_append, ← ih tail]
      cases action with
      | dataCall action ret =>
          cases action with
          | requestAgpsDataConn =>
              have stopped := quiet (.requestAgpsDataConn, ret) List.mem_cons_self
              cases stopped
          | releaseAgpsDataConn => rfl
      | _ => rfl

theorem outcomes_quiet {actions : List Action} (quiet : Quiet actions) : outcomes actions = [] := by
  have alone := outcomes_append quiet []
  rwa [List.append_nil] at alone

theorem timersStarted_append (front rest : List Action) :
    timersStarted (front ++ rest) = timersStarted front + timersStarted rest := by
  simp only [timersStarted, List.filterMap_append, List.length_append]

namespace DSStateMachine

open AgpsStateMachine

/-- One more ENGINE_BUSY is one too many. -/
def spent (mRetries : BitVec 8) : Bool := MAX_START_DATA_CALL_RETRIES < mRetries + 1#8

/-- The counter after one more ENGINE_BUSY. -/
def counted (mRetries : BitVec 8) : BitVec 8 := if spent mRetries then 0 else mRetries + 1#8

/-- What has come of a start that was answered with ENGINE_BUSY: the last one falls
back on the handle of the first active subscriber, the others start a retry timer. -/
structure BusyStart (answer : StartAnswer) (mRetries : BitVec 8) (after : AgpsStateMachine) :
    Prop where
  counter : after.mRetries = counted mRetries
  outcome : outcomes after.out = [if spent mRetries then some (connHandle after) else none]
  timer : spent mRetries = false → answer.timerHandle = true → 0 < timersStarted after.out

theorem start_busy {answer : StartAnswer} {m : AgpsStateMachine}
    (busy : answer.openAndStartDataCall = LOC_API_ADAPTER_ERR_ENGINE_BUSY) (quiet : Quiet m.out) :
    BusyStart answer m.mRetries (sendRsrcRequest answer .requestAgpsDataConn m).1 ∧
      (sendRsrcRequest answer .requestAgpsDataConn m).2 ≠ 0 := by
  have sent : sendRsrcRequest answer .requestAgpsDataConn m =
      engineBusy answer (m.emit (.dataCall .requestAgpsDataConn 6)) := by
    simp only [sendRsrcRequest, dataCallCb, busy, if_true]
    rfl
  rw [sent]
  unfold engineBusy incRetries
  cases exhausted : spent m.mRetries with
  | true =>
      have fits : MAX_START_DATA_CALL_RETRIES <
          (m.emit (.dataCall .requestAgpsDataConn 6)).mRetries + 1#8 := of_decide_eq_true exhausted
      simp only [fits, if_true]
      refine ⟨⟨by simp [counted, exhausted, informStatus, emit], ?_, by simp [exhausted]⟩, ?_⟩
      · simp only [informStatus, emit, List.append_assoc]
        rw [outcomes_append quiet, exhausted]
        rfl
      · decide
  | false =>
      have fits : ¬ MAX_START_DATA_CALL_RETRIES <
          (m.emit (.dataCall .requestAgpsDataConn 6)).mRetries + 1#8 := of_decide_eq_false exhausted
      simp only [fits, if_false]
      refine ⟨⟨by simp [counted, exhausted, emit], ?_, ?_⟩, ?_⟩
      · simp only [emit, List.append_assoc]
        rw [outcomes_append quiet, exhausted]
        rfl
      · intro _ handle
        rw [emit, timersStarted_append, handle]
        exact Nat.lt_add_left _ Nat.one_pos
      · cases answer.timerHandle <;> decide

/-- The data call is left alone, and so is the counter. -/
structure NoStart (before after : AgpsStateMachine) : Prop where
  counter : after.mRetries = before.mRetries
  quiet : Quiet after.out

theorem quiet_of_silent {before after : AgpsStateMachine} (quiet : Quiet before.out)
    (same : after.out.filterMap Action.dataCall? = before.out.filterMap Action.dataCall?) :
    Quiet after.out := by
  unfold Quiet dataCalls
  rwa [same]

theorem addSubscriber_mRetries (m : AgpsStateMachine) (s : Subscriber) :
    (m.addSubscriber s).mRetries = m.mRetries := by
  rcases m.addSubscriber_cases s with ⟨-, added⟩ | ⟨-, kept⟩
  · rw [added]
  · rw [kept]

theorem notifyRsrcStatus_mRetries (m : AgpsStateMachine) (s : Subscriber)
    {notification : Notification} (other : notification.rsrcStatus ≠ .denied) :
    (m.notifyRsrcStatus s notification).2.mRetries = m.mRetries := by
  unfold notifyRsrcStatus
  split
  · rw [inform_mRetries, if_neg (fun denied => other denied.1)]
  · rfl

/-- Only a denial clears the counter, and only if somebody is told of it. -/
theorem notifySubscribers_mRetries (m : AgpsStateMachine) {notification : Notification}
    (known : notification.rsrcStatus.known = true) :
    ((m.notifySubscribers notification).mRetries = 0 ∧ notification.rsrcStatus = .denied) ∨
      (m.notifySubscribers notification).mRetries = m.mRetries := by
  rw [m.notifySubscribers_eq notification known]
  simp only [informAll_mRetries]
  split
  · rename_i denied
    exact .inl ⟨rfl, denied.1⟩
  · exact .inr rfl

theorem unsubscribeEntry_mRetries (m : AgpsStateMachine) (position : Nat) :
    (unsubscribeEntry position m).mRetries = m.mRetries := by
  cases listed : m.mSubscribers[position]? with
  | none => simp only [unsubscribeEntry, listed]
  | some s =>
      rcases unsubscribeEntry_cases listed with ⟨-, marked⟩ | ⟨-, removed⟩
      · rw [marked]
        unfold setInactive
        dsimp only
        split <;> rfl
      · rw [removed]
        rcases notifySubscribers_mRetries m
            (show (Notification.unicast s .unsubscribe true).rsrcStatus.known = true from rfl)
          with ⟨-, denied⟩ | kept
        · cases denied
        · exact kept

theorem unsubscribeEntry_quiet {m : AgpsStateMachine} (quiet : Quiet m.out) (position : Nat) :
    Quiet (unsubscribeEntry position m).out :=
  quiet_of_silent quiet (unsubscribeEntry_silent (dataCall_silent _) position m)

/-- In the released state every subscription is a start. -/
theorem released_subscribe {answer : StartAnswer} {m : AgpsStateMachine}
    (busy : answer.openAndStartDataCall = LOC_API_ADAPTER_ERR_ENGINE_BUSY) (quiet : Quiet m.out)
    (released : m.mStatePtr = .released) (s : Subscriber) :
    (m.onStateEvent (sendRsrcRequest answer) (.subscribe s)).mStatePtr = .released ∧
      BusyStart answer m.mRetries (m.onStateEvent (sendRsrcRequest answer) (.subscribe s)) := by
  have added : Quiet (m.addSubscriber s).out := by rwa [m.addSubscriber_out s]
  obtain ⟨⟨counter, outcome, timer⟩, failed⟩ := start_busy busy added
  rw [addSubscriber_mRetries] at counter outcome timer
  unfold onStateEvent
  rw [released]
  simp only [releasedOnRsrcEvent, failed, if_false]
  exact ⟨trivial, counter, outcome, timer⟩

/-- In the released state nothing else is. -/
theorem released_other {answer : StartAnswer} {m : AgpsStateMachine} (quiet : Quiet m.out)
    (released : m.mStatePtr = .released) {event : RsrcEvent}
    (other : ∀ s, event ≠ .subscribe s) :
    (m.onStateEvent (sendRsrcRequest answer) event).mStatePtr = .released ∧
      NoStart m (m.onStateEvent (sendRsrcRequest answer) event) := by
  refine ⟨(onStateEvent_idle answer released other).1, ?_⟩
  unfold onStateEvent
  rw [released]
  cases event with
  | subscribe s => exact absurd rfl (other s)
  | unsubscribe position =>
      simp only [releasedOnRsrcEvent]
      split
      · rename_i s _
        exact ⟨notifyRsrcStatus_mRetries m s (by simp [Notification.unicast]),
          quiet_of_silent quiet (notifyRsrcStatus_silent (dataCall_silent _) m s)⟩
      · exact ⟨rfl, quiet⟩
  | granted | released | denied => exact ⟨rfl, quiet⟩

theorem hasSubscribers_of_active {m : AgpsStateMachine} (active : m.hasActiveSubscribers = true) :
    m.hasSubscribers = true := by
  obtain ⟨s, member, -⟩ := hasActiveSubscribers_eq_true.mp active
  exact hasSubscribers_eq_true.mpr (List.ne_nil_of_mem member)

/-- While the machine waits for an answer or has its data call, and somebody is left
to be served, nothing is started. -/
theorem served_quiet {answer : StartAnswer} {m : AgpsStateMachine} (quiet : Quiet m.out)
    (held : m.mStatePtr = .pending ∨ m.mStatePtr = .acquired) {event : RsrcEvent}
    (active : (m.onStateEvent (sendRsrcRequest answer) event).hasActiveSubscribers = true) :
    ((m.onStateEvent (sendRsrcRequest answer) event).mStatePtr = .pending ∨
      (m.onStateEvent (sendRsrcRequest answer) event).mStatePtr = .acquired) ∧
    Quiet (m.onStateEvent (sendRsrcRequest answer) event).out := by
  have frames := sendRsrcRequest_frames answer
  have stays : ∀ {stay : AgpsState} {position : Nat},
      (releaseIfUnused (sendRsrcRequest answer) stay
        (unsubscribeEntry position m)).1.hasActiveSubscribers = true →
      releaseIfUnused (sendRsrcRequest answer) stay (unsubscribeEntry position m) =
        (unsubscribeEntry position m, stay) := by
    intro stay position active
    rw [hasActiveSubscribers_eq, releaseIfUnused_mSubscribers frames,
      ← hasActiveSubscribers_eq] at active
    simp [releaseIfUnused, hasSubscribers_of_active active, active]
  unfold onStateEvent at active ⊢
  rcases held with held | held
  · rw [held] at active ⊢
    cases event with
    | subscribe s =>
        rw [← m.addSubscriber_out s] at quiet
        exact ⟨.inl rfl, quiet⟩
    | unsubscribe position =>
        have same := stays active
        simp only [pendingOnRsrcEvent, same]
        exact ⟨.inl trivial, unsubscribeEntry_quiet quiet position⟩
    | granted =>
        exact ⟨.inr rfl,
          quiet_of_silent quiet (notifySubscribers_silent (dataCall_silent _) rfl m)⟩
    | released => exact ⟨.inl rfl, quiet⟩
    | denied =>
        rw [hasActiveSubscribers_eq] at active
        simp [pendingOnRsrcEvent, m.notifySubscribers_all .denied rfl] at active
  · rw [held] at active ⊢
    cases event with
    | subscribe s =>
        refine ⟨.inr rfl, ?_⟩
        simp only [acquiredOnRsrcEvent, addSubscriber_out]
        exact quiet_of_silent quiet (notifyRsrcStatus_silent (dataCall_silent _) m s)
    | unsubscribe position =>
        have same := stays active
        simp only [acquiredOnRsrcEvent, same]
        exact ⟨.inr trivial, unsubscribeEntry_quiet quiet position⟩
    | granted | denied => exact ⟨.inr rfl, quiet⟩
    | released =>
        rw [hasActiveSubscribers_eq] at active
        simp [acquiredOnRsrcEvent, m.notifySubscribers_all .released rfl] at active

/-- The end of a release makes a start, if somebody is left to be served. What comes of
it does not keep the machine from waiting for a data call. -/
theorem releasing_busy {answer : StartAnswer} {m : AgpsStateMachine}
    (busy : answer.openAndStartDataCall = LOC_API_ADAPTER_ERR_ENGINE_BUSY) (quiet : Quiet m.out)
    (releasing : m.mStatePtr = .releasing)
    (active : (m.onStateEvent (sendRsrcRequest answer) .released).hasActiveSubscribers = true) :
    (m.onStateEvent (sendRsrcRequest answer) .released).mStatePtr = .pending ∧
      BusyStart answer m.mRetries (m.onStateEvent (sendRsrcRequest answer) .released) := by
  have told : Quiet (m.notifySubscribers (.broadcast .inactive .released true)).out :=
    quiet_of_silent quiet (notifySubscribers_silent (dataCall_silent _) rfl m)
  have kept : (m.notifySubscribers (.broadcast .inactive .released true)).mRetries =
      m.mRetries := by
    rcases notifySubscribers_mRetries m
        (show (Notification.broadcast .inactive .released true).rsrcStatus.known = true from rfl)
      with ⟨-, denied⟩ | kept
    · cases denied
    · exact kept
  have wanted : (m.notifySubscribers (.broadcast .inactive .released true)).hasActiveSubscribers =
      true := by
    unfold onStateEvent at active
    rw [releasing, hasActiveSubscribers_eq] at active
    simp only [releasingOnRsrcEvent] at active
    rw [@releasingFinish_mSubscribers answer .released rfl] at active
    rwa [hasActiveSubscribers_eq, m.notifySubscribers_inactive .released rfl]
  have start := (start_busy busy told).1
  rw [kept] at start
  unfold onStateEvent
  rw [releasing]
  simp only [releasingOnRsrcEvent, releasingFinish, wanted, if_true]
  exact ⟨trivial, start.counter, start.outcome, start.timer⟩

/-- The counter stays in its budget, far from where it would wrap. -/
def WithinBudget (m : AgpsStateMachine) : Prop := m.mRetries ≤ MAX_START_DATA_CALL_RETRIES

theorem WithinBudget.cleared_or_kept {before after : AgpsStateMachine}
    (within : WithinBudget before)
    (moved : after.mRetries = 0 ∨ after.mRetries = before.mRetries) : WithinBudget after := by
  unfold WithinBudget at within ⊢
  rcases moved with moved | moved <;> rw [moved]
  · decide
  · exact within

theorem WithinBudget.send {m : AgpsStateMachine} (within : WithinBudget m) (answer : StartAnswer)
    (action : AGpsStatusValue) : WithinBudget (sendRsrcRequest answer action m).1 := by
  cases action with
  | releaseAgpsDataConn => exact within
  | requestAgpsDataConn =>
      unfold sendRsrcRequest
      dsimp only
      split
      · unfold engineBusy incRetries
        dsimp only
        split
        · exact within.cleared_or_kept (.inl rfl)
        · rename_i fits
          exact BitVec.not_lt.mp fits
      · split
        · exact within.cleared_or_kept (.inl rfl)
        · exact within

theorem WithinBudget.notifySubscribers {m : AgpsStateMachine} (within : WithinBudget m)
    {notification : Notification} (known : notification.rsrcStatus.known = true) :
    WithinBudget (m.notifySubscribers notification) := by
  rcases notifySubscribers_mRetries m known with ⟨cleared, -⟩ | kept
  · exact within.cleared_or_kept (.inl cleared)
  · exact within.cleared_or_kept (.inr kept)

theorem WithinBudget.releaseIfUnused {m : AgpsStateMachine} (within : WithinBudget m)
    (answer : StartAnswer) (stay : AgpsState) :
    WithinBudget (releaseIfUnused (sendRsrcRequest answer) stay m).1 := by
  unfold Agps.releaseIfUnused
  split
  · exact within.send answer _
  · split
    · exact within.send answer _
    · exact within

theorem WithinBudget.releasingFinish {m : AgpsStateMachine} (within : WithinBudget m)
    (answer : StartAnswer) {status : AgpsRsrcStatus} (known : status.known = true) :
    WithinBudget (releasingFinish (sendRsrcRequest answer) status m).1 := by
  have told := within.notifySubscribers
    (show (Notification.broadcast .inactive status true).rsrcStatus.known = true from known)
  unfold Agps.releasingFinish
  dsimp only
  split
  · exact told.send answer _
  · exact told

theorem WithinBudget.unsubscribeEntry {m : AgpsStateMachine} (within : WithinBudget m)
    (position : Nat) : WithinBudget (unsubscribeEntry position m) :=
  within.cleared_or_kept (.inr (unsubscribeEntry_mRetries m position))

theorem WithinBudget.addSubscriber {m : AgpsStateMachine} (within : WithinBudget m)
    (s : Subscriber) : WithinBudget (m.addSubscriber s) :=
  within.cleared_or_kept (.inr (addSubscriber_mRetries m s))

theorem WithinBudget.onStateEvent {m : AgpsStateMachine} (within : WithinBudget m)
    (answer : StartAnswer) (event : RsrcEvent) :
    WithinBudget (m.onStateEvent (sendRsrcRequest answer) event) := by
  unfold AgpsStateMachine.onStateEvent
  cases m.mStatePtr with
  | released =>
      cases event with
      | subscribe s =>
          have sent := (within.addSubscriber s).send answer .requestAgpsDataConn
          simp only [releasedOnRsrcEvent]
          split <;> exact sent
      | unsubscribe position =>
          simp only [releasedOnRsrcEvent]
          split
          · rename_i s _
            exact within.cleared_or_kept
              (.inr (notifyRsrcStatus_mRetries m s (by simp [Notification.unicast])))
          · exact within
      | granted | released | denied => exact within
  | pending =>
      cases event with
      | subscribe s => exact within.addSubscriber s
      | unsubscribe position => exact (within.unsubscribeEntry position).releaseIfUnused answer _
      | granted | denied => exact within.notifySubscribers rfl
      | released => exact within
  | acquired =>
      cases event with
      | subscribe s =>
          have told : WithinBudget
              (m.notifyRsrcStatus s (.unicast s .granted false)).2 :=
            within.cleared_or_kept
              (.inr (notifyRsrcStatus_mRetries m s (by simp [Notification.unicast])))
          exact told.addSubscriber s
      | unsubscribe position => exact (within.unsubscribeEntry position).releaseIfUnused answer _
      | granted | denied => exact within
      | released => exact within.notifySubscribers rfl
  | releasing =>
      cases event with
      | subscribe s => exact within.addSubscriber s
      | unsubscribe position =>
          simp only [releasingOnRsrcEvent]
          split <;> exact within.unsubscribeEntry position
      | granted => exact within
      | released | denied => exact within.releasingFinish answer rfl

theorem effective_ne_subscribe (state : AgpsState) (event : ServicerEvent) (s : Subscriber) :
    effective state event ≠ .subscribe s := by
  cases event <;> cases state <;> simp [effective, ServicerEvent.toRsrcEvent]

theorem perform_subscribe (answer : StartAnswer) {m : AgpsStateMachine}
    (single : m.mEnforceSingleSubscriber = false) (s : Subscriber) :
    perform answer m (.subscribeRsrc s) =
      m.cleared.onStateEvent (sendRsrcRequest answer) (.subscribe s) := by
  simp [perform, AgpsStateMachine.subscribeRsrc, single]

/-- A call is an event of the state, a subscription if the call is one, or leaves all but
the parameters alone. -/
theorem perform_cases (answer : StartAnswer) {m : AgpsStateMachine}
    (single : m.mEnforceSingleSubscriber = false) (operation : Operation) :
    (∃ event, perform answer m operation = m.cleared.onStateEvent (sendRsrcRequest answer) event ∧
      ∀ s, event = .subscribe s → operation = .subscribeRsrc s) ∨
    ((perform answer m operation).mStatePtr = m.mStatePtr ∧
      (perform answer m operation).mEnforceSingleSubscriber = false ∧
      (perform answer m operation).mSubscribers = m.mSubscribers ∧
      NoStart m.cleared (perform answer m operation)) := by
  cases operation with
  | subscribeRsrc s =>
      refine .inl ⟨.subscribe s, perform_subscribe answer single s, ?_⟩
      intro other same
      rw [RsrcEvent.subscribe.inj same]
  | unsubscribeRsrc s =>
      simp only [perform]
      rcases m.cleared.unsubscribeRsrc_cases (sendRsrcRequest answer) s with
        ⟨position, -, -, -, -, found⟩ | ⟨-, absent⟩
      · rw [found]
        refine .inl ⟨.unsubscribe position, rfl, ?_⟩
        intro other same
        cases same
      · rw [absent]
        exact .inr ⟨rfl, single, rfl, rfl, quiet_nil⟩
  | onRsrcEvent event =>
      simp only [perform, onRsrcEvent_eq]
      refine .inl ⟨_, rfl, ?_⟩
      intro other same
      exact absurd same (effective_ne_subscribe _ _ other)
  | setAPN _ | setBearer _ => exact .inr ⟨rfl, single, rfl, rfl, quiet_nil⟩

theorem perform_single (answer : StartAnswer) {m : AgpsStateMachine}
    (single : m.mEnforceSingleSubscriber = false) (operation : Operation) :
    (perform answer m operation).mEnforceSingleSubscriber = false := by
  rcases perform_cases answer single operation with ⟨event, handled, -⟩ | ⟨-, kept, -⟩
  · rw [handled, onStateEvent_mEnforceSingleSubscriber (sendRsrcRequest_frames answer)]
    exact single
  · exact kept

@[simp] theorem clone_ID (s : Subscriber) : s.clone.ID = s.ID := by
  cases s <;> rfl

theorem connHandle_eq {m : AgpsStateMachine} {handle : BitVec 32}
    (first : retryCallback m = some handle) : connHandle m = handle := by
  obtain ⟨s, found, rfl⟩ := Option.map_eq_some_iff.mp first
  simp only [connHandle, found]

theorem retryCallback_congr {first second : AgpsStateMachine}
    (same : first.mSubscribers = second.mSubscribers) :
    retryCallback first = retryCallback second := by
  rw [retryCallback, retryCallback, same]

/-- A new subscriber becomes the first active one. -/
theorem retryCallback_added (m : AgpsStateMachine) (s : Subscriber) :
    (∀ e ∈ m.mSubscribers, e.equals s = false) ∧
      retryCallback (m.addSubscriber s) = some s.ID ∨
    (∃ e ∈ m.mSubscribers, e.equals s = true) ∧
      retryCallback (m.addSubscriber s) = retryCallback m := by
  rcases m.addSubscriber_cases s with ⟨absent, added⟩ | ⟨listed, kept⟩
  · refine .inl ⟨absent, ?_⟩
    rw [added]
    simp [retryCallback]
  · exact .inr ⟨listed, by rw [kept]⟩

/-- In the released state a subscription is a start, and no other call is one. -/
theorem released_call {answer : StartAnswer} {m : AgpsStateMachine}
    (busy : answer.openAndStartDataCall = LOC_API_ADAPTER_ERR_ENGINE_BUSY)
    (single : m.mEnforceSingleSubscriber = false) (released : m.mStatePtr = .released)
    (operation : Operation) :
    (perform answer m operation).mStatePtr = .released ∧
    ((∃ s, operation = .subscribeRsrc s ∧
        BusyStart answer m.mRetries (perform answer m operation) ∧
        retryCallback (perform answer m operation) = retryCallback (m.addSubscriber s)) ∨
      (∀ s, operation ≠ .subscribeRsrc s) ∧ NoStart m (perform answer m operation) ∧
        retryCallback (perform answer m operation) = retryCallback m) := by
  have state : m.cleared.mStatePtr = .released := released
  by_cases subscribes : ∃ s, operation = .subscribeRsrc s
  · obtain ⟨s, rfl⟩ := subscribes
    have list := (onStateEvent_subscribe (sendRsrcRequest_frames answer)
      (show m.cleared.out = [] from rfl) s).1
    obtain ⟨still, start⟩ := released_subscribe busy (m := m.cleared) quiet_nil state s
    rw [perform_subscribe answer single]
    refine ⟨still, .inl ⟨s, rfl, start, retryCallback_congr (list.trans ?_)⟩⟩
    exact @addSubscriber_congr m.cleared m rfl s
  · have other : ∀ s, operation ≠ .subscribeRsrc s := fun s same => subscribes ⟨s, same⟩
    rcases perform_cases answer single operation with
      ⟨event, called, source⟩ | ⟨same, -, list, idle⟩
    · have away : ∀ s, event ≠ .subscribe s := fun s same => other s (source s same)
      obtain ⟨still, idle⟩ := @released_other answer m.cleared quiet_nil state event away
      rw [called]
      exact ⟨still, .inr ⟨other, ⟨idle.counter, idle.quiet⟩,
        retryCallback_congr (onStateEvent_idle answer state away).2⟩⟩
    · exact ⟨same.trans released, .inr ⟨other, ⟨idle.counter, idle.quiet⟩,
        retryCallback_congr list⟩⟩

theorem WithinBudget.perform {m : AgpsStateMachine} (within : WithinBudget m)
    (single : m.mEnforceSingleSubscriber = false) (answer : StartAnswer) (operation : Operation) :
    WithinBudget (perform answer m operation) := by
  have clear : WithinBudget m.cleared := within
  rcases perform_cases answer single operation with ⟨event, handled, -⟩ | ⟨-, -, -, kept, -⟩
  · rw [handled]
    exact clear.onStateEvent answer event
  · exact within.cleared_or_kept (.inr kept)

end DSStateMachine

open DSStateMachine

/-- A step is a call on the machine, or the expiry of a timer. -/
theorem emergency_step_cases {σ τ : Emergency} {label : Emergency.Label}
    (taken : emergency.step σ label = some τ) :
    (label = .timerExpiry ∧ τ.machine = σ.machine) ∨
    ∃ answer operation, τ.machine = perform answer σ.machine operation ∧
      (label = .call operation answer ∨ ∃ beyond, label = .suplEs beyond answer) := by
  cases label with
  | call operation answer =>
      obtain rfl := Option.some.inj taken
      exact .inr ⟨answer, operation, rfl, .inl rfl⟩
  | timerExpiry =>
      refine .inl ⟨rfl, ?_⟩
      simp only [emergency, Emergency.timerExpiry] at taken
      split at taken
      · cases taken
      · obtain rfl := Option.some.inj taken
        rfl
  | suplEs beyond answer =>
      simp only [emergency, Emergency.handleSuplEs] at taken
      split at taken
      · cases taken
      · rename_i mID rest queue
        obtain rfl := Option.some.inj taken
        exact .inr ⟨answer, .subscribeRsrc (.ds mID false beyond), rfl, .inr ⟨beyond, rfl⟩⟩

/-- What a step that has led to `after` has done. The expiry of a timer is no call on
the machine, which still has the actions of the last one. -/
def Emergency.Label.actions (after : Emergency) : Emergency.Label → List Action
  | .call .. | .suplEs .. => after.machine.out
  | .timerExpiry => []

theorem emergency_within {σ : Emergency} (run : emergency.Reachable σ) :
    σ.machine.mEnforceSingleSubscriber = false ∧ WithinBudget σ.machine := by
  refine run.invariant
    (fun σ => σ.machine.mEnforceSingleSubscriber = false ∧ WithinBudget σ.machine) ?_ ?_
  · rintro σ rfl
    exact ⟨rfl, show 0#8 ≤ MAX_START_DATA_CALL_RETRIES by decide⟩
  · intro before label after _ ⟨single, within⟩ _ taken
    rcases emergency_step_cases taken with ⟨-, same⟩ | ⟨answer, operation, called, -⟩
    · rw [same]
      exact ⟨single, within⟩
    · rw [called]
      exact ⟨perform_single answer single operation, within.perform single answer operation⟩

end A5Common.Agps
