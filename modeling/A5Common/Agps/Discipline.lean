import A5Common.Agps.Coherence
import A5Common.Run.Bracket

set_option autoImplicit false

namespace A5Common.Agps

open A5Common.Run

/-- The calls that every machine in a state acts upon by a change of state. -/
def AgpsState.heeds : AgpsState → Operation → Bool
  | .released, .subscribeRsrc _ => true
  | .pending, .onRsrcEvent .granted | .pending, .onRsrcEvent .denied => true
  | .acquired, .onRsrcEvent .released => true
  | .releasing, .onRsrcEvent .released | .releasing, .onRsrcEvent .denied => true
  | _, _ => false

/-- What a call on a coherent machine can do: the state before, the call, the
requests it sends and the state after. `active` is hasActiveSubscribers before. -/
inductive Transition (active : Bool) :
    AgpsState → Operation → List AGpsStatusValue → AgpsState → Prop
  | stay {state : AgpsState} {operation : Operation} (ignored : state.heeds operation = false) :
      Transition active state operation [] state
  | request {subscriber : Subscriber} :
      Transition active .released (.subscribeRsrc subscriber) [.requestAgpsDataConn] .pending
  | granted : Transition active .pending (.onRsrcEvent .granted) [] .acquired
  | denied : Transition active .pending (.onRsrcEvent .denied) [] .released
  | forced : Transition active .acquired (.onRsrcEvent .released) [] .released
  | release {held left : AgpsState} {subscriber : Subscriber}
      (holding : held = .pending ∨ held = .acquired)
      (leaving : left = .released ∨ left = .releasing) :
      Transition active held (.unsubscribeRsrc subscriber) [.releaseAgpsDataConn] left
  | emptied {subscriber : Subscriber} :
      Transition active .releasing (.unsubscribeRsrc subscriber) [] .released
  | finish {event : ServicerEvent} (answer : event = .released ∨ event = .denied)
      (unwanted : active = false) : Transition active .releasing (.onRsrcEvent event) [] .released
  | renew {event : ServicerEvent} (answer : event = .released ∨ event = .denied)
      (wanted : active = true) :
      Transition active .releasing (.onRsrcEvent event) [.requestAgpsDataConn] .pending

section Handlers

theorem requests_notifySubscribers (notification : Notification)
    (known : notification.rsrcStatus.known = true) (m : AgpsStateMachine) :
    requests (m.notifySubscribers notification).out = requests m.out :=
  notifySubscribers_silent (requested_silent _) known m

theorem requests_unsubscribeEntry (position : Nat) (m : AgpsStateMachine) :
    requests (unsubscribeEntry position m).out = requests m.out :=
  unsubscribeEntry_silent (requested_silent _) position m

@[simp] theorem requests_notifyRsrcStatus (m : AgpsStateMachine) (s : Subscriber)
    (notification : Notification) :
    requests (m.notifyRsrcStatus s notification).2.out = requests m.out :=
  notifyRsrcStatus_silent (requested_silent _) m s

/-- A release is asked for exactly when the state is left. -/
theorem releaseIfUnused_transition {stay : AgpsState} (held : stay = .pending ∨ stay = .acquired)
    (active : Bool) (subscriber : Subscriber) (m : AgpsStateMachine) :
    ∃ sent, requests (releaseIfUnused AgpsStateMachine.sendRsrcRequest stay m).1.out =
        requests m.out ++ sent ∧
      Transition active stay (.unsubscribeRsrc subscriber) sent
        (releaseIfUnused AgpsStateMachine.sendRsrcRequest stay m).2 := by
  unfold releaseIfUnused
  split
  · rename_i unused
    have empty := AgpsStateMachine.hasSubscribers_eq_false.mp (by simpa using unused)
    have inactive : m.hasActiveSubscribers = false := by
      simp [AgpsStateMachine.hasActiveSubscribers_eq, empty]
    refine ⟨_, AgpsStateMachine.sendRsrcRequest_requests _ m, ?_⟩
    rw [inactive]
    exact .release held (.inl rfl)
  · split
    · rename_i inactive
      have inactive : m.hasActiveSubscribers = false := by simpa using inactive
      refine ⟨_, AgpsStateMachine.sendRsrcRequest_requests _ m, ?_⟩
      rw [inactive]
      exact .release held (.inr rfl)
    · refine ⟨[], by simp, .stay ?_⟩
      rcases held with rfl | rfl <;> rfl

theorem releasingFinish_transition {event : ServicerEvent} {status : AgpsRsrcStatus}
    (answer : event = .released ∨ event = .denied) (known : status.known = true)
    (m : AgpsStateMachine) :
    ∃ sent, requests (releasingFinish AgpsStateMachine.sendRsrcRequest status m).1.out =
        requests m.out ++ sent ∧
      Transition m.hasActiveSubscribers .releasing (.onRsrcEvent event) sent
        (releasingFinish AgpsStateMachine.sendRsrcRequest status m).2 := by
  have kept : (m.notifySubscribers (.broadcast .inactive status true)).hasActiveSubscribers =
      m.hasActiveSubscribers := by
    simp only [AgpsStateMachine.hasActiveSubscribers_eq, m.notifySubscribers_inactive status known]
    simp [List.any_filter]
  unfold releasingFinish
  dsimp only
  split
  · rename_i active
    refine ⟨_, ?_, .renew answer (kept ▸ active)⟩
    rw [AgpsStateMachine.sendRsrcRequest_requests, requests_notifySubscribers _ known, active]
    rfl
  · rename_i inactive
    refine ⟨[], ?_, .finish answer (by simpa [kept] using inactive)⟩
    rw [requests_notifySubscribers _ known, List.append_nil]

end Handlers

namespace AgpsStateMachine

theorem onRsrcEvent_transition {m : AgpsStateMachine} (event : ServicerEvent) :
    ∃ sent, requests (m.onRsrcEvent event).out = requests m.out ++ sent ∧
      Transition m.hasActiveSubscribers m.mStatePtr (.onRsrcEvent event) sent
        (m.onRsrcEvent event).mStatePtr := by
  unfold onRsrcEvent onStateEvent
  cases state : m.mStatePtr with
  | released =>
      refine ⟨[], ?_, ?_⟩
      · cases event <;> simp [releasedOnRsrcEvent, ServicerEvent.toRsrcEvent]
      · cases event <;> exact .stay rfl
  | pending =>
      refine ⟨[], ?_, ?_⟩
      · cases event with
        | granted =>
            exact (requests_notifySubscribers (.broadcast .active .granted false) rfl m).trans
              (List.append_nil _).symm
        | released => simp [pendingOnRsrcEvent, ServicerEvent.toRsrcEvent]
        | denied =>
            exact (requests_notifySubscribers (.broadcast .all .denied true) rfl m).trans
              (List.append_nil _).symm
      · cases event with
        | granted => exact .granted
        | released => exact .stay rfl
        | denied => exact .denied
  | acquired =>
      refine ⟨[], ?_, ?_⟩
      · cases event with
        | granted => simp [acquiredOnRsrcEvent, ServicerEvent.toRsrcEvent]
        | released =>
            exact (requests_notifySubscribers (.broadcast .all .released true) rfl m).trans
              (List.append_nil _).symm
        | denied => simp [acquiredOnRsrcEvent, ServicerEvent.toRsrcEvent]
      · cases event with
        | granted => exact .stay rfl
        | released => exact .forced
        | denied => exact .stay rfl
  | releasing =>
      cases event with
      | granted => exact ⟨[], by simp [releasingOnRsrcEvent, ServicerEvent.toRsrcEvent], .stay rfl⟩
      | released => exact releasingFinish_transition (.inl rfl) rfl m
      | denied => exact releasingFinish_transition (.inr rfl) rfl m

theorem subscribeRsrc_transition {m : AgpsStateMachine} (coherent : m.Coherent)
    (subscriber : Subscriber) :
    ∃ sent, requests (m.subscribeRsrc sendRsrcRequest subscriber).out = requests m.out ++ sent ∧
      Transition m.hasActiveSubscribers m.mStatePtr (.subscribeRsrc subscriber) sent
        (m.subscribeRsrc sendRsrcRequest subscriber).mStatePtr := by
  unfold subscribeRsrc
  split
  · rename_i refused
    have listed : m.mStatePtr ≠ .released := by
      simp only [Bool.and_eq_true] at refused
      exact fun released => hasSubscribers_eq_true.mp refused.2 (coherent.released.mp released)
    refine ⟨[], by simp [notifySubscriber], ?_⟩
    simp only [notifySubscriber, notifyRsrcStatus_mStatePtr]
    refine .stay ?_
    cases state : m.mStatePtr with
    | released => exact absurd state listed
    | pending | acquired | releasing => rfl
  · unfold onStateEvent
    cases state : m.mStatePtr with
    | released =>
        have empty := coherent.released.mp state
        refine ⟨[.requestAgpsDataConn], ?_, ?_⟩
        · simp only [releasedOnRsrcEvent, sendRsrcRequest_result, if_true,
            sendRsrcRequest_requests, addSubscriber_of_nil empty]
          simp [hasActiveSubscribers_eq]
        · simp only [releasedOnRsrcEvent, sendRsrcRequest_result, if_true]
          exact .request
    | pending => exact ⟨[], by simp [pendingOnRsrcEvent], .stay rfl⟩
    | acquired => exact ⟨[], by simp [acquiredOnRsrcEvent], .stay rfl⟩
    | releasing => exact ⟨[], by simp [releasingOnRsrcEvent], .stay rfl⟩

theorem unsubscribeRsrc_transition {m : AgpsStateMachine} (coherent : m.Coherent)
    (subscriber : Subscriber) :
    ∃ sent, requests (m.unsubscribeRsrc sendRsrcRequest subscriber).2.out =
        requests m.out ++ sent ∧
      Transition m.hasActiveSubscribers m.mStatePtr (.unsubscribeRsrc subscriber) sent
        (m.unsubscribeRsrc sendRsrcRequest subscriber).2.mStatePtr := by
  rcases m.unsubscribeRsrc_cases sendRsrcRequest subscriber with
    ⟨position, s, listed, -, -, found⟩ | ⟨-, absent⟩
  · rw [found]
    dsimp only [onStateEvent]
    cases state : m.mStatePtr with
    | released => simp [coherent.released.mp state] at listed
    | pending =>
        obtain ⟨sent, out, moved⟩ := releaseIfUnused_transition (.inl rfl) m.hasActiveSubscribers
          subscriber (unsubscribeEntry position m)
        exact ⟨sent, by rw [← requests_unsubscribeEntry position m]; exact out, moved⟩
    | acquired =>
        obtain ⟨sent, out, moved⟩ := releaseIfUnused_transition (.inr rfl) m.hasActiveSubscribers
          subscriber (unsubscribeEntry position m)
        exact ⟨sent, by rw [← requests_unsubscribeEntry position m]; exact out, moved⟩
    | releasing =>
        refine ⟨[], ?_, ?_⟩
        · rw [← requests_unsubscribeEntry position m, List.append_nil]
          simp only [releasingOnRsrcEvent]
          split <;> rfl
        · simp only [releasingOnRsrcEvent]
          split
          · exact .emptied
          · exact .stay rfl
  · rw [absent]
    refine ⟨[], by simp, .stay ?_⟩
    cases m.mStatePtr <;> rfl

/-- The inversion of a call on a coherent machine. -/
theorem Coherent.transition {m : AgpsStateMachine} (coherent : m.Coherent)
    (operation : Operation) :
    Transition m.hasActiveSubscribers m.mStatePtr operation (requests (m.perform operation).out)
      (m.perform operation).mStatePtr := by
  have started : m.cleared.Coherent := coherent
  have settle : ∀ {after : AgpsStateMachine}, (∃ sent,
      requests after.out = requests m.cleared.out ++ sent ∧
      Transition m.hasActiveSubscribers m.mStatePtr operation sent after.mStatePtr) →
      Transition m.hasActiveSubscribers m.mStatePtr operation (requests after.out)
        after.mStatePtr := by
    rintro after ⟨sent, out, moved⟩
    rw [out]
    exact moved
  cases operation with
  | subscribeRsrc subscriber => exact settle (subscribeRsrc_transition started subscriber)
  | unsubscribeRsrc subscriber => exact settle (unsubscribeRsrc_transition started subscriber)
  | onRsrcEvent event => exact settle (onRsrcEvent_transition event)
  | setAPN apn => exact .stay (by cases state : m.mStatePtr <;> simp [AgpsState.heeds])
  | setBearer bearer => exact .stay (by cases state : m.mStatePtr <;> simp [AgpsState.heeds])

end AgpsStateMachine

/-- A history of a machine: the requests it passes to its servicer and the
events it receives, with the state they find. -/
inductive Item where
  | sent (action : AGpsStatusValue)
  | received (event : ServicerEvent) (inState : AgpsState)
  deriving DecidableEq, Repr

def framework : Bracket Item where
  opens
    | .sent .requestAgpsDataConn => true
    | _ => false
  closes
    | .sent .releaseAgpsDataConn => true
    | .received .denied .pending | .received .released .acquired => true
    | _ => false
  needs
    | .sent .releaseAgpsDataConn => true
    | _ => false

/-- Is a request outstanding at the end of a history. -/
def outstanding (history : List Item) : Bool := framework.after false history

def Operation.received (operation : Operation) (state : AgpsState) : List Item :=
  match operation with
  | .onRsrcEvent event => [.received event state]
  | _ => []

def AgpsState.holds : AgpsState → Bool
  | .pending | .acquired => true
  | .released | .releasing => false

theorem AgpsState.holds_eq_true {state : AgpsState} :
    state.holds = true ↔ state = .pending ∨ state = .acquired := by
  cases state <;> simp [holds]

/-- What a call adds to the history keeps a request outstanding exactly in the
states that hold one. -/
theorem Transition.discipline {active : Bool} {before after : AgpsState} {operation : Operation}
    {sent : List AGpsStatusValue} (moved : Transition active before operation sent after) :
    framework.legal before.holds (operation.received before ++ sent.map .sent) = true ∧
    framework.after before.holds (operation.received before ++ sent.map .sent) = after.holds := by
  cases moved with
  | stay ignored =>
      -- an event that ends a request is never ignored
      cases operation with
      | onRsrcEvent event =>
          cases before <;> cases event <;> first | exact ⟨rfl, rfl⟩ | cases ignored
      | subscribeRsrc | unsubscribeRsrc | setAPN | setBearer => exact ⟨rfl, rfl⟩
  | request | granted | denied | forced | emptied => exact ⟨rfl, rfl⟩
  | release holding leaving =>
      rcases holding with rfl | rfl <;> rcases leaving with rfl | rfl <;> exact ⟨rfl, rfl⟩
  | finish answer | renew answer => rcases answer with rfl | rfl <;> exact ⟨rfl, rfl⟩

structure Recorded where
  machine : AgpsStateMachine
  history : List Item

/-- A base machine with its history. -/
def recorder : System Recorded Operation where
  initial r := agpsMachine.initial r.machine ∧ r.history = []
  step r operation :=
    (agpsMachine.step r.machine operation).map (fun machine =>
      { machine
        history := r.history ++
          (operation.received r.machine.mStatePtr ++ (requests machine.out).map .sent) })

theorem recorder_step {before after : Recorded} {operation : Operation}
    (taken : recorder.step before operation = some after) :
    agpsMachine.step before.machine operation = some after.machine ∧
    after.history = before.history ++
      (operation.received before.machine.mStatePtr ++
        (requests after.machine.out).map .sent) := by
  obtain ⟨machine, moved, rfl⟩ := Option.map_eq_some_iff.mp taken
  exact ⟨moved, rfl⟩

theorem recorder_machine {r : Recorded} (run : recorder.Reachable r) :
    agpsMachine.Reachable r.machine := by
  refine run.project Recorded.machine ?_ ?_
  · intro r first
    exact first.1
  · intro before operation after _ taken
    exact .inr ⟨operation, (recorder_step taken).1⟩

theorem recorder_discipline {r : Recorded} (run : recorder.Reachable r) :
    framework.legal false r.history = true ∧ outstanding r.history = r.machine.mStatePtr.holds := by
  refine run.invariant (fun r => framework.legal false r.history = true ∧
    outstanding r.history = r.machine.mStatePtr.holds) ?_ ?_
  · rintro ⟨machine, history⟩ ⟨⟨mType, enforce, rfl⟩, rfl⟩
    exact ⟨rfl, rfl⟩
  · intro before operation after reached inv _ taken
    obtain ⟨legal, open'⟩ := inv
    obtain ⟨moved, history⟩ := recorder_step taken
    obtain ⟨-, performed⟩ := agpsMachine_step moved
    have coherent := coherent_of_reachable (recorder_machine reached)
    obtain ⟨allowed, settled⟩ := (coherent.transition operation).discipline
    rw [performed] at allowed settled
    unfold outstanding at open' ⊢
    rw [history, Bracket.legal_append, Bracket.after_append, open', legal, allowed, settled]
    exact ⟨rfl, rfl⟩

/-- In every run a request is outstanding exactly in Pending and Acquired,
requests and releases take turns, and a machine that holds nothing has ended
every request it made. -/
theorem request_discipline {r : Recorded} (run : recorder.Reachable r) :
    (outstanding r.history = true ↔
      r.machine.mStatePtr = .pending ∨ r.machine.mStatePtr = .acquired) ∧
    (∀ front back, r.history = front ++ .sent .requestAgpsDataConn :: back →
      outstanding front = false) ∧
    (∀ front back, r.history = front ++ .sent .releaseAgpsDataConn :: back →
      outstanding front = true) ∧
    (∀ front middle back,
      r.history = front ++ .sent .requestAgpsDataConn :: middle ++
        .sent .requestAgpsDataConn :: back →
      ∃ item ∈ middle, framework.closes item = true) ∧
    (∀ front middle back,
      r.history = front ++ .sent .releaseAgpsDataConn :: middle ++
        .sent .releaseAgpsDataConn :: back →
      .sent .requestAgpsDataConn ∈ middle) ∧
    (∀ front back, r.history = front ++ .sent .requestAgpsDataConn :: back →
      r.machine.mStatePtr = .released ∨ r.machine.mStatePtr = .releasing →
      ∃ item ∈ back, framework.closes item = true) := by
  obtain ⟨legal, settled⟩ := recorder_discipline run
  refine ⟨by rw [settled, AgpsState.holds_eq_true], ?_, ?_, ?_, ?_, ?_⟩
  · intro front back split
    exact Bracket.outside_of_opens (split ▸ legal) rfl
  · intro front back split
    exact Bracket.inside_of_needs (split ▸ legal) rfl
  · intro front middle back split
    exact Bracket.closes_between (split ▸ legal) rfl rfl
  · intro front middle back split
    obtain ⟨item, member, opens⟩ := Bracket.opens_between (split ▸ legal) rfl rfl rfl
    cases item with
    | sent action =>
        cases action with
        | requestAgpsDataConn => exact member
        | releaseAgpsDataConn => cases opens
    | received => cases opens
  · intro front back split left
    have ended : outstanding r.history = false := by
      rw [settled]
      rcases left with state | state <;> rw [state] <;> rfl
    rw [split] at ended
    exact Bracket.closes_after_opens rfl ended

/-- A machine that requests, is granted, releases and requests again. -/
theorem request_discipline_again :
    let bit := Subscriber.bit 5 (Vector.replicate 16 0)
    ∃ r, recorder.exec ⟨.new AGPS_TYPE_SUPL false, []⟩ [.subscribeRsrc bit, .onRsrcEvent .granted,
        .unsubscribeRsrc bit, .subscribeRsrc bit] = some r ∧
      outstanding r.history = true := by
  intro bit
  have first : recorder.initial ⟨.new AGPS_TYPE_SUPL false, []⟩ := ⟨⟨_, _, rfl⟩, rfl⟩
  refine ⟨_, rfl, ?_⟩
  have run : recorder.Reachable _ := System.ReachableUnder.exec (.start first)
    [.subscribeRsrc bit, .onRsrcEvent .granted, .unsubscribeRsrc bit, .subscribeRsrc bit] rfl
  exact (request_discipline run).1.mpr (.inl (by decide))

end A5Common.Agps
