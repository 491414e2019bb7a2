import A5Common.Agps.Discipline

set_option autoImplicit false

namespace A5Common.Agps

open A5Common.Run

/-- A base machine and the framework that opens and closes its connection. The
queues are oldest first. -/
structure Exchange where
  machine : AgpsStateMachine
  requested : List AGpsStatusValue
  answers : List ServicerEvent
  opened : Bool

inductive Exchange.Label where
  | call (operation : Operation)
  | handle (grant : Bool)
  | deliver

namespace Exchange

def withMachine (σ : Exchange) (machine : AgpsStateMachine) : Exchange :=
  { σ with machine := machine, requested := σ.requested ++ requests machine.out }

/-- The framework takes the oldest request. A denial opens nothing. -/
def handle (σ : Exchange) (grant : Bool) : Option Exchange :=
  match σ.requested with
  | [] => none
  | .requestAgpsDataConn :: rest =>
      if grant then
        some { σ with requested := rest, answers := σ.answers ++ [.granted], opened := true }
      else some { σ with requested := rest, answers := σ.answers ++ [.denied] }
  | .releaseAgpsDataConn :: rest =>
      some { σ with requested := rest, answers := σ.answers ++ [.released], opened := false }

def deliver (σ : Exchange) : Option Exchange :=
  match σ.answers with
  | [] => none
  | event :: rest =>
      some ({ σ with answers := rest }.withMachine (σ.machine.perform (.onRsrcEvent event)))

end Exchange

/-- The calls of the clients. -/
def Operation.ofClient : Operation → Bool
  | .onRsrcEvent _ => false
  | operation => operation.onBase

/-- All interleavings of clients, framework and deliveries. -/
def exchange : System Exchange Exchange.Label where
  initial σ := agpsMachine.initial σ.machine ∧ σ.requested = [] ∧ σ.answers = [] ∧ σ.opened = false
  step σ
    | .call operation =>
        if operation.ofClient then some (σ.withMachine (σ.machine.perform operation)) else none
    | .handle grant => σ.handle grant
    | .deliver => σ.deliver

/-- Is a request, or the answer to one, still on its way. -/
def requestInFlight (requested : List AGpsStatusValue) (answers : List ServicerEvent) : Bool :=
  requested.any (· == .requestAgpsDataConn) || answers.any (· != .released)

/-- The step does not ask for a connection while an earlier request is in
flight. A connection is asked for by the first subscriber of a released machine
and by the end of a release with active subscribers. -/
def Exchange.awaits (σ : Exchange) : Exchange.Label → Prop
  | .call (.subscribeRsrc _) =>
      σ.machine.mStatePtr = .released → requestInFlight σ.requested σ.answers = false
  | .deliver =>
      σ.machine.mStatePtr = .releasing → σ.machine.hasActiveSubscribers = true →
      σ.answers.head? ≠ some .granted → requestInFlight σ.requested σ.answers.tail = false
  | _ => True

instance (σ : Exchange) (label : Exchange.Label) : Decidable (σ.awaits label) :=
  match label with
  | .call (.subscribeRsrc _) | .deliver => inferInstanceAs (Decidable (_ → _))
  | .call (.unsubscribeRsrc _) | .call (.onRsrcEvent _) | .call (.setAPN _)
  | .call (.setBearer _) | .handle _ => inferInstanceAs (Decidable True)

/-- The connection is closed, or a release is the last request on its way. -/
def EndsClosed (requested : List AGpsStatusValue) (opened : Bool) : Prop :=
  requested = [] ∧ opened = false ∨ ∃ before, requested = before ++ [.releaseAgpsDataConn]

theorem endsClosed_release (requested : List AGpsStatusValue) (opened : Bool) :
    EndsClosed (requested ++ [.releaseAgpsDataConn]) opened :=
  .inr ⟨requested, rfl⟩

theorem endsClosed_nil {opened : Bool} : EndsClosed [] opened ↔ opened = false := by
  simp [EndsClosed]

/-- The framework handles a request: a release closes the connection. -/
theorem EndsClosed.tail {action : AGpsStatusValue} {rest : List AGpsStatusValue} {opened : Bool}
    (ends : EndsClosed (action :: rest) opened) (next : Bool)
    (closed : action = .releaseAgpsDataConn → next = false) : EndsClosed rest next := by
  rcases ends with ⟨empty, -⟩ | ⟨before, split⟩
  · cases empty
  · cases before with
    | nil =>
        obtain ⟨rfl, rfl⟩ := List.cons.inj split
        exact .inl ⟨rfl, closed rfl⟩
    | cons first before => exact .inr ⟨before, (List.cons.inj split).2⟩

/-- How the state, the queues and the connection belong together while no two
requests are in flight. -/
inductive Agreement :
    AgpsState → List AGpsStatusValue → List ServicerEvent → Bool → Prop
  | closing {state : AgpsState} {requested : List AGpsStatusValue} {answers : List ServicerEvent}
      {opened : Bool} (left : state = .released ∨ state = .releasing)
      (ends : EndsClosed requested opened) : Agreement state requested answers opened
  | asked {before : List AGpsStatusValue} {answers : List ServicerEvent} {opened : Bool}
      (earlier : ∀ action ∈ before, action = .releaseAgpsDataConn)
      (old : ∀ event ∈ answers, event = .released) (closed : before = [] → opened = false) :
      Agreement .pending (before ++ [.requestAgpsDataConn]) answers opened
  | answered {before : List ServicerEvent} (old : ∀ event ∈ before, event = .released) :
      Agreement .pending [] (before ++ [.granted]) true
  | refused {before : List ServicerEvent} (old : ∀ event ∈ before, event = .released) :
      Agreement .pending [] (before ++ [.denied]) false
  | connected : Agreement .acquired [] [] true

theorem requestInFlight_eq_false {requested : List AGpsStatusValue}
    {answers : List ServicerEvent} (idle : requestInFlight requested answers = false) :
    (∀ action ∈ requested, action = .releaseAgpsDataConn) ∧
    ∀ event ∈ answers, event = .released := by
  simp only [requestInFlight, Bool.or_eq_false_iff, List.any_eq_false] at idle
  refine ⟨?_, ?_⟩
  · intro action member
    have other := idle.1 action member
    cases action with
    | requestAgpsDataConn => exact absurd rfl other
    | releaseAgpsDataConn => rfl
  · intro event member
    simpa using idle.2 event member

/-- A new request joins queues that end closed. -/
theorem Agreement.ask {requested : List AGpsStatusValue} {answers : List ServicerEvent}
    {opened : Bool} (ends : EndsClosed requested opened)
    (idle : requestInFlight requested answers = false) :
    Agreement .pending (requested ++ [.requestAgpsDataConn]) answers opened := by
  obtain ⟨earlier, old⟩ := requestInFlight_eq_false idle
  refine .asked earlier old ?_
  rintro rfl
  exact endsClosed_nil.mp ends

theorem Agreement.ends_of_left {state : AgpsState} {requested : List AGpsStatusValue}
    {answers : List ServicerEvent} {opened : Bool}
    (agreement : Agreement state requested answers opened)
    (left : state = .released ∨ state = .releasing) : EndsClosed requested opened := by
  cases agreement with
  | closing _ ends => exact ends
  | asked | answered | refused | connected => rcases left with left | left <;> cases left

/-- A client's call keeps the agreement. -/
theorem Agreement.call {active : Bool} {before after : AgpsState} {operation : Operation}
    {sent requested : List AGpsStatusValue} {answers : List ServicerEvent} {opened : Bool}
    (agreement : Agreement before requested answers opened)
    (moved : Transition active before operation sent after) (client : operation.ofClient = true)
    (idle : before = .released → after = .pending → requestInFlight requested answers = false) :
    Agreement after (requested ++ sent) answers opened := by
  cases moved with
  | stay =>
      rw [List.append_nil]
      exact agreement
  | request => exact .ask (agreement.ends_of_left (.inl rfl)) (idle rfl rfl)
  | release holding leaving => exact .closing leaving (endsClosed_release _ _)
  | emptied =>
      rw [List.append_nil]
      exact .closing (.inl rfl) (agreement.ends_of_left (.inr rfl))
  | granted | denied | forced | finish | renew => cases client

/-- The delivery of the oldest answer keeps the agreement. -/
theorem Agreement.deliver {active : Bool} {before after : AgpsState} {event : ServicerEvent}
    {sent requested : List AGpsStatusValue} {answers : List ServicerEvent} {opened : Bool}
    (agreement : Agreement before requested (event :: answers) opened)
    (moved : Transition active before (.onRsrcEvent event) sent after)
    (idle : before = .releasing → after = .pending →
      requestInFlight requested answers = false) :
    Agreement after (requested ++ sent) answers opened := by
  generalize queue : event :: answers = all at agreement
  cases agreement with
  | closing left ends =>
      cases moved with
      | stay =>
          rw [List.append_nil]
          exact .closing left ends
      | finish =>
          rw [List.append_nil]
          exact .closing (.inl rfl) ends
      | renew => exact .ask ends (idle rfl rfl)
      | granted | denied | forced => rcases left with left | left <;> cases left
  | asked earlier old closed =>
      subst queue
      obtain rfl : event = .released := old event (by simp)
      have old : ∀ event ∈ answers, event = .released := fun other member =>
        old other (List.mem_cons_of_mem _ member)
      cases moved with
      | stay =>
          rw [List.append_nil]
          exact .asked earlier old closed
  | answered old =>
      rename_i before
      cases before with
      | nil =>
          obtain ⟨rfl, rfl⟩ := List.cons.inj queue
          cases moved with
          | stay ignored => cases ignored
          | granted => exact .connected
      | cons first before =>
          obtain ⟨rfl, rfl⟩ := List.cons.inj queue
          obtain rfl : event = .released := old event (by simp)
          cases moved with
          | stay => exact .answered (fun other member => old other (List.mem_cons_of_mem _ member))
  | refused old =>
      rename_i before
      cases before with
      | nil =>
          obtain ⟨rfl, rfl⟩ := List.cons.inj queue
          cases moved with
          | stay ignored => cases ignored
          | denied => exact .closing (.inl rfl) (endsClosed_nil.mpr rfl)
      | cons first before =>
          obtain ⟨rfl, rfl⟩ := List.cons.inj queue
          obtain rfl : event = .released := old event (by simp)
          cases moved with
          | stay => exact .refused (fun other member => old other (List.mem_cons_of_mem _ member))
  | connected => cases queue

theorem released_append {answers : List ServicerEvent}
    (old : ∀ event ∈ answers, event = .released) :
    ∀ event ∈ answers ++ [ServicerEvent.released], event = .released := by
  intro event member
  rcases List.mem_append.mp member with member | member
  · exact old event member
  · exact List.mem_singleton.mp member

theorem Agreement.handleRelease {state : AgpsState} {requested : List AGpsStatusValue}
    {answers : List ServicerEvent} {opened : Bool}
    (agreement : Agreement state (.releaseAgpsDataConn :: requested) answers opened) :
    Agreement state requested (answers ++ [.released]) false := by
  generalize queue : AGpsStatusValue.releaseAgpsDataConn :: requested = all at agreement
  cases agreement with
  | closing left ends =>
      subst queue
      exact .closing left (ends.tail false (fun _ => rfl))
  | asked earlier old closed =>
      rename_i before
      cases before with
      | nil => cases queue
      | cons first before =>
          obtain ⟨-, rfl⟩ := List.cons.inj queue
          exact .asked (fun other member => earlier other (List.mem_cons_of_mem _ member))
            (released_append old) (fun _ => rfl)
  | answered | refused | connected => cases queue

theorem Agreement.handleRequest {state : AgpsState} {requested : List AGpsStatusValue}
    {answers : List ServicerEvent} {opened : Bool}
    (agreement : Agreement state (.requestAgpsDataConn :: requested) answers opened) :
    Agreement state requested (answers ++ [.granted]) true ∧
    Agreement state requested (answers ++ [.denied]) opened := by
  generalize queue : AGpsStatusValue.requestAgpsDataConn :: requested = all at agreement
  cases agreement with
  | closing left ends =>
      subst queue
      exact ⟨.closing left (ends.tail true AGpsStatusValue.noConfusion),
        .closing left (ends.tail opened AGpsStatusValue.noConfusion)⟩
  | asked earlier old closed =>
      rename_i before
      cases before with
      | nil =>
          obtain ⟨-, rfl⟩ := List.cons.inj queue
          obtain rfl := closed rfl
          exact ⟨.answered old, .refused old⟩
      | cons first before =>
          obtain ⟨rfl, -⟩ := List.cons.inj queue
          cases earlier .requestAgpsDataConn (by simp)
  | answered | refused | connected => cases queue

/-- What holds in every run whose steps await the answer to an earlier request. -/
structure Exchange.Agrees (σ : Exchange) : Prop where
  coherent : σ.machine.Coherent
  agreement : Agreement σ.machine.mStatePtr σ.requested σ.answers σ.opened

theorem Exchange.Agrees.call {σ : Exchange} (agrees : σ.Agrees) {operation : Operation}
    (client : operation.ofClient = true) (awaits : σ.awaits (.call operation)) :
    (σ.withMachine (σ.machine.perform operation)).Agrees := by
  have moved := agrees.coherent.transition operation
  refine ⟨agrees.coherent.perform operation, agrees.agreement.call moved client ?_⟩
  intro released (pending : (σ.machine.perform operation).mStatePtr = .pending)
  rw [released, pending] at moved
  generalize requests (σ.machine.perform operation).out = sent at moved
  cases moved with
  | request => exact awaits released
  | release holding => rcases holding with held | held <;> cases held

theorem Exchange.Agrees.deliver {σ after : Exchange} (agrees : σ.Agrees)
    (awaits : σ.awaits .deliver) (taken : σ.deliver = some after) : after.Agrees := by
  unfold Exchange.deliver at taken
  cases queue : σ.answers with
  | nil => rw [queue] at taken; cases taken
  | cons event rest =>
      rw [queue] at taken
      obtain rfl := Option.some.inj taken
      have moved := agrees.coherent.transition (.onRsrcEvent event)
      refine ⟨agrees.coherent.perform _, (queue ▸ agrees.agreement).deliver moved ?_⟩
      intro releasing (pending : (σ.machine.perform (.onRsrcEvent event)).mStatePtr = .pending)
      rw [releasing, pending] at moved
      generalize requests (σ.machine.perform (.onRsrcEvent event)).out = sent at moved
      cases moved with
      | renew answer wanted =>
          have asks := awaits releasing wanted
          rw [queue] at asks
          refine asks ?_
          rcases answer with rfl | rfl <;> simp

theorem Exchange.Agrees.handle {σ after : Exchange} (agrees : σ.Agrees) {grant : Bool}
    (taken : σ.handle grant = some after) : after.Agrees := by
  obtain ⟨coherent, agreement⟩ := agrees
  unfold Exchange.handle at taken
  split at taken
  · cases taken
  · rename_i rest queue
    rw [queue] at agreement
    split at taken
    · obtain rfl := Option.some.inj taken
      exact ⟨coherent, agreement.handleRequest.1⟩
    · obtain rfl := Option.some.inj taken
      exact ⟨coherent, agreement.handleRequest.2⟩
  · rename_i rest queue
    rw [queue] at agreement
    obtain rfl := Option.some.inj taken
    exact ⟨coherent, agreement.handleRelease⟩

theorem exchange_agrees {σ : Exchange} (run : exchange.ReachableUnder Exchange.awaits σ) :
    σ.Agrees := by
  refine run.invariant Exchange.Agrees ?_ ?_
  · rintro ⟨machine, requested, answers, opened⟩ ⟨⟨mType, enforce, rfl⟩, rfl, rfl, rfl⟩
    exact ⟨coherent_released, .closing (.inl rfl) (endsClosed_nil.mpr rfl)⟩
  · intro before label after _ agrees awaits taken
    cases label with
    | call operation =>
        simp only [exchange] at taken
        split at taken
        · rename_i client
          obtain rfl := Option.some.inj taken
          exact agrees.call client awaits
        · cases taken
    | handle grant => exact agrees.handle taken
    | deliver => exact agrees.deliver awaits taken

/-- In every run whose steps await the answer to an earlier request before they
ask for a connection, machine and framework agree when nothing is on its way. -/
theorem exchange_agreement {σ : Exchange} (run : exchange.ReachableUnder Exchange.awaits σ)
    (noRequest : σ.requested = []) (noAnswer : σ.answers = []) :
    σ.opened = true ↔ σ.machine.mStatePtr = .acquired := by
  have agreement := (exchange_agrees run).agreement
  rw [noRequest, noAnswer] at agreement
  generalize σ.machine.mStatePtr = state at agreement ⊢
  generalize σ.opened = opened at agreement ⊢
  generalize requested : ([] : List AGpsStatusValue) = none at agreement
  generalize answers : ([] : List ServicerEvent) = nothing at agreement
  cases agreement with
  | closing left ends =>
      subst requested
      rw [endsClosed_nil.mp ends]
      rcases left with rfl | rfl <;> simp
  | asked => simp at requested
  | answered | refused => simp at answers
  | connected => simp

/-- A request that is granted. -/
theorem exchange_agreement_granted :
    let bit := Subscriber.bit 5 (Vector.replicate 16 0)
    ∃ σ, exchange.execUnder Exchange.awaits ⟨.new AGPS_TYPE_SUPL false, [], [], false⟩
        [.call (.subscribeRsrc bit), .handle true, .deliver] = some σ ∧
      σ.opened = true ∧ σ.machine.mStatePtr = .acquired := by
  intro bit
  have first : exchange.initial ⟨.new AGPS_TYPE_SUPL false, [], [], false⟩ :=
    ⟨⟨_, _, rfl⟩, rfl, rfl, rfl⟩
  refine ⟨_, rfl, rfl, ?_⟩
  have run : exchange.ReachableUnder Exchange.awaits _ := System.ReachableUnder.exec (.start first)
    [.call (.subscribeRsrc bit), .handle true, .deliver] rfl
  exact (exchange_agreement run rfl rfl).mp rfl

/-- A subscriber leaves before the answer to its request and comes back before
the answer to the release: the late answers are taken for those to the second
request, and the connection of that one stays open without a holder. -/
theorem exchange_disagreement :
    ¬ ∀ σ, exchange.Reachable σ → σ.requested = [] → σ.answers = [] →
      (σ.opened = true ↔ σ.machine.mStatePtr = .acquired) := by
  intro agreement
  let bit := Subscriber.bit 5 (Vector.replicate 16 0)
  have first : exchange.initial ⟨.new AGPS_TYPE_SUPL false, [], [], false⟩ :=
    ⟨⟨_, _, rfl⟩, rfl, rfl, rfl⟩
  obtain ⟨σ, run, seen⟩ := System.reachable_of_exec first
    [.call (.subscribeRsrc bit), .call (.unsubscribeRsrc bit), .call (.subscribeRsrc bit),
      .handle true, .handle true, .handle true, .deliver, .deliver, .deliver]
    (fun σ => σ.requested == [] && σ.answers == [] && σ.opened &&
      σ.machine.mStatePtr == .released) (by decide)
  simp only [Bool.and_eq_true, beq_iff_eq] at seen
  obtain ⟨⟨⟨noRequest, noAnswer⟩, opened⟩, released⟩ := seen
  have acquired := (agreement σ run noRequest noAnswer).mp opened
  rw [released] at acquired
  cases acquired

end A5Common.Agps
