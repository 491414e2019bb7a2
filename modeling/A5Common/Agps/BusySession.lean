import A5Common.Agps.RetryBudget

set_option autoImplicit false

namespace A5Common.Agps

open A5Common.Run DSStateMachine

/-- A modem that is busy, with a retry timer that starts. -/
def busyAnswer : StartAnswer := ⟨LOC_API_ADAPTER_ERR_ENGINE_BUSY, true⟩

/-- Every start that the step makes is answered with ENGINE_BUSY, and its retry timer
can be started. -/
def Emergency.Label.busy : Emergency.Label → Bool
  | .call _ answer | .suplEs _ answer => answer == busyAnswer
  | .timerExpiry => true

/-- Who subscribes in the step. -/
def Emergency.subscribes (σ : Emergency) : Emergency.Label → Option Subscriber
  | .call (.subscribeRsrc s) _ => some s
  | .suplEs beyond _ => σ.suplEs.head?.map (.ds · false beyond)
  | .call (.unsubscribeRsrc _) _ | .call (.onRsrcEvent _) _ | .call (.setAPN _) _
  | .call (.setBearer _) _ | .timerExpiry => none

/-- The retries that will still come: the running timers and the messages on their way. -/
def Emergency.retriesDue (σ : Emergency) : Nat := σ.timers + σ.suplEs.length

/-- The subscriber has an active entry. -/
def serves (s : Subscriber) (m : AgpsStateMachine) : Bool :=
  m.mSubscribers.any fun e => e.equals s && !e.isInactive

/-- A session in which the modem is always busy, with what has come of its starts. -/
structure BusySession where
  service : Emergency
  outcomes : List (Option (BitVec 32))

/-- The subscription that opens the session. -/
def BusySession.opened (s : Subscriber) (answer : StartAnswer) (σ : Emergency) : BusySession :=
  let service := σ.settle (perform answer σ.machine (.subscribeRsrc s))
  ⟨service, Agps.outcomes service.machine.out⟩

/-- The session that a subscription opens at `σ`, among all the calls, timers and
messages that leave its entry active. -/
def busySession (s : Subscriber) (σ : Emergency) : System BusySession Emergency.Label where
  initial session := session = BusySession.opened s busyAnswer σ
  step session label :=
    if label.busy then
      (emergency.step session.service label).bind fun after =>
        if serves s after.machine then
          some ⟨after, session.outcomes ++ outcomes (label.actions after)⟩
        else none
    else none

/-- There was a busy answer, and the session has not fallen back yet. -/
def BusySession.retrying (session : BusySession) : Prop :=
  0 < session.outcomes.length ∧ session.outcomes.length ≤ MAX_START_DATA_CALL_RETRIES.toNat

/-- Until the session has fallen back no other session is newly subscribed. -/
def BusySession.alone (s : Subscriber) (session : BusySession) (label : Emergency.Label) : Prop :=
  session.retrying → ∀ other ∈ session.service.subscribes label,
    other.ID = s.ID ∨ ∃ e ∈ session.service.machine.mSubscribers, e.equals other = true

/-- The session falls back after one busy answer more than there are retries: no answer
before hands anything over, this one hands over the session's own handle, and until
then there is a retry to come, whose message asks for the session and starts again. -/
structure BusySession.FallsBack (s : Subscriber) (session : BusySession) : Prop where
  early : ∀ i < MAX_START_DATA_CALL_RETRIES.toNat, ∀ outcome,
    session.outcomes[i]? = some outcome → outcome = none
  own : ∀ outcome, session.outcomes[MAX_START_DATA_CALL_RETRIES.toNat]? = some outcome →
    outcome = some s.ID
  retried : session.retrying → 0 < session.service.retriesDue ∧
    retryCallback session.service.machine = some s.ID ∧
    ∀ beyond, Agps.outcomes (perform busyAnswer session.service.machine
      (.subscribeRsrc (.ds s.ID false beyond))).out ≠ []

/-- However the session goes on, it has its whole budget. -/
def Emergency.HasBudget (s : Subscriber) (σ : Emergency) : Prop :=
  ∀ session, (busySession s σ).ReachableUnder (BusySession.alone s) session → session.FallsBack s

/-- What the counter must be when the subscription comes: the released state starts
at once and counts from there, the end of a release makes one start and does not
retry it, and nothing is started while a data call is there or asked for. -/
def Emergency.FreshCounter (σ : Emergency) : Prop :=
  match σ.machine.mStatePtr with
  | .released => σ.machine.mRetries = 0
  | .releasing => False
  | .pending | .acquired => True

theorem max_toNat : MAX_START_DATA_CALL_RETRIES.toNat = 4 := rfl

theorem DSStateMachine.WithinBudget.toNat {m : AgpsStateMachine} (within : WithinBudget m) :
    m.mRetries.toNat ≤ 4 := within

/-- Within the budget the fifth busy answer is one too many. -/
theorem spent_iff {mRetries : BitVec 8} (within : mRetries.toNat ≤ 4) :
    spent mRetries = true ↔ mRetries.toNat = 4 := by
  simp only [DSStateMachine.spent, decide_eq_true_eq, BitVec.lt_def, BitVec.toNat_add, max_toNat,
    BitVec.toNat_ofNat]
  omega

theorem counted_toNat {mRetries : BitVec 8} (within : mRetries.toNat ≤ 4) :
    (counted mRetries).toNat = (mRetries.toNat + 1) % 5 := by
  have exhausted := spent_iff within
  unfold counted
  split
  · rename_i now
    rw [exhausted.mp now]
    rfl
  · rename_i fits
    rw [exhausted] at fits
    rw [BitVec.toNat_add]
    simp only [BitVec.toNat_ofNat]
    omega

theorem serves_active {s : Subscriber} {m : AgpsStateMachine} (served : serves s m = true) :
    m.hasActiveSubscribers = true := by
  obtain ⟨e, member, own⟩ := List.any_eq_true.mp served
  rw [Bool.and_eq_true, Bool.not_eq_true'] at own
  exact AgpsStateMachine.hasActiveSubscribers_eq_true.mpr ⟨e, member, own.2⟩

theorem perform_subscribe_mSubscribers (answer : StartAnswer) {m : AgpsStateMachine}
    (single : m.mEnforceSingleSubscriber = false) (s : Subscriber) :
    (perform answer m (.subscribeRsrc s)).mSubscribers = (m.addSubscriber s).mSubscribers := by
  have frames := DSStateMachine.sendRsrcRequest_frames answer
  have list := (onStateEvent_subscribe frames (show m.cleared.out = [] from rfl) s).1
  rw [perform_subscribe answer single, list]
  exact @AgpsStateMachine.addSubscriber_congr m.cleared m rfl s

theorem serves_subscribe (answer : StartAnswer) {s : Subscriber} {m : AgpsStateMachine}
    (single : m.mEnforceSingleSubscriber = false) (served : serves s m = true)
    (other : Subscriber) : serves s (perform answer m (.subscribeRsrc other)) = true := by
  unfold serves at served ⊢
  rw [perform_subscribe_mSubscribers answer single]
  rcases m.addSubscriber_cases other with ⟨-, added⟩ | ⟨-, kept⟩
  · rw [added, List.any_cons]
    exact Bool.or_eq_true _ _ ▸ .inr served
  · rw [kept]
    exact served

/-- A subscription leaves its subscriber served, unless an entry that is not active
stands for it. -/
theorem subscribe_serves (answer : StartAnswer) {s : Subscriber} {m : AgpsStateMachine}
    (single : m.mEnforceSingleSubscriber = false)
    (free : serves s m = true ∨ ∀ e ∈ m.mSubscribers, e.equals s = false) :
    serves s (perform answer m (.subscribeRsrc s)) = true := by
  rcases free with served | fresh
  · exact serves_subscribe answer single served s
  · unfold serves
    rw [perform_subscribe_mSubscribers answer single]
    rcases m.addSubscriber_cases s with ⟨-, added⟩ | ⟨⟨e, member, same⟩, -⟩
    · rw [added]
      simp
    · rw [fresh e member] at same
      cases same

/-- What a call with a busy modem does to the session, through a client or a message. -/
structure BusyCall (before after : BusySession) (label : Emergency.Label)
    (operation : Operation) : Prop where
  called : after.service.machine = perform busyAnswer before.service.machine operation
  outcomes : after.outcomes = before.outcomes ++ Agps.outcomes after.service.machine.out
  subscribes : ∀ s, before.service.subscribes label = some s ↔ operation = .subscribeRsrc s
  timers : timersStarted after.service.machine.out ≤ after.service.retriesDue
  due : (∀ s, operation ≠ .subscribeRsrc s) →
    before.service.retriesDue ≤ after.service.retriesDue

/-- The opening is a call of a session in which nothing was started. -/
theorem busyCall_opened (s : Subscriber) (σ : Emergency) :
    BusyCall ⟨σ, []⟩ (.opened s busyAnswer σ) (.call (.subscribeRsrc s) busyAnswer)
      (.subscribeRsrc s) := by
  refine ⟨rfl, rfl, ?_, ?_, fun other => absurd rfl (other s)⟩
  · intro other
    simp [Emergency.subscribes]
  · simp only [BusySession.opened, Emergency.settle, Emergency.retriesDue]
    omega

/-- A step of the session is a call with a busy modem, or the expiry of a timer. -/
theorem busySession_step {s : Subscriber} {σ : Emergency} {before after : BusySession}
    {label : Emergency.Label} (taken : (busySession s σ).step before label = some after) :
    serves s after.service.machine = true ∧
    ((after.service.machine = before.service.machine ∧ after.outcomes = before.outcomes ∧
        before.service.subscribes label = none ∧
        ∀ handle, retryCallback before.service.machine = some handle →
          before.service.retriesDue ≤ after.service.retriesDue) ∨
      ∃ operation, BusyCall before after label operation) := by
  simp only [busySession] at taken
  split at taken
  · rename_i busy
    obtain ⟨service, moved, kept⟩ := Option.bind_eq_some_iff.mp taken
    split at kept
    · rename_i served
      obtain rfl := Option.some.inj kept
      refine ⟨served, ?_⟩
      cases label with
      | timerExpiry =>
          simp only [emergency, Emergency.timerExpiry] at moved
          split at moved
          · cases moved
          · rename_i running
            obtain rfl := Option.some.inj moved
            refine .inl ⟨rfl, List.append_nil _, rfl, ?_⟩
            intro handle asked
            simp only [Emergency.retriesDue, running, asked, Option.toList_some,
              List.length_append, List.length_singleton]
            omega
      | call operation answer =>
          obtain rfl : answer = busyAnswer := beq_iff_eq.mp busy
          obtain rfl := Option.some.inj moved
          refine .inr ⟨operation, rfl, rfl, ?_, ?_, fun _ => ?_⟩
          · intro other
            cases operation <;> simp [Emergency.subscribes]
          · exact Nat.le_trans (Nat.le_add_left _ _) (Nat.le_add_right _ _)
          · exact Nat.add_le_add_right (Nat.le_add_right _ _) _
      | suplEs beyond answer =>
          obtain rfl : answer = busyAnswer := beq_iff_eq.mp busy
          simp only [emergency, Emergency.handleSuplEs] at moved
          split at moved
          · cases moved
          · rename_i mID rest queue
            obtain rfl := Option.some.inj moved
            refine .inr ⟨.subscribeRsrc (.ds mID false beyond), rfl, rfl, ?_, ?_, ?_⟩
            · intro other
              simp [Emergency.subscribes, queue]
            · exact Nat.le_trans (Nat.le_add_left _ _) (Nat.le_add_right _ _)
            · exact fun other => absurd rfl (other _)
    · cases kept
  · cases taken

/-- The subscriber of the session subscribes once more, to a busy modem. -/
def BusySession.again (s : Subscriber) (session : BusySession) : BusySession :=
  let service := session.service.settle
    (perform busyAnswer session.service.machine (.subscribeRsrc s))
  ⟨service, session.outcomes ++ Agps.outcomes service.machine.out⟩

theorem again_step {s : Subscriber} {σ : Emergency} {session : BusySession}
    (single : session.service.machine.mEnforceSingleSubscriber = false)
    (served : serves s session.service.machine = true) :
    (busySession s σ).step session (.call (.subscribeRsrc s) busyAnswer) =
        some (session.again s) ∧
      serves s (session.again s).service.machine = true := by
  have still := subscribe_serves busyAnswer single (.inl served)
  refine ⟨?_, still⟩
  have busy : (Emergency.Label.call (.subscribeRsrc s) busyAnswer).busy = true := rfl
  simp only [busySession, busy, if_true]
  exact if_pos still

/-- A session that was opened in the released state: the machine has stayed there, and
the counter goes on from where it was. -/
structure Counting (first : Nat) (m : AgpsStateMachine) (outs : List (Option (BitVec 32))) :
    Prop where
  single : m.mEnforceSingleSubscriber = false
  released : m.mStatePtr = .released
  counter : m.mRetries.toNat = (first + outs.length) % 5
  outcomes : ∀ i outcome, outs[i]? = some outcome →
    (outcome.isSome = true ↔ (first + i + 1) % 5 = 0)

section Counting

variable {first : Nat} {before after : AgpsStateMachine} {outs : List (Option (BitVec 32))}

theorem Counting.within (counting : Counting first before outs) : before.mRetries.toNat ≤ 4 := by
  rw [counting.counter]
  omega

/-- A start adds its outcome. -/
theorem Counting.start (counting : Counting first before outs)
    (single : after.mEnforceSingleSubscriber = false) (released : after.mStatePtr = .released)
    (start : BusyStart busyAnswer before.mRetries after) :
    Counting first after (outs ++ Agps.outcomes after.out) := by
  obtain ⟨counted, outcome, -⟩ := start
  have within := counting.within
  rw [outcome]
  refine ⟨single, released, ?_, ?_⟩
  · rw [counted, counted_toNat within, counting.counter, List.length_append, List.length_singleton]
    omega
  · intro i result found
    rcases Nat.lt_or_ge i outs.length with below | above
    · rw [List.getElem?_append_left below] at found
      exact counting.outcomes i result found
    · have last : i = outs.length := by
        have inside := (List.getElem?_eq_some_iff.mp found).1
        rw [List.length_append, List.length_singleton] at inside
        omega
      subst last
      rw [List.getElem?_concat_length] at found
      obtain rfl := Option.some.inj found
      have exhausted := spent_iff within
      rw [counting.counter] at exhausted
      have now : (first + outs.length) % 5 = 4 ↔ (first + outs.length + 1) % 5 = 0 := by
        omega
      rw [← now, ← exhausted]
      cases spent before.mRetries <;> simp

theorem Counting.noStart (counting : Counting first before outs)
    (single : after.mEnforceSingleSubscriber = false) (released : after.mStatePtr = .released)
    (idle : NoStart before after) : Counting first after (outs ++ Agps.outcomes after.out) := by
  rw [outcomes_quiet idle.quiet, List.append_nil]
  refine ⟨single, released, ?_, counting.outcomes⟩
  rw [idle.counter]
  exact counting.counter

theorem Counting.call (counting : Counting first before outs) (operation : Operation) :
    Counting first (perform busyAnswer before operation)
      (outs ++ Agps.outcomes (perform busyAnswer before operation).out) := by
  have single := perform_single busyAnswer counting.single operation
  obtain ⟨released, ⟨s, -, start, -⟩ | ⟨-, idle, -⟩⟩ :=
    @released_call busyAnswer before rfl counting.single counting.released operation
  · exact counting.start single released start
  · exact counting.noStart single released idle

/-- A subscription is a start, for the first active subscriber after it. -/
theorem Counting.subscribed (counting : Counting first before outs) (s : Subscriber) :
    BusyStart busyAnswer before.mRetries (perform busyAnswer before (.subscribeRsrc s)) ∧
      retryCallback (perform busyAnswer before (.subscribeRsrc s)) =
        retryCallback (before.addSubscriber s) := by
  obtain ⟨-, ⟨other, same, start, front⟩ | ⟨other, -⟩⟩ :=
    @released_call busyAnswer before rfl counting.single counting.released (.subscribeRsrc s)
  · obtain rfl := Operation.subscribeRsrc.inj same
    exact ⟨start, front⟩
  · exact absurd rfl (other s)

end Counting

/-- A session with a fresh counter that falls back on `handle`, unless another session
comes between. -/
structure Fronted (handle : BitVec 32) (session : BusySession) : Prop where
  counting : Counting 0 session.service.machine session.outcomes
  front : session.outcomes.length ≤ 4 → retryCallback session.service.machine = some handle
  own : ∀ outcome, session.outcomes[4]? = some outcome → outcome = some handle

section Fronted

variable {handle : BitVec 32} {before after : BusySession} {label : Emergency.Label}

/-- A start for `handle` is retried for it, or falls back on it. -/
theorem Fronted.start (counting : Counting 0 before.service.machine before.outcomes)
    (left : before.outcomes.length ≤ 4) {s : Subscriber}
    (call : BusyCall before after label (.subscribeRsrc s))
    (front : retryCallback (before.service.machine.addSubscriber s) = some handle) :
    Fronted handle after ∧ after.outcomes.length = before.outcomes.length + 1 ∧
      (after.outcomes.length ≤ 4 → 0 < after.service.retriesDue) := by
  have counted := counting.call (.subscribeRsrc s)
  obtain ⟨start, first⟩ := counting.subscribed s
  rw [← call.called] at counted start first
  rw [front] at first
  have exhausted := spent_iff counting.within
  have counter := counting.counter
  have length : after.outcomes.length = before.outcomes.length + 1 := by
    rw [call.outcomes, start.outcome, List.length_append, List.length_singleton]
  refine ⟨⟨call.outcomes ▸ counted, fun _ => first, ?_⟩, length, ?_⟩
  · intro outcome found
    have inside := (List.getElem?_eq_some_iff.mp found).1
    have last : before.outcomes.length = 4 := by omega
    have all : spent before.service.machine.mRetries = true := exhausted.mpr (by omega)
    rw [call.outcomes, start.outcome, all, ← last, List.getElem?_concat_length] at found
    obtain rfl := Option.some.inj found
    exact congrArg some (connHandle_eq first)
  · intro more
    have some' : spent before.service.machine.mRetries = false := by
      rw [← Bool.not_eq_true, exhausted]
      omega
    exact Nat.lt_of_lt_of_le (start.timer some' rfl) call.timers

/-- A call that subscribes nobody but those who are listed, or who have the handle. -/
theorem Fronted.call (fronted : Fronted handle before) {operation : Operation}
    (call : BusyCall before after label operation)
    (alone : before.outcomes.length ≤ 4 → ∀ other, operation = .subscribeRsrc other →
      other.ID = handle ∨ ∃ e ∈ before.service.machine.mSubscribers, e.equals other = true) :
    Fronted handle after ∧ before.outcomes.length ≤ after.outcomes.length ∧
      (after.outcomes.length ≤ 4 → 0 < before.service.retriesDue →
        0 < after.service.retriesDue) := by
  have counting := fronted.counting
  have counted := counting.call operation
  obtain ⟨-, step⟩ :=
    @released_call busyAnswer _ rfl counting.single counting.released operation
  rw [← call.called] at counted step
  rw [← call.outcomes] at counted
  have longer : before.outcomes.length ≤ after.outcomes.length := by
    rw [call.outcomes, List.length_append]
    exact Nat.le_add_right _ _
  rcases Nat.lt_or_ge 4 before.outcomes.length with fallen | left
  · -- it has fallen back already
    refine ⟨⟨counted, fun early => absurd early (by omega), ?_⟩, longer,
      fun early => absurd early (by omega)⟩
    intro outcome found
    rw [call.outcomes, List.getElem?_append_left fallen] at found
    exact fronted.own outcome found
  · rcases step with ⟨s, rfl, -, -⟩ | ⟨other, idle, front⟩
    · have first : retryCallback (before.service.machine.addSubscriber s) = some handle := by
        rcases retryCallback_added before.service.machine s with ⟨absent, added⟩ | ⟨-, kept⟩
        · rcases alone left s rfl with same | ⟨e, member, listed⟩
          · rw [added, same]
          · rw [absent e member] at listed
            cases listed
        · exact kept.trans (fronted.front left)
      obtain ⟨fronted, -, due⟩ := Fronted.start counting left call first
      exact ⟨fronted, longer, fun early _ => due early⟩
    · have same : after.outcomes = before.outcomes := by
        rw [call.outcomes, outcomes_quiet idle.quiet, List.append_nil]
      refine ⟨⟨counted, fun _ => front.trans (fronted.front left), ?_⟩, longer,
        fun _ some' => Nat.lt_of_lt_of_le some' (call.due other)⟩
      rw [same]
      exact fronted.own

end Fronted

/-- A session with a fresh counter that is retried. -/
structure Retrying (s : Subscriber) (session : BusySession) : Prop where
  fronted : Fronted s.ID session
  due : session.outcomes.length ≤ 4 → 0 < session.service.retriesDue

theorem Retrying.opened {s : Subscriber} {σ : Emergency}
    (single : σ.machine.mEnforceSingleSubscriber = false)
    (unlisted : ∀ e ∈ σ.machine.mSubscribers, e.equals s = false)
    (released : σ.machine.mStatePtr = .released) (fresh : σ.machine.mRetries = 0) :
    Retrying s (.opened s busyAnswer σ) := by
  have counting : Counting 0 σ.machine [] := ⟨single, released, by rw [fresh]; rfl, by simp⟩
  have first : retryCallback (σ.machine.addSubscriber s) = some s.ID := by
    rcases retryCallback_added σ.machine s with ⟨-, added⟩ | ⟨⟨e, member, listed⟩, -⟩
    · exact added
    · rw [unlisted e member] at listed
      cases listed
  obtain ⟨fronted, -, due⟩ :=
    Fronted.start counting (show [].length ≤ 4 from Nat.zero_le 4) (busyCall_opened s σ) first
  exact ⟨fronted, due⟩

theorem Retrying.step {s : Subscriber} {σ : Emergency} {before after : BusySession}
    {label : Emergency.Label} (retrying : Retrying s before) (begun : 0 < before.outcomes.length)
    (alone : before.alone s label) (taken : (busySession s σ).step before label = some after) :
    Retrying s after ∧ 0 < after.outcomes.length := by
  obtain ⟨-, ⟨machine, outs, -, due⟩ | ⟨operation, call⟩⟩ := busySession_step taken
  · rw [outs]
    refine ⟨⟨⟨?_, ?_, ?_⟩, ?_⟩, begun⟩
    · rw [machine, outs]
      exact retrying.fronted.counting
    · rw [machine, outs]
      exact retrying.fronted.front
    · rw [outs]
      exact retrying.fronted.own
    · rw [outs]
      intro left
      exact Nat.lt_of_lt_of_le (retrying.due left) (due s.ID (retrying.fronted.front left))
  · obtain ⟨fronted, longer, due⟩ := retrying.fronted.call call
      (fun left other same => alone ⟨begun, left⟩ other ((call.subscribes other).mpr same))
    exact ⟨⟨fronted, fun left => due left (retrying.due (by omega))⟩, by omega⟩

theorem Retrying.fallsBack {s : Subscriber} {session : BusySession}
    (retrying : Retrying s session) : session.FallsBack s := by
  have counting := retrying.fronted.counting
  refine ⟨?_, retrying.fronted.own, ?_⟩
  · intro i early outcome found
    have fell := counting.outcomes i outcome found
    rw [max_toNat] at early
    cases outcome with
    | none => rfl
    | some handle =>
        have last := fell.mp rfl
        omega
  · rintro ⟨-, left⟩
    refine ⟨retrying.due left, retrying.fronted.front left, ?_⟩
    intro beyond
    rw [(counting.subscribed (.ds s.ID false beyond)).1.outcome]
    exact List.cons_ne_nil _ _

/-- Nothing is started: the machine waits for an answer or has its data call. -/
structure Waiting (m : AgpsStateMachine) : Prop where
  single : m.mEnforceSingleSubscriber = false
  held : m.mStatePtr = .pending ∨ m.mStatePtr = .acquired

theorem Waiting.call {m : AgpsStateMachine} (waiting : Waiting m) {operation : Operation}
    {s : Subscriber} (served : serves s (perform busyAnswer m operation) = true) :
    Waiting (perform busyAnswer m operation) ∧
      Agps.outcomes (perform busyAnswer m operation).out = [] := by
  have single := perform_single busyAnswer waiting.single operation
  have active := serves_active served
  rcases perform_cases busyAnswer waiting.single operation with
    ⟨event, called, -⟩ | ⟨state, -, -, idle⟩
  · rw [called] at single active ⊢
    obtain ⟨held, quiet⟩ := served_quiet (m := m.cleared) quiet_nil waiting.held active
    exact ⟨⟨single, held⟩, outcomes_quiet quiet⟩
  · have held := waiting.held
    rw [← state] at held
    exact ⟨⟨single, held⟩, outcomes_quiet idle.quiet⟩

/-- A session that joins a data call starts nothing of its own. -/
theorem waiting_outcomes {s : Subscriber} {σ : Emergency} (waiting : Waiting σ.machine)
    (unlisted : ∀ e ∈ σ.machine.mSubscribers, e.equals s = false) {session : BusySession}
    (run : (busySession s σ).Reachable session) :
    Waiting session.service.machine ∧ session.outcomes = [] := by
  refine run.invariant
    (fun session => Waiting session.service.machine ∧ session.outcomes = []) ?_ ?_
  · rintro session rfl
    exact waiting.call (subscribe_serves busyAnswer waiting.single (.inr unlisted))
  · intro before label after _ ⟨still, nothing⟩ _ taken
    obtain ⟨served, ⟨machine, outs, -⟩ | ⟨operation, call⟩⟩ := busySession_step taken
    · rw [machine, outs]
      exact ⟨still, nothing⟩
    · rw [call.outcomes, nothing]
      rw [call.called] at served ⊢
      exact still.call served

theorem waiting_fallsBack {s : Subscriber} {session : BusySession}
    (none : session.outcomes = []) : session.FallsBack s := by
  refine ⟨?_, ?_, ?_⟩
  · intro i _ outcome found
    rw [none] at found
    cases found
  · intro outcome found
    rw [none] at found
    cases found
  · rintro ⟨begun, -⟩
    rw [none] at begun
    cases begun

/-- What a fresh counter gives a session as long as it is alone. -/
theorem session_of_fresh {s : Subscriber} {σ : Emergency}
    (single : σ.machine.mEnforceSingleSubscriber = false)
    (unlisted : ∀ e ∈ σ.machine.mSubscribers, e.equals s = false) (fresh : σ.FreshCounter)
    {session : BusySession}
    (run : (busySession s σ).ReachableUnder (BusySession.alone s) session) :
    session.outcomes = [] ∨ Retrying s session := by
  unfold Emergency.FreshCounter at fresh
  cases state : σ.machine.mStatePtr with
  | released =>
      rw [state] at fresh
      refine .inr (run.invariant
        (fun session => Retrying s session ∧ 0 < session.outcomes.length) ?_ ?_).1
      · rintro session rfl
        have first : Counting 0 σ.machine [] := ⟨single, state, by rw [fresh]; rfl, by simp⟩
        refine ⟨.opened single unlisted state fresh, ?_⟩
        exact Nat.lt_of_lt_of_eq Nat.one_pos
          (congrArg List.length (first.subscribed s).1.outcome).symm
      · intro before label after _ ⟨retrying, begun⟩ alone taken
        exact retrying.step begun alone taken
  | releasing =>
      rw [state] at fresh
      exact fresh.elim
  | pending | acquired =>
      exact .inl (waiting_outcomes ⟨single, by simp [state]⟩ unlisted run.unguarded).2

/-- A fresh counter is enough: the whole budget is there, however the session goes on. -/
theorem hasBudget_of_fresh {s : Subscriber} {σ : Emergency}
    (single : σ.machine.mEnforceSingleSubscriber = false)
    (unlisted : ∀ e ∈ σ.machine.mSubscribers, e.equals s = false) (fresh : σ.FreshCounter) :
    σ.HasBudget s := by
  intro session run
  rcases session_of_fresh single unlisted fresh run with none | retrying
  · exact waiting_fallsBack none
  · exact retrying.fallsBack

/-- From the released state a session can go on for as long as the modem is busy. -/
theorem counting_goes_on {s : Subscriber} {σ : Emergency} {first : Nat}
    (counting : Counting first σ.machine [])
    (unlisted : ∀ e ∈ σ.machine.mSubscribers, e.equals s = false) (n : Nat) :
    ∃ session, (busySession s σ).ReachableUnder (BusySession.alone s) session ∧
      serves s session.service.machine = true ∧
      Counting first session.service.machine session.outcomes ∧
      session.outcomes.length = n + 1 := by
  induction n with
  | zero =>
      refine ⟨_, .start rfl, subscribe_serves busyAnswer counting.single (.inr unlisted),
        counting.call (.subscribeRsrc s), ?_⟩
      exact congrArg List.length (counting.subscribed s).1.outcome
  | succ n ih =>
      obtain ⟨before, run, served, held, length⟩ := ih
      obtain ⟨taken, still⟩ := @again_step s σ before held.single served
      refine ⟨_, .next run ?_ taken, still, held.call (.subscribeRsrc s), ?_⟩
      · rintro - other same
        obtain rfl := Option.some.inj same
        exact .inl rfl
      · rw [BusySession.again, List.length_append, length]
        exact congrArg (fun outs => n + 1 + outs.length) (held.subscribed s).1.outcome

/-- With retries counted before it, a session from the released state comes up short. -/
theorem fresh_of_hasBudget_released {s : Subscriber} {σ : Emergency}
    (single : σ.machine.mEnforceSingleSubscriber = false) (within : WithinBudget σ.machine)
    (unlisted : ∀ e ∈ σ.machine.mSubscribers, e.equals s = false)
    (released : σ.machine.mStatePtr = .released) (budget : σ.HasBudget s) :
    σ.machine.mRetries = 0 := by
  have most := within.toNat
  have first : Counting σ.machine.mRetries.toNat σ.machine [] :=
    ⟨single, released, by simp only [List.length_nil]; omega, by simp⟩
  by_contra used
  have some' : σ.machine.mRetries.toNat ≠ 0 := fun zero => used (BitVec.eq_of_toNat_eq zero)
  obtain ⟨session, run, -, counting, length⟩ :=
    counting_goes_on first unlisted (4 - σ.machine.mRetries.toNat)
  have inside : 4 - σ.machine.mRetries.toNat < session.outcomes.length := by omega
  have found := List.getElem?_eq_getElem inside
  have fell := (counting.outcomes _ _ found).mpr (by omega)
  have late := (budget session run).early _ (by rw [max_toNat]; omega) _ found
  rw [late] at fell
  cases fell

/-- What the end of a release, reported by the modem, leaves to be served. -/
theorem released_serves {answer : StartAnswer} {s : Subscriber} {m : AgpsStateMachine}
    (releasing : m.mStatePtr = .releasing) (served : serves s m = true) :
    serves s (m.onStateEvent (DSStateMachine.sendRsrcRequest answer) .released) = true := by
  unfold AgpsStateMachine.onStateEvent
  rw [releasing]
  unfold serves at served ⊢
  simp only [releasingOnRsrcEvent]
  rw [releasingFinish_mSubscribers answer rfl, List.any_filter]
  obtain ⟨e, member, own⟩ := List.any_eq_true.mp served
  refine List.any_eq_true.mpr ⟨e, member, ?_⟩
  rw [Bool.and_eq_true] at own ⊢
  exact ⟨own.2, Bool.and_eq_true _ _ ▸ own⟩

/-- A session that is opened while the data call is released, and sees the release end:
its start falls back at once, or leaves the machine waiting for a data call that
nobody makes. -/
theorem releasing_session {s : Subscriber} {σ : Emergency}
    (single : σ.machine.mEnforceSingleSubscriber = false)
    (unlisted : ∀ e ∈ σ.machine.mSubscribers, e.equals s = false)
    (releasing : σ.machine.mStatePtr = .releasing) :
    ∃ session outcome, (busySession s σ).ReachableUnder (BusySession.alone s) session ∧
      serves s session.service.machine = true ∧ Waiting session.service.machine ∧
      session.outcomes = [outcome] := by
  let opened := BusySession.opened s busyAnswer σ
  have served : serves s opened.service.machine = true :=
    subscribe_serves busyAnswer single (.inr unlisted)
  have added : opened.service.machine =
      { σ.machine.cleared.addSubscriber s with mStatePtr := .releasing } := by
    have called := perform_subscribe busyAnswer single s
    have state : σ.machine.cleared.mStatePtr = .releasing := releasing
    unfold AgpsStateMachine.onStateEvent at called
    rw [state] at called
    exact called
  have kept : opened.service.machine.mEnforceSingleSubscriber = false :=
    perform_single busyAnswer single _
  have closing : opened.service.machine.cleared.mStatePtr = .releasing := by rw [added]
  have nothing : opened.outcomes = [] := by
    have quiet : opened.service.machine.out = [] := by
      rw [added]
      exact σ.machine.cleared.addSubscriber_out s
    exact congrArg Agps.outcomes quiet
  have ended : perform busyAnswer opened.service.machine (.onRsrcEvent .released) =
      opened.service.machine.cleared.onStateEvent
        (DSStateMachine.sendRsrcRequest busyAnswer) .released := by
    have same := onRsrcEvent_eq busyAnswer .released opened.service.machine.cleared
    rw [closing] at same
    exact same
  have still := @released_serves busyAnswer s _ closing served
  obtain ⟨pending, start⟩ := releasing_busy rfl quiet_nil closing (serves_active still)
  rw [← ended] at still pending start
  let service := opened.service.settle
    (perform busyAnswer opened.service.machine (.onRsrcEvent .released))
  have taken : (busySession s σ).step opened (.call (.onRsrcEvent .released) busyAnswer) =
      some ⟨service, opened.outcomes ++ Agps.outcomes service.machine.out⟩ := by
    have busy : (Emergency.Label.call (.onRsrcEvent .released) busyAnswer).busy = true := rfl
    simp only [busySession, busy, if_true]
    exact if_pos still
  have one : opened.outcomes ++ Agps.outcomes service.machine.out =
      [if spent opened.service.machine.cleared.mRetries then some (connHandle service.machine)
        else none] := by
    rw [nothing]
    exact start.outcome
  refine ⟨_, _, .next (.start rfl) ?_ taken, still,
    ⟨perform_single busyAnswer kept _, .inl pending⟩, one⟩
  rintro - other subscribes
  cases subscribes

theorem not_releasing_of_hasBudget {s : Subscriber} {σ : Emergency}
    (single : σ.machine.mEnforceSingleSubscriber = false)
    (unlisted : ∀ e ∈ σ.machine.mSubscribers, e.equals s = false)
    (releasing : σ.machine.mStatePtr = .releasing) : ¬ σ.HasBudget s := by
  intro budget
  obtain ⟨session, outcome, run, served, waiting, one⟩ :=
    releasing_session single unlisted releasing
  have retrying : session.retrying := by
    rw [BusySession.retrying, one]
    exact ⟨Nat.one_pos, show 1 ≤ 4 by decide⟩
  obtain ⟨-, -, starts⟩ := (budget session run).retried retrying
  have still := serves_subscribe busyAnswer waiting.single served
    (.ds s.ID false (Vector.replicate 16 0))
  exact starts _ (waiting.call still).2

/-- A session that falls back on `handle` can go on until it has. -/
theorem fronted_goes_on {s : Subscriber} {σ : Emergency} {handle : BitVec 32} (n : Nat)
    {session : BusySession} (fronted : Fronted handle session)
    (served : serves s session.service.machine = true)
    (left : session.outcomes.length + n = 5) :
    ∃ later, ((busySession s σ).startingAt session).Reachable later ∧
      later.outcomes[4]? = some (some handle) := by
  induction n generalizing session with
  | zero =>
      have found := List.getElem?_eq_getElem (show 4 < session.outcomes.length by omega)
      exact ⟨session, .start rfl, found.trans (congrArg some (fronted.own _ found))⟩
  | succ n ih =>
      obtain ⟨taken, still⟩ := @again_step s σ session fronted.counting.single served
      have listed : ∃ e ∈ session.service.machine.mSubscribers, e.equals s = true := by
        obtain ⟨e, member, own⟩ := List.any_eq_true.mp served
        exact ⟨e, member, (Bool.and_eq_true _ _ ▸ own).1⟩
      obtain ⟨-, ⟨machine, -, subscribes, -⟩ | ⟨operation, call⟩⟩ := busySession_step taken
      · cases subscribes
      · obtain rfl := (call.subscribes s).mp rfl
        have first : retryCallback (session.service.machine.addSubscriber s) = some handle := by
          rcases retryCallback_added session.service.machine s with ⟨absent, -⟩ | ⟨-, kept⟩
          · obtain ⟨e, member, same⟩ := listed
            rw [absent e member] at same
            cases same
          · exact kept.trans (fronted.front (by omega))
        obtain ⟨next, length, -⟩ :=
          Fronted.start fronted.counting (show session.outcomes.length ≤ 4 by omega) call first
        obtain ⟨later, run, fell⟩ := ih next still (by omega)
        have moved : ((busySession s σ).startingAt session).step session
            (.call (.subscribeRsrc s) busyAnswer) = some (session.again s) := taken
        exact ⟨later, System.Reachable.trans (.next (.start rfl) trivial moved) run, fell⟩

/-- A session that another one overtakes can go on to hand over the other's handle. -/
theorem overtaken {s : Subscriber} {σ : Emergency}
    (single : σ.machine.mEnforceSingleSubscriber = false)
    (unlisted : ∀ e ∈ σ.machine.mSubscribers, e.equals s = false) (fresh : σ.FreshCounter)
    {session after : BusySession} {label : Emergency.Label}
    (run : (busySession s σ).ReachableUnder (BusySession.alone s) session)
    (taken : (busySession s σ).step session label = some after) (met : ¬ session.alone s label) :
    ∃ later, ((busySession s σ).startingAt after).Reachable later ∧ ¬ later.FallsBack s := by
  unfold BusySession.alone at met
  simp only [Classical.not_imp, not_forall, not_or, not_exists, not_and] at met
  obtain ⟨⟨begun, left⟩, other, subscribes, handle, unlisted'⟩ := met
  rcases session_of_fresh single unlisted fresh run with nothing | retrying
  · rw [nothing] at begun
    cases begun
  · obtain ⟨served, ⟨-, -, idle, -⟩ | ⟨operation, call⟩⟩ := busySession_step taken
    · rw [idle] at subscribes
      cases subscribes
    · obtain rfl := (call.subscribes other).mp subscribes
      have first : retryCallback (session.service.machine.addSubscriber other) =
          some other.ID := by
        rcases retryCallback_added session.service.machine other with ⟨-, added⟩ | ⟨listed, -⟩
        · exact added
        · obtain ⟨e, member, same⟩ := listed
          exact absurd same (unlisted' e member)
      obtain ⟨fronted, length, -⟩ :=
        Fronted.start retrying.fronted.counting left call first
      rw [max_toNat] at left
      obtain ⟨later, on, fell⟩ := @fronted_goes_on s σ other.ID
        (4 - session.outcomes.length) after fronted served (by omega)
      refine ⟨later, on, ?_⟩
      intro falls
      exact handle (Option.some.inj (falls.own _ fell))

/-- A start whose retry timer cannot be started leaves none behind. -/
theorem untimed {m : AgpsStateMachine} (single : m.mEnforceSingleSubscriber = false)
    (released : m.mStatePtr = .released) (s : Subscriber) :
    timersStarted (perform ⟨LOC_API_ADAPTER_ERR_ENGINE_BUSY, false⟩ m (.subscribeRsrc s)).out =
      0 := by
  have state : m.cleared.mStatePtr = .released := released
  have clear : (m.cleared.addSubscriber s).out = [] := m.cleared.addSubscriber_out s
  rw [perform_subscribe _ single]
  unfold AgpsStateMachine.onStateEvent
  rw [state]
  simp only [releasedOnRsrcEvent]
  split <;>
    rcases start_cases ⟨LOC_API_ADAPTER_ERR_ENGINE_BUSY, false⟩ (m.cleared.addSubscriber s) with
      ⟨-, _, sent⟩ | ⟨-, -, sent⟩ | ⟨-, -, sent⟩ <;>
    rw [sent, clear] <;> rfl

/-- A session whose first retry timer cannot be started is not retried, unless by a retry
of an earlier one. -/
theorem untimed_opened {s : Subscriber} {σ : Emergency}
    (single : σ.machine.mEnforceSingleSubscriber = false)
    (released : σ.machine.mStatePtr = .released) (nothing : σ.retriesDue = 0) :
    ¬ (BusySession.opened s ⟨LOC_API_ADAPTER_ERR_ENGINE_BUSY, false⟩ σ).FallsBack s := by
  intro falls
  obtain ⟨-, ⟨other, same, start, -⟩ | ⟨other, -⟩⟩ :=
    @released_call ⟨LOC_API_ADAPTER_ERR_ENGINE_BUSY, false⟩ σ.machine rfl single released
      (.subscribeRsrc s)
  · have one : (BusySession.opened s ⟨LOC_API_ADAPTER_ERR_ENGINE_BUSY, false⟩ σ).outcomes.length =
        1 := congrArg List.length start.outcome
    obtain ⟨due, -⟩ := falls.retried (by rw [BusySession.retrying, one]; decide)
    have none' := untimed single released s
    simp only [BusySession.opened, Emergency.settle, Emergency.retriesDue] at due nothing
    omega
  · exact absurd rfl (other s)

/-- In every reachable state the counter is within its budget. A session that a
subscription opens falls back on its own handle, after one busy answer more than there
are retries and not before, however it goes on alone, exactly if the counter is fresh
when the subscription comes. If it is fresh, any step in which another session is newly
subscribed before can lead to a session that does not; and so does a first retry timer
that cannot be started. -/
theorem retry_budget_iff {σ : Emergency} (run : emergency.Reachable σ) {s : Subscriber}
    (unlisted : ∀ e ∈ σ.machine.mSubscribers, e.equals s = false) :
    σ.machine.mRetries ≤ MAX_START_DATA_CALL_RETRIES ∧ (σ.HasBudget s ↔ σ.FreshCounter) ∧
    (σ.FreshCounter → ∀ session label after,
      (busySession s σ).ReachableUnder (BusySession.alone s) session →
      (busySession s σ).step session label = some after → ¬ session.alone s label →
      ∃ later, ((busySession s σ).startingAt after).Reachable later ∧ ¬ later.FallsBack s) ∧
    (σ.machine.mStatePtr = .released → σ.retriesDue = 0 →
      ¬ (BusySession.opened s ⟨LOC_API_ADAPTER_ERR_ENGINE_BUSY, false⟩ σ).FallsBack s) := by
  obtain ⟨single, within⟩ := emergency_within run
  refine ⟨within, ⟨?_, hasBudget_of_fresh single unlisted⟩, ?_, untimed_opened single⟩
  · intro budget
    unfold Emergency.FreshCounter
    cases state : σ.machine.mStatePtr with
    | released => exact fresh_of_hasBudget_released single within unlisted state budget
    | releasing => exact not_releasing_of_hasBudget single unlisted state budget
    | pending | acquired => trivial
  · intro fresh session label after reached taken met
    exact overtaken single unlisted fresh reached taken met

/-- The first session of a data service has its whole budget. -/
theorem retry_budget_first :
    (⟨DSStateMachine.new, 0, [], none⟩ : Emergency).HasBudget
      (.ds 7 false (Vector.replicate 16 0)) :=
  ((retry_budget_iff (.start rfl)
    (fun _ member => absurd member List.not_mem_nil)).2.1).mpr rfl

/-- A session whose third start succeeds is granted and ends. The next one falls back
after its third busy answer. And the fifth busy answer to a session that is overtaken
hands over the handle of the other. -/
theorem retry_budget_carried :
    (¬ ∀ σ s, emergency.Reachable σ → (∀ e ∈ σ.machine.mSubscribers, e.equals s = false) →
      σ.HasBudget s) ∧
    ∃ session, (busySession (.ds 7 false (Vector.replicate 16 0))
        ⟨DSStateMachine.new, 0, [], none⟩).Reachable session ∧
      session.outcomes = [none, none, none, none, some 8] := by
  refine ⟨?_, ?_⟩
  · intro every
    let ds := Subscriber.ds 5 false (Vector.replicate 16 0)
    let success : StartAnswer := ⟨LOC_API_ADAPTER_ERR_SUCCESS, true⟩
    have start : emergency.initial ⟨DSStateMachine.new, 0, [], none⟩ := rfl
    obtain ⟨σ, run, seen⟩ := System.reachable_of_exec start
      [.call (.subscribeRsrc ds) busyAnswer, .call (.subscribeRsrc ds) busyAnswer,
        .call (.subscribeRsrc ds) success, .call (.onRsrcEvent .granted) success,
        .call (.unsubscribeRsrc ds) success, .call (.onRsrcEvent .released) success]
      (fun σ => σ.machine.mStatePtr == .released && σ.machine.mSubscribers == [] &&
        σ.machine.mRetries == 2) (by decide)
    simp only [Bool.and_eq_true, beq_iff_eq] at seen
    obtain ⟨⟨released, empty⟩, used⟩ := seen
    obtain ⟨single, within⟩ := emergency_within run
    have unlisted : ∀ e ∈ σ.machine.mSubscribers,
        e.equals (.ds 7 false (Vector.replicate 16 0)) = false := by
      rw [empty]
      exact fun _ member => absurd member List.not_mem_nil
    have none := fresh_of_hasBudget_released single within unlisted released
      (every σ _ run unlisted)
    rw [used] at none
    exact absurd none (by decide)
  · let ds := Subscriber.ds 8 false (Vector.replicate 16 0)
    have opened : (busySession (.ds 7 false (Vector.replicate 16 0))
        ⟨DSStateMachine.new, 0, [], none⟩).initial
        (.opened (.ds 7 false (Vector.replicate 16 0)) busyAnswer
          ⟨DSStateMachine.new, 0, [], none⟩) := rfl
    obtain ⟨session, run, seen⟩ := System.reachable_of_exec opened
      [.call (.subscribeRsrc ds) busyAnswer, .call (.subscribeRsrc ds) busyAnswer,
        .call (.subscribeRsrc ds) busyAnswer, .call (.subscribeRsrc ds) busyAnswer]
      (fun session => session.outcomes == [none, none, none, none, some 8]) (by decide)
    exact ⟨session, run, beq_iff_eq.mp seen⟩

end A5Common.Agps
