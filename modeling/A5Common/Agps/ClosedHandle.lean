import A5Common.Agps.RetryBudget

set_option autoImplicit false

namespace A5Common.Agps

open A5Common.Run DSStateMachine

/-- The handle that a request for a connection, or the report of an open one, is for. -/
def Action.addressed? : Action → Option (BitVec 32)
  | .requestATL connHandle _ => some connHandle
  | .atlOpenStatus handle _ _ _ _ => some handle
  | _ => none

def traffic (actions : List Action) : List (BitVec 32) := actions.filterMap Action.addressed?

/-- The handle that is reported closed. -/
def Action.closed? : Action → Option (BitVec 32)
  | .atlCloseStatus handle _ => some handle
  | _ => none

def closes (actions : List Action) : List (BitVec 32) := actions.filterMap Action.closed?

/-- The list of a DSStateMachine. -/
def AllDS (list : List Subscriber) : Prop := ∀ e ∈ list, e.kind = .ds

theorem AllDS.filter {list : List Subscriber} (all : AllDS list) (keep : Subscriber → Bool) :
    AllDS (list.filter keep) :=
  fun e member => all e (List.mem_filter.mp member).1

theorem AllDS.addSubscriber {m : AgpsStateMachine} (all : AllDS m.mSubscribers) {s : Subscriber}
    (ds : s.kind = .ds) : AllDS (m.addSubscriber s).mSubscribers := by
  rcases m.addSubscriber_cases s with ⟨-, added⟩ | ⟨-, kept⟩
  · rw [added]
    intro e member
    rcases List.mem_cons.mp member with rfl | older
    · rw [Subscriber.kind_clone, ds]
    · exact all e older
  · rw [kept]
    exact all

theorem AllDS.notifySubscribers {m : AgpsStateMachine} (all : AllDS m.mSubscribers)
    {notification : Notification} (known : notification.rsrcStatus.known = true) :
    AllDS (m.notifySubscribers notification).mSubscribers := by
  rw [m.notifySubscribers_eq notification known]
  dsimp only
  split
  · exact all.filter _
  · exact all

theorem AllDS.unsubscribeEntry {m : AgpsStateMachine} (all : AllDS m.mSubscribers)
    (position : Nat) : AllDS (unsubscribeEntry position m).mSubscribers := by
  cases listed : m.mSubscribers[position]? with
  | none => simpa only [Agps.unsubscribeEntry, listed] using all
  | some s =>
      rcases unsubscribeEntry_cases listed with ⟨-, marked⟩ | ⟨-, removed⟩
      · rw [marked, m.setInactive_mSubscribers]
        intro e member
        obtain ⟨original, older, same | same⟩ := mem_modify_markInactive member
        · rw [same]
          exact all original older
        · rw [same, Subscriber.kind_markInactive]
          exact all original older
      · rw [removed]
        exact all.notifySubscribers rfl

theorem AllDS.onStateEvent {send : SendRsrcRequest} (frames : send.Frames) {m : AgpsStateMachine}
    (all : AllDS m.mSubscribers) {event : RsrcEvent}
    (ds : ∀ s, event = .subscribe s → s.kind = .ds) :
    AllDS (m.onStateEvent send event).mSubscribers := by
  unfold AgpsStateMachine.onStateEvent
  cases m.mStatePtr with
  | released =>
      cases event with
      | subscribe s =>
          simp only [releasedOnRsrcEvent]
          split <;>
          · rw [frames.mSubscribers]
            exact all.addSubscriber (ds s rfl)
      | unsubscribe position =>
          simp only [releasedOnRsrcEvent]
          split
          · simpa using all
          · exact all
      | granted | released | denied => exact all
  | pending =>
      cases event with
      | subscribe s => exact all.addSubscriber (ds s rfl)
      | unsubscribe position =>
          simp only [pendingOnRsrcEvent, releaseIfUnused_mSubscribers frames]
          exact all.unsubscribeEntry position
      | granted | denied => exact all.notifySubscribers rfl
      | released => exact all
  | acquired =>
      cases event with
      | subscribe s =>
          have told : AllDS (m.notifyRsrcStatus s
              (.unicast s .granted false)).2.mSubscribers := by
            rw [m.notifyRsrcStatus_mSubscribers]
            exact all
          exact told.addSubscriber (ds s rfl)
      | unsubscribe position =>
          simp only [acquiredOnRsrcEvent, releaseIfUnused_mSubscribers frames]
          exact all.unsubscribeEntry position
      | granted | denied => exact all
      | released => exact all.notifySubscribers rfl
  | releasing =>
      have finish : ∀ {status : AgpsRsrcStatus}, status.known = true →
          AllDS (releasingFinish send status m).1.mSubscribers := by
        intro status known
        have told : AllDS (m.notifySubscribers
            (.broadcast .inactive status true)).mSubscribers := all.notifySubscribers known
        unfold releasingFinish
        dsimp only
        split
        · rw [frames.mSubscribers]
          exact told
        · exact told
      cases event with
      | subscribe s => exact all.addSubscriber (ds s rfl)
      | unsubscribe position =>
          simp only [releasingOnRsrcEvent]
          split <;> exact all.unsubscribeEntry position
      | granted => exact all
      | released => exact finish rfl
      | denied => exact finish rfl

theorem unsubscribe_silent : Silent Action.addressed? .unsubscribe := by
  intro m s
  cases s <;> rfl

theorem released_silent : Silent Action.addressed? .released := by
  intro m s
  cases s <;> rfl

/-- A grant and a denial address the DS subscriber that is told of them. -/
theorem reports_addressed (m : AgpsStateMachine) {s : Subscriber} (ds : s.kind = .ds)
    {status : AgpsRsrcStatus} (loud : status = .granted ∨ status = .denied) :
    (m.reports s status).filterMap Action.addressed? = [s.ID] := by
  cases s with
  | ds ID mIsInactive beyond => rcases loud with rfl | rfl <;> rfl
  | bit | atl | wifi => cases ds

theorem notifySubscribers_traffic {m : AgpsStateMachine} (all : AllDS m.mSubscribers)
    {notification : Notification}
    (loud : notification.rsrcStatus = .granted ∨ notification.rsrcStatus = .denied) :
    traffic (m.notifySubscribers notification).out = traffic m.out ++
      (m.mSubscribers.filter (·.forMe notification)).map Subscriber.ID := by
  have known : notification.rsrcStatus.known = true := by
    rcases loud with loud | loud <;> rw [loud] <;> rfl
  have told : ∀ list, AllDS list →
      traffic (list.flatMap (fun s => m.reports s notification.rsrcStatus)) =
        list.map Subscriber.ID := by
    intro list
    induction list with
    | nil => exact fun _ => rfl
    | cons s rest ih =>
        intro own
        have first := reports_addressed m (own s List.mem_cons_self) loud
        have tail := ih (fun e member => own e (List.mem_cons_of_mem s member))
        unfold traffic at tail ⊢
        rw [List.flatMap_cons, List.filterMap_append, first, tail]
        rfl
  rw [m.notifySubscribers_out notification known]
  have listed := told _ (all.filter (·.forMe notification))
  unfold traffic at listed ⊢
  rw [List.filterMap_append, listed]

/-- Only a start that falls back asks for a connection. -/
theorem start_traffic (answer : StartAnswer) (m : AgpsStateMachine) :
    traffic (DSStateMachine.sendRsrcRequest answer .requestAgpsDataConn m).1.out =
      traffic m.out ++ if fallsBack answer m.mRetries then [connHandle m] else [] := by
  unfold traffic
  rcases start_cases answer m with ⟨lost, _, sent⟩ | ⟨kept, -, sent⟩ | ⟨kept, -, sent⟩
  · rw [sent, if_pos lost, List.filterMap_append]
    rfl
  · rw [sent, if_neg kept, List.filterMap_append]
    rfl
  · rw [sent, if_neg kept, List.filterMap_append]
    rfl

/-- An unsubscription addresses nobody. -/
theorem unsubscribe_traffic (answer : StartAnswer) (position : Nat) (m : AgpsStateMachine) :
    traffic (m.onStateEvent (DSStateMachine.sendRsrcRequest answer) (.unsubscribe position)).out =
      traffic m.out := by
  have entry : traffic (unsubscribeEntry position m).out = traffic m.out :=
    unsubscribeEntry_silent unsubscribe_silent position m
  have release : ∀ stay,
      traffic (releaseIfUnused (DSStateMachine.sendRsrcRequest answer) stay
        (unsubscribeEntry position m)).1.out = traffic m.out := by
    intro stay
    have stopped : traffic (DSStateMachine.sendRsrcRequest answer .releaseAgpsDataConn
        (unsubscribeEntry position m)).1.out = traffic m.out := by
      rw [release_eq, AgpsStateMachine.emit_out, ← entry]
      unfold traffic
      rw [List.filterMap_append]
      exact List.append_nil _
    unfold releaseIfUnused
    split
    · exact stopped
    · split
      · exact stopped
      · exact entry
  unfold AgpsStateMachine.onStateEvent
  cases m.mStatePtr with
  | released =>
      simp only [releasedOnRsrcEvent]
      split
      · exact notifyRsrcStatus_silent unsubscribe_silent m _
      · rfl
  | pending | acquired => exact release _
  | releasing =>
      simp only [releasingOnRsrcEvent]
      split <;> exact entry

/-- A subscription addresses its own subscriber, when there is a data call already, or
whoever a start that falls back picks. -/
theorem subscribe_traffic (answer : StartAnswer) {s : Subscriber} (ds : s.kind = .ds)
    {m : AgpsStateMachine} (clear : m.out = []) :
    traffic (m.onStateEvent (DSStateMachine.sendRsrcRequest answer) (.subscribe s)).out =
      match m.mStatePtr with
      | .released => if fallsBack answer m.mRetries then [connHandle (m.addSubscriber s)] else []
      | .acquired => [s.ID]
      | .pending | .releasing => [] := by
  have added : traffic (m.addSubscriber s).out = [] := by
    rw [m.addSubscriber_out, clear]
    rfl
  unfold AgpsStateMachine.onStateEvent
  cases m.mStatePtr with
  | released =>
      have sent := start_traffic answer (m.addSubscriber s)
      rw [added, List.nil_append, addSubscriber_mRetries] at sent
      simp only [releasedOnRsrcEvent]
      split <;> exact sent
  | pending | releasing => exact added
  | acquired =>
      have told := reports_addressed m ds (.inl rfl)
      have own : (m.notifyRsrcStatus s (.unicast s .granted false)).2 = m.inform s .granted := by
        unfold AgpsStateMachine.notifyRsrcStatus
        rw [Subscriber.forMe_unicast, Subscriber.equals_self]
        rfl
      simp only [acquiredOnRsrcEvent, AgpsStateMachine.addSubscriber_out, own]
      unfold traffic
      rw [AgpsStateMachine.inform_out, clear]
      exact told

/-- The start at the end of a release is for the first active subscriber. -/
theorem connHandle_inactive_left (m : AgpsStateMachine) {status : AgpsRsrcStatus}
    (known : status.known = true) :
    connHandle (m.notifySubscribers (.broadcast .inactive status true)) = connHandle m := by
  have found : (m.mSubscribers.filter (!·.isInactive)).find? (·.forMe (.searchGroup .active)) =
      m.mSubscribers.find? (·.forMe (.searchGroup .active)) := by
    rw [List.find?_filter]
    congr 1
    funext e
    simp
  unfold connHandle
  rw [m.notifySubscribers_inactive status known, found]

/-- The end of a release addresses the leaving subscribers if it is a denial, and then
the one a start falls back for. -/
theorem releasingFinish_traffic (answer : StartAnswer) {m : AgpsStateMachine}
    (all : AllDS m.mSubscribers) (clear : m.out = []) {event : ServicerEvent}
    {status : AgpsRsrcStatus}
    (closed : status = .released ∧ event = .released ∨ status = .denied ∧ event = .denied) :
    traffic (releasingFinish (DSStateMachine.sendRsrcRequest answer) status m).1.out =
      (if event = .denied then (m.mSubscribers.filter (·.isInactive)).map Subscriber.ID else []) ++
        if m.hasActiveSubscribers = true ∧ fallsBack answer (retriesAtRestart m event) then
          [connHandle m] else [] := by
  have known : status.known = true := by
    rcases closed with ⟨rfl, -⟩ | ⟨rfl, -⟩ <;> rfl
  have told : traffic (m.notifySubscribers (.broadcast .inactive status true)).out =
      if event = .denied then (m.mSubscribers.filter (·.isInactive)).map Subscriber.ID else [] := by
    rcases closed with ⟨rfl, rfl⟩ | ⟨rfl, rfl⟩
    · have silent := notifySubscribers_silent released_silent
        (show (Notification.broadcast .inactive .released true).rsrcStatus.known = true from rfl) m
      rw [clear] at silent
      exact silent
    · have loud := notifySubscribers_traffic all
        (show (Notification.broadcast .inactive .denied true).rsrcStatus = .granted ∨ _ from
          .inr rfl)
      rw [clear] at loud
      exact loud
  have active : (m.notifySubscribers (.broadcast .inactive status true)).hasActiveSubscribers =
      m.hasActiveSubscribers := by
    rw [AgpsStateMachine.hasActiveSubscribers_eq, AgpsStateMachine.hasActiveSubscribers_eq,
      m.notifySubscribers_inactive status known, List.any_filter]
    simp only [Bool.and_self]
  unfold releasingFinish
  dsimp only
  rw [active]
  by_cases wanted : m.hasActiveSubscribers = true
  · rw [if_pos wanted]
    dsimp only
    rw [start_traffic, told, connHandle_inactive_left m known,
      notifySubscribers_inactive_mRetries m event closed]
    simp [wanted]
  · rw [if_neg wanted]
    dsimp only
    rw [told]
    simp [wanted]

/-- Whom an event of the data service addresses. -/
theorem onRsrcEvent_traffic (answer : StartAnswer) (event : ServicerEvent) {m : AgpsStateMachine}
    (all : AllDS m.mSubscribers) (clear : m.out = []) :
    traffic (DSStateMachine.onRsrcEvent answer event m).out =
      match m.mStatePtr with
      | .released | .acquired => []
      | .pending =>
          (m.mSubscribers.filter fun e => event != .granted || !e.isInactive).map Subscriber.ID
      | .releasing =>
          (if event = .denied then (m.mSubscribers.filter (·.isInactive)).map Subscriber.ID
            else []) ++
          if event ≠ .granted ∧ m.hasActiveSubscribers = true ∧
              fallsBack answer (retriesAtRestart m event) then [connHandle m] else [] := by
  have none : traffic m.out = [] := by
    rw [clear]
    rfl
  rw [onRsrcEvent_eq]
  unfold AgpsStateMachine.onStateEvent
  cases m.mStatePtr with
  | released =>
      cases event <;> exact none
  | acquired =>
      cases event with
      | granted | denied => exact none
      | released =>
          have silent := notifySubscribers_silent released_silent
            (show (Notification.broadcast .all .released true).rsrcStatus.known = true from rfl) m
          rw [clear] at silent
          exact silent
  | pending =>
      have denied : traffic (m.notifySubscribers (.broadcast .all .denied true)).out =
          m.mSubscribers.map Subscriber.ID := by
        have loud := notifySubscribers_traffic all
          (show (Notification.broadcast .all .denied true).rsrcStatus = .granted ∨ _ from .inr rfl)
        have everybody : m.mSubscribers.filter
            (·.forMe (.broadcast .all .denied true)) = m.mSubscribers :=
          List.filter_eq_self.mpr (fun _ _ => rfl)
        rw [none, List.nil_append, everybody] at loud
        exact loud
      cases event with
      | granted =>
          have loud := notifySubscribers_traffic all
            (show (Notification.broadcast .active .granted false).rsrcStatus = .granted ∨ _ from
              .inl rfl)
          rw [none, List.nil_append] at loud
          exact loud
      | released | denied =>
          have everybody : m.mSubscribers.filter (fun _ => true) = m.mSubscribers :=
            List.filter_eq_self.mpr (fun _ _ => rfl)
          exact denied.trans (congrArg (List.map Subscriber.ID) everybody.symm)
  | releasing =>
      cases event with
      | granted => simpa [effective, ServicerEvent.toRsrcEvent, releasingOnRsrcEvent] using none
      | released =>
          refine (releasingFinish_traffic answer all clear (.inl ⟨rfl, rfl⟩)).trans ?_
          simp
      | denied =>
          refine (releasingFinish_traffic answer all clear (.inr ⟨rfl, rfl⟩)).trans ?_
          simp

theorem AllDS.perform {m : AgpsStateMachine} (all : AllDS m.mSubscribers)
    (single : m.mEnforceSingleSubscriber = false) (answer : StartAnswer) {operation : Operation}
    (ds : ∀ s, operation = .subscribeRsrc s → s.kind = .ds) :
    AllDS (perform answer m operation).mSubscribers := by
  have frames := DSStateMachine.sendRsrcRequest_frames answer
  have clear : AllDS m.cleared.mSubscribers := all
  cases operation with
  | subscribeRsrc s =>
      rw [perform_subscribe answer single]
      refine clear.onStateEvent frames fun other same => ?_
      cases same
      exact ds s rfl
  | unsubscribeRsrc s =>
      simp only [DSStateMachine.perform]
      rcases m.cleared.unsubscribeRsrc_cases (DSStateMachine.sendRsrcRequest answer) s with
        ⟨position, -, -, -, -, found⟩ | ⟨-, absent⟩
      · rw [found]
        exact clear.onStateEvent frames (fun other same => by cases same)
      · rw [absent]
        exact all
  | onRsrcEvent event =>
      simp only [DSStateMachine.perform, onRsrcEvent_eq]
      exact clear.onStateEvent frames
        (fun other same => absurd same (effective_ne_subscribe _ _ other))
  | setAPN _ | setBearer _ => exact all

/-- Only DS subscribers are made for a DSStateMachine. -/
def Operation.onDS : Operation → Bool
  | .subscribeRsrc subscriber | .unsubscribeRsrc subscriber => subscriber.kind == .ds
  | .onRsrcEvent _ | .setAPN _ | .setBearer _ => true

def Emergency.Label.onDS : Emergency.Label → Bool
  | .call operation _ => operation.onDS
  | .timerExpiry | .suplEs .. => true

/-- The subscriber of a step that subscribes one. -/
def Emergency.Label.subscribed (σ : Emergency) : Emergency.Label → Option Subscriber
  | .call (.subscribeRsrc s) _ => some s
  | .suplEs beyond _ => σ.suplEs.head?.map (.ds · false beyond)
  | .call .. | .timerExpiry => none

/-- The data service with the handles that have been reported closed, and have not been
subscribed again, and those of them that were addressed all the same. -/
structure ClosedWatch where
  service : Emergency
  closed : List (BitVec 32)
  late : List (BitVec 32)

/-- The handles that stay closed over a step. -/
def ClosedWatch.still (watch : ClosedWatch) (label : Emergency.Label) : List (BitVec 32) :=
  watch.closed.filter fun handle =>
    (label.subscribed watch.service).map Subscriber.ID != some handle

def closedWatch : System ClosedWatch Emergency.Label where
  initial watch := watch = ⟨⟨DSStateMachine.new, 0, [], none⟩, [], []⟩
  step watch label :=
    if label.onDS then
      (emergency.step watch.service label).map fun after =>
        { service := after
          closed := watch.still label ++ closes (label.actions after)
          late := watch.late ++
            (traffic (label.actions after)).filter (watch.still label).contains }
    else none

namespace ClosedWatch

/-- A start for the subscriber does not fall back for somebody else who is closed. -/
def startLeavesClosed (watch : ClosedWatch) (s : Subscriber) (answer : StartAnswer) : Prop :=
  let m := watch.service.machine
  m.mStatePtr = .released → fallsBack answer m.mRetries →
    connHandle (m.addSubscriber s) ∈ watch.closed → connHandle (m.addSubscriber s) = s.ID

/-- Nobody listed is closed whom the event is broadcast to: all by the denial of a
request, the active ones by a grant, the inactive ones by the denial of a release. -/
def broadcastLeavesClosed (watch : ClosedWatch) (event : ServicerEvent) : Prop :=
  let m := watch.service.machine
  (m.mStatePtr = .pending → ∀ e ∈ m.mSubscribers,
    (event = .granted → e.isInactive = false) → e.ID ∉ watch.closed) ∧
  (m.mStatePtr = .releasing → event = .denied → ∀ e ∈ m.mSubscribers,
    e.isInactive = true → e.ID ∉ watch.closed)

/-- The start at the end of a release does not fall back for somebody who is closed. -/
def restartLeavesClosed (watch : ClosedWatch) (event : ServicerEvent) (answer : StartAnswer) :
    Prop :=
  let m := watch.service.machine
  m.mStatePtr = .releasing → event ≠ .granted → m.hasActiveSubscribers = true →
    fallsBack answer (retriesAtRestart m event) → connHandle m ∉ watch.closed

def leavesClosed (watch : ClosedWatch) : Emergency.Label → Prop
  | .call (.subscribeRsrc s) answer => watch.startLeavesClosed s answer
  | .suplEs beyond answer =>
      ∀ mID ∈ watch.service.suplEs.head?, watch.startLeavesClosed (.ds mID false beyond) answer
  | .call (.onRsrcEvent event) answer =>
      watch.broadcastLeavesClosed event ∧ watch.restartLeavesClosed event answer
  | .call .. | .timerExpiry => True

instance (watch : ClosedWatch) (s : Subscriber) (answer : StartAnswer) :
    Decidable (watch.startLeavesClosed s answer) :=
  inferInstanceAs (Decidable (_ → _ → _ → _))

instance (watch : ClosedWatch) (event : ServicerEvent) :
    Decidable (watch.broadcastLeavesClosed event) :=
  inferInstanceAs (Decidable ((_ → ∀ e ∈ _, _ → _) ∧ (_ → _ → ∀ e ∈ _, _ → _)))

instance (watch : ClosedWatch) (event : ServicerEvent) (answer : StartAnswer) :
    Decidable (watch.restartLeavesClosed event answer) :=
  inferInstanceAs (Decidable (_ → _ → _ → _ → _))

instance (watch : ClosedWatch) (label : Emergency.Label) :
    Decidable (watch.leavesClosed label) :=
  match label with
  | .call (.subscribeRsrc s) answer => inferInstanceAs (Decidable (watch.startLeavesClosed s answer))
  | .suplEs beyond answer =>
      inferInstanceAs (Decidable (∀ mID ∈ watch.service.suplEs.head?,
        watch.startLeavesClosed (.ds mID false beyond) answer))
  | .call (.onRsrcEvent event) answer =>
      inferInstanceAs (Decidable
        (watch.broadcastLeavesClosed event ∧ watch.restartLeavesClosed event answer))
  | .call (.unsubscribeRsrc _) _ | .call (.setAPN _) _ | .call (.setBearer _) _
  | .timerExpiry => inferInstanceAs (Decidable True)

theorem mem_still {watch : ClosedWatch} {label : Emergency.Label} {handle : BitVec 32} :
    handle ∈ watch.still label ↔
      handle ∈ watch.closed ∧ (label.subscribed watch.service).map Subscriber.ID ≠ some handle := by
  simp [still]

/-- A step addresses a closed handle unless all that it addresses are open, or have been
opened by it. -/
theorem late_iff {watch after : ClosedWatch} {label : Emergency.Label}
    (taken : closedWatch.step watch label = some after) :
    after.late = watch.late ↔
      ∀ handle ∈ traffic (label.actions after.service), handle ∉ watch.still label := by
  simp only [closedWatch] at taken
  split at taken
  · obtain ⟨service, -, rfl⟩ := Option.map_eq_some_iff.mp taken
    simp only [List.append_right_eq_self, List.filter_eq_nil_iff, List.contains_iff_mem]
  · cases taken

/-- What a subscription addresses is open, exactly if a start does not fall back for
somebody else. -/
theorem subscribe_leavesClosed {watch : ClosedWatch} {s : Subscriber} {answer : StartAnswer}
    (single : watch.service.machine.mEnforceSingleSubscriber = false) (ds : s.kind = .ds) :
    (∀ handle ∈ traffic (perform answer watch.service.machine (.subscribeRsrc s)).out,
      ¬ (handle ∈ watch.closed ∧ some s.ID ≠ some handle)) ↔
    watch.startLeavesClosed s answer := by
  let m := watch.service.machine
  have clear : m.cleared.out = [] := rfl
  have same : connHandle (m.cleared.addSubscriber s) = connHandle (m.addSubscriber s) := by
    unfold connHandle
    rw [AgpsStateMachine.addSubscriber_congr (show m.cleared.mSubscribers = m.mSubscribers from rfl)]
  rw [perform_subscribe answer single, subscribe_traffic answer ds clear, same]
  change (∀ handle ∈ (match m.mStatePtr with
      | .released => if fallsBack answer m.mRetries then [connHandle (m.addSubscriber s)] else []
      | .acquired => [s.ID]
      | .pending | .releasing => []), _) ↔
    (m.mStatePtr = .released → fallsBack answer m.mRetries →
      connHandle (m.addSubscriber s) ∈ watch.closed → connHandle (m.addSubscriber s) = s.ID)
  generalize connHandle (m.addSubscriber s) = picked
  cases m.mStatePtr with
  | released =>
      by_cases lost : fallsBack answer m.mRetries
      · simp [lost, eq_comm]
      · simp [lost]
  | pending | acquired | releasing => simp

theorem selected_open {closed : List (BitVec 32)} (list : List Subscriber)
    (selected : Subscriber → Bool) :
    (∀ handle ∈ (list.filter selected).map Subscriber.ID, handle ∉ closed) ↔
      ∀ e ∈ list, selected e = true → e.ID ∉ closed := by
  rw [List.forall_mem_map]
  simp only [List.mem_filter, and_imp]

/-- What an event addresses is open, exactly if neither its broadcast nor the start
after it reaches somebody closed. -/
theorem event_leavesClosed {watch : ClosedWatch} {event : ServicerEvent} {answer : StartAnswer}
    (all : AllDS watch.service.machine.mSubscribers) :
    (∀ handle ∈ traffic (perform answer watch.service.machine (.onRsrcEvent event)).out,
      handle ∉ watch.closed) ↔
    watch.broadcastLeavesClosed event ∧ watch.restartLeavesClosed event answer := by
  have told := onRsrcEvent_traffic answer event
    (show AllDS watch.service.machine.cleared.mSubscribers from all) rfl
  have called : perform answer watch.service.machine (.onRsrcEvent event) =
      DSStateMachine.onRsrcEvent answer event watch.service.machine.cleared := rfl
  rw [called, told]
  unfold broadcastLeavesClosed restartLeavesClosed
  cases state : watch.service.machine.mStatePtr with
  | released | acquired => simp [state]
  | pending =>
      dsimp only
      rw [selected_open]
      cases event <;> simp [state]
  | releasing =>
      have hands : watch.service.machine.cleared.hasActiveSubscribers =
          watch.service.machine.hasActiveSubscribers := rfl
      have counts : retriesAtRestart watch.service.machine.cleared event =
          retriesAtRestart watch.service.machine event := rfl
      have picks : connHandle watch.service.machine.cleared = connHandle watch.service.machine := rfl
      dsimp only
      rw [hands, counts, picks, List.forall_mem_append]
      refine and_congr ?_ ?_
      · cases event with
        | denied =>
            rw [if_pos rfl, selected_open]
            simp [state]
        | granted | released => simp [state]
      · simp only [state, forall_const]
        split
        · rename_i restarts
          simp [restarts]
        · rename_i rests
          simp only [not_and] at rests
          simpa using fun other active lost => absurd lost (rests other active)

theorem unsubscribe_quiet (answer : StartAnswer) (s : Subscriber) (m : AgpsStateMachine) :
    traffic (perform answer m (.unsubscribeRsrc s)).out = [] := by
  simp only [DSStateMachine.perform]
  rcases m.cleared.unsubscribeRsrc_cases (DSStateMachine.sendRsrcRequest answer) s with
    ⟨position, -, -, -, -, found⟩ | ⟨-, absent⟩
  · rw [found]
    exact unsubscribe_traffic answer position m.cleared
  · rw [absent]
    rfl

/-- A step of the watched service addresses no handle that stays closed, exactly if it
leaves the closed ones alone. -/
theorem step_quiet_iff {watch after : ClosedWatch} {label : Emergency.Label}
    (single : watch.service.machine.mEnforceSingleSubscriber = false)
    (all : AllDS watch.service.machine.mSubscribers)
    (taken : closedWatch.step watch label = some after) :
    after.late = watch.late ↔ watch.leavesClosed label := by
  rw [late_iff taken]
  simp only [closedWatch] at taken
  split at taken
  · rename_i ds
    obtain ⟨service, moved, rfl⟩ := Option.map_eq_some_iff.mp taken
    cases label with
    | call operation answer =>
        obtain rfl := Option.some.inj moved
        cases operation with
        | subscribeRsrc s =>
            simp only [mem_still]
            exact subscribe_leavesClosed single (beq_iff_eq.mp ds)
        | unsubscribeRsrc s =>
            have quiet := unsubscribe_quiet answer s watch.service.machine
            have none : traffic (Emergency.Label.actions
                (watch.service.settle
                  (perform answer watch.service.machine (.unsubscribeRsrc s)))
                (.call (.unsubscribeRsrc s) answer)) = [] := quiet
            rw [none]
            simp [leavesClosed]
        | onRsrcEvent event =>
            have reached := @event_leavesClosed watch event answer all
            simp only [mem_still, Emergency.Label.subscribed, Option.map_none, ne_eq, reduceCtorEq,
              not_false_eq_true, and_true]
            exact reached
        | setAPN _ | setBearer _ =>
            exact ⟨fun _ => trivial, fun _ handle member => absurd member List.not_mem_nil⟩
    | timerExpiry => exact ⟨fun _ => trivial, fun _ handle member => absurd member List.not_mem_nil⟩
    | suplEs beyond answer =>
        simp only [emergency, Emergency.handleSuplEs] at moved
        split at moved
        · cases moved
        · rename_i mID rest queue
          obtain rfl := Option.some.inj moved
          have opened := @subscribe_leavesClosed watch (.ds mID false beyond) answer single rfl
          simp only [mem_still, Emergency.Label.subscribed, leavesClosed, queue, List.head?_cons,
            Option.map_some, Option.mem_def, Option.some.injEq, forall_eq']
          exact opened
  · cases taken

/-- The list of the watched service has DS subscribers only. -/
theorem closedWatch_ds {guard : ClosedWatch → Emergency.Label → Prop} {watch : ClosedWatch}
    (run : closedWatch.ReachableUnder guard watch) :
    watch.service.machine.mEnforceSingleSubscriber = false ∧
      AllDS watch.service.machine.mSubscribers := by
  refine run.invariant (fun watch => watch.service.machine.mEnforceSingleSubscriber = false ∧
    AllDS watch.service.machine.mSubscribers) ?_ ?_
  · intro watch first
    rw [first]
    exact ⟨rfl, fun e member => absurd member List.not_mem_nil⟩
  · intro before label after _ ⟨single, all⟩ _ taken
    simp only [closedWatch] at taken
    split at taken
    · rename_i ds
      obtain ⟨service, moved, rfl⟩ := Option.map_eq_some_iff.mp taken
      dsimp only
      cases label with
      | call operation answer =>
          obtain rfl := Option.some.inj moved
          refine ⟨perform_single answer single operation, all.perform single answer ?_⟩
          intro s same
          rw [same] at ds
          exact beq_iff_eq.mp ds
      | timerExpiry =>
          rcases emergency_step_cases moved with ⟨-, same⟩ | ⟨answer, operation, -, way⟩
          · rw [same]
            exact ⟨single, all⟩
          · rcases way with other | ⟨_, other⟩ <;> cases other
      | suplEs beyond answer =>
          simp only [emergency, Emergency.handleSuplEs] at moved
          split at moved
          · cases moved
          · obtain rfl := Option.some.inj moved
            refine ⟨perform_single answer single _, all.perform single answer ?_⟩
            intro s same
            cases same
            rfl
    · cases taken

end ClosedWatch

/-- In every run whose steps leave the closed handles alone nothing is sent for a handle
that has been reported closed and not subscribed again; and the next step sends nothing
for one exactly if it leaves them alone too. -/
theorem closed_handle_quiet {watch : ClosedWatch}
    (run : closedWatch.ReachableUnder ClosedWatch.leavesClosed watch) :
    watch.late = [] ∧ ∀ label after, closedWatch.step watch label = some after →
      (after.late = [] ↔ watch.leavesClosed label) := by
  have quiet : watch.late = [] := by
    refine run.invariant (fun watch => watch.late = []) ?_ ?_
    · intro watch first
      rw [first]
    · intro before label after run quiet kept taken
      obtain ⟨single, all⟩ := ClosedWatch.closedWatch_ds run
      rw [(ClosedWatch.step_quiet_iff single all taken).mpr kept, quiet]
  refine ⟨quiet, fun label after taken => ?_⟩
  obtain ⟨single, all⟩ := ClosedWatch.closedWatch_ds run
  have next := ClosedWatch.step_quiet_iff single all taken
  rwa [quiet] at next

/-- One client leaves while another has the data call, which then ends. -/
theorem closed_handle_quiet_two :
    let first := Subscriber.ds 5 false (Vector.replicate 16 0)
    let second := Subscriber.ds 7 false (Vector.replicate 16 0)
    let success : StartAnswer := ⟨LOC_API_ADAPTER_ERR_SUCCESS, true⟩
    ∃ watch, closedWatch.execUnder ClosedWatch.leavesClosed
        ⟨⟨DSStateMachine.new, 0, [], none⟩, [], []⟩
        [.call (.subscribeRsrc first) success, .call (.subscribeRsrc second) success,
          .call (.onRsrcEvent .granted) success, .call (.unsubscribeRsrc first) success,
          .call (.onRsrcEvent .released) success] = some watch ∧
      watch.closed = [5] ∧ watch.late = [] := by
  intro first second success
  apply System.execUnder_then rfl
  · intro watch run _
    exact (closed_handle_quiet run).1
  · decide +kernel

/-- One client leaves while the request is pending, and its denial is for everybody
who is listed. -/
theorem closed_handle_called :
    ¬ ∀ watch, closedWatch.Reachable watch → watch.late = [] := by
  intro quiet
  let first := Subscriber.ds 5 false (Vector.replicate 16 0)
  let second := Subscriber.ds 7 false (Vector.replicate 16 0)
  let success : StartAnswer := ⟨LOC_API_ADAPTER_ERR_SUCCESS, true⟩
  obtain ⟨watch, run, seen⟩ := @System.reachable_of_exec _ _ closedWatch _ rfl
    [.call (.subscribeRsrc first) success, .call (.subscribeRsrc second) success,
      .call (.unsubscribeRsrc first) success, .call (.onRsrcEvent .denied) success]
    (fun watch => watch.late == [5]) (by decide +kernel)
  rw [quiet watch run] at seen
  cases seen

end A5Common.Agps
