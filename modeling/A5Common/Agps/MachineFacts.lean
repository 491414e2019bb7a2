import A5Common.Agps.Machine

set_option autoImplicit false

namespace A5Common.Agps

/-- The action of a request to the framework. -/
def Action.requested : Action → Option AGpsStatusValue
  | .requestRsrc nifRequest => some nifRequest.status
  | _ => none

/-- The requests among some actions, oldest first. -/
def requests (actions : List Action) : List AGpsStatusValue := actions.filterMap Action.requested

namespace AgpsStateMachine

@[simp] theorem emit_mSubscribers (m : AgpsStateMachine) (action : Action) :
    (m.emit action).mSubscribers = m.mSubscribers := rfl

@[simp] theorem emit_mEnforceSingleSubscriber (m : AgpsStateMachine) (action : Action) :
    (m.emit action).mEnforceSingleSubscriber = m.mEnforceSingleSubscriber := rfl

@[simp] theorem emit_out (m : AgpsStateMachine) (action : Action) :
    (m.emit action).out = m.out ++ [action] := rfl

theorem hasSubscribers_eq_true {m : AgpsStateMachine} :
    m.hasSubscribers = true ↔ m.mSubscribers ≠ [] := by
  simp [hasSubscribers]

theorem hasSubscribers_eq_false {m : AgpsStateMachine} :
    m.hasSubscribers = false ↔ m.mSubscribers = [] := by
  simp [hasSubscribers]

theorem hasActiveSubscribers_eq (m : AgpsStateMachine) :
    m.hasActiveSubscribers = m.mSubscribers.any (!·.isInactive) := by
  simp only [hasActiveSubscribers, Subscriber.forMe_searchGroup_active, List.isSome_find?]

theorem hasActiveSubscribers_eq_true {m : AgpsStateMachine} :
    m.hasActiveSubscribers = true ↔ ∃ s ∈ m.mSubscribers, s.isInactive = false := by
  simp [hasActiveSubscribers_eq]

/-- The actions of `inform`. They depend on the machine's parameters only. -/
def reports (m : AgpsStateMachine) (s : Subscriber) (status : AgpsRsrcStatus) : List Action :=
  (m.cleared.inform s status).out

/-- `inform` leaves everything but the actions and the retry counter alone. -/
theorem inform_eq (m : AgpsStateMachine) (s : Subscriber) (status : AgpsRsrcStatus) :
    m.inform s status =
      { m with out := m.out ++ m.reports s status, mRetries := (m.inform s status).mRetries } := by
  cases s <;> cases status <;> simp [reports, inform, informStatus, emit, openType]

@[simp] theorem inform_mSubscribers (m : AgpsStateMachine) (s : Subscriber)
    (status : AgpsRsrcStatus) : (m.inform s status).mSubscribers = m.mSubscribers := by
  rw [inform_eq]

@[simp] theorem inform_mStatePtr (m : AgpsStateMachine) (s : Subscriber)
    (status : AgpsRsrcStatus) : (m.inform s status).mStatePtr = m.mStatePtr := by
  rw [inform_eq]

@[simp] theorem inform_mEnforceSingleSubscriber (m : AgpsStateMachine) (s : Subscriber)
    (status : AgpsRsrcStatus) :
    (m.inform s status).mEnforceSingleSubscriber = m.mEnforceSingleSubscriber := by
  rw [inform_eq]

theorem inform_out (m : AgpsStateMachine) (s : Subscriber) (status : AgpsRsrcStatus) :
    (m.inform s status).out = m.out ++ m.reports s status := by
  rw [inform_eq]

@[simp] theorem reports_inform (m : AgpsStateMachine) (first s : Subscriber)
    (before status : AgpsRsrcStatus) :
    (m.inform first before).reports s status = m.reports s status := by
  rw [inform_eq]
  cases s <;> cases status <;> rfl

/-- What is informed does not matter to the list. -/
theorem inform_withSubscribers (m : AgpsStateMachine) (list : List Subscriber) (s : Subscriber)
    (status : AgpsRsrcStatus) :
    { m with mSubscribers := list }.inform s status =
      { m.inform s status with mSubscribers := list } := by
  cases s <;> cases status <;> rfl

@[simp] theorem notifyRsrcStatus_mSubscribers (m : AgpsStateMachine) (s : Subscriber)
    (notification : Notification) :
    (m.notifyRsrcStatus s notification).2.mSubscribers = m.mSubscribers := by
  unfold notifyRsrcStatus
  split <;> simp

@[simp] theorem notifyRsrcStatus_mEnforceSingleSubscriber (m : AgpsStateMachine) (s : Subscriber)
    (notification : Notification) :
    (m.notifyRsrcStatus s notification).2.mEnforceSingleSubscriber =
      m.mEnforceSingleSubscriber := by
  unfold notifyRsrcStatus
  split <;> simp

@[simp] theorem notifyRsrcStatus_mStatePtr (m : AgpsStateMachine) (s : Subscriber)
    (notification : Notification) :
    (m.notifyRsrcStatus s notification).2.mStatePtr = m.mStatePtr := by
  unfold notifyRsrcStatus
  split <;> simp

/-- Every entry of a list informed in turn. -/
def informAll (m : AgpsStateMachine) (list : List Subscriber) (status : AgpsRsrcStatus) :
    AgpsStateMachine :=
  list.foldl (fun m s => m.inform s status) m

@[simp] theorem informAll_nil (m : AgpsStateMachine) (status : AgpsRsrcStatus) :
    m.informAll [] status = m := rfl

@[simp] theorem informAll_cons (m : AgpsStateMachine) (s : Subscriber) (rest : List Subscriber)
    (status : AgpsRsrcStatus) :
    m.informAll (s :: rest) status = (m.inform s status).informAll rest status := rfl

theorem informAll_eq (m : AgpsStateMachine) (list : List Subscriber) (status : AgpsRsrcStatus) :
    m.informAll list status =
      { m with
        out := m.out ++ list.flatMap (fun s => m.reports s status)
        mRetries := (m.informAll list status).mRetries } := by
  induction list generalizing m with
  | nil => simp
  | cons s rest ih =>
      rw [informAll_cons, ih]
      simp only [reports_inform]
      rw [inform_eq m s status]
      simp [List.append_assoc]

theorem informAll_withSubscribers (m : AgpsStateMachine) (list informed : List Subscriber)
    (status : AgpsRsrcStatus) :
    { m with mSubscribers := list }.informAll informed status =
      { m.informAll informed status with mSubscribers := list } := by
  induction informed generalizing m with
  | nil => rfl
  | cons s rest ih =>
      rw [informAll_cons, inform_withSubscribers, ih]
      rfl

@[simp] theorem informAll_mEnforceSingleSubscriber (m : AgpsStateMachine) (list : List Subscriber)
    (status : AgpsRsrcStatus) :
    (m.informAll list status).mEnforceSingleSubscriber = m.mEnforceSingleSubscriber := by
  rw [informAll_eq]

theorem informAll_out (m : AgpsStateMachine) (list : List Subscriber) (status : AgpsRsrcStatus) :
    (m.informAll list status).out = m.out ++ list.flatMap (fun s => m.reports s status) := by
  rw [informAll_eq]

/-- A search without removal informs every subscriber the notification is for. -/
theorem searchNotify_keep {notification : Notification}
    (known : notification.rsrcStatus.known = true) (keep : notification.postNotifyDelete = false)
    (list : List Subscriber) (m : AgpsStateMachine) :
    searchNotify notification list m =
      (none, m.informAll (list.filter (·.forMe notification)) notification.rsrcStatus) := by
  induction list generalizing m with
  | nil => rfl
  | cons s rest ih =>
      simp only [searchNotify, notifySubscriber, notifyRsrcStatus, known, keep, Bool.and_false,
        Bool.and_true, Bool.false_eq_true, if_false, List.filter_cons]
      split <;> simp [ih]

/-- A search with removal stops at the first subscriber the notification is for. -/
theorem searchNotify_delete {notification : Notification}
    (known : notification.rsrcStatus.known = true) (delete : notification.postNotifyDelete = true)
    {front back : List Subscriber} {s : Subscriber}
    (before : ∀ other ∈ front, other.forMe notification = false)
    (mine : s.forMe notification = true) (m : AgpsStateMachine) :
    searchNotify notification (front ++ s :: back) m =
      (some front.length, m.inform s notification.rsrcStatus) := by
  induction front with
  | nil => simp [searchNotify, notifySubscriber, notifyRsrcStatus, known, delete, mine]
  | cons other rest ih =>
      have skipped := before other (by simp)
      have tail := ih (fun x member => before x (List.mem_cons_of_mem other member))
      simp [searchNotify, notifySubscriber, notifyRsrcStatus, known, delete, skipped, tail]

theorem searchNotify_none {notification : Notification} {list : List Subscriber}
    (others : ∀ s ∈ list, s.forMe notification = false) (m : AgpsStateMachine) :
    searchNotify notification list m = (none, m) := by
  induction list with
  | nil => rfl
  | cons s rest ih =>
      have skipped := others s (by simp)
      have tail := ih (fun x member => others x (List.mem_cons_of_mem s member))
      simp [searchNotify, notifySubscriber, notifyRsrcStatus, skipped, tail]

/-- The loop informs and removes the subscribers the notification is for, in
the order of the list. -/
theorem notifyDeleteLoop_eq {notification : Notification}
    (known : notification.rsrcStatus.known = true) (delete : notification.postNotifyDelete = true)
    (fuel : Nat) (m : AgpsStateMachine)
    (enough : (m.mSubscribers.filter (·.forMe notification)).length < fuel) :
    notifyDeleteLoop notification fuel m =
      { m.informAll (m.mSubscribers.filter (·.forMe notification)) notification.rsrcStatus with
        mSubscribers := m.mSubscribers.filter (!·.forMe notification) } := by
  induction fuel generalizing m with
  | zero => omega
  | succ fuel ih =>
      unfold notifyDeleteLoop
      cases found : m.mSubscribers.find? (·.forMe notification) with
      | none =>
          have others : ∀ s ∈ m.mSubscribers, s.forMe notification = false := by
            simpa using found
          have nobody : m.mSubscribers.filter (·.forMe notification) = [] := by
            simpa using others
          have everybody : m.mSubscribers.filter (!·.forMe notification) = m.mSubscribers := by
            simpa using others
          rw [searchNotify_none others, nobody, everybody]
          rfl
      | some s =>
          obtain ⟨mine, front, back, split, before⟩ := List.find?_eq_some_iff_append.mp found
          have before : ∀ other ∈ front, other.forMe notification = false := by
            simpa using before
          have nobody : front.filter (·.forMe notification) = [] := by
            simpa using before
          have everybody : front.filter (!·.forMe notification) = front := by
            simpa using before
          have step : (front ++ s :: back).eraseIdx front.length = front ++ back := by
            simp [List.eraseIdx_append_of_length_le]
          have fewer : ((front ++ back).filter (·.forMe notification)).length < fuel := by
            simp only [split, List.filter_append, nobody, List.filter_cons, mine, if_true,
              List.nil_append, List.length_cons] at enough ⊢
            omega
          rw [split, searchNotify_delete known delete before mine]
          simp only [inform_mSubscribers, split, step]
          rw [ih _ fewer, informAll_withSubscribers]
          simp [List.filter_append, nobody, everybody, mine]

/-- A notification informs, once each and in the order of the list, the
subscribers it is for, and then removes them if it asks for that. -/
theorem notifySubscribers_eq (m : AgpsStateMachine) (notification : Notification)
    (known : notification.rsrcStatus.known = true) :
    m.notifySubscribers notification =
      { m.informAll (m.mSubscribers.filter (·.forMe notification)) notification.rsrcStatus with
        mSubscribers :=
          if notification.postNotifyDelete then m.mSubscribers.filter (!·.forMe notification)
          else m.mSubscribers } := by
  unfold notifySubscribers
  split
  · rename_i delete
    have enough : (m.mSubscribers.filter (·.forMe notification)).length <
        m.mSubscribers.length + 1 :=
      Nat.lt_succ_of_le (List.length_filter_le _ _)
    rw [notifyDeleteLoop_eq known delete _ m enough]
  · rename_i keep
    rw [searchNotify_keep known (by simpa using keep)]
    rw [← informAll_withSubscribers]

theorem notifySubscribers_out (m : AgpsStateMachine) (notification : Notification)
    (known : notification.rsrcStatus.known = true) :
    (m.notifySubscribers notification).out = m.out ++
      (m.mSubscribers.filter (·.forMe notification)).flatMap
        (fun s => m.reports s notification.rsrcStatus) := by
  rw [notifySubscribers_eq m notification known]
  exact informAll_out m _ _

@[simp] theorem notifySubscribers_mEnforceSingleSubscriber (m : AgpsStateMachine)
    (notification : Notification) (known : notification.rsrcStatus.known = true) :
    (m.notifySubscribers notification).mEnforceSingleSubscriber = m.mEnforceSingleSubscriber := by
  rw [notifySubscribers_eq m notification known]
  simp

theorem notifySubscribers_delete (m : AgpsStateMachine) {notification : Notification}
    (known : notification.rsrcStatus.known = true) (delete : notification.postNotifyDelete = true) :
    (m.notifySubscribers notification).mSubscribers =
      m.mSubscribers.filter (!·.forMe notification) := by
  rw [notifySubscribers_eq m notification known]
  simp [delete]

theorem notifySubscribers_keep (m : AgpsStateMachine) {notification : Notification}
    (known : notification.rsrcStatus.known = true)
    (keep : notification.postNotifyDelete = false) :
    (m.notifySubscribers notification).mSubscribers = m.mSubscribers := by
  rw [notifySubscribers_eq m notification known]
  simp [keep]

theorem notifySubscribers_broadcast (m : AgpsStateMachine) (group : Broadcast)
    (status : AgpsRsrcStatus) (known : status.known = true) :
    (m.notifySubscribers (.broadcast group status false)).mSubscribers = m.mSubscribers :=
  notifySubscribers_keep m known rfl

theorem notifySubscribers_all (m : AgpsStateMachine) (status : AgpsRsrcStatus)
    (known : status.known = true) :
    (m.notifySubscribers (.broadcast .all status true)).mSubscribers = [] := by
  rw [notifySubscribers_delete m known rfl]
  simp

theorem notifySubscribers_inactive (m : AgpsStateMachine) (status : AgpsRsrcStatus)
    (known : status.known = true) :
    (m.notifySubscribers (.broadcast .inactive status true)).mSubscribers =
      m.mSubscribers.filter (!·.isInactive) :=
  notifySubscribers_delete m known rfl

theorem notifySubscribers_unicast (m : AgpsStateMachine) (s : Subscriber) (status : AgpsRsrcStatus)
    (known : status.known = true) :
    (m.notifySubscribers (.unicast s status true)).mSubscribers =
      m.mSubscribers.filter (!·.equals s) :=
  notifySubscribers_delete m known rfl

/-- A subscriber that is not listed yet goes to the head as a clone. -/
theorem addSubscriber_cases (m : AgpsStateMachine) (subscriber : Subscriber) :
    ((∀ s ∈ m.mSubscribers, s.equals subscriber = false) ∧
      m.addSubscriber subscriber = { m with mSubscribers := subscriber.clone :: m.mSubscribers }) ∨
    ((∃ s ∈ m.mSubscribers, s.equals subscriber = true) ∧ m.addSubscriber subscriber = m) := by
  unfold addSubscriber
  split
  · rename_i absent
    exact .inl ⟨by simpa using absent, rfl⟩
  · rename_i s present
    have listed := List.mem_of_find?_eq_some present
    have same := List.find?_some present
    exact .inr ⟨⟨s, listed, same⟩, rfl⟩

theorem addSubscriber_congr {first second : AgpsStateMachine}
    (same : first.mSubscribers = second.mSubscribers) (subscriber : Subscriber) :
    (first.addSubscriber subscriber).mSubscribers =
      (second.addSubscriber subscriber).mSubscribers := by
  unfold addSubscriber
  rw [same]
  split
  · rfl
  · exact same

@[simp] theorem addSubscriber_out (m : AgpsStateMachine) (subscriber : Subscriber) :
    (m.addSubscriber subscriber).out = m.out := by
  rcases m.addSubscriber_cases subscriber with ⟨-, added⟩ | ⟨-, same⟩
  · rw [added]
  · rw [same]

@[simp] theorem addSubscriber_mEnforceSingleSubscriber (m : AgpsStateMachine)
    (subscriber : Subscriber) :
    (m.addSubscriber subscriber).mEnforceSingleSubscriber = m.mEnforceSingleSubscriber := by
  rcases m.addSubscriber_cases subscriber with ⟨-, added⟩ | ⟨-, same⟩
  · rw [added]
  · rw [same]

theorem addSubscriber_ne_nil (m : AgpsStateMachine) (subscriber : Subscriber) :
    (m.addSubscriber subscriber).mSubscribers ≠ [] := by
  rcases m.addSubscriber_cases subscriber with ⟨-, added⟩ | ⟨⟨s, listed, -⟩, same⟩
  · simp [added]
  · rw [same]
    exact List.ne_nil_of_mem listed

theorem addSubscriber_of_nil {m : AgpsStateMachine} (empty : m.mSubscribers = [])
    (subscriber : Subscriber) :
    m.addSubscriber subscriber = { m with mSubscribers := [subscriber.clone] } := by
  simp [addSubscriber, empty]

theorem addSubscriber_active {m : AgpsStateMachine} (subscriber : Subscriber)
    (active : m.hasActiveSubscribers = true) :
    (m.addSubscriber subscriber).hasActiveSubscribers = true := by
  rcases m.addSubscriber_cases subscriber with ⟨-, added⟩ | ⟨-, same⟩
  · rw [added, hasActiveSubscribers_eq_true]
    exact ⟨subscriber.clone, by simp, by simp⟩
  · rwa [same]

theorem setInactive_mSubscribers (m : AgpsStateMachine) (position : Nat) :
    (m.setInactive position).mSubscribers =
      m.mSubscribers.modify position Subscriber.markInactive := by
  unfold setInactive
  dsimp only
  split <;> simp [informStatus]

/-- Only a DS entry reports that it has become inactive. -/
theorem setInactive_out {m : AgpsStateMachine} {position : Nat} {s : Subscriber}
    (listed : m.mSubscribers[position]? = some s) :
    (m.setInactive position).out =
      m.out ++ if s.kind = .ds then [.atlCloseStatus s.ID true] else [] := by
  unfold setInactive
  dsimp only
  rw [listed]
  cases s <;> simp [informStatus, Subscriber.kind, Subscriber.ID]

@[simp] theorem setInactive_mEnforceSingleSubscriber (m : AgpsStateMachine) (position : Nat) :
    (m.setInactive position).mEnforceSingleSubscriber = m.mEnforceSingleSubscriber := by
  unfold setInactive
  dsimp only
  split <;> simp [informStatus]

@[simp] theorem nifRequest_status (m : AgpsStateMachine) (action : AGpsStatusValue)
    (s : Option Subscriber) : (m.nifRequest action s).status = action := by
  cases s <;> rfl

/-- AgpsStateMachine::sendRsrcRequest asks for a connection only with an active
subscriber, and for its release only without one. -/
theorem sendRsrcRequest_eq (action : AGpsStatusValue) (m : AgpsStateMachine) :
    sendRsrcRequest action m =
      (if m.hasActiveSubscribers == (action == .requestAgpsDataConn) then
        m.emit (.requestRsrc (m.nifRequest action
          (m.mSubscribers.find? (·.forMe (.searchGroup .active)))))
      else m, 0) := by
  have flip : ∀ active : Bool, ((!active) == (action == .releaseAgpsDataConn)) =
      (active == (action == .requestAgpsDataConn)) := by
    intro active
    cases active <;> cases action <;> rfl
  unfold sendRsrcRequest
  simp only [← Option.not_isSome, flip]
  change (if m.hasActiveSubscribers == _ then _ else _) = _
  split <;> rfl

theorem sendRsrcRequest_result (action : AGpsStatusValue) (m : AgpsStateMachine) :
    (sendRsrcRequest action m).2 = 0 := by
  rw [sendRsrcRequest_eq]

theorem sendRsrcRequest_mSubscribers (action : AGpsStatusValue) (m : AgpsStateMachine) :
    (sendRsrcRequest action m).1.mSubscribers = m.mSubscribers := by
  rw [sendRsrcRequest_eq]
  split <;> rfl

theorem sendRsrcRequest_mEnforceSingleSubscriber (action : AGpsStatusValue)
    (m : AgpsStateMachine) :
    (sendRsrcRequest action m).1.mEnforceSingleSubscriber = m.mEnforceSingleSubscriber := by
  rw [sendRsrcRequest_eq]
  split <;> rfl

theorem sendRsrcRequest_requests (action : AGpsStatusValue) (m : AgpsStateMachine) :
    requests (sendRsrcRequest action m).1.out = requests m.out ++
      if m.hasActiveSubscribers == (action == .requestAgpsDataConn) then [action] else [] := by
  rw [sendRsrcRequest_eq]
  split
  · simp [requests, Action.requested]
  · simp

end AgpsStateMachine

/-- No subscriber reports anything that `f` selects of a notification with the
status. -/
def Silent {β : Type} (f : Action → Option β) (status : AgpsRsrcStatus) : Prop :=
  ∀ (m : AgpsStateMachine) (s : Subscriber), (m.reports s status).filterMap f = []

theorem requested_silent (status : AgpsRsrcStatus) : Silent Action.requested status := by
  intro m s
  cases s <;> cases status <;> rfl

section Silence

variable {β : Type} {f : Action → Option β}

theorem inform_silent {status : AgpsRsrcStatus} (silent : Silent f status) (m : AgpsStateMachine)
    (s : Subscriber) : (m.inform s status).out.filterMap f = m.out.filterMap f := by
  rw [AgpsStateMachine.inform_out, List.filterMap_append, silent, List.append_nil]

theorem notifyRsrcStatus_silent {notification : Notification}
    (silent : Silent f notification.rsrcStatus) (m : AgpsStateMachine) (s : Subscriber) :
    (m.notifyRsrcStatus s notification).2.out.filterMap f = m.out.filterMap f := by
  unfold AgpsStateMachine.notifyRsrcStatus
  split
  · exact inform_silent silent m s
  · rfl

theorem notifySubscribers_silent {notification : Notification}
    (silent : Silent f notification.rsrcStatus) (known : notification.rsrcStatus.known = true)
    (m : AgpsStateMachine) :
    (m.notifySubscribers notification).out.filterMap f = m.out.filterMap f := by
  have none : ((m.mSubscribers.filter (·.forMe notification)).flatMap
      (fun s => m.reports s notification.rsrcStatus)).filterMap f = [] := by
    refine List.filterMap_eq_nil_iff.mpr ?_
    intro a member
    obtain ⟨s, -, reported⟩ := List.mem_flatMap.mp member
    exact List.filterMap_eq_nil_iff.mp (silent m s) a reported
  rw [m.notifySubscribers_out notification known, List.filterMap_append, none, List.append_nil]

theorem setInactive_silent (silent : Silent f .unsubscribe) (m : AgpsStateMachine)
    (position : Nat) : (m.setInactive position).out.filterMap f = m.out.filterMap f := by
  unfold AgpsStateMachine.setInactive
  dsimp only
  split
  · rename_i ID inactive beyond listed
    have closed : f (.atlCloseStatus ID true) = none :=
      List.filterMap_eq_nil_iff.mp (silent m (.ds ID inactive beyond)) _
        (by simp [AgpsStateMachine.reports, AgpsStateMachine.inform, AgpsStateMachine.informStatus,
          AgpsStateMachine.emit])
    simp [AgpsStateMachine.informStatus, closed]
  · rfl

/-- The two ways in which an entry is unsubscribed. -/
theorem unsubscribeEntry_cases {m : AgpsStateMachine} {position : Nat} {s : Subscriber}
    (listed : m.mSubscribers[position]? = some s) :
    (s.waitForCloseComplete = true ∧ unsubscribeEntry position m = m.setInactive position) ∨
    (s.waitForCloseComplete = false ∧
      unsubscribeEntry position m = m.notifySubscribers (.unicast s .unsubscribe true)) := by
  simp only [unsubscribeEntry, listed]
  cases waits : s.waitForCloseComplete with
  | true => exact .inl ⟨rfl, rfl⟩
  | false => exact .inr ⟨rfl, rfl⟩

theorem unsubscribeEntry_silent (silent : Silent f .unsubscribe) (position : Nat)
    (m : AgpsStateMachine) :
    (unsubscribeEntry position m).out.filterMap f = m.out.filterMap f := by
  cases listed : m.mSubscribers[position]? with
  | none => simp only [unsubscribeEntry, listed]
  | some s =>
      rcases unsubscribeEntry_cases listed with ⟨-, marked⟩ | ⟨-, removed⟩
      · rw [marked, setInactive_silent silent]
      · rw [removed, notifySubscribers_silent silent rfl]

end Silence

theorem unsubscribeEntry_mEnforceSingleSubscriber (position : Nat) (m : AgpsStateMachine) :
    (unsubscribeEntry position m).mEnforceSingleSubscriber = m.mEnforceSingleSubscriber := by
  cases listed : m.mSubscribers[position]? with
  | none => simp only [unsubscribeEntry, listed]
  | some s =>
      rcases unsubscribeEntry_cases listed with ⟨-, marked⟩ | ⟨-, removed⟩
      · rw [marked, m.setInactive_mEnforceSingleSubscriber]
      · rw [removed, m.notifySubscribers_mEnforceSingleSubscriber _ rfl]

namespace AgpsStateMachine

/-- unsubscribeRsrc acts on the first entry that equals the subscriber. -/
theorem unsubscribeRsrc_cases (send : SendRsrcRequest) (subscriber : Subscriber)
    (m : AgpsStateMachine) :
    (∃ position s, m.mSubscribers[position]? = some s ∧ s.equals subscriber = true ∧
      (∀ i other, i < position → m.mSubscribers[i]? = some other →
        other.equals subscriber = false) ∧
      m.unsubscribeRsrc send subscriber = (true, m.onStateEvent send (.unsubscribe position))) ∨
    ((∀ s ∈ m.mSubscribers, s.equals subscriber = false) ∧
      m.unsubscribeRsrc send subscriber = (false, m)) := by
  unfold unsubscribeRsrc
  split
  · rename_i position found
    obtain ⟨inside, same, before⟩ := List.findIdx?_eq_some_iff_getElem.mp found
    refine .inl ⟨position, m.mSubscribers[position], List.getElem?_eq_getElem inside, same, ?_, rfl⟩
    intro i other earlier listed
    obtain ⟨below, rfl⟩ := List.getElem?_eq_some_iff.mp listed
    simpa using before i earlier
  · rename_i absent
    exact .inr ⟨by simpa using absent, rfl⟩

end AgpsStateMachine

end A5Common.Agps
