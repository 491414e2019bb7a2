import A5Common.Agps.Coherence
import A5Common.Agps.Identity
import Mathlib.Logic.Function.Iterate

set_option autoImplicit false

namespace A5Common.Agps

/-- Where the modem stands with one connection handle. It is `broken` once it has
been told something it does not wait for. -/
inductive Talk where
  | absent | waiting | opened | broken
  deriving DecidableEq, Repr

namespace Talk

def opens (is_succ : Bool) : Talk → Talk
  | .waiting => if is_succ then .opened else .absent
  | .absent | .opened | .broken => .broken

def closes : Talk → Talk
  | .waiting | .opened => .absent
  | .absent | .broken => .broken

/-- What an action of the machine tells the modem about the handle. -/
def hears (handle : BitVec 32) (talk : Talk) : Action → Talk
  | .atlOpenStatus told is_succ _ _ _ => if told = handle then talk.opens is_succ else talk
  | .atlCloseStatus told _ => if told = handle then talk.closes else talk
  | _ => talk

/-- The same, for the status an ATL subscriber of the handle is informed of. -/
def informed (status : AgpsRsrcStatus) (talk : Talk) : Talk :=
  match status with
  | .granted => talk.opens true
  | .denied => talk.opens false
  | .released | .unsubscribe => talk.closes
  | .subscribe | .statusMax => talk

def heard (handle : BitVec 32) (actions : List Action) (talk : Talk) : Talk :=
  actions.foldl (hears handle) talk

/-- How many subscribers the machine lists for the handle. -/
def listed : Talk → Nat
  | .waiting | .opened => 1
  | .absent | .broken => 0

/-- Nothing is open before the connection is there, and nothing waits once it is. -/
def fits : AgpsState → Talk → Bool
  | _, .absent => true
  | .pending, .waiting | .releasing, .waiting | .acquired, .opened => true
  | _, _ => false

end Talk

/-- The subscriber is the ATL one of the handle. -/
def Subscriber.isFor (handle : BitVec 32) (s : Subscriber) : Bool :=
  s.kind == .atl && s.ID == handle

/-- The modem asks for the handle with an ATL subscription. -/
def Talk.asked (handle : BitVec 32) (operation : Operation) (talk : Talk) : Talk :=
  match operation with
  | .subscribeRsrc s => if s.isFor handle then .waiting else talk
  | _ => talk

namespace Talk

@[simp] theorem heard_nil (handle : BitVec 32) (talk : Talk) : talk.heard handle [] = talk := rfl

theorem heard_append (handle : BitVec 32) (first second : List Action) (talk : Talk) :
    talk.heard handle (first ++ second) = (talk.heard handle first).heard handle second := by
  simp only [heard, List.foldl_append]

/-- Only the ATL subscriber of the handle tells the modem something about it. -/
theorem heard_reports (handle : BitVec 32) (m : AgpsStateMachine) {s : Subscriber}
    (base : s.kind ≠ .ds) (status : AgpsRsrcStatus) (talk : Talk) :
    talk.heard handle (m.reports s status) =
      if s.isFor handle then talk.informed status else talk := by
  cases s with
  | ds ID mIsInactive beyond => exact absurd rfl base
  | bit ID mIPv6Addr => cases status <;> rfl
  | wifi senderId mSSID mPassword mIsInactive beyond => cases status <;> rfl
  | atl ID mBackwardCompatibleMode beyond =>
      by_cases mine : ID = handle <;>
        cases status <;>
          simp [heard, hears, AgpsStateMachine.reports, AgpsStateMachine.inform,
            AgpsStateMachine.emit, Subscriber.isFor, Subscriber.kind, Subscriber.ID, informed, mine]

/-- A notification reaches the handle once for each of its subscribers in the list. -/
theorem heard_flatMap (handle : BitVec 32) (m : AgpsStateMachine) (status : AgpsRsrcStatus)
    (list : List Subscriber) (base : ∀ s ∈ list, s.kind ≠ .ds) (talk : Talk) :
    talk.heard handle (list.flatMap (fun s => m.reports s status)) =
      (informed status)^[list.countP (·.isFor handle)] talk := by
  induction list generalizing talk with
  | nil => rfl
  | cons s rest ih =>
      have first := heard_reports handle m (base s (by simp)) status talk
      have tail := ih (fun x member => base x (List.mem_cons_of_mem s member))
      rw [List.flatMap_cons, heard_append, first, tail, List.countP_cons]
      by_cases mine : s.isFor handle = true
      · simp [mine]
      · simp [mine]

theorem listed_le_one (talk : Talk) : talk.listed ≤ 1 := by
  cases talk <;> decide

theorem listed_eq_one {talk : Talk} : talk.listed = 1 ↔ talk = .waiting ∨ talk = .opened := by
  cases talk <;> decide

end Talk

theorem Subscriber.isFor_iff {handle : BitVec 32} {s : Subscriber} :
    s.isFor handle = true ↔ s.kind = .atl ∧ s.ID = handle := by
  simp [isFor]

/-- An ATL subscriber compares IDs only. -/
theorem Subscriber.equals_of_isFor {handle : BitVec 32} {s : Subscriber}
    (mine : s.isFor handle = true) (other : Subscriber) :
    s.equals other = (handle == other.ID) := by
  obtain ⟨atl, rfl⟩ := isFor_iff.mp mine
  exact equals_of_not_bit (by rw [atl]; decide) other

theorem Subscriber.active_of_isFor {handle : BitVec 32} {s : Subscriber}
    (mine : s.isFor handle = true) : s.isInactive = false := by
  obtain ⟨atl, -⟩ := isFor_iff.mp mine
  cases s with
  | atl => rfl
  | bit | wifi | ds => cases atl

@[simp] theorem Subscriber.isFor_clone (handle : BitVec 32) (s : Subscriber) :
    s.clone.isFor handle = s.isFor handle := by
  cases s <;> rfl

@[simp] theorem Subscriber.isFor_markInactive (handle : BitVec 32) (s : Subscriber) :
    s.markInactive.isFor handle = s.isFor handle := by
  cases s <;> rfl

/-- How the state and the list of a machine agree with what the modem knows of
a handle. -/
structure Agreed (handle : BitVec 32) (state : AgpsState) (list : List Subscriber) (talk : Talk) :
    Prop where
  base : ∀ s ∈ list, s.kind ≠ .ds
  count : list.countP (·.isFor handle) = talk.listed
  fits : talk.fits state = true

namespace Agreed

variable {handle : BitVec 32} {state : AgpsState} {list : List Subscriber} {talk : Talk}

theorem not_broken (agreed : Agreed handle state list talk) : talk ≠ .broken := by
  rintro rfl
  have fits := agreed.fits
  cases state <;> cases fits

theorem absent_of_count (agreed : Agreed handle state list talk)
    (nobody : list.countP (·.isFor handle) = 0) : talk = .absent := by
  have none := agreed.count.symm.trans nobody
  have sound := agreed.not_broken
  cases talk with
  | absent => rfl
  | waiting | opened => cases none
  | broken => exact absurd rfl sound

theorem absent_of_released (agreed : Agreed handle .released list talk) : talk = .absent := by
  have fits := agreed.fits
  cases talk with
  | absent => rfl
  | waiting | opened | broken => cases fits

/-- Without an entry for the handle any state will do. -/
theorem of_absent (base : ∀ s ∈ list, s.kind ≠ .ds)
    (nobody : list.countP (·.isFor handle) = 0) (next : AgpsState) :
    Agreed handle next list .absent :=
  ⟨base, nobody, by cases next <;> rfl⟩

theorem listed_iff (agreed : Agreed handle state list talk) :
    (∃ s ∈ list, s.isFor handle = true) ↔ talk = .waiting ∨ talk = .opened := by
  rw [← Talk.listed_eq_one, ← List.countP_pos_iff, agreed.count]
  have atMost := talk.listed_le_one
  omega

end Agreed

section Notified

variable {handle : BitVec 32} {state : AgpsState} {talk : Talk} {m : AgpsStateMachine}
  {notification : Notification}

/-- A notification for the entries of the handle. -/
theorem Agreed.notified
    (agreed : Agreed handle state m.mSubscribers (talk.heard handle m.out))
    (known : notification.rsrcStatus.known = true)
    (concerned : ∀ s ∈ m.mSubscribers, s.isFor handle = true → s.forMe notification = true) :
    talk.heard handle (m.notifySubscribers notification).out =
      (Talk.informed notification.rsrcStatus)^[(talk.heard handle m.out).listed]
        (talk.heard handle m.out) := by
  have base : ∀ s ∈ m.mSubscribers.filter (·.forMe notification), s.kind ≠ .ds :=
    fun s member => agreed.base s (List.mem_filter.mp member).1
  have all : (m.mSubscribers.filter (·.forMe notification)).countP (·.isFor handle) =
      m.mSubscribers.countP (·.isFor handle) := by
    rw [List.countP_filter]
    refine List.countP_congr (fun s member => ?_)
    have reached := concerned s member
    simp only [Bool.and_eq_true]
    exact ⟨And.left, fun mine => ⟨mine, reached mine⟩⟩
  rw [m.notifySubscribers_out notification known, Talk.heard_append,
    Talk.heard_flatMap handle m _ _ base, all, agreed.count]

/-- A notification that ends what the modem has on the handle, and removes the
entries it is for. -/
theorem Agreed.ended
    (agreed : Agreed handle state m.mSubscribers (talk.heard handle m.out))
    (known : notification.rsrcStatus.known = true) (delete : notification.postNotifyDelete = true)
    (concerned : ∀ s ∈ m.mSubscribers, s.isFor handle = true → s.forMe notification = true)
    (ends : ∀ talk : Talk, talk.fits state = true → talk ≠ .absent →
      talk.informed notification.rsrcStatus = .absent) (next : AgpsState) :
    Agreed handle next (m.notifySubscribers notification).mSubscribers
      (talk.heard handle (m.notifySubscribers notification).out) := by
  have heard := agreed.notified known concerned
  have removed := m.notifySubscribers_delete known delete
  have nobody : (m.notifySubscribers notification).mSubscribers.countP (·.isFor handle) = 0 := by
    rw [removed, List.countP_eq_zero]
    intro s member mine
    obtain ⟨listed, other⟩ := List.mem_filter.mp member
    rw [concerned s listed mine] at other
    cases other
  have base : ∀ s ∈ (m.notifySubscribers notification).mSubscribers, s.kind ≠ .ds := by
    rw [removed]
    exact fun s member => agreed.base s (List.mem_filter.mp member).1
  have absent : talk.heard handle (m.notifySubscribers notification).out = .absent := by
    rw [heard]
    have sound := agreed.not_broken
    have silent := ends _ agreed.fits
    generalize talk.heard handle m.out = before at sound silent ⊢
    cases before with
    | absent => rfl
    | waiting | opened => exact silent (by simp)
    | broken => exact absurd rfl sound
  rw [absent]
  exact .of_absent base nobody next

/-- A notification for other entries only. -/
theorem Agreed.spared
    (agreed : Agreed handle state m.mSubscribers (talk.heard handle m.out))
    (known : notification.rsrcStatus.known = true) (delete : notification.postNotifyDelete = true)
    (others : ∀ s ∈ m.mSubscribers, s.isFor handle = true → s.forMe notification = false) :
    Agreed handle state (m.notifySubscribers notification).mSubscribers
      (talk.heard handle (m.notifySubscribers notification).out) := by
  have base : ∀ s ∈ m.mSubscribers.filter (·.forMe notification), s.kind ≠ .ds :=
    fun s member => agreed.base s (List.mem_filter.mp member).1
  have none : (m.mSubscribers.filter (·.forMe notification)).countP (·.isFor handle) = 0 := by
    rw [List.countP_eq_zero]
    intro s member mine
    obtain ⟨listed, forMe⟩ := List.mem_filter.mp member
    rw [others s listed mine] at forMe
    cases forMe
  have kept : (m.mSubscribers.filter (!·.forMe notification)).countP (·.isFor handle) =
      m.mSubscribers.countP (·.isFor handle) := by
    rw [List.countP_filter]
    refine List.countP_congr (fun s member => ?_)
    have passed := others s member
    simp only [Bool.and_eq_true, Bool.not_eq_true']
    exact ⟨And.left, fun mine => ⟨mine, passed mine⟩⟩
  rw [m.notifySubscribers_out notification known, Talk.heard_append,
    Talk.heard_flatMap handle m _ _ base, none, m.notifySubscribers_delete known delete]
  exact ⟨fun s member => agreed.base s (List.mem_filter.mp member).1, kept.trans agreed.count,
    agreed.fits⟩

end Notified

section Handlers

variable {handle : BitVec 32} {state : AgpsState} {talk : Talk} {m : AgpsStateMachine}

/-- The framework's requests are no news for the modem. -/
theorem heard_sendRsrcRequest (action : AGpsStatusValue) (m : AgpsStateMachine) :
    talk.heard handle (AgpsStateMachine.sendRsrcRequest action m).1.out =
      talk.heard handle m.out := by
  rw [AgpsStateMachine.sendRsrcRequest_eq]
  dsimp only
  split
  · rw [AgpsStateMachine.emit, Talk.heard_append]
    rfl
  · rfl

theorem countP_markInactive (handle : BitVec 32) (list : List Subscriber) (position : Nat) :
    (list.modify position Subscriber.markInactive).countP (·.isFor handle) =
      list.countP (·.isFor handle) := by
  induction list generalizing position with
  | nil => cases position <;> rfl
  | cons s rest ih =>
      cases position with
      | zero => rw [List.modify_zero_cons, List.countP_cons, List.countP_cons,
          Subscriber.isFor_markInactive]
      | succ position => rw [List.modify_succ_cons, List.countP_cons, List.countP_cons, ih]

theorem Agreed.unsubscribeEntry
    (agreed : Agreed handle state m.mSubscribers (talk.heard handle m.out)) (position : Nat) :
    Agreed handle state (unsubscribeEntry position m).mSubscribers
      (talk.heard handle (unsubscribeEntry position m).out) := by
  cases entry : m.mSubscribers[position]? with
  | none =>
      simp only [Agps.unsubscribeEntry, entry]
      exact agreed
  | some s =>
      rcases unsubscribeEntry_cases entry with ⟨-, marked⟩ | ⟨-, removed⟩
      · have base := agreed.base s (List.mem_of_getElem? entry)
        have same : (m.mSubscribers.modify position Subscriber.markInactive).countP
            (·.isFor handle) = m.mSubscribers.countP (·.isFor handle) :=
          countP_markInactive handle m.mSubscribers position
        rw [marked, AgpsStateMachine.setInactive_out entry, if_neg base, List.append_nil,
          AgpsStateMachine.setInactive_mSubscribers]
        refine ⟨?_, same.trans agreed.count, agreed.fits⟩
        intro other member
        obtain ⟨original, listed, rfl | rfl⟩ := mem_modify_markInactive member
        · exact agreed.base other listed
        · rw [Subscriber.kind_markInactive]
          exact agreed.base original listed
      · rw [removed]
        by_cases mine : handle = s.ID
        · refine agreed.ended rfl rfl ?_ ?_ state
          · intro other _ isFor
            rw [Subscriber.forMe_unicast, Subscriber.equals_of_isFor isFor]
            exact beq_iff_eq.mpr mine
          · intro talk fits held
            cases talk with
            | absent => exact absurd rfl held
            | waiting | opened => rfl
            | broken => cases state <;> cases fits
        · refine agreed.spared rfl rfl ?_
          intro other _ isFor
          rw [Subscriber.forMe_unicast, Subscriber.equals_of_isFor isFor]
          exact beq_eq_false_iff_ne.mpr mine

/-- The entry that an unsubscribe acts on takes every entry of its ID along. -/
theorem Agreed.unsubscribeEntry_count
    (agreed : Agreed handle state m.mSubscribers (talk.heard handle m.out))
    (distinct : Distinct m.mSubscribers) {position : Nat} {s : Subscriber}
    (entry : m.mSubscribers[position]? = some s) (named : s.ID = handle) :
    (Agps.unsubscribeEntry position m).mSubscribers.countP (·.isFor handle) = 0 := by
  have listed := List.mem_of_getElem? entry
  rcases unsubscribeEntry_cases entry with ⟨waits, marked⟩ | ⟨-, removed⟩
  · rw [marked, AgpsStateMachine.setInactive_mSubscribers, countP_markInactive,
      List.countP_eq_zero]
    intro other member mine
    obtain ⟨atl, sameID⟩ := Subscriber.isFor_iff.mp mine
    cases s with
    | bit | atl => cases waits
    | ds => exact absurd rfl (agreed.base _ listed)
    | wifi =>
        have apart := distinct.ID_ne member listed (by rintro rfl; cases atl)
          (by rw [atl]; decide) (by simp [Subscriber.kind])
        exact apart (sameID.trans named.symm)
  · rw [removed, m.notifySubscribers_unicast s .unsubscribe rfl, List.countP_eq_zero]
    intro other member mine
    have kept := (List.mem_filter.mp member).2
    rw [Subscriber.equals_of_isFor mine, named] at kept
    simp at kept

theorem Agreed.releaseIfUnused
    (agreed : Agreed handle state m.mSubscribers (talk.heard handle m.out)) :
    Agreed handle (releaseIfUnused AgpsStateMachine.sendRsrcRequest state m).2
      (releaseIfUnused AgpsStateMachine.sendRsrcRequest state m).1.mSubscribers
      (talk.heard handle (releaseIfUnused AgpsStateMachine.sendRsrcRequest state m).1.out) := by
  rw [releaseIfUnused_mSubscribers sendRsrcRequest_frames]
  unfold Agps.releaseIfUnused
  split
  · rename_i unused
    have empty : m.mSubscribers = [] :=
      AgpsStateMachine.hasSubscribers_eq_false.mp (by simpa using unused)
    have nobody : m.mSubscribers.countP (·.isFor handle) = 0 := by rw [empty]; rfl
    rw [heard_sendRsrcRequest, agreed.absent_of_count nobody]
    exact .of_absent agreed.base nobody _
  · split
    · rename_i inactive
      have nobody : m.mSubscribers.countP (·.isFor handle) = 0 := by
        rw [List.countP_eq_zero]
        intro s member mine
        have active := AgpsStateMachine.hasActiveSubscribers_eq_true.mpr
          ⟨s, member, Subscriber.active_of_isFor mine⟩
        rw [active] at inactive
        cases inactive
      rw [heard_sendRsrcRequest, agreed.absent_of_count nobody]
      exact .of_absent agreed.base nobody _
    · exact agreed

/-- What a subscription adds to the entries of the handle, when no listed
subscriber is taken for it. -/
theorem addSubscriber_count (s : Subscriber)
    (apart : s.isFor handle = true → ∀ other ∈ m.mSubscribers, other.equals s = false) :
    (m.addSubscriber s).mSubscribers.countP (·.isFor handle) =
      m.mSubscribers.countP (·.isFor handle) + if s.isFor handle then 1 else 0 := by
  rcases m.addSubscriber_cases s with ⟨-, added⟩ | ⟨⟨other, member, same⟩, kept⟩
  · rw [added]
    simp [List.countP_cons]
  · rw [kept]
    split
    · rename_i mine
      rw [apart mine other member] at same
      cases same
    · rfl

theorem addSubscriber_base {s : Subscriber} (base : s.kind ≠ .ds)
    (all : ∀ other ∈ m.mSubscribers, other.kind ≠ .ds) :
    ∀ other ∈ (m.addSubscriber s).mSubscribers, other.kind ≠ .ds := by
  rcases m.addSubscriber_cases s with ⟨-, added⟩ | ⟨-, kept⟩
  · rw [added]
    simpa using ⟨base, all⟩
  · rw [kept]
    exact all

/-- A machine agrees with what its actions have told the modem. -/
abbrev AgpsStateMachine.Agreed (m : AgpsStateMachine) (handle : BitVec 32) (talk : Talk) : Prop :=
  Agps.Agreed handle m.mStatePtr m.mSubscribers (talk.heard handle m.out)

/-- A subscription: `talk` is where the modem stands once it has asked. -/
theorem AgpsStateMachine.Agreed.subscribe {before : Talk} {s : Subscriber}
    (agreed : Agps.Agreed handle m.mStatePtr m.mSubscribers before)
    (asked : talk.heard handle m.out = if s.isFor handle then .waiting else before)
    (base : s.kind ≠ .ds)
    (fresh : s.isFor handle = true →
      before = .absent ∧ ∀ other ∈ m.mSubscribers, other.equals s = false) :
    (m.onStateEvent sendRsrcRequest (.subscribe s)).Agreed handle talk := by
  have all := addSubscriber_base base agreed.base
  have counted := addSubscriber_count (m := m) s (fun mine => (fresh mine).2)
  rw [agreed.count] at counted
  -- the list after the call, whatever the handler has told before
  have settled : ∀ next after, after.listed = before.listed + (if s.isFor handle then 1 else 0) →
      Talk.fits next after = true →
      Agps.Agreed handle next (m.addSubscriber s).mSubscribers after :=
    fun next after count fits => ⟨all, counted.trans count.symm, fits⟩
  have waits : ∀ next, (next = .pending ∨ next = .releasing) → before.fits next = true →
      Agps.Agreed handle next (m.addSubscriber s).mSubscribers
        (if s.isFor handle then .waiting else before) := by
    intro next calm fits
    refine settled next _ ?_ ?_
    · split
      · rename_i mine
        rw [(fresh mine).1]
        rfl
      · rfl
    · split
      · rcases calm with rfl | rfl <;> rfl
      · exact fits
  unfold AgpsStateMachine.Agreed AgpsStateMachine.onStateEvent
  cases state : m.mStatePtr with
  | released =>
      rw [state] at agreed
      simp only [releasedOnRsrcEvent, sendRsrcRequest_result, if_true,
        sendRsrcRequest_mSubscribers, heard_sendRsrcRequest, addSubscriber_out, asked]
      exact waits .pending (.inl rfl) (by rw [agreed.absent_of_released]; rfl)
  | pending =>
      rw [state] at agreed
      simp only [pendingOnRsrcEvent, addSubscriber_out, asked]
      exact waits .pending (.inl rfl) agreed.fits
  | acquired =>
      rw [state] at agreed
      have granted : m.notifyRsrcStatus s (.unicast s .granted false) =
          (true, m.inform s .granted) := by
        simp [notifyRsrcStatus, Notification.unicast, AgpsRsrcStatus.known, Subscriber.forMe]
      have list : ((m.inform s .granted).addSubscriber s).mSubscribers =
          (m.addSubscriber s).mSubscribers :=
        addSubscriber_congr (inform_mSubscribers m s .granted) s
      simp only [acquiredOnRsrcEvent, granted, addSubscriber_out, inform_out, Talk.heard_append,
        Talk.heard_reports handle m base, asked, list]
      by_cases mine : s.isFor handle = true
      · simp only [mine, if_true]
        refine settled .acquired .opened ?_ rfl
        rw [(fresh mine).1, mine]
        rfl
      · simp only [mine, Bool.false_eq_true, if_false]
        exact settled .acquired before (by simp [mine]) agreed.fits
  | releasing =>
      rw [state] at agreed
      simp only [releasingOnRsrcEvent, addSubscriber_out, asked]
      exact waits .releasing (.inr rfl) agreed.fits

theorem AgpsStateMachine.Agreed.unsubscribe (agreed : m.Agreed handle talk) (position : Nat) :
    (m.onStateEvent sendRsrcRequest (.unsubscribe position)).Agreed handle talk := by
  have told := agreed.unsubscribeEntry position
  unfold AgpsStateMachine.Agreed at agreed ⊢
  unfold AgpsStateMachine.onStateEvent
  cases state : m.mStatePtr with
  | released =>
      rw [state] at agreed
      have absent := agreed.absent_of_released
      simp only [releasedOnRsrcEvent]
      split
      · rename_i s entry
        have nobody : s.isFor handle ≠ true := by
          have none := List.countP_eq_zero.mp (agreed.count.trans (by rw [absent]; rfl))
          exact none s (List.mem_of_getElem? entry)
        have base := agreed.base s (List.mem_of_getElem? entry)
        have heard : talk.heard handle
            (m.notifyRsrcStatus s (.unicast s .unsubscribe false)).2.out =
              talk.heard handle m.out := by
          unfold notifyRsrcStatus
          split
          · simp only [inform_out, Talk.heard_append, Talk.heard_reports handle m base, nobody,
              Bool.false_eq_true, if_false]
          · rfl
        simp only [heard, notifyRsrcStatus_mSubscribers]
        exact agreed
      · exact agreed
  | pending =>
      rw [state] at told
      exact told.releaseIfUnused
  | acquired =>
      rw [state] at told
      exact told.releaseIfUnused
  | releasing =>
      rw [state] at told
      simp only [releasingOnRsrcEvent]
      split
      · rename_i unused
        have empty := hasSubscribers_eq_false.mp (by simpa using unused)
        have nobody : (Agps.unsubscribeEntry position m).mSubscribers.countP
            (·.isFor handle) = 0 := by
          rw [empty]
          rfl
        simp only [told.absent_of_count nobody]
        exact .of_absent told.base nobody _
      · exact told

/-- The denied or released answer to a release reaches inactive entries only. -/
theorem Agreed.releasingFinish {status : AgpsRsrcStatus} (known : status.known = true)
    (agreed : Agreed handle .releasing m.mSubscribers (talk.heard handle m.out)) :
    Agreed handle (releasingFinish AgpsStateMachine.sendRsrcRequest status m).2
      (releasingFinish AgpsStateMachine.sendRsrcRequest status m).1.mSubscribers
      (talk.heard handle
        (releasingFinish AgpsStateMachine.sendRsrcRequest status m).1.out) := by
  have known : (Notification.broadcast .inactive status true).rsrcStatus.known = true := known
  have told := agreed.spared known rfl (fun s _ mine => Subscriber.active_of_isFor mine)
  unfold Agps.releasingFinish
  dsimp only
  generalize m.notifySubscribers (.broadcast .inactive status true) = left at told ⊢
  split
  · rw [heard_sendRsrcRequest, AgpsStateMachine.sendRsrcRequest_mSubscribers]
    have fits := told.fits
    refine ⟨told.base, told.count, ?_⟩
    generalize talk.heard handle left.out = after at fits ⊢
    cases after with
    | absent | waiting => rfl
    | opened | broken => cases fits
  · rename_i inactive
    have nobody : left.mSubscribers.countP (·.isFor handle) = 0 := by
      rw [List.countP_eq_zero]
      intro s member mine
      exact inactive (AgpsStateMachine.hasActiveSubscribers_eq_true.mpr
        ⟨s, member, Subscriber.active_of_isFor mine⟩)
    rw [told.absent_of_count nobody]
    exact .of_absent told.base nobody _

theorem AgpsStateMachine.Agreed.event (agreed : m.Agreed handle talk) (event : ServicerEvent) :
    (m.onRsrcEvent event).Agreed handle talk := by
  unfold AgpsStateMachine.Agreed at agreed ⊢
  unfold AgpsStateMachine.onRsrcEvent AgpsStateMachine.onStateEvent
  cases state : m.mStatePtr with
  | released =>
      rw [state] at agreed
      cases event with
      | granted | released | denied => exact agreed
  | pending =>
      rw [state] at agreed
      cases event with
      | granted =>
          have known : (Notification.broadcast .active .granted false).rsrcStatus.known = true := rfl
          have heard := agreed.notified known (fun s _ mine => by
              have active := Subscriber.active_of_isFor mine
              simp [Notification.broadcast, Subscriber.forMe, active])
          simp only [ServicerEvent.toRsrcEvent, pendingOnRsrcEvent,
            m.notifySubscribers_broadcast .active .granted rfl, heard]
          have count := agreed.count
          have fits := agreed.fits
          refine ⟨agreed.base, ?_, ?_⟩
          · rw [count]
            generalize talk.heard handle m.out = before at fits ⊢
            cases before with
            | absent | waiting => rfl
            | opened | broken => cases fits
          · generalize talk.heard handle m.out = before at fits ⊢
            cases before with
            | absent | waiting => rfl
            | opened | broken => cases fits
      | released => exact agreed
      | denied =>
          refine agreed.ended rfl rfl (fun _ _ _ => rfl) ?_ _
          intro talk fits held
          cases talk with
          | absent => exact absurd rfl held
          | waiting => rfl
          | opened | broken => cases fits
  | acquired =>
      rw [state] at agreed
      cases event with
      | granted | denied => exact agreed
      | released =>
          refine agreed.ended rfl rfl (fun _ _ _ => rfl) ?_ _
          intro talk fits held
          cases talk with
          | absent => exact absurd rfl held
          | opened => rfl
          | waiting | broken => cases fits
  | releasing =>
      rw [state] at agreed
      cases event with
      | granted => exact agreed
      | released => exact agreed.releasingFinish rfl
      | denied => exact agreed.releasingFinish rfl

end Handlers

end A5Common.Agps
