import A5Common.Agps.DataService

set_option autoImplicit false

namespace A5Common.Agps

open A5Common.Run

/-- What a subscription is owed when the call returns: an active entry of its
own, or word that it failed. -/
def Served (s : Subscriber) (after : AgpsStateMachine) : Prop :=
  (∃ e ∈ after.mSubscribers, e.isInactive = false ∧ e.kind = s.kind ∧ e.equals s = true) ∨
  .notified s .denied ∈ after.out

instance (s : Subscriber) (after : AgpsStateMachine) : Decidable (Served s after) :=
  inferInstanceAs (Decidable (_ ∨ _))

/-- No entry but a live one of its own class stands for the subscriber. -/
def NotShadowed (m : AgpsStateMachine) (s : Subscriber) : Prop :=
  (∀ e ∈ m.mSubscribers, e.equals s = false) ∨
  ∃ e ∈ m.mSubscribers, e.isInactive = false ∧ e.kind = s.kind ∧ e.equals s = true

theorem addSubscriber_served (m : AgpsStateMachine) (s : Subscriber) :
    (∃ e ∈ (m.addSubscriber s).mSubscribers,
      e.isInactive = false ∧ e.kind = s.kind ∧ e.equals s = true) ↔ NotShadowed m s := by
  rcases m.addSubscriber_cases s with ⟨fresh, added⟩ | ⟨⟨e, listed, same⟩, kept⟩
  · rw [added]
    refine ⟨fun _ => .inl fresh, fun _ => ⟨s.clone, by simp, ?_⟩⟩
    simp
  · rw [kept]
    refine ⟨.inr, ?_⟩
    rintro (fresh | own)
    · rw [fresh e listed] at same
      cases same
    · exact own

theorem denied_not_mem_reports (m : AgpsStateMachine) (s : Subscriber) :
    .notified s .denied ∉ m.reports s .granted := by
  cases s <;>
    simp [AgpsStateMachine.reports, AgpsStateMachine.inform, AgpsStateMachine.informStatus,
      AgpsStateMachine.emit]

theorem mem_told {a : Action} {actions : List Action} (tells : a.told? = some a) :
    a ∈ told actions ↔ a ∈ actions := by
  simp only [told, List.mem_filterMap]
  constructor
  · rintro ⟨b, member, same⟩
    have alike : b = a := by
      cases b <;> simp_all [Action.told?]
    exact alike ▸ member
  · intro member
    exact ⟨a, member, tells⟩

/-- The subscribe event of every state adds the subscriber, and tells it nothing
or that it is granted. -/
theorem onStateEvent_subscribe {send : SendRsrcRequest} (frames : send.Frames)
    {m : AgpsStateMachine} (clear : m.out = []) (s : Subscriber) :
    (m.onStateEvent send (.subscribe s)).mSubscribers = (m.addSubscriber s).mSubscribers ∧
    .notified s .denied ∉ (m.onStateEvent send (.subscribe s)).out := by
  unfold AgpsStateMachine.onStateEvent
  cases m.mStatePtr with
  | released =>
      have quiet : .notified s .denied ∉
          (send .requestAgpsDataConn (m.addSubscriber s)).1.out := by
        rw [← mem_told rfl, frames.told, AgpsStateMachine.addSubscriber_out, clear]
        exact List.not_mem_nil
      simp only [releasedOnRsrcEvent]
      split <;> exact ⟨frames.mSubscribers _ _, quiet⟩
  | acquired =>
      refine ⟨AgpsStateMachine.addSubscriber_congr (by simp) s, ?_⟩
      have granted := m.inform_out s .granted
      rw [clear, List.nil_append] at granted
      simp only [acquiredOnRsrcEvent, AgpsStateMachine.addSubscriber_out,
        AgpsStateMachine.notifyRsrcStatus, Subscriber.forMe_unicast, Subscriber.equals_self]
      exact granted ▸ denied_not_mem_reports m s
  | pending | releasing =>
      refine ⟨rfl, ?_⟩
      simp [pendingOnRsrcEvent, releasingOnRsrcEvent, clear]

/-- A machine that refuses a second subscriber tells it so. Any other serves
exactly the subscribers that no foreign or leaving entry stands for. -/
theorem subscribeRsrc_served {send : SendRsrcRequest} (frames : send.Frames)
    {m : AgpsStateMachine} (clear : m.out = []) (s : Subscriber) :
    Served s (m.subscribeRsrc send s) ↔
      (m.mEnforceSingleSubscriber = true ∧ m.mSubscribers ≠ []) ∨ NotShadowed m s := by
  unfold AgpsStateMachine.subscribeRsrc
  split
  · rename_i refused
    rw [Bool.and_eq_true, AgpsStateMachine.hasSubscribers_eq_true] at refused
    have told : .notified s .denied ∈
        (m.notifySubscriber s (.broadcast .all .denied true)).2.out := by
      have denied := m.inform_out s .denied
      simp only [AgpsStateMachine.notifySubscriber, AgpsStateMachine.notifyRsrcStatus,
        Subscriber.forMe_all]
      refine denied ▸ List.mem_append_right _ ?_
      cases s <;>
        simp [AgpsStateMachine.reports, AgpsStateMachine.inform, AgpsStateMachine.informStatus,
          AgpsStateMachine.emit]
    exact ⟨fun _ => .inl refused, fun _ => .inr told⟩
  · rename_i open'
    rw [Bool.and_eq_true, AgpsStateMachine.hasSubscribers_eq_true] at open'
    obtain ⟨list, quiet⟩ := onStateEvent_subscribe frames clear s
    rw [Served, list, or_iff_left quiet, addSubscriber_served, or_iff_right open']

/-- For every machine of both classes and every subscriber: the subscription is
not lost exactly if the machine refuses it in words, or no entry of another
class and no entry waiting for its close has its identity while no live entry of
its own does. -/
theorem subscription_served_iff (m : AgpsStateMachine) (s : Subscriber) :
    (Served s (m.perform (.subscribeRsrc s)) ↔
      (m.mEnforceSingleSubscriber = true ∧ m.mSubscribers ≠ []) ∨ NotShadowed m s) ∧
    ∀ answer, Served s (DSStateMachine.perform answer m (.subscribeRsrc s)) ↔
      (m.mEnforceSingleSubscriber = true ∧ m.mSubscribers ≠ []) ∨ NotShadowed m s :=
  ⟨subscribeRsrc_served sendRsrcRequest_frames rfl s,
    fun answer => subscribeRsrc_served (DSStateMachine.sendRsrcRequest_frames answer) rfl s⟩

/-- A WIFI client comes back while its first entry still waits for the close. -/
theorem subscription_absorbed :
    ¬ ∀ m, agpsMachine.Reachable m → ∀ s : Subscriber, s.kind ≠ .ds →
      Served s (m.perform (.subscribeRsrc s)) := by
  intro served
  let wifi := Subscriber.wifi 7 none none false (Vector.replicate 16 0)
  let left := ((AgpsStateMachine.new AGPS_TYPE_SUPL false).perform (.subscribeRsrc wifi)).perform
    (.unsubscribeRsrc wifi)
  have started : agpsMachine.Reachable (.new AGPS_TYPE_SUPL false) := .start ⟨_, _, rfl⟩
  have run : agpsMachine.Reachable left := reachable_perform (reachable_perform started rfl) rfl
  have lost : ¬ Served wifi (left.perform (.subscribeRsrc wifi)) := by decide
  exact lost (served left run wifi (by decide))

end A5Common.Agps
