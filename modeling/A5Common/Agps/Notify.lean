import A5Common.Agps.MachineFacts

set_option autoImplicit false

namespace A5Common.Agps

/-- The subscriber that a notification went to, with its status. -/
def Action.delivery : Action → Option (Subscriber × AgpsRsrcStatus)
  | .notified s status => some (s, status)
  | _ => none

/-- The deliveries among some actions, oldest first. -/
def deliveries (actions : List Action) : List (Subscriber × AgpsRsrcStatus) :=
  actions.filterMap Action.delivery

namespace AgpsStateMachine

/-- The while loop of notifySubscribers, from a test of its condition to its end. -/
inductive NotifyLoop (notification : Notification) : AgpsStateMachine → AgpsStateMachine → Prop
  | done {before after : AgpsStateMachine}
      (searched : searchNotify notification before.mSubscribers before = (none, after)) :
      NotifyLoop notification before after
  | again {before between after : AgpsStateMachine} {position : Nat}
      (searched : searchNotify notification before.mSubscribers before = (some position, between))
      (rest : NotifyLoop notification
        { between with mSubscribers := between.mSubscribers.eraseIdx position } after) :
      NotifyLoop notification before after

theorem notifySubscriber_mSubscribers (m : AgpsStateMachine) (s : Subscriber)
    (notification : Notification) :
    (m.notifySubscriber s notification).2.mSubscribers = m.mSubscribers :=
  notifyRsrcStatus_mSubscribers m s notification

/-- What a search finds is in the list, and a search does not change the list. -/
theorem searchNotify_inside (notification : Notification) (list : List Subscriber)
    (m : AgpsStateMachine) :
    (searchNotify notification list m).2.mSubscribers = m.mSubscribers ∧
      ∀ position, (searchNotify notification list m).1 = some position → position < list.length := by
  induction list generalizing m with
  | nil => simp [searchNotify]
  | cons s rest ih =>
      unfold searchNotify
      dsimp only
      split
      · simp [notifySubscriber_mSubscribers]
      · obtain ⟨same, inside⟩ := ih (m.notifySubscriber s notification).2
        refine ⟨same.trans (notifySubscriber_mSubscribers m s notification), ?_⟩
        intro position found
        obtain ⟨before, earlier, rfl⟩ := Option.map_eq_some_iff.mp found
        exact Nat.succ_lt_succ (inside before earlier)

/-- The loop ends, whatever it looks for: the list gets shorter each time around. -/
theorem notifyDeleteLoop_ends (notification : Notification) (fuel : Nat) (m : AgpsStateMachine)
    (enough : m.mSubscribers.length < fuel) :
    NotifyLoop notification m (notifyDeleteLoop notification fuel m) := by
  induction fuel generalizing m with
  | zero => omega
  | succ fuel ih =>
      have inside := searchNotify_inside notification m.mSubscribers m
      unfold notifyDeleteLoop
      split
      · rename_i after searched
        exact .done searched
      · rename_i position between searched
        rw [searched] at inside
        have same : between.mSubscribers = m.mSubscribers := inside.1
        have below : position < m.mSubscribers.length := inside.2 position rfl
        have shorter : (between.mSubscribers.eraseIdx position).length < fuel := by
          rw [same, List.length_eraseIdx_of_lt below]
          omega
        exact .again searched (ih { between with
          mSubscribers := between.mSubscribers.eraseIdx position } shorter)

theorem NotifyLoop.unique {notification : Notification} {m first second : AgpsStateMachine}
    (one : NotifyLoop notification m first) (other : NotifyLoop notification m second) :
    first = second := by
  induction one with
  | done searched =>
      cases other with
      | done searched' =>
          rw [searched] at searched'
          exact congrArg Prod.snd searched'
      | again searched' =>
          rw [searched] at searched'
          cases searched'
  | again searched _ ih =>
      cases other with
      | done searched' =>
          rw [searched] at searched'
          cases searched'
      | again searched' rest' =>
          rw [searched] at searched'
          cases searched'
          exact ih rest'

/-- A notification to be removed with its receivers is the loop, and the loop is it. -/
theorem notifyLoop_iff {notification : Notification} (delete : notification.postNotifyDelete = true)
    (m after : AgpsStateMachine) :
    NotifyLoop notification m after ↔ after = m.notifySubscribers notification := by
  have ends := notifyDeleteLoop_ends notification _ m (Nat.lt_succ_self m.mSubscribers.length)
  have body : m.notifySubscribers notification =
      notifyDeleteLoop notification (m.mSubscribers.length + 1) m := if_pos delete
  rw [← body] at ends
  constructor
  · exact fun loop => loop.unique ends
  · intro same
    rw [same]
    exact ends

/-- Who has heard of a notification, and who is left in the list. -/
structure Reaches (m : AgpsStateMachine) (notification : Notification)
    (after : AgpsStateMachine) : Prop where
  notified : deliveries after.out = deliveries m.out ++
    (m.mSubscribers.filter (·.forMe notification)).map (·, notification.rsrcStatus)
  removed : notification.postNotifyDelete = true →
    after.mSubscribers = m.mSubscribers.filter (!·.forMe notification)
  kept : notification.postNotifyDelete = false → after.mSubscribers = m.mSubscribers

theorem deliveries_reports (m : AgpsStateMachine) (s : Subscriber) (status : AgpsRsrcStatus) :
    deliveries (m.reports s status) = [(s, status)] := by
  cases s <;> cases status <;> rfl

theorem deliveries_flatMap (m : AgpsStateMachine) (list : List Subscriber)
    (status : AgpsRsrcStatus) :
    deliveries (list.flatMap (fun s => m.reports s status)) = list.map (·, status) := by
  induction list with
  | nil => rfl
  | cons s rest ih =>
      have first := deliveries_reports m s status
      unfold deliveries at first ih ⊢
      rw [List.flatMap_cons, List.filterMap_append, first, ih]
      rfl

/-- A notification goes, once each and in the order of the list, to the
subscribers it is for. Exactly these are removed if it asks for that, by a loop
that comes to its end. -/
theorem notifySubscribers_reaches (m : AgpsStateMachine) (notification : Notification)
    (known : notification.rsrcStatus.known = true) :
    m.Reaches notification (m.notifySubscribers notification) ∧
      (notification.postNotifyDelete = true → ∀ after, NotifyLoop notification m after ↔
        after = m.notifySubscribers notification) := by
  refine ⟨⟨?_, m.notifySubscribers_delete known, m.notifySubscribers_keep known⟩, ?_⟩
  · rw [m.notifySubscribers_out notification known]
    have listed := deliveries_flatMap m (m.mSubscribers.filter (·.forMe notification))
      notification.rsrcStatus
    unfold deliveries at listed ⊢
    rw [List.filterMap_append, listed]
  · exact fun delete => notifyLoop_iff delete m

/-- Of three subscribers the two with one ID are told, and go. -/
theorem notifySubscribers_reaches_two :
    ∃ m : AgpsStateMachine, m.mSubscribers.length = 3 ∧
      m.Reaches (.unicast (.ds 5 false (Vector.replicate 16 0)) .unsubscribe true)
        (m.notifySubscribers (.unicast (.ds 5 false (Vector.replicate 16 0)) .unsubscribe true)) :=
  let zeros : IPv6Addr := Vector.replicate 16 0
  ⟨{ AgpsStateMachine.new AGPS_TYPE_SUPL false with
      mSubscribers := [.atl 5 false zeros, .atl 7 false zeros, .wifi 5 none none false zeros] },
    rfl, (notifySubscribers_reaches _ _ rfl).1⟩

end AgpsStateMachine

end A5Common.Agps
