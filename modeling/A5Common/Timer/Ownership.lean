import A5Common.Timer.Steps

set_option autoImplicit false

namespace A5Common.Timer

open A5Common.Run

def LocMsg.pushed : LocMsg → Option LocTimerDelegate
  | .push mTimer => some mTimer
  | .remove _ | .expire => none

def LocMsg.removed : LocMsg → Option LocTimerDelegate
  | .remove mTimer => some mTimer
  | .push _ | .expire => none

/-- The timer whose callback may still be made. -/
def MsgTask.expired : MsgTask → Option LocTimerDelegate
  | .expiring _ timer | .stopping _ timer _ | .callingBack _ timer _ _ => some timer
  | .idle | .updating .. | .popping _ => none

/-- The timer that is about to be deleted. -/
def MsgTask.removing : MsgTask → Option LocTimerDelegate
  | .updating _ mTimer => mTimer
  | .idle | .popping _ | .expiring .. | .stopping .. | .callingBack .. => none

namespace LocTimerContainer

def pushes (σ : LocTimerContainer) : List LocTimerDelegate :=
  σ.queue.filterMap LocMsg.pushed

def removals (σ : LocTimerContainer) : List LocTimerDelegate :=
  σ.queue.filterMap LocMsg.removed

/-- The timers that wait, expire or have called back, each as often as it does. -/
def places (σ : LocTimerContainer) : List LocTimerDelegate :=
  σ.pushes ++ σ.mTree.toList ++ σ.msgTask.expired.toList ++ σ.callbacks.map Callback.timer

/-- The timers of the removals that were ever queued: they still are, are being
handled, or have been and their timer is deleted. -/
def releases (σ : LocTimerContainer) : List LocTimerDelegate :=
  σ.removals ++ σ.msgTask.removing.toList ++ σ.deleted

/-- Who refers to a delegate, with `made` the delegates by address. -/
structure Owned (made : Nat → Option LocTimerDelegate) (σ : LocTimerContainer) : Prop where
  created : ∀ address timer, made address = some timer → address < σ.created
  placed : ∀ timer ∈ σ.places, made timer.address = some timer
  released : ∀ timer ∈ σ.releases,
    made timer.address = some timer ∧ σ.mContainer timer.address = false
  places : σ.places.Nodup
  releases : σ.releases.Nodup
  running : ∀ client timer, σ.mTimer client = some timer →
    made timer.address = some timer ∧ σ.mClient timer.address = some client ∧
      σ.mContainer timer.address = true
  owner : ∀ address client, σ.mClient address = some client →
    ∃ timer, σ.mTimer client = some timer ∧ timer.address = address
  kept : ∀ client timer, σ.mTimer client = some timer →
    timer ∈ σ.pushes ∨ timer ∈ σ.mTree.toList ∨ timer ∈ σ.msgTask.expired
  stopping : ∀ now timer client, σ.msgTask = .stopping now timer client →
    ∀ other, σ.mClient timer.address = some other → other = client
  calling : ∀ now timer client stopped, σ.msgTask = .callingBack now timer client stopped →
    σ.mClient timer.address = none

theorem filterMap_cons_toList (f : LocMsg → Option LocTimerDelegate) (msg : LocMsg)
    (rest : List LocMsg) :
    (msg :: rest).filterMap f = (f msg).toList ++ rest.filterMap f := by
  rw [List.filterMap_cons]
  cases f msg <;> rfl

theorem Posts.places {σ τ : LocTimerContainer} {msgs : List LocMsg} (posts : σ.Posts τ msgs)
    (timer : LocTimerDelegate) :
    τ.places.count timer = σ.places.count timer + (msgs.filterMap LocMsg.pushed).count timer := by
  unfold LocTimerContainer.places pushes
  rw [posts.queue, posts.mTree, posts.msgTask, posts.callbacks]
  simp only [List.filterMap_append, List.count_append]
  omega

theorem Posts.releases {σ τ : LocTimerContainer} {msgs : List LocMsg} (posts : σ.Posts τ msgs)
    (timer : LocTimerDelegate) :
    τ.releases.count timer =
      σ.releases.count timer + (msgs.filterMap LocMsg.removed).count timer := by
  unfold LocTimerContainer.releases removals
  rw [posts.queue, posts.msgTask, posts.deleted]
  simp only [List.filterMap_append, List.count_append]
  omega

theorem expireNext_places {σ : LocTimerContainer} (now : Timespec)
    {popped : Option LocTimerDelegate × LocHeapNode LocTimerDelegate}
    (moved : σ.mTree.toList.Perm (popped.1.toList ++ popped.2.toList))
    (timer : LocTimerDelegate) :
    (expireNext now popped σ).places.count timer ≤ σ.places.count timer := by
  have total := moved.count_eq timer
  rw [List.count_append] at total
  rcases expireNext_cases now popped σ with ⟨top, taken, next⟩ | ⟨taken, next⟩
  · rw [next]
    unfold LocTimerContainer.places pushes
    simp only [taken, MsgTask.expired, List.count_append] at total ⊢
    omega
  · rw [next]
    unfold LocTimerContainer.places pushes
    simp only [taken, MsgTask.expired, List.count_append, Option.toList_none, List.count_nil]
      at total ⊢
    omega

theorem stop_places (client : Nat) (σ : LocTimerContainer) (timer : LocTimerDelegate) :
    (σ.stop client).2.places.count timer = σ.places.count timer := by
  rcases stop_posts client σ with posts | ⟨_, -, posts⟩
  · exact posts.places timer
  · exact posts.places timer

theorem places_withTask (σ : LocTimerContainer) (task : MsgTask) (timer : LocTimerDelegate) :
    (places { σ with msgTask := task }).count timer + σ.msgTask.expired.toList.count timer =
      σ.places.count timer + task.expired.toList.count timer := by
  unfold LocTimerContainer.places pushes
  simp only [List.count_append]
  omega

theorem places_dropTask (σ : LocTimerContainer) {task : MsgTask} (none : task.expired = none)
    (timer : LocTimerDelegate) :
    (places { σ with msgTask := task }).count timer ≤ σ.places.count timer := by
  have moved := places_withTask σ task timer
  rw [none, Option.toList_none, List.count_nil] at moved
  omega

theorem releases_withTask (σ : LocTimerContainer) (task : MsgTask) (timer : LocTimerDelegate) :
    (releases { σ with msgTask := task }).count timer + σ.msgTask.removing.toList.count timer =
      σ.releases.count timer + task.removing.toList.count timer := by
  unfold LocTimerContainer.releases removals
  simp only [List.count_append]
  omega

theorem Posts.mem_pushes {σ τ : LocTimerContainer} {msgs : List LocMsg} (posts : σ.Posts τ msgs)
    {timer : LocTimerDelegate} (queued : timer ∈ σ.pushes) : timer ∈ τ.pushes := by
  unfold pushes
  rw [posts.queue, List.filterMap_append]
  exact List.mem_append_left _ queued

theorem stop_posts_some (client : Nat) (σ : LocTimerContainer) :
    ∃ msgs, σ.Posts (σ.stop client).2 msgs := by
  rcases stop_posts client σ with posts | ⟨_, -, posts⟩
  · exact ⟨_, posts⟩
  · exact ⟨_, posts⟩

/-- The message thread moves timers on, or lets go of them. -/
theorem MsgStep.places_le {σ τ : LocTimerContainer} (step : σ.MsgStep τ)
    (timer : LocTimerDelegate) : τ.places.count timer ≤ σ.places.count timer := by
  cases step with
  | handle place queue =>
      rename_i msg rest
      cases msg with
      | push mTimer =>
          have pushed := (LocHeapNode.push_perm LocTimerDelegate.outRanks σ.mTree mTimer).count_eq
            timer
          unfold LocTimerContainer.places pushes proc
          simp only [queue, place, filterMap_cons_toList, LocMsg.pushed, MsgTask.expired,
            Option.toList_some, List.singleton_append, List.count_append, List.count_cons]
            at pushed ⊢
          omega
      | remove mTimer =>
          have removed := (LocHeapNode.remove_contents LocTimerDelegate.outRanks σ.mTree
            mTimer).count_eq timer
          unfold LocTimerContainer.places pushes proc
          simp only [queue, place, filterMap_cons_toList, LocMsg.pushed, MsgTask.expired,
            Option.toList_none, List.nil_append, List.count_append] at removed ⊢
          omega
      | expire =>
          have taken : places { σ with queue := rest } = σ.places := by
            unfold LocTimerContainer.places pushes
            rw [queue, filterMap_cons_toList]
            rfl
          rw [← taken]
          apply expireNext_places
          exact LocHeapNode.pop_contents LocTimerDelegate.outRanks σ.mTree
  | call place =>
      rename_i next calls mTimer
      have task := places_dropTask (σ.call next)
        (show (MsgTask.updating calls mTimer).expired = none from rfl) timer
      have same : (σ.call next).places = σ.places := by
        cases next <;> rfl
      rw [same] at task
      exact task
  | delete place => exact places_dropTask σ (show MsgTask.idle.expired = none from rfl) timer
  | pop place => exact expireNext_places _ (popIfOutRanks_contents σ _) timer
  | skip place unset => exact places_dropTask σ rfl timer
  | read place owner =>
      rename_i now held client
      have moved := places_withTask σ (.stopping now held client) timer
      rw [place] at moved
      exact Nat.le_of_eq (Nat.add_right_cancel moved)
  | late place none => exact places_dropTask σ rfl timer
  | stop place running =>
      rename_i now other stopped client
      have moved := places_withTask (σ.stop client).2 (.callingBack now other client stopped) timer
      obtain ⟨msgs, posts⟩ := stop_posts_some client σ
      rw [stop_places, posts.msgTask, place] at moved
      exact Nat.le_of_eq (Nat.add_right_cancel moved)
  | callBack place =>
      unfold LocTimerContainer.places pushes
      simp only [place, MsgTask.expired, List.count_append, Option.toList_none, Option.toList_some,
        List.count_nil, List.map_append, List.map_cons, List.map_nil]
      omega

/-- The fields of the timers and of their delegates are left alone. -/
structure SameFields (σ τ : LocTimerContainer) : Prop where
  mTimer : τ.mTimer = σ.mTimer
  mClient : τ.mClient = σ.mClient
  mContainer : τ.mContainer = σ.mContainer
  created : τ.created = σ.created

theorem expireNext_quiet {σ : LocTimerContainer} (now : Timespec)
    (popped : Option LocTimerDelegate × LocHeapNode LocTimerDelegate)
    (none : σ.msgTask.removing = none) :
    σ.SameFields (expireNext now popped σ) ∧
      (expireNext now popped σ).releases = σ.releases := by
  rcases expireNext_cases now popped σ with ⟨top, -, next⟩ | ⟨-, next⟩
  · rw [next]
    unfold LocTimerContainer.releases
    rw [none]
    exact ⟨⟨rfl, rfl, rfl, rfl⟩, rfl⟩
  · rw [next]
    unfold LocTimerContainer.releases
    rw [none]
    exact ⟨⟨rfl, rfl, rfl, rfl⟩, rfl⟩

/-- The message thread queues a removal where it stops a timer, and nowhere else. -/
theorem MsgStep.quiet {σ τ : LocTimerContainer} (step : σ.MsgStep τ) :
    (∃ now timer client stopped, σ.msgTask = .stopping now timer client ∧
      σ.mTimer client = some stopped ∧
      τ = { (σ.stop client).2 with msgTask := .callingBack now timer client stopped }) ∨
    (σ.SameFields τ ∧ ∀ timer, τ.releases.count timer = σ.releases.count timer) := by
  cases step with
  | handle place queue =>
      rename_i msg rest
      apply Or.inr
      cases msg with
      | push mTimer =>
          refine ⟨⟨rfl, rfl, rfl, rfl⟩, fun timer => ?_⟩
          unfold LocTimerContainer.releases removals proc
          rw [queue, place, filterMap_cons_toList]
          rfl
      | remove mTimer =>
          refine ⟨⟨rfl, rfl, rfl, rfl⟩, fun timer => ?_⟩
          unfold LocTimerContainer.releases removals proc
          simp only [queue, place, filterMap_cons_toList, LocMsg.removed, MsgTask.removing,
            Option.toList_some, Option.toList_none, List.count_append, List.count_nil]
          omega
      | expire =>
          have none : σ.msgTask.removing = none := by
            rw [place]
            rfl
          let taken : LocTimerContainer := { σ with queue := rest }
          have left : taken.releases = σ.releases := by
            unfold LocTimerContainer.releases removals
            rw [queue, filterMap_cons_toList]
            rfl
          have unset : taken.msgTask.removing = Option.none := none
          obtain ⟨fields, same⟩ := expireNext_quiet σ.clock
            (σ.mTree.pop LocTimerDelegate.outRanks) unset
          refine ⟨⟨fields.mTimer, fields.mClient, fields.mContainer, fields.created⟩, ?_⟩
          intro timer
          exact congrArg (List.count timer) (same.trans left)
  | call place =>
      rename_i next calls mTimer
      apply Or.inr
      unfold LocTimerContainer.releases removals
      rw [place]
      cases next <;> exact ⟨⟨rfl, rfl, rfl, rfl⟩, fun _ => rfl⟩
  | delete place =>
      refine .inr ⟨⟨rfl, rfl, rfl, rfl⟩, fun timer => ?_⟩
      unfold LocTimerContainer.releases removals
      simp only [place, MsgTask.removing, Option.toList_none, List.count_append, List.count_nil]
      omega
  | pop place =>
      rename_i now
      have none : σ.msgTask.removing = none := by
        rw [place]
        rfl
      obtain ⟨fields, same⟩ := expireNext_quiet now (σ.popIfOutRanks now) none
      exact .inr ⟨fields, fun timer => by rw [same]⟩
  | skip place unset =>
      refine .inr ⟨⟨rfl, rfl, rfl, rfl⟩, fun timer => ?_⟩
      unfold LocTimerContainer.releases removals
      rw [place]
      rfl
  | read place owner =>
      refine .inr ⟨⟨rfl, rfl, rfl, rfl⟩, fun timer => ?_⟩
      unfold LocTimerContainer.releases removals
      rw [place]
      rfl
  | late place none =>
      refine .inr ⟨⟨rfl, rfl, rfl, rfl⟩, fun timer => ?_⟩
      unfold LocTimerContainer.releases removals
      rw [place]
      rfl
  | stop place running => exact .inl ⟨_, _, _, _, place, running, rfl⟩
  | callBack place =>
      refine .inr ⟨⟨rfl, rfl, rfl, rfl⟩, fun timer => ?_⟩
      unfold LocTimerContainer.releases removals
      rw [place]
      rfl

theorem count_other {timer other : LocTimerDelegate} (apart : timer ≠ other) :
    [timer].count other = 0 := by
  apply List.count_eq_zero.mpr
  intro member
  exact apart (List.mem_singleton.mp member).symm

theorem nodup_of_count_le {before after : List LocTimerDelegate} (nodup : before.Nodup)
    (fewer : ∀ timer, after.count timer ≤ before.count timer) : after.Nodup := by
  rw [List.nodup_iff_count] at nodup ⊢
  exact fun timer => Nat.le_trans (fewer timer) (nodup timer)

theorem nodup_of_count_add {before after : List LocTimerDelegate} {timer : LocTimerDelegate}
    (nodup : before.Nodup) (fresh : timer ∉ before)
    (added : ∀ other, after.count other = before.count other + [timer].count other) :
    after.Nodup := by
  rw [List.nodup_iff_count] at nodup ⊢
  intro other
  rw [added other]
  by_cases same : timer = other
  · subst same
    have once : before.count timer + [timer].count timer = 1 := by
      rw [List.count_eq_zero.mpr fresh, List.count_singleton_self]
    exact Nat.le_of_eq once
  · rw [count_other same]
    exact nodup other

theorem mem_of_count_add {before after : List LocTimerDelegate} {timer other : LocTimerDelegate}
    (added : after.count other = before.count other + [timer].count other)
    (member : other ∈ after) : other = timer ∨ other ∈ before := by
  by_cases same : timer = other
  · exact .inl same.symm
  · rw [← List.count_pos_iff, added, count_other same] at member
    exact .inr (List.count_pos_iff.mp member)

theorem mem_of_count_le {before after : List LocTimerDelegate} {timer : LocTimerDelegate}
    (fewer : after.count timer ≤ before.count timer) (member : timer ∈ after) : timer ∈ before := by
  rw [← List.count_pos_iff] at member ⊢
  exact Nat.lt_of_lt_of_le member fewer

theorem Owned.of_same {made : Nat → Option LocTimerDelegate} {σ τ : LocTimerContainer}
    (owned : σ.Owned made) (same : σ.SameFields τ)
    (places : ∀ timer, τ.places.count timer ≤ σ.places.count timer)
    (releases : ∀ timer, τ.releases.count timer = σ.releases.count timer)
    (kept : ∀ client timer, σ.mTimer client = some timer →
      timer ∈ τ.pushes ∨ timer ∈ τ.mTree.toList ∨ timer ∈ τ.msgTask.expired)
    (stopping : ∀ now timer client, τ.msgTask = .stopping now timer client →
      ∀ other, σ.mClient timer.address = some other → other = client)
    (calling : ∀ now timer client stopped, τ.msgTask = .callingBack now timer client stopped →
      σ.mClient timer.address = none) : τ.Owned made where
  created := by
    rw [same.created]
    exact owned.created
  placed := fun timer member => owned.placed timer (mem_of_count_le (places timer) member)
  released := by
    intro timer member
    rw [same.mContainer]
    exact owned.released timer (mem_of_count_le (Nat.le_of_eq (releases timer)) member)
  places := nodup_of_count_le owned.places places
  releases := nodup_of_count_le owned.releases (fun timer => Nat.le_of_eq (releases timer))
  running := by
    rw [same.mTimer, same.mClient, same.mContainer]
    exact owned.running
  owner := by
    rw [same.mTimer, same.mClient]
    exact owned.owner
  kept := by
    rw [same.mTimer]
    exact kept
  stopping := by
    rw [same.mClient]
    exact stopping
  calling := by
    rw [same.mClient]
    exact calling

theorem update_eq_some {β : Type} {f : Nat → Option β} {key other : Nat} {value : Option β}
    {found : β} (looked : Function.update f key value other = some found) :
    (other = key ∧ value = some found) ∨ (other ≠ key ∧ f other = some found) := by
  by_cases same : other = key
  · subst same
    rw [Function.update_self] at looked
    exact .inl ⟨rfl, looked⟩
  · rw [Function.update_of_ne same] at looked
    exact .inr ⟨same, looked⟩

theorem mem_places_of_expired {σ : LocTimerContainer} {timer : LocTimerDelegate}
    (held : σ.msgTask.expired = some timer) : timer ∈ σ.places := by
  unfold places
  rw [held]
  exact List.mem_append_left _ (List.mem_append_right _ List.mem_cons_self)

/-- A started timer has a new delegate. -/
theorem Owned.start {made : Nat → Option LocTimerDelegate} {σ : LocTimerContainer}
    (owned : σ.Owned made) {client : Nat} (none : σ.mTimer client = none)
    (timeOutInMs : BitVec 32) :
    (σ.start client timeOutInMs).Owned (Function.update made σ.created
      (some ⟨σ.created, σ.clock.futureTime timeOutInMs⟩)) := by
  let timer : LocTimerDelegate := ⟨σ.created, σ.clock.futureTime timeOutInMs⟩
  have posts : σ.Posts (σ.start client timeOutInMs) [.push timer] := by
    rcases start_posts client timeOutInMs σ with ⟨_, running, -⟩ | ⟨-, posts⟩
    · rw [none] at running
      cases running
    · exact posts
  have older : ∀ other : LocTimerDelegate, made other.address = some other →
      other.address ≠ σ.created := by
    intro other before
    exact Nat.ne_of_lt (owned.created _ _ before)
  have kept : ∀ other : LocTimerDelegate, made other.address = some other →
      Function.update made σ.created (some timer) other.address = some other := by
    intro other before
    rw [Function.update_of_ne (older other before)]
    exact before
  have fresh : timer ∉ σ.places := by
    intro member
    exact older timer (owned.placed timer member) rfl
  have placed : ∀ other, (σ.start client timeOutInMs).places.count other =
      σ.places.count other + [timer].count other := posts.places
  have released : ∀ other, (σ.start client timeOutInMs).releases.count other =
      σ.releases.count other := posts.releases
  rw [start_none none] at *
  constructor
  case created =>
    intro address other looked
    rcases update_eq_some looked with ⟨same, -⟩ | ⟨-, before⟩
    · exact same ▸ Nat.lt_succ_self _
    · exact Nat.lt_succ_of_lt (owned.created address other before)
  case placed =>
    intro other member
    rcases mem_of_count_add (placed other) member with rfl | before
    · exact Function.update_self _ _ _
    · exact kept other (owned.placed other before)
  case released =>
    intro other member
    obtain ⟨before, unset⟩ :=
      owned.released other (mem_of_count_le (Nat.le_of_eq (released other)) member)
    refine ⟨kept other before, ?_⟩
    rw [← unset]
    exact Function.update_of_ne (older other before) _ _
  case places => exact nodup_of_count_add owned.places fresh placed
  case releases =>
    exact nodup_of_count_le owned.releases (fun other => Nat.le_of_eq (released other))
  case running =>
    intro other running looked
    rcases update_eq_some looked with ⟨rfl, same⟩ | ⟨-, before⟩
    · cases same
      exact ⟨Function.update_self _ _ _, Function.update_self _ _ _, Function.update_self _ _ _⟩
    · obtain ⟨known, owner, contained⟩ := owned.running other running before
      have old := older running known
      refine ⟨kept running known, ?_, ?_⟩
      · rw [← owner]
        exact Function.update_of_ne old _ _
      · rw [← contained]
        exact Function.update_of_ne old _ _
  case owner =>
    intro address other looked
    rcases update_eq_some looked with ⟨rfl, same⟩ | ⟨-, before⟩
    · cases same
      exact ⟨timer, Function.update_self _ _ _, rfl⟩
    · obtain ⟨running, before, found⟩ := owned.owner address other before
      refine ⟨running, ?_, found⟩
      rw [← before]
      apply Function.update_of_ne
      intro same
      rw [same, none] at before
      cases before
  case kept =>
    intro other running looked
    unfold pushes
    rw [List.filterMap_append, List.mem_append]
    rcases update_eq_some looked with ⟨rfl, same⟩ | ⟨-, before⟩
    · cases same
      exact .inl (.inr List.mem_cons_self)
    · exact (owned.kept other running before).imp_left .inl
  case stopping =>
    intro now held found task other looked
    rcases update_eq_some looked with ⟨same, -⟩ | ⟨-, before⟩
    · have known := owned.placed held (mem_places_of_expired (congrArg MsgTask.expired task))
      exact absurd same (older held known)
    · exact owned.stopping now held found task other before
  case calling =>
    intro now held found stopped task
    have known := owned.placed held (mem_places_of_expired (congrArg MsgTask.expired task))
    rw [← owned.calling now held found stopped task]
    exact Function.update_of_ne (older held known) _ _

/-- A stopped timer is released, for the first time. -/
theorem Owned.stop {made : Nat → Option LocTimerDelegate} {σ : LocTimerContainer}
    (owned : σ.Owned made) {client : Nat} {timer : LocTimerDelegate}
    (running : σ.mTimer client = some timer) : (σ.stop client).2.Owned made := by
  obtain ⟨known, owner, contained⟩ := owned.running client timer running
  have posts : σ.Posts (σ.stop client).2 [.remove timer] := by
    rw [stop_some running contained]
    exact ⟨rfl, rfl, rfl, rfl, rfl, rfl, rfl, rfl, rfl⟩
  have placed : ∀ other, (σ.stop client).2.places.count other =
      σ.places.count other := posts.places
  have released : ∀ other, (σ.stop client).2.releases.count other =
      σ.releases.count other + [timer].count other := posts.releases
  have unreleased : timer ∉ σ.releases := by
    intro member
    have unset := (owned.released timer member).2
    rw [contained] at unset
    cases unset
  have cleared : ∀ address other,
      Function.update σ.mClient timer.address none address = some other →
      address ≠ timer.address ∧ σ.mClient address = some other := by
    intro address other looked
    rcases update_eq_some looked with ⟨-, unset⟩ | before
    · cases unset
    · exact before
  have others : ∀ other running,
      Function.update σ.mTimer client none other = some running →
      other ≠ client ∧ σ.mTimer other = some running := by
    intro other running looked
    rcases update_eq_some looked with ⟨-, unset⟩ | before
    · cases unset
    · exact before
  rw [stop_some running contained] at *
  constructor
  case created => exact owned.created
  case placed =>
    intro other member
    exact owned.placed other (mem_of_count_le (Nat.le_of_eq (placed other)) member)
  case released =>
    intro other member
    rcases mem_of_count_add (released other) member with rfl | member
    · exact ⟨known, Function.update_self _ _ _⟩
    · obtain ⟨before, unset⟩ := owned.released other member
      refine ⟨before, ?_⟩
      by_cases address : other.address = timer.address
      · rw [address]
        exact Function.update_self _ _ _
      · rw [← unset]
        exact Function.update_of_ne address _ _
  case places =>
    exact nodup_of_count_le owned.places (fun other => Nat.le_of_eq (placed other))
  case releases => exact nodup_of_count_add owned.releases unreleased released
  case running =>
    intro other found looked
    obtain ⟨different, before⟩ := others other found looked
    obtain ⟨foundKnown, foundOwner, foundContained⟩ := owned.running other found before
    have apart : found.address ≠ timer.address := by
      intro same
      rw [same, owner] at foundOwner
      exact different (Option.some.inj foundOwner).symm
    refine ⟨foundKnown, ?_, ?_⟩
    · rw [← foundOwner]
      exact Function.update_of_ne apart _ _
    · rw [← foundContained]
      exact Function.update_of_ne apart _ _
  case owner =>
    intro address other looked
    obtain ⟨apart, before⟩ := cleared address other looked
    obtain ⟨found, runs, place⟩ := owned.owner address other before
    refine ⟨found, ?_, place⟩
    rw [← runs]
    apply Function.update_of_ne
    intro same
    rw [same, running] at runs
    cases runs
    exact apart place.symm
  case kept =>
    intro other found looked
    unfold pushes
    rw [List.filterMap_append, List.mem_append]
    obtain ⟨-, before⟩ := others other found looked
    exact (owned.kept other found before).imp_left .inl
  case stopping =>
    intro now held found task other looked
    exact owned.stopping now held found task other (cleared _ _ looked).2
  case calling =>
    intro now held found stopped task
    cases looked : Function.update σ.mClient timer.address none held.address with
    | none => exact looked
    | some other =>
        have unset := owned.calling now held found stopped task
        rw [(cleared _ _ looked).2] at unset
        cases unset

theorem kept_expireNext {σ : LocTimerContainer} (now : Timespec)
    {popped : Option LocTimerDelegate × LocHeapNode LocTimerDelegate}
    (moved : σ.mTree.toList.Perm (popped.1.toList ++ popped.2.toList)) {timer : LocTimerDelegate}
    (kept : timer ∈ σ.pushes ∨ timer ∈ σ.mTree.toList) :
    timer ∈ (expireNext now popped σ).pushes ∨ timer ∈ (expireNext now popped σ).mTree.toList ∨
      timer ∈ (expireNext now popped σ).msgTask.expired := by
  rw [moved.mem_iff, List.mem_append, Option.mem_toList] at kept
  rcases expireNext_cases now popped σ with ⟨top, taken, next⟩ | ⟨taken, next⟩
  · rw [next]
    rw [taken] at kept
    rcases kept with queued | held | left
    · exact .inl queued
    · exact .inr (.inr held)
    · exact .inr (.inl left)
  · rw [next]
    rw [taken] at kept
    rcases kept with queued | held | left
    · exact .inl queued
    · cases held
    · exact .inr (.inl left)

/-- A timer that runs is not lost from the queue, the heap or the hands of the
message thread. -/
theorem Owned.kept_step {made : Nat → Option LocTimerDelegate} {σ τ : LocTimerContainer}
    (owned : σ.Owned made) (step : σ.MsgStep τ) {client : Nat} {timer : LocTimerDelegate}
    (running : σ.mTimer client = some timer) :
    timer ∈ τ.pushes ∨ timer ∈ τ.mTree.toList ∨ timer ∈ τ.msgTask.expired := by
  obtain ⟨-, owner, contained⟩ := owned.running client timer running
  have kept := owned.kept client timer running
  cases step with
  | handle place queue =>
      rename_i msg rest
      have none : σ.msgTask.expired = Option.none := by
        rw [place]
        rfl
      have queued : σ.pushes = msg.pushed.toList ++ rest.filterMap LocMsg.pushed := by
        unfold pushes
        rw [queue, filterMap_cons_toList]
      simp only [none, queued, List.mem_append, Option.mem_toList, Option.not_mem_none,
        or_false] at kept
      cases msg with
      | push mTimer =>
          rcases kept with (first | queued) | stored
          · exact .inr (.inl (LocHeapNode.mem_push.mpr (.inl (Option.some.inj first).symm)))
          · exact .inl queued
          · exact .inr (.inl (LocHeapNode.mem_push.mpr (.inr stored)))
      | remove mTimer =>
          rcases kept with (first | queued) | stored
          · cases first
          · exact .inl queued
          · have removal : mTimer ∈ σ.releases := by
              unfold LocTimerContainer.releases removals
              rw [queue, filterMap_cons_toList]
              exact List.mem_append_left _ (List.mem_append_left _ List.mem_cons_self)
            have moved := (LocHeapNode.remove_contents LocTimerDelegate.outRanks σ.mTree
              mTimer).mem_iff.mp stored
            rcases List.mem_append.mp moved with taken | left
            · have same := LocHeapNode.remove_returns (Option.mem_toList.mp taken)
              rw [same, (owned.released mTimer removal).2] at contained
              cases contained
            · exact .inr (.inl left)
      | expire =>
          apply kept_expireNext
          · exact LocHeapNode.pop_contents LocTimerDelegate.outRanks σ.mTree
          · exact kept.imp_left (fun queued => queued.resolve_left nofun)
  | call place =>
      rename_i next calls mTimer
      rw [place] at kept
      cases next <;> exact kept
  | delete place =>
      rw [place] at kept
      exact kept
  | pop place =>
      rw [place] at kept
      apply kept_expireNext
      · exact popIfOutRanks_contents σ _
      · exact kept.imp_right (fun stored => stored.resolve_right nofun)
  | skip place unset =>
      rename_i now other
      rw [place] at kept
      refine kept.imp_right (fun stored => .inl (stored.resolve_right ?_))
      intro held
      rw [Option.some.inj held, owner] at unset
      cases unset
  | read place found =>
      rw [place] at kept
      exact kept
  | late place none =>
      rename_i now other late
      rw [place] at kept
      refine kept.imp_right (fun stored => .inl (stored.resolve_right ?_))
      intro held
      rw [← Option.some.inj held] at owner
      rw [← owned.stopping now other late place client owner, running] at none
      cases none
  | stop place found =>
      rename_i now other stopped stopper
      rw [place] at kept
      obtain ⟨msgs, posts⟩ := stop_posts_some stopper σ
      refine kept.imp (fun queued => posts.mem_pushes queued) (Or.imp_left ?_)
      intro stored
      exact posts.mTree ▸ stored
  | callBack place =>
      rename_i now other stopped called
      rw [place] at kept
      refine kept.imp_right (fun stored => .inl (stored.resolve_right ?_))
      intro held
      have unset := owned.calling now other called stopped place
      rw [Option.some.inj held, owner] at unset
      cases unset

/-- The message thread goes on with a timer that has expired, or with the descriptor. -/
def GoesOn (task : MsgTask) : Prop :=
  (∃ now timer, task = .expiring now timer) ∨ ∃ calls mTimer, task = .updating calls mTimer

theorem expireNext_goesOn (now : Timespec)
    (popped : Option LocTimerDelegate × LocHeapNode LocTimerDelegate) (σ : LocTimerContainer) :
    GoesOn (expireNext now popped σ).msgTask := by
  rcases expireNext_cases now popped σ with ⟨timer, -, next⟩ | ⟨-, next⟩
  · rw [next]
    exact .inl ⟨now, timer, rfl⟩
  · rw [next]
    exact .inr ⟨_, none, rfl⟩

theorem proc_goesOn (σ : LocTimerContainer) (msg : LocMsg) : GoesOn (σ.proc msg).msgTask := by
  cases msg with
  | push mTimer => exact .inr ⟨_, _, rfl⟩
  | remove mTimer => exact .inr ⟨_, _, rfl⟩
  | expire => exact expireNext_goesOn σ.clock (σ.mTree.pop LocTimerDelegate.outRanks) σ

theorem not_goesOn_stopping {now : Timespec} {timer : LocTimerDelegate} {client : Nat} :
    ¬ GoesOn (.stopping now timer client) := by
  rintro (⟨_, _, same⟩ | ⟨_, _, same⟩) <;> cases same

theorem not_goesOn_callingBack {now : Timespec} {timer stopped : LocTimerDelegate}
    {client : Nat} : ¬ GoesOn (.callingBack now timer client stopped) := by
  rintro (⟨_, _, same⟩ | ⟨_, _, same⟩) <;> cases same

/-- The message thread comes to stop a client that it has read from the delegate. -/
theorem MsgStep.stopping {σ τ : LocTimerContainer} (step : σ.MsgStep τ) {now : Timespec}
    {timer : LocTimerDelegate} {client : Nat} (task : τ.msgTask = .stopping now timer client) :
    σ.msgTask = .expiring now timer ∧ σ.mClient timer.address = some client := by
  cases step with
  | handle place queue =>
      rename_i msg rest
      have next := proc_goesOn { σ with queue := rest } msg
      rw [task] at next
      exact absurd next not_goesOn_stopping
  | pop place =>
      rename_i reading
      have next := expireNext_goesOn reading (σ.popIfOutRanks reading) σ
      rw [task] at next
      exact absurd next not_goesOn_stopping
  | read place owner =>
      cases task
      exact ⟨place, owner⟩
  | call place | delete place | skip place unset | late place none | stop place running
  | callBack place => cases task

/-- The message thread comes to call back a client that it has stopped. -/
theorem MsgStep.calling {σ τ : LocTimerContainer} (step : σ.MsgStep τ) {now : Timespec}
    {timer stopped : LocTimerDelegate} {client : Nat}
    (task : τ.msgTask = .callingBack now timer client stopped) :
    σ.msgTask = .stopping now timer client ∧ σ.mTimer client = some stopped ∧
      τ = { (σ.stop client).2 with msgTask := .callingBack now timer client stopped } := by
  cases step with
  | handle place queue =>
      rename_i msg rest
      have next := proc_goesOn { σ with queue := rest } msg
      rw [task] at next
      exact absurd next not_goesOn_callingBack
  | pop place =>
      rename_i reading
      have next := expireNext_goesOn reading (σ.popIfOutRanks reading) σ
      rw [task] at next
      exact absurd next not_goesOn_callingBack
  | stop place running =>
      cases task
      exact ⟨place, running, rfl⟩
  | call place | delete place | skip place unset | late place none | read place owner
  | callBack place => cases task

/-- A delegate whose client is being stopped for it has no client left. -/
theorem Owned.cleared {made : Nat → Option LocTimerDelegate} {σ : LocTimerContainer}
    (owned : σ.Owned made) {now : Timespec} {timer stopped : LocTimerDelegate} {client : Nat}
    (place : σ.msgTask = .stopping now timer client) (running : σ.mTimer client = some stopped) :
    (σ.stop client).2.mClient timer.address = none := by
  have after := owned.stop running
  obtain ⟨-, -, contained⟩ := owned.running client stopped running
  obtain ⟨msgs, posts⟩ := stop_posts_some client σ
  have task : (σ.stop client).2.msgTask = .stopping now timer client := posts.msgTask.trans place
  cases looked : (σ.stop client).2.mClient timer.address with
  | none => rfl
  | some other =>
      obtain ⟨found, runs, -⟩ := after.owner timer.address other looked
      rw [after.stopping now timer client task other looked, stop_some running contained] at runs
      have unset : Function.update σ.mTimer client none client = none :=
        Function.update_self _ _ _
      cases unset.symm.trans runs

/-- The message thread goes on with the timer that it has in its hands. -/
theorem Owned.withTask {made : Nat → Option LocTimerDelegate} {σ : LocTimerContainer}
    (owned : σ.Owned made) {task : MsgTask} (expired : task.expired = σ.msgTask.expired)
    (removing : task.removing = σ.msgTask.removing)
    (stopping : ∀ now timer client, task = .stopping now timer client →
      ∀ other, σ.mClient timer.address = some other → other = client)
    (calling : ∀ now timer client stopped, task = .callingBack now timer client stopped →
      σ.mClient timer.address = none) : Owned made { σ with msgTask := task } := by
  apply Owned.of_same owned
  · exact ⟨rfl, rfl, rfl, rfl⟩
  · intro timer
    have moved := places_withTask σ task timer
    rw [expired] at moved
    exact Nat.le_of_eq (Nat.add_right_cancel moved)
  · intro timer
    have moved := releases_withTask σ task timer
    rw [removing] at moved
    exact Nat.add_right_cancel moved
  · intro client timer running
    have before := owned.kept client timer running
    rw [← expired] at before
    exact before
  · exact stopping
  · exact calling

theorem Owned.msgStep {made : Nat → Option LocTimerDelegate} {σ τ : LocTimerContainer}
    (owned : σ.Owned made) (step : σ.MsgStep τ) : τ.Owned made := by
  have kept : ∀ client timer, σ.mTimer client = some timer →
      timer ∈ τ.pushes ∨ timer ∈ τ.mTree.toList ∨ timer ∈ τ.msgTask.expired :=
    fun client timer running => owned.kept_step step running
  rcases step.quiet with ⟨now, timer, client, stopped, place, running, rfl⟩ | ⟨same, releases⟩
  · have after := owned.stop running
    obtain ⟨msgs, posts⟩ := stop_posts_some client σ
    have task : (σ.stop client).2.msgTask = .stopping now timer client := posts.msgTask.trans place
    apply after.withTask
    · exact (congrArg MsgTask.expired task).symm
    · exact (congrArg MsgTask.removing task).symm
    · exact fun _ _ _ different => nomatch different
    · intro _ other called _ same
      cases same
      exact owned.cleared place running
  · apply owned.of_same same step.places_le releases kept
    · intro now timer client task other looked
      obtain ⟨-, owner⟩ := step.stopping task
      exact Option.some.inj (looked.symm.trans owner)
    · intro now timer client stopped task
      obtain ⟨place, running, rfl⟩ := step.calling task
      rw [← same.mClient]
      exact owned.cleared place running

/-- A step that leaves the timers and all that refers to them. -/
theorem Owned.aside {made : Nat → Option LocTimerDelegate} {σ : LocTimerContainer}
    (owned : σ.Owned made) (clock : Timespec) (it_value : Option Timespec) (polled : Bool)
    (pollTask : PollTask) :
    Owned made { σ with
      clock := clock, it_value := it_value, polled := polled, pollTask := pollTask } :=
  ⟨owned.created, owned.placed, owned.released, owned.places, owned.releases, owned.running,
    owned.owner, owned.kept, owned.stopping, owned.calling⟩

theorem Owned.sendExpire {made : Nat → Option LocTimerDelegate} {σ : LocTimerContainer}
    (owned : σ.Owned made) : (σ.sendMsg .expire).Owned made := by
  have posts := sendMsg_posts .expire σ
  apply Owned.of_same owned
  · exact ⟨rfl, rfl, rfl, rfl⟩
  · exact fun timer => Nat.le_of_eq (posts.places timer)
  · exact posts.releases
  · exact fun client timer running => (owned.kept client timer running).imp_left posts.mem_pushes
  · exact owned.stopping
  · exact owned.calling

theorem Owned.stepPollTask {made : Nat → Option LocTimerDelegate} {σ τ : LocTimerContainer}
    (owned : σ.Owned made) (taken : σ.stepPollTask = some τ) : τ.Owned made := by
  rcases stepPollTask_cases taken with ⟨-, -, -, rfl⟩ | ⟨-, rfl⟩ | ⟨-, rfl⟩ | ⟨-, rfl⟩
  · exact owned.aside _ _ _ _
  · exact owned.aside _ _ _ _
  · exact owned.aside _ _ _ _
  · exact owned.sendExpire.aside _ _ _ _

theorem owned_new (clock : Timespec) : (new clock).Owned (fun _ => none) where
  created := fun _ _ known => by cases known
  placed := fun _ member => by cases member
  released := fun _ member => by cases member
  places := .nil
  releases := .nil
  running := fun _ _ running => by cases running
  owner := fun _ _ owner => by cases owner
  kept := fun _ _ running => by cases running
  stopping := fun _ _ _ task => by cases task
  calling := fun _ _ _ _ task => by cases task

end LocTimerContainer

theorem timers_owned {guard : LocTimerContainer → LocTimerContainer.Label → Prop}
    {σ : LocTimerContainer} (run : timers.ReachableUnder guard σ) :
    ∃ made, σ.Owned made := by
  apply run.invariant (fun σ => ∃ made, LocTimerContainer.Owned made σ)
  · intro σ first
    obtain ⟨clock, rfl⟩ := first
    refine ⟨fun _ => none, ?_⟩
    exact LocTimerContainer.owned_new clock
  · intro before label after _ ⟨made, owned⟩ _ taken
    cases label with
    | tick clock =>
        simp only [timers, LocTimerContainer.step] at taken
        split at taken
        · obtain rfl := Option.some.inj taken
          exact ⟨made, owned.aside _ _ _ _⟩
        · cases taken
    | start client timeOutInMs =>
        obtain rfl := Option.some.inj taken
        cases running : before.mTimer client with
        | none => exact ⟨_, owned.start running timeOutInMs⟩
        | some timer =>
            rw [LocTimerContainer.start_some running]
            exact ⟨made, owned⟩
    | stop client =>
        obtain rfl := Option.some.inj taken
        cases running : before.mTimer client with
        | none =>
            rw [LocTimerContainer.stop_none running]
            exact ⟨made, owned⟩
        | some timer => exact ⟨made, owned.stop running⟩
    | msgTask => exact ⟨made, owned.msgStep (LocTimerContainer.stepMsgTask_cases taken)⟩
    | pollTask => exact ⟨made, owned.stepPollTask taken⟩

end A5Common.Timer
