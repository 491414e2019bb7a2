import A5Common.Timer.Ranked

set_option autoImplicit false

namespace A5Common.Timer

open A5Common.Run

/-- The client whose fields the message thread uses next. -/
def MsgTask.client : MsgTask → Option Nat
  | .stopping _ _ client | .callingBack _ _ client _ => some client
  | .idle | .updating .. | .popping _ | .expiring .. => none

/-- The client that the message thread is about to stop. -/
def MsgTask.stops : MsgTask → Option Nat
  | .stopping _ _ client => some client
  | .idle | .updating .. | .popping _ | .expiring .. | .callingBack .. => none

/-- A container with what became of its clients and of their starts. -/
structure LocTimers where
  container : LocTimerContainer
  destroyed : List Nat
  /-- The delegates of the starts for which a `stop` of the client returned true. -/
  stopped : List LocTimerDelegate
  /-- The clients that the message thread used after their destruction. -/
  touched : List Nat

namespace LocTimers

def new (clock : Timespec) : LocTimers :=
  ⟨.new clock, [], [], []⟩

/-- A `stop` made by the client. -/
def stop (client : Nat) (s : LocTimers) : LocTimers :=
  { s with
    container := (s.container.stop client).2
    stopped := if (s.container.stop client).1 then
        s.stopped ++ (s.container.mTimer client).toList
      else s.stopped }

inductive Label where
  | timers (label : LocTimerContainer.Label)
  /-- `~LocTimer`, which stops the timer first. -/
  | destroy (client : Nat)

def step (s : LocTimers) : Label → Option LocTimers
  | .timers (.start client timeOutInMs) =>
      if client ∈ s.destroyed then none
      else some { s with container := s.container.start client timeOutInMs }
  | .timers (.stop client) => if client ∈ s.destroyed then none else some (s.stop client)
  | .destroy client =>
      if client ∈ s.destroyed then none
      else some { s.stop client with destroyed := client :: s.destroyed }
  | .timers .msgTask =>
      s.container.stepMsgTask.map (fun container => { s with
        container := container
        touched := s.touched ++
          s.container.msgTask.client.toList.filter (fun client => client ∈ s.destroyed) })
  | .timers .pollTask =>
      s.container.stepPollTask.map (fun container => { s with container := container })
  | .timers (.tick clock) =>
      (s.container.step (.tick clock)).map (fun container => { s with container := container })

/-- No start and no destruction comes in between the moment an expiry reads the
client from the delegate and its use of that client; and no timer waits for
decades. -/
def undisturbed (s : LocTimers) : Label → Prop
  | .timers (.start client _) =>
      s.container.msgTask.stops ≠ some client ∧ s.container.Current
  | .destroy client => s.container.msgTask.client ≠ some client
  | .timers (.stop _) | .timers .msgTask | .timers .pollTask | .timers (.tick _) => True

instance (s : LocTimers) (label : Label) : Decidable (s.undisturbed label) :=
  match label with
  | .timers (.start client _) => inferInstanceAs
      (Decidable (s.container.msgTask.stops ≠ some client ∧ s.container.Current))
  | .destroy client => inferInstanceAs (Decidable (s.container.msgTask.client ≠ some client))
  | .timers (.stop _) | .timers .msgTask | .timers .pollTask | .timers (.tick _) =>
      inferInstanceAs (Decidable True)

/-- What is promised of each delegate. -/
structure Lifetime (s : LocTimers) : Prop where
  /-- A removal is queued at most once. -/
  releases : s.container.releases.Nodup
  deleted : s.container.deleted.Nodup
  gone : ∀ timer ∈ s.container.deleted, timer ∉ s.container.mTree.toList ∧
    LocMsg.push timer ∉ s.container.queue ∧ LocMsg.remove timer ∉ s.container.queue
  callbacks : (s.container.callbacks.map Callback.timer).Nodup
  stopped : ∀ made ∈ s.container.callbacks, made.timer ∉ s.stopped
  own : ∀ made ∈ s.container.callbacks, made.stopped = made.timer

end LocTimers

/-- A container with clients that start, stop and are destroyed. -/
def lifetimes : System LocTimers LocTimers.Label where
  initial s := ∃ clock, s = LocTimers.new clock
  step := LocTimers.step

namespace LocTimerContainer

theorem update_none {β : Type} {f : Nat → Option β} {key other : Nat} (unset : f other = none) :
    Function.update f key none other = none := by
  by_cases same : other = key
  · rw [same]
    exact Function.update_self _ _ _
  · rw [Function.update_of_ne same]
    exact unset

theorem update_some {β : Type} {f : Nat → Option β} {key other : Nat} {value : β}
    (found : Function.update f key none other = some value) : f other = some value := by
  rcases update_eq_some found with ⟨-, unset⟩ | ⟨-, before⟩
  · cases unset
  · exact before

theorem stop_mTimer (client : Nat) (σ : LocTimerContainer) :
    (σ.stop client).2.mTimer client = none := by
  unfold stop
  split
  · rename_i unset
    exact unset
  · dsimp only [destroyLocked]
    split
    · exact Function.update_self _ _ _
    · exact Function.update_self _ _ _

/-- A stop starts no timer, and gives no delegate a client. -/
theorem stop_unset (client : Nat) (σ : LocTimerContainer) :
    (∀ other timer, (σ.stop client).2.mTimer other = some timer →
        σ.mTimer other = some timer) ∧
      (∀ address, σ.mClient address = none → (σ.stop client).2.mClient address = none) ∧
      (σ.stop client).2.created = σ.created := by
  unfold stop
  split
  · exact ⟨fun _ _ => id, fun _ => id, rfl⟩
  · dsimp only [destroyLocked]
    split
    · exact ⟨fun _ _ => update_some, fun _ => update_none, rfl⟩
    · exact ⟨fun _ _ => update_some, fun _ => update_none, rfl⟩

theorem expireNext_callbacks (now : Timespec)
    (popped : Option LocTimerDelegate × LocHeapNode LocTimerDelegate) (σ : LocTimerContainer) :
    (expireNext now popped σ).callbacks = σ.callbacks := by
  rcases expireNext_cases now popped σ with ⟨top, -, next⟩ | ⟨-, next⟩ <;> rw [next]

theorem MsgStep.unset {σ τ : LocTimerContainer} (step : σ.MsgStep τ) :
    (∀ client timer, τ.mTimer client = some timer → σ.mTimer client = some timer) ∧
      (∀ address, σ.mClient address = none → τ.mClient address = none) ∧
      τ.created = σ.created := by
  rcases step.quiet with ⟨now, timer, client, stopped, -, -, rfl⟩ | ⟨same, -⟩
  · exact stop_unset client σ
  · rw [same.mTimer, same.mClient, same.created]
    exact ⟨fun _ _ => id, fun _ => id, rfl⟩

theorem MsgStep.client {σ τ : LocTimerContainer} (step : σ.MsgStep τ) {client : Nat}
    (uses : τ.msgTask.client = some client) :
    σ.msgTask.client = some client ∨ ∃ address, σ.mClient address = some client := by
  cases task : τ.msgTask with
  | stopping now timer other =>
      rw [task] at uses
      obtain rfl := Option.some.inj uses
      exact .inr ⟨_, (step.stopping task).2⟩
  | callingBack now timer other stopped =>
      rw [task] at uses
      obtain rfl := Option.some.inj uses
      rw [(step.calling task).1]
      exact .inl rfl
  | idle | updating calls mTimer | popping now | expiring now timer =>
      rw [task] at uses
      cases uses

theorem MsgStep.callbacks {σ τ : LocTimerContainer} (step : σ.MsgStep τ) :
    τ.callbacks = σ.callbacks ∨ ∃ now timer client stopped,
      σ.msgTask = .callingBack now timer client stopped ∧
        τ.callbacks = σ.callbacks ++ [⟨client, timer, stopped, σ.clock⟩] := by
  cases step with
  | handle place queue =>
      rename_i msg rest
      cases msg with
      | push mTimer => exact .inl rfl
      | remove mTimer => exact .inl rfl
      | expire => exact .inl (expireNext_callbacks _ _ _)
  | call place =>
      rename_i next calls mTimer
      cases next <;> exact .inl rfl
  | pop place => exact .inl (expireNext_callbacks _ _ _)
  | stop place running =>
      rename_i now timer stopped client
      obtain ⟨msgs, posts⟩ := stop_posts_some client σ
      exact .inl posts.callbacks
  | callBack place => exact .inr ⟨_, _, _, _, place, rfl⟩
  | delete place | skip place unset | read place owner | late place none => exact .inl rfl

end LocTimerContainer

namespace LocTimers

structure Sound (s : LocTimers) : Prop where
  ranked : s.container.Ranked
  /-- The client that is about to be stopped runs no other timer. -/
  stopping : ∀ now timer client, s.container.msgTask = .stopping now timer client →
    ∀ running, s.container.mTimer client = some running → running = timer
  calling : ∀ now timer client stopped,
    s.container.msgTask = .callingBack now timer client stopped →
    stopped = timer ∧ timer ∉ s.stopped
  called : ∀ made ∈ s.container.callbacks, made.stopped = made.timer ∧
    made.timer ∉ s.stopped ∧ s.container.mClient made.timer.address = none
  stopped : ∀ timer ∈ s.stopped, timer.address < s.container.created ∧
    s.container.mClient timer.address = none
  destroyed : ∀ client ∈ s.destroyed, s.container.mTimer client = none ∧
    s.container.msgTask.client ≠ some client
  touched : s.touched = []

theorem stop_of_none {s : LocTimers} {client : Nat} (none : s.container.mTimer client = none) :
    s.stop client = s := by
  unfold stop LocTimerContainer.stop
  rw [none]
  rfl

theorem Sound.stop {made : Nat → Option LocTimerDelegate} {s : LocTimers} (sound : s.Sound)
    (owned : s.container.Owned made) (client : Nat) : (s.stop client).Sound := by
  cases running : s.container.mTimer client with
  | none =>
      rw [stop_of_none running]
      exact sound
  | some timer =>
      obtain ⟨known, owner, contained⟩ := owned.running client timer running
      have stopped : (s.stop client).stopped = s.stopped ++ [timer] := by
        unfold LocTimers.stop LocTimerContainer.stop
        rw [running]
        rfl
      obtain ⟨runs, unsetClient, created⟩ :=
        LocTimerContainer.stop_unset client s.container
      obtain ⟨msgs, posts⟩ := LocTimerContainer.stop_posts_some client s.container
      have apart : ∀ other : LocTimerDelegate, other ∉ s.stopped →
          s.container.mClient other.address = none → other ∉ s.stopped ++ [timer] := by
        intro other before unset member
        rcases List.mem_append.mp member with old | new
        · exact before old
        · rw [List.mem_singleton.mp new, owner] at unset
          cases unset
      constructor
      case ranked => exact sound.ranked.stop client
      case stopping =>
        intro now other found task held started
        rw [show (s.stop client).container.msgTask = s.container.msgTask from posts.msgTask] at task
        exact sound.stopping now other found task held (runs _ _ started)
      case calling =>
        intro now other found held task
        rw [show (s.stop client).container.msgTask = s.container.msgTask from posts.msgTask] at task
        obtain ⟨same, before⟩ := sound.calling now other found held task
        rw [stopped]
        exact ⟨same, apart other before (owned.calling now other found held task)⟩
      case called =>
        intro called member
        rw [show (s.stop client).container.callbacks = s.container.callbacks
          from posts.callbacks] at member
        obtain ⟨same, before, unset⟩ := sound.called called member
        rw [stopped]
        exact ⟨same, apart _ before unset, unsetClient _ unset⟩
      case stopped =>
        intro other member
        rw [stopped, List.mem_append, List.mem_singleton] at member
        rw [show (s.stop client).container.created = s.container.created from created]
        rcases member with old | rfl
        · obtain ⟨before, unset⟩ := sound.stopped other old
          exact ⟨before, unsetClient _ unset⟩
        · have explicit : (s.stop client).container.mClient =
              Function.update s.container.mClient other.address none :=
            congrArg LocTimerContainer.mClient (LocTimerContainer.stop_some running contained)
          rw [explicit]
          exact ⟨owned.created _ _ known, Function.update_self _ _ _⟩
      case destroyed =>
        intro other member
        obtain ⟨idle, unused⟩ := sound.destroyed other member
        refine ⟨Option.eq_none_iff_forall_ne_some.mpr ?_, ?_⟩
        · intro held started
          rw [runs _ _ started] at idle
          cases idle
        · rw [show (s.stop client).container.msgTask = s.container.msgTask from posts.msgTask]
          exact unused
      case touched => exact sound.touched

theorem Sound.start {made : Nat → Option LocTimerDelegate} {s : LocTimers} (sound : s.Sound)
    (owned : s.container.Owned made) {client : Nat} (alive : client ∉ s.destroyed)
    (free : s.container.msgTask.stops ≠ some client) (current : s.container.Current)
    (timeOutInMs : BitVec 32) :
    Sound { s with container := s.container.start client timeOutInMs } := by
  cases running : s.container.mTimer client with
  | some timer =>
      rw [LocTimerContainer.start_some running]
      exact sound
  | none =>
      have ranked := sound.ranked.start owned current client timeOutInMs
      have unset : ∀ address, address < s.container.created →
          s.container.mClient address = none →
          Function.update s.container.mClient s.container.created (some client) address = none := by
        intro address old before
        rw [Function.update_of_ne (Nat.ne_of_lt old)]
        exact before
      rw [LocTimerContainer.start_none running] at ranked ⊢
      constructor
      case ranked => exact ranked
      case stopping =>
        intro now other found task held runs
        rcases LocTimerContainer.update_eq_some runs with ⟨rfl, -⟩ | ⟨-, before⟩
        · exact absurd (congrArg MsgTask.stops task) free
        · exact sound.stopping now other found task held before
      case calling => exact sound.calling
      case called =>
        intro called member
        obtain ⟨same, before, cleared⟩ := sound.called called member
        refine ⟨same, before, unset _ ?_ cleared⟩
        apply owned.created _ called.timer
        apply owned.placed
        exact List.mem_append_right _ (List.mem_map_of_mem member)
      case stopped =>
        intro other member
        obtain ⟨old, cleared⟩ := sound.stopped other member
        exact ⟨Nat.lt_succ_of_lt old, unset _ old cleared⟩
      case destroyed =>
        intro other member
        obtain ⟨idle, unused⟩ := sound.destroyed other member
        refine ⟨?_, unused⟩
        rw [← idle]
        apply Function.update_of_ne
        intro same
        exact alive (same ▸ member)
      case touched => exact sound.touched

/-- The message thread uses no client that is destroyed, and stops for a timer
that timer or none. -/
theorem Sound.msgStep {made : Nat → Option LocTimerDelegate} {s : LocTimers} (sound : s.Sound)
    (owned : s.container.Owned made) {container : LocTimerContainer}
    (step : s.container.MsgStep container) :
    Sound { s with
      container := container
      touched := s.touched ++
        s.container.msgTask.client.toList.filter (fun client => client ∈ s.destroyed) } := by
  obtain ⟨runs, unsetClient, created⟩ := step.unset
  constructor
  case ranked => exact sound.ranked.msgStep owned step
  case stopping =>
    intro now timer client task running started
    obtain ⟨place, owner⟩ := step.stopping task
    obtain ⟨old, before, same⟩ := owned.owner _ _ owner
    have held := owned.placed timer
      (LocTimerContainer.mem_places_of_expired (congrArg MsgTask.expired place))
    obtain ⟨known, -, -⟩ := owned.running client old before
    rw [same, held] at known
    obtain rfl := Option.some.inj known
    exact Option.some.inj ((runs _ _ started).symm.trans before)
  case calling =>
    intro now timer client stopped task
    obtain ⟨place, running, -⟩ := step.calling task
    have same := sound.stopping now timer client place stopped running
    refine ⟨same, ?_⟩
    intro member
    have unset := (sound.stopped timer member).2
    obtain ⟨-, owner, -⟩ := owned.running client stopped running
    rw [same, unset] at owner
    cases owner
  case called =>
    intro called member
    rcases step.callbacks with same | ⟨now, timer, client, stopped, place, added⟩
    · rw [show container.callbacks = s.container.callbacks from same] at member
      obtain ⟨own, before, unset⟩ := sound.called called member
      exact ⟨own, before, unsetClient _ unset⟩
    · rw [added] at member
      rcases List.mem_append.mp member with old | new
      · obtain ⟨own, before, unset⟩ := sound.called called old
        exact ⟨own, before, unsetClient _ unset⟩
      · rw [List.mem_singleton.mp new]
        obtain ⟨own, before⟩ := sound.calling now timer client stopped place
        exact ⟨own, before, unsetClient _ (owned.calling now timer client stopped place)⟩
  case stopped =>
    intro timer member
    obtain ⟨old, unset⟩ := sound.stopped timer member
    exact ⟨created ▸ old, unsetClient _ unset⟩
  case destroyed =>
    intro client member
    obtain ⟨idle, unused⟩ := sound.destroyed client member
    refine ⟨Option.eq_none_iff_forall_ne_some.mpr ?_, ?_⟩
    · intro timer started
      rw [runs _ _ started] at idle
      cases idle
    · intro uses
      rcases step.client uses with before | ⟨address, owner⟩
      · exact unused before
      · obtain ⟨timer, running, -⟩ := owned.owner address client owner
        rw [idle] at running
        cases running
  case touched =>
    rw [sound.touched, List.nil_append, List.filter_eq_nil_iff]
    intro client uses
    rw [decide_eq_true_iff]
    intro member
    exact (sound.destroyed client member).2 (Option.mem_toList.mp uses)

/-- A step that is none of the clients' business. -/
theorem Sound.aside {s : LocTimers} (sound : s.Sound) {container : LocTimerContainer}
    (ranked : container.Ranked) (fields : s.container.SameFields container)
    (msgTask : container.msgTask = s.container.msgTask)
    (callbacks : container.callbacks = s.container.callbacks) :
    Sound { s with container := container } where
  ranked := ranked
  stopping := by
    rw [msgTask, fields.mTimer]
    exact sound.stopping
  calling := by
    rw [msgTask]
    exact sound.calling
  called := by
    rw [callbacks, fields.mClient]
    exact sound.called
  stopped := by
    rw [fields.mClient, fields.created]
    exact sound.stopped
  destroyed := by
    rw [msgTask, fields.mTimer]
    exact sound.destroyed
  touched := sound.touched

theorem Sound.stepPollTask {s : LocTimers} (sound : s.Sound) {container : LocTimerContainer}
    (taken : s.container.stepPollTask = some container) :
    Sound { s with container := container } := by
  have ranked := sound.ranked.stepPollTask taken
  rcases LocTimerContainer.stepPollTask_cases taken with
    ⟨-, -, -, rfl⟩ | ⟨-, rfl⟩ | ⟨-, rfl⟩ | ⟨-, rfl⟩
  · exact sound.aside ranked ⟨rfl, rfl, rfl, rfl⟩ rfl rfl
  · exact sound.aside ranked ⟨rfl, rfl, rfl, rfl⟩ rfl rfl
  · exact sound.aside ranked ⟨rfl, rfl, rfl, rfl⟩ rfl rfl
  · exact sound.aside ranked ⟨rfl, rfl, rfl, rfl⟩ rfl rfl

theorem Sound.tick {s : LocTimers} (sound : s.Sound) {clock : Timespec}
    (forward : s.container.clock ≤ clock) :
    Sound { s with container := { s.container with clock := clock } } :=
  sound.aside (sound.ranked.tick forward) ⟨rfl, rfl, rfl, rfl⟩ rfl rfl

theorem Sound.destroy {made : Nat → Option LocTimerDelegate} {s : LocTimers} (sound : s.Sound)
    (owned : s.container.Owned made) {client : Nat}
    (unused : s.container.msgTask.client ≠ some client) :
    Sound { s.stop client with destroyed := client :: s.destroyed } := by
  have stopped := sound.stop owned client
  refine ⟨stopped.ranked, stopped.stopping, stopped.calling, stopped.called, stopped.stopped,
    ?_, stopped.touched⟩
  intro other member
  rcases List.mem_cons.mp member with rfl | old
  · obtain ⟨msgs, posts⟩ := LocTimerContainer.stop_posts_some other s.container
    refine ⟨LocTimerContainer.stop_mTimer other s.container, ?_⟩
    rw [show (s.stop other).container.msgTask = s.container.msgTask from posts.msgTask]
    exact unused
  · exact stopped.destroyed other old

theorem sound_new (clock : Timespec) : (new clock).Sound where
  ranked := LocTimerContainer.ranked_new clock
  stopping := fun _ _ _ task => by cases task
  calling := fun _ _ _ _ task => by cases task
  called := fun _ member => by cases member
  stopped := fun _ member => by cases member
  destroyed := fun _ member => by cases member
  touched := rfl

/-- What the clients do is done to the container alone. -/
theorem container_reachable {guard : LocTimers → Label → Prop} {s : LocTimers}
    (run : lifetimes.ReachableUnder guard s) : timers.Reachable s.container := by
  apply run.project LocTimers.container
  · intro s first
    obtain ⟨clock, rfl⟩ := first
    exact ⟨clock, rfl⟩
  · intro before label after _ taken
    apply Or.inr
    cases label with
    | timers label =>
        refine ⟨label, ?_⟩
        cases label with
        | start client timeOutInMs =>
            simp only [lifetimes, step] at taken
            split at taken
            · cases taken
            · obtain rfl := Option.some.inj taken
              rfl
        | stop client =>
            simp only [lifetimes, step] at taken
            split at taken
            · cases taken
            · obtain rfl := Option.some.inj taken
              rfl
        | msgTask =>
            obtain ⟨container, moved, rfl⟩ := Option.map_eq_some_iff.mp taken
            exact moved
        | pollTask =>
            obtain ⟨container, moved, rfl⟩ := Option.map_eq_some_iff.mp taken
            exact moved
        | tick clock =>
            obtain ⟨container, moved, rfl⟩ := Option.map_eq_some_iff.mp taken
            exact moved
    | destroy client =>
        refine ⟨.stop client, ?_⟩
        simp only [lifetimes, step] at taken
        split at taken
        · cases taken
        · obtain rfl := Option.some.inj taken
          rfl

end LocTimers

theorem lifetimes_sound {s : LocTimers}
    (run : lifetimes.ReachableUnder LocTimers.undisturbed s) : s.Sound := by
  apply run.invariant LocTimers.Sound
  · intro s first
    obtain ⟨clock, rfl⟩ := first
    exact LocTimers.sound_new clock
  · intro before label after run sound guard taken
    obtain ⟨made, owned⟩ := timers_owned (LocTimers.container_reachable run)
    cases label with
    | timers label =>
        cases label with
        | start client timeOutInMs =>
            simp only [lifetimes, LocTimers.step] at taken
            split at taken
            · cases taken
            · rename_i alive
              obtain rfl := Option.some.inj taken
              exact sound.start owned alive guard.1 guard.2 timeOutInMs
        | stop client =>
            simp only [lifetimes, LocTimers.step] at taken
            split at taken
            · cases taken
            · obtain rfl := Option.some.inj taken
              exact sound.stop owned client
        | msgTask =>
            obtain ⟨container, moved, rfl⟩ := Option.map_eq_some_iff.mp taken
            exact sound.msgStep owned (LocTimerContainer.stepMsgTask_cases moved)
        | pollTask =>
            obtain ⟨container, moved, rfl⟩ := Option.map_eq_some_iff.mp taken
            exact sound.stepPollTask moved
        | tick clock =>
            obtain ⟨container, moved, rfl⟩ := Option.map_eq_some_iff.mp taken
            simp only [LocTimerContainer.step] at moved
            split at moved
            · rename_i forward
              obtain rfl := Option.some.inj moved
              exact sound.tick forward
            · cases moved
    | destroy client =>
        simp only [lifetimes, LocTimers.step] at taken
        split at taken
        · cases taken
        · obtain rfl := Option.some.inj taken
          exact sound.destroy owned guard

/-- With no start and no destruction between an expiry's reading of the client
and its use, each delegate has its one life. -/
theorem delegate_lifetime {s : LocTimers}
    (run : lifetimes.ReachableUnder LocTimers.undisturbed s) : s.Lifetime ∧ s.touched = [] := by
  have sound := lifetimes_sound run
  obtain ⟨made, owned⟩ := timers_owned (LocTimers.container_reachable run)
  refine ⟨?_, sound.touched⟩
  have releases := owned.releases
  constructor
  case releases => exact releases
  case deleted =>
    unfold LocTimerContainer.releases at releases
    exact (List.nodup_append.mp releases).2.1
  case gone =>
    intro timer member
    have gone := sound.ranked.gone timer (List.mem_append_right _ member)
    refine ⟨?_, ?_, ?_⟩
    · exact fun stored => gone (List.mem_append_right _ stored)
    · exact fun queued => gone (List.mem_append_left _ (LocTimerContainer.mem_pushes.mpr queued))
    · intro queued
      have removal : timer ∈ s.container.removals := List.mem_filterMap.mpr ⟨_, queued, rfl⟩
      unfold LocTimerContainer.releases at releases
      exact (List.nodup_append.mp releases).2.2 timer (List.mem_append_left _ removal) timer
        member rfl
  case callbacks =>
    have places := owned.places
    unfold LocTimerContainer.places at places
    exact (List.nodup_append.mp places).2.1
  case stopped => exact fun made member => (sound.called made member).2.1
  case own => exact fun made member => (sound.called made member).1

open LocTimerContainer.Label
open LocTimers (Label)

/-- One timer that expires and calls back, and a client that is then destroyed. -/
theorem delegate_lifetime_expired :
    ∃ s, lifetimes.execUnder LocTimers.undisturbed (.new .zero)
        ([Label.timers (start 1 1000#32)] ++ List.replicate 4 (Label.timers msgTask) ++
          [Label.timers (tick (.seconds 1))] ++ List.replicate 4 (Label.timers pollTask) ++
          List.replicate 8 (Label.timers msgTask) ++ [Label.destroy 1]) = some s ∧
      (s.container.deleted.length = 1 ∧ s.container.callbacks.length = 1) ∧
      s.Lifetime ∧ s.touched = [] := by
  have first : lifetimes.initial (.new .zero) := ⟨.zero, rfl⟩
  apply System.execUnder_then first
  · intro s run _
    exact delegate_lifetime run
  · decide +kernel

/-- The client stops and restarts its timer after the expiry has read it: the
expiry stops the new timer, and calls back for the one that was stopped. -/
theorem delegate_lifetime_broken : ¬ ∀ s, lifetimes.Reachable s → s.Lifetime := by
  intro lifetime
  have first : lifetimes.initial (.new .zero) := ⟨.zero, rfl⟩
  obtain ⟨s, run, seen⟩ := System.reachable_of_exec first
    ([Label.timers (start 1 1000#32)] ++ List.replicate 4 (Label.timers msgTask) ++
      [Label.timers (tick (.seconds 1))] ++ List.replicate 4 (Label.timers pollTask) ++
      List.replicate 2 (Label.timers msgTask) ++
      [Label.timers (stop 1), Label.timers (start 1 1000#32)] ++
      List.replicate 2 (Label.timers msgTask))
    (fun s => s.container.callbacks.any (fun made => decide (made.stopped ≠ made.timer)))
    (by decide +kernel)
  obtain ⟨made, member, other⟩ := List.any_eq_true.mp seen
  exact of_decide_eq_true other ((lifetime s run).own made member)

end A5Common.Timer
