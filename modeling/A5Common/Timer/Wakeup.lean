import A5Common.Timer.Ownership

set_option autoImplicit false

namespace A5Common.Timer

open A5Common.Run

namespace LocTimerContainer

/-- The poll thread has a wake-up of the descriptor in hand, or has sent it on. -/
def ExpiryPending (σ : LocTimerContainer) : Prop :=
  σ.pollTask ≠ .waiting ∨ LocMsg.expire ∈ σ.queue

/-- The descriptor is registered, and set for the deadline of the timer. -/
def ArmedFor (σ : LocTimerContainer) (timer : LocTimerDelegate) : Prop :=
  σ.polled = true ∧ σ.it_value = some timer.mFutureTime

/-- The system calls still to be made leave the timer armed or its expiry pending. -/
def Arming (σ : LocTimerContainer) (timer : LocTimerDelegate) : List SysCall → Prop
  | [] => σ.ArmedFor timer ∨ σ.ExpiryPending
  | [.settime it_value] =>
      it_value = timer.mFutureTime ∧ (σ.polled = true ∨ σ.ExpiryPending)
  | [.addPoll, .settime it_value] => it_value = timer.mFutureTime
  | _ => False

/-- What the message thread owes the soonest timer. -/
def Attended (σ : LocTimerContainer) (timer : LocTimerDelegate) : MsgTask → Prop
  | .idle => σ.Arming timer []
  | .updating calls _ => σ.Arming timer calls
  | .popping _ | .expiring .. | .stopping .. | .callingBack .. => True

structure Awake (σ : LocTimerContainer) : Prop where
  tree : ∀ timer ∈ σ.mTree.toList, timer.mFutureTime ≠ .zero
  queue : ∀ timer, LocMsg.push timer ∈ σ.queue → timer.mFutureTime ≠ .zero
  soonest : ∀ timer ∈ σ.getSoonestTimer, σ.Attended timer σ.msgTask

theorem Arming.pending {σ τ : LocTimerContainer} {timer : LocTimerDelegate} {calls : List SysCall}
    (arming : σ.Arming timer calls) (pending : τ.ExpiryPending) : τ.Arming timer calls := by
  unfold Arming at arming ⊢
  split at arming
  · exact .inr pending
  · exact ⟨arming.1, .inr pending⟩
  · exact arming
  · exact arming.elim

/-- What leaves the descriptor, and an expiry that is pending, leaves what is owed. -/
theorem Arming.frame {σ τ : LocTimerContainer} {timer : LocTimerDelegate} {calls : List SysCall}
    (arming : σ.Arming timer calls) (polled : τ.polled = σ.polled)
    (armed : τ.it_value = σ.it_value) (pending : σ.ExpiryPending → τ.ExpiryPending) :
    τ.Arming timer calls := by
  unfold Arming ArmedFor at arming ⊢
  rw [polled, armed]
  split at arming
  · exact arming.imp_right pending
  · exact ⟨arming.1, arming.2.imp_right pending⟩
  · exact arming
  · exact arming.elim

theorem Attended.imp {σ τ : LocTimerContainer} {timer : LocTimerDelegate} {task : MsgTask}
    (attended : σ.Attended timer task)
    (keep : ∀ calls, σ.Arming timer calls → τ.Arming timer calls) : τ.Attended timer task := by
  cases task with
  | idle => exact keep [] attended
  | updating calls mTimer => exact keep calls attended
  | popping now => trivial
  | expiring now timer => trivial
  | stopping now timer client => trivial
  | callingBack now timer client stopped => trivial

/-- A step outside the message thread that may queue messages. -/
theorem Awake.aside {σ τ : LocTimerContainer} (awake : σ.Awake) (mTree : τ.mTree = σ.mTree)
    (msgTask : τ.msgTask = σ.msgTask)
    (queue : ∀ timer, LocMsg.push timer ∈ τ.queue →
      LocMsg.push timer ∈ σ.queue ∨ timer.mFutureTime ≠ .zero)
    (keep : ∀ timer calls, σ.Arming timer calls → τ.Arming timer calls) : τ.Awake where
  tree := by
    rw [mTree]
    exact awake.tree
  queue := fun timer queued => (queue timer queued).elim (awake.queue timer) id
  soonest := by
    unfold getSoonestTimer
    rw [mTree, msgTask]
    exact fun timer top => (awake.soonest timer top).imp (keep timer)

theorem Awake.posts {σ τ : LocTimerContainer} {msgs : List LocMsg} (awake : σ.Awake)
    (posts : σ.Posts τ msgs)
    (later : ∀ timer, LocMsg.push timer ∈ msgs → timer.mFutureTime ≠ .zero) : τ.Awake := by
  apply awake.aside posts.mTree posts.msgTask
  · intro timer queued
    rw [posts.queue, List.mem_append] at queued
    exact queued.imp_right (later timer)
  · intro timer calls arming
    apply arming.frame posts.polled posts.it_value
    unfold ExpiryPending
    rw [posts.pollTask, posts.queue]
    exact Or.imp_right (List.mem_append_left _)

theorem Awake.start {σ : LocTimerContainer} (awake : σ.Awake) (booted : Timespec.zero < σ.clock)
    (client : Nat) (timeOutInMs : BitVec 32) : (σ.start client timeOutInMs).Awake := by
  rcases start_posts client timeOutInMs σ with ⟨timer, -, same⟩ | ⟨-, posts⟩
  · rw [same]
    exact awake
  · apply awake.posts posts
    intro timer posted
    cases List.mem_singleton.mp posted
    exact Timespec.futureTime_ne_zero booted timeOutInMs

theorem Awake.stop {σ : LocTimerContainer} (awake : σ.Awake) (client : Nat) :
    (σ.stop client).2.Awake := by
  rcases stop_posts client σ with posts | ⟨timer, -, posts⟩
  · exact awake.posts posts (fun _ posted => by cases posted)
  · apply awake.posts posts
    intro other posted
    cases List.mem_singleton.mp posted

/-- Whatever the poll thread does, an expiry is then pending. -/
theorem Awake.stepPollTask {σ τ : LocTimerContainer} (awake : σ.Awake)
    (taken : σ.stepPollTask = some τ) : τ.Awake := by
  have pending : ∀ {υ : LocTimerContainer}, υ.mTree = σ.mTree → υ.msgTask = σ.msgTask →
      υ.queue = σ.queue → υ.pollTask ≠ .waiting → υ.Awake := by
    intro υ mTree msgTask queue moved
    apply awake.aside mTree msgTask
    · intro timer queued
      exact .inl (queue ▸ queued)
    · exact fun timer calls arming => arming.pending (.inl moved)
  rcases stepPollTask_cases taken with ⟨-, -, -, rfl⟩ | ⟨-, rfl⟩ | ⟨-, rfl⟩ | ⟨-, rfl⟩
  · exact pending rfl rfl rfl nofun
  · exact pending rfl rfl rfl nofun
  · exact pending rfl rfl rfl nofun
  · apply Awake.aside awake
    · rfl
    · rfl
    · intro timer queued
      apply Or.inl
      simpa only [List.mem_append, List.mem_singleton, reduceCtorEq, or_false] using queued
    · intro timer calls arming
      apply arming.pending
      exact .inr (List.mem_append_right _ List.mem_cons_self)

/-- With no prior top, the update is for whatever timer is on top. -/
theorem arming_update (σ τ : LocTimerContainer) (timer : LocTimerDelegate)
    (top : timer ∈ σ.getSoonestTimer) : τ.Arming timer (σ.updateSoonestTime none) := by
  have soonest : σ.getSoonestTimer = some timer := top
  have update : σ.updateSoonestTime none = [.addPoll, .settime timer.mFutureTime] := by
    unfold updateSoonestTime
    rw [soonest]
    rfl
  rw [update]
  exact rfl

theorem outRanks_self (timer : LocTimerDelegate) : timer.outRanks timer = false := by
  simp [LocTimerDelegate.outRanks, Timespec.outRanks, Timespec.ranks, Timespec.toInt32]

/-- Handling another message leaves what is owed to a top that stays. -/
theorem Awake.handled {σ τ : LocTimerContainer} (awake : σ.Awake) (place : σ.msgTask = .idle)
    {msg : LocMsg} {rest : List LocMsg} (queue : σ.queue = msg :: rest) (other : msg ≠ .expire)
    (polled : τ.polled = σ.polled) (armed : τ.it_value = σ.it_value)
    (pollTask : τ.pollTask = σ.pollTask) (left : τ.queue = rest) {timer : LocTimerDelegate}
    (top : σ.getSoonestTimer = some timer) : τ.Arming timer [] := by
  have attended := awake.soonest timer top
  rw [place] at attended
  have arming : σ.Arming timer [] := attended
  apply arming.frame polled armed
  unfold ExpiryPending
  rw [pollTask, left, queue, List.mem_cons]
  apply Or.imp_right
  intro pending
  exact pending.resolve_left other.symm

/-- A timer that is pushed on top is armed; under any other top nothing is due. -/
theorem Awake.push {σ : LocTimerContainer} (awake : σ.Awake) (place : σ.msgTask = .idle)
    {mTimer : LocTimerDelegate} {rest : List LocMsg} (queue : σ.queue = .push mTimer :: rest) :
    (proc { σ with queue := rest } (.push mTimer)).Awake where
  tree := by
    intro timer member
    rcases LocHeapNode.mem_push.mp member with rfl | before
    · exact awake.queue timer (queue ▸ List.mem_cons_self)
    · exact awake.tree timer before
  queue := fun timer queued => awake.queue timer (queue ▸ List.mem_cons_of_mem _ queued)
  soonest := by
    intro timer top
    show Arming _ timer (updateSoonestTime σ.mTree.peek
      { σ with queue := rest, mTree := σ.mTree.push LocTimerDelegate.outRanks mTimer })
    have soonest : (σ.mTree.push LocTimerDelegate.outRanks mTimer).peek = some timer := top
    rcases LocHeapNode.push_peek σ.mTree mTimer with ⟨peeked, higher⟩ | ⟨peeked, filled⟩
    · cases prior : σ.mTree.peek with
      | none =>
          have update := arming_update (proc { σ with queue := rest } (.push mTimer))
            (proc { σ with queue := rest } (.push mTimer)) timer top
          exact update
      | some priorTop =>
          have ranked : timer.outRanks priorTop = true := by
            obtain rfl : mTimer = timer := Option.some.inj (peeked.symm.trans soonest)
            exact higher priorTop prior
          have changed : ¬ some timer = some priorTop := by
            intro same
            cases same
            rw [outRanks_self] at ranked
            cases ranked
          unfold updateSoonestTime getSoonestTimer
          dsimp only
          rw [soonest, if_neg changed]
          dsimp only
          rw [if_pos ranked]
          exact rfl
    · have unchanged : updateSoonestTime σ.mTree.peek
          { σ with queue := rest, mTree := σ.mTree.push LocTimerDelegate.outRanks mTimer } = [] :=
        if_pos peeked
      rw [unchanged]
      apply Awake.handled awake place queue nofun
      · rfl
      · rfl
      · rfl
      · rfl
      · exact peeked.symm.trans soonest

/-- Taking a timer from the top arms the next one; taking any other leaves the top. -/
theorem Awake.remove {σ : LocTimerContainer} (awake : σ.Awake) (place : σ.msgTask = .idle)
    {mTimer : LocTimerDelegate} {rest : List LocMsg} (queue : σ.queue = .remove mTimer :: rest) :
    (proc { σ with queue := rest } (.remove mTimer)).Awake where
  tree := fun timer member => awake.tree timer (LocHeapNode.remove_subset σ.mTree mTimer member)
  queue := fun timer queued => awake.queue timer (queue ▸ List.mem_cons_of_mem _ queued)
  soonest := by
    intro timer top
    let removed := σ.mTree.remove LocTimerDelegate.outRanks mTimer
    show Arming _ timer (if σ.mTree.peek = removed.1 then _ else [])
    by_cases wasTop : σ.mTree.peek = removed.1
    · rw [if_pos wasTop]
      exact arming_update (proc { σ with queue := rest } (.remove mTimer))
        (proc { σ with queue := rest } (.remove mTimer)) timer top
    · rw [if_neg wasTop]
      have kept : removed.2.peek = σ.mTree.peek := LocHeapNode.remove_peek wasTop
      apply Awake.handled awake place queue nofun
      · rfl
      · rfl
      · rfl
      · rfl
      · exact kept.symm.trans top

/-- The loop over the expired timers ends by arming what is left. -/
theorem awake_expireNext {σ : LocTimerContainer} (now : Timespec)
    {popped : Option LocTimerDelegate × LocHeapNode LocTimerDelegate}
    (tree : ∀ timer ∈ popped.2.toList, timer.mFutureTime ≠ .zero)
    (queue : ∀ timer, LocMsg.push timer ∈ σ.queue → timer.mFutureTime ≠ .zero) :
    (expireNext now popped σ).Awake := by
  rcases expireNext_cases now popped σ with ⟨timer, -, next⟩ | ⟨-, next⟩
  · rw [next]
    exact ⟨tree, queue, fun _ _ => trivial⟩
  · rw [next]
    exact ⟨tree, queue, fun timer top => arming_update _ _ timer top⟩

/-- The message thread somewhere in the loop over the expired timers. -/
theorem Awake.inLoop {σ : LocTimerContainer} (awake : σ.Awake) {task : MsgTask}
    (owesNothing : ∀ τ timer, Attended τ timer task) : Awake { σ with msgTask := task } :=
  ⟨awake.tree, awake.queue, fun timer _ => owesNothing _ timer⟩

/-- The call that sets the descriptor is the last one. -/
theorem Awake.call {σ : LocTimerContainer} (awake : σ.Awake) {next : SysCall}
    {calls : List SysCall} {mTimer : Option LocTimerDelegate}
    (place : σ.msgTask = .updating (next :: calls) mTimer) :
    Awake { σ.call next with msgTask := .updating calls mTimer } := by
  have same : (σ.call next).mTree = σ.mTree ∧ (σ.call next).queue = σ.queue := by
    cases next <;> exact ⟨rfl, rfl⟩
  constructor
  · rw [same.1]
    exact awake.tree
  · rw [same.2]
    exact awake.queue
  · intro timer top
    unfold getSoonestTimer at top
    rw [same.1] at top
    have attended := awake.soonest timer top
    rw [place] at attended
    have arming : σ.Arming timer (next :: calls) := attended
    show Arming _ timer calls
    unfold Arming at arming
    split at arming
    · rename_i nothing
      cases nothing
    · rename_i last
      cases last
      obtain ⟨rfl, registered⟩ := arming
      have armed : some timer.mFutureTime = some timer.mFutureTime := rfl
      have deadline := awake.tree timer (LocHeapNode.peek_mem top)
      unfold LocTimerContainer.call Arming ArmedFor
      dsimp only
      rw [if_neg deadline]
      exact registered.imp_left (fun polled => ⟨polled, rfl⟩)
    · rename_i both
      cases both
      exact ⟨arming, .inl rfl⟩
    · exact arming.elim

theorem Awake.stepMsgTask {σ τ : LocTimerContainer} (awake : σ.Awake)
    (taken : σ.stepMsgTask = some τ) : τ.Awake := by
  cases stepMsgTask_cases taken with
  | handle place queue =>
      rename_i msg rest
      cases msg with
      | push mTimer => exact awake.push place queue
      | remove mTimer => exact awake.remove place queue
      | expire =>
          apply awake_expireNext
          · intro timer member
            exact awake.tree timer (LocHeapNode.popTop_subset σ.mTree member)
          · exact fun timer queued => awake.queue timer (queue ▸ List.mem_cons_of_mem _ queued)
  | call place => exact awake.call place
  | delete place =>
      refine ⟨awake.tree, awake.queue, ?_⟩
      intro timer top
      have attended := awake.soonest timer top
      rw [place] at attended
      have arming : σ.Arming timer [] := attended
      exact Arming.frame arming rfl rfl id
  | pop place =>
      apply awake_expireNext
      · exact fun timer member => awake.tree timer (popIfOutRanks_subset σ _ member)
      · exact awake.queue
  | skip place unset => exact awake.inLoop (fun _ _ => trivial)
  | read place owner => exact awake.inLoop (fun _ _ => trivial)
  | late place none => exact awake.inLoop (fun _ _ => trivial)
  | stop place running => exact (awake.stop _).inLoop (fun _ _ => trivial)
  | callBack place => exact ⟨awake.tree, awake.queue, fun _ _ => trivial⟩

/-- The boot clock has left zero, the time that disarms the descriptor. -/
def booted (σ : LocTimerContainer) (_ : Label) : Prop :=
  Timespec.zero < σ.clock

instance (σ : LocTimerContainer) (label : Label) : Decidable (σ.booted label) :=
  inferInstanceAs (Decidable (Timespec.zero < σ.clock))

theorem awake_new (clock : Timespec) : (new clock).Awake where
  tree := fun _ member => by cases member
  queue := fun _ queued => by cases queued
  soonest := fun _ top => by cases top

end LocTimerContainer

theorem timers_awake {σ : LocTimerContainer}
    (run : timers.ReachableUnder LocTimerContainer.booted σ) : σ.Awake := by
  apply run.invariant LocTimerContainer.Awake
  · intro σ first
    obtain ⟨clock, rfl⟩ := first
    exact LocTimerContainer.awake_new clock
  · intro before label after _ awake booted taken
    cases label with
    | tick clock =>
        simp only [timers, LocTimerContainer.step] at taken
        split at taken
        · obtain rfl := Option.some.inj taken
          exact ⟨awake.tree, awake.queue, awake.soonest⟩
        · cases taken
    | start client timeOutInMs =>
        obtain rfl := Option.some.inj taken
        exact awake.start booted client timeOutInMs
    | stop client =>
        obtain rfl := Option.some.inj taken
        exact awake.stop client
    | msgTask => exact awake.stepMsgTask taken
    | pollTask => exact awake.stepPollTask taken

/-- Between two messages the soonest timer is armed or its expiry pending, and
every timer that runs is in the heap or about to be pushed. -/
theorem no_timer_lost {σ : LocTimerContainer}
    (run : timers.ReachableUnder LocTimerContainer.booted σ) (idle : σ.msgTask = .idle) :
    (∀ top, σ.getSoonestTimer = some top →
      (σ.polled = true ∧ σ.it_value = some top.mFutureTime) ∨ σ.pollTask ≠ .waiting ∨
        LocMsg.expire ∈ σ.queue) ∧
    ∀ client timer, σ.mTimer client = some timer →
      LocMsg.push timer ∈ σ.queue ∨ timer ∈ σ.mTree.toList := by
  constructor
  · intro top soonest
    have attended := (timers_awake run).soonest top soonest
    rw [idle] at attended
    exact attended
  · intro client timer running
    obtain ⟨made, owned⟩ := timers_owned run
    rcases owned.kept client timer running with pushed | stored | held
    · obtain ⟨msg, queued, same⟩ := List.mem_filterMap.mp pushed
      cases msg with
      | push mTimer =>
          obtain rfl := Option.some.inj same
          exact .inl queued
      | remove mTimer => cases same
      | expire => cases same
    · exact .inr stored
    · rw [idle] at held
      cases held

/-- A timer that was started and pushed. -/
theorem no_timer_lost_single :
    ∃ σ, timers.execUnder LocTimerContainer.booted (.new (.seconds 1))
        (.start 1 1000#32 :: List.replicate 4 .msgTask) = some σ ∧
      (σ.getSoonestTimer.isSome = true ∧ (σ.mTimer 1).isSome = true) ∧
      (∀ top, σ.getSoonestTimer = some top →
        (σ.polled = true ∧ σ.it_value = some top.mFutureTime) ∨ σ.pollTask ≠ .waiting ∨
          LocMsg.expire ∈ σ.queue) ∧
      ∀ client timer, σ.mTimer client = some timer →
        LocMsg.push timer ∈ σ.queue ∨ timer ∈ σ.mTree.toList := by
  refine ⟨_, rfl, ⟨rfl, rfl⟩, ?_⟩
  have run : timers.ReachableUnder LocTimerContainer.booted _ :=
    System.ReachableUnder.exec (.start ⟨.seconds 1, rfl⟩)
      (.start 1 1000#32 :: List.replicate 4 .msgTask) rfl
  exact no_timer_lost run rfl

end A5Common.Timer
