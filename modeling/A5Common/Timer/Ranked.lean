import A5Common.Timer.HeapOrder
import A5Common.Timer.Ownership

set_option autoImplicit false

namespace A5Common.Timer

open A5Common.Run

namespace LocTimerContainer

/-- The timers that wait, in the queue or in the heap. -/
def pending (σ : LocTimerContainer) : List LocTimerDelegate :=
  σ.pushes ++ σ.mTree.toList

/-- A message does not push what one before it removes. -/
def PushedBefore (first later : LocMsg) : Prop :=
  ∀ timer, first = .remove timer → later ≠ .push timer

/-- The heap is in order, and holds nothing that is or will be deleted. -/
structure Ranked (σ : LocTimerContainer) : Prop where
  near : ∀ first ∈ σ.pending, ∀ second ∈ σ.pending,
    first.mFutureTime.tv_sec < second.mFutureTime.tv_sec + 2147483648
  ahead : ∀ timer ∈ σ.pending, timer.mFutureTime.tv_sec ≤ σ.clock.tv_sec + 4294968
  ordered : σ.mTree.Ordered LocTimerDelegate.outRanks
  queue : σ.queue.Pairwise PushedBefore
  gone : ∀ timer ∈ σ.msgTask.removing.toList ++ σ.deleted, timer ∉ σ.pending

theorem comparable_of_near {among : LocTimerDelegate → Prop}
    (near : ∀ first, among first → ∀ second, among second →
      first.mFutureTime.tv_sec < second.mFutureTime.tv_sec + 2147483648) :
    Comparable LocTimerDelegate.outRanks among := by
  have higher : ∀ a b, among a → among b →
      (a.outRanks b = true ↔ a.mFutureTime < b.mFutureTime) := by
    intro a b first second
    exact Timespec.outRanks_iff (near a first b second) (near b second a first)
  have lower : ∀ a b, among a → among b →
      (a.outRanks b = false ↔ b.mFutureTime ≤ a.mFutureTime) := by
    intro a b first second
    rw [← Bool.not_eq_true, higher a b first second]
    exact Int.not_lt
  constructor
  · intro a b first second ranked
    rw [higher a b first second] at ranked
    rw [lower b a second first]
    exact Int.le_of_lt ranked
  · intro a b c first second third below above
    rw [lower a b first second] at below
    rw [lower b c second third] at above
    rw [lower a c first third]
    exact Timespec.le_trans above below

theorem Ranked.comparable {σ : LocTimerContainer} (ranked : σ.Ranked) :
    Comparable LocTimerDelegate.outRanks (fun timer => timer ∈ σ.pending) :=
  comparable_of_near ranked.near

theorem mem_pending_of_tree {σ : LocTimerContainer} {timer : LocTimerDelegate}
    (stored : timer ∈ σ.mTree.toList) : timer ∈ σ.pending :=
  List.mem_append_right _ stored

theorem mem_pushes {σ : LocTimerContainer} {timer : LocTimerDelegate} :
    timer ∈ σ.pushes ↔ LocMsg.push timer ∈ σ.queue := by
  unfold pushes
  rw [List.mem_filterMap]
  constructor
  · intro ⟨msg, queued, same⟩
    cases msg with
    | push mTimer =>
        obtain rfl := Option.some.inj same
        exact queued
    | remove mTimer => cases same
    | expire => cases same
  · exact fun queued => ⟨_, queued, rfl⟩

theorem mem_releases_of_queue {σ : LocTimerContainer} {timer : LocTimerDelegate}
    (queued : LocMsg.remove timer ∈ σ.queue) : timer ∈ σ.releases := by
  unfold releases removals
  apply List.mem_append_left
  apply List.mem_append_left
  exact List.mem_filterMap.mpr ⟨_, queued, rfl⟩

theorem mem_releases_of_gone {σ : LocTimerContainer} {timer : LocTimerDelegate}
    (gone : timer ∈ σ.msgTask.removing.toList ++ σ.deleted) : timer ∈ σ.releases := by
  unfold releases
  rw [List.append_assoc]
  exact List.mem_append_right _ gone

/-- A step that makes no timer wait that did not before. -/
theorem Ranked.fewer {σ τ : LocTimerContainer} (ranked : σ.Ranked)
    (pending : ∀ timer ∈ τ.pending, timer ∈ σ.pending) (clock : σ.clock ≤ τ.clock)
    (ordered : τ.mTree.Ordered LocTimerDelegate.outRanks) (queue : τ.queue.Pairwise PushedBefore)
    (gone : ∀ timer ∈ τ.msgTask.removing.toList ++ τ.deleted, timer ∉ τ.pending) : τ.Ranked where
  near := fun first member second other =>
    ranked.near first (pending first member) second (pending second other)
  ahead := by
    intro timer member
    have before := ranked.ahead timer (pending timer member)
    have later := Timespec.tv_sec_mono clock
    omega
  ordered := ordered
  queue := queue
  gone := gone

/-- A step of another thread that leaves the heap and queues no new timer. -/
theorem Ranked.aside {σ τ : LocTimerContainer} (ranked : σ.Ranked) (clock : σ.clock ≤ τ.clock)
    (mTree : τ.mTree = σ.mTree) {msgs : List LocMsg} (queue : τ.queue = σ.queue ++ msgs)
    (unpushed : ∀ msg ∈ msgs, ∀ timer, msg ≠ .push timer) (pairwise : msgs.Pairwise PushedBefore)
    (removing : τ.msgTask.removing = σ.msgTask.removing) (deleted : τ.deleted = σ.deleted) :
    τ.Ranked := by
  have pending : ∀ timer, timer ∈ τ.pending ↔ timer ∈ σ.pending := by
    intro timer
    unfold LocTimerContainer.pending
    rw [List.mem_append, List.mem_append, mem_pushes, mem_pushes, mTree, queue, List.mem_append]
    constructor
    · intro waits
      exact waits.imp_left
        (fun queued => queued.resolve_right (fun posted => unpushed _ posted timer rfl))
    · exact Or.imp_left .inl
  apply ranked.fewer (fun timer => (pending timer).mp) clock
  · rw [mTree]
    exact ranked.ordered
  · rw [queue, List.pairwise_append]
    refine ⟨ranked.queue, pairwise, ?_⟩
    intro first _ later posted timer _
    exact unpushed later posted timer
  · intro timer member waits
    rw [removing, deleted] at member
    exact ranked.gone timer member ((pending timer).mp waits)

theorem Ranked.stop {σ : LocTimerContainer} (ranked : σ.Ranked) (client : Nat) :
    (σ.stop client).2.Ranked := by
  have clock : ∀ {τ : LocTimerContainer} {msgs : List LocMsg}, σ.Posts τ msgs →
      σ.clock ≤ τ.clock := fun posts => posts.clock ▸ Timespec.le_refl σ.clock
  rcases stop_posts client σ with posts | ⟨timer, -, posts⟩
  · apply ranked.aside (clock posts) posts.mTree posts.queue
    · exact fun _ posted => by cases posted
    · exact .nil
    · rw [posts.msgTask]
    · exact posts.deleted
  · apply ranked.aside (clock posts) posts.mTree posts.queue
    · intro msg posted other
      rw [List.mem_singleton.mp posted]
      exact nofun
    · exact List.pairwise_singleton _ _
    · rw [posts.msgTask]
    · exact posts.deleted

theorem Ranked.tick {σ : LocTimerContainer} (ranked : σ.Ranked) {clock : Timespec}
    (forward : σ.clock ≤ clock) : Ranked { σ with clock := clock } := by
  apply Ranked.fewer ranked
  · exact fun _ => id
  · exact forward
  · exact ranked.ordered
  · exact ranked.queue
  · exact ranked.gone

/-- No timer that waits has been due for so long that the seconds to a new one
do not fit an `int`. -/
def Current (σ : LocTimerContainer) : Prop :=
  ∀ timer ∈ σ.pending, σ.clock.tv_sec < timer.mFutureTime.tv_sec + 2143188680

instance (σ : LocTimerContainer) : Decidable σ.Current :=
  List.decidableBAll _ _

theorem Ranked.start {made : Nat → Option LocTimerDelegate} {σ : LocTimerContainer}
    (ranked : σ.Ranked) (owned : σ.Owned made) (current : σ.Current) (client : Nat)
    (timeOutInMs : BitVec 32) : (σ.start client timeOutInMs).Ranked := by
  rcases start_posts client timeOutInMs σ with ⟨timer, -, same⟩ | ⟨-, posts⟩
  · rw [same]
    exact ranked
  · have late := Timespec.futureTime_near σ.clock timeOutInMs
    have early := Timespec.tv_sec_mono (Timespec.le_futureTime σ.clock timeOutInMs)
    have older : ∀ timer ∈ σ.releases, timer.address ≠ σ.created := by
      intro timer member
      exact Nat.ne_of_lt (owned.created _ _ (owned.released timer member).1)
    have pending : ∀ timer ∈ (σ.start client timeOutInMs).pending,
        timer = ⟨σ.created, σ.clock.futureTime timeOutInMs⟩ ∨ timer ∈ σ.pending := by
      intro timer member
      unfold LocTimerContainer.pending at member ⊢
      rw [List.mem_append, mem_pushes, posts.queue, posts.mTree, List.mem_append,
        List.mem_singleton, LocMsg.push.injEq] at member
      rw [List.mem_append, mem_pushes]
      tauto
    constructor
    case near =>
      intro first member second other
      rcases pending first member with rfl | before
      · rcases pending second other with rfl | waits
        · omega
        · have due := current second waits
          dsimp only
          omega
      · have ahead := ranked.ahead first before
        rcases pending second other with rfl | waits
        · dsimp only
          omega
        · exact ranked.near first before second waits
    case ahead =>
      intro timer member
      rw [posts.clock]
      rcases pending timer member with rfl | before
      · exact late
      · exact ranked.ahead timer before
    case ordered =>
      rw [posts.mTree]
      exact ranked.ordered
    case queue =>
      rw [posts.queue, List.pairwise_append]
      refine ⟨ranked.queue, List.pairwise_singleton _ _, ?_⟩
      intro first queued later posted timer removal same
      rw [List.mem_singleton.mp posted, LocMsg.push.injEq] at same
      rw [removal] at queued
      exact older timer (mem_releases_of_queue queued) (same ▸ rfl)
    case gone =>
      intro timer member waits
      rw [posts.msgTask, posts.deleted] at member
      rcases pending timer waits with rfl | before
      · exact older _ (mem_releases_of_gone member) rfl
      · exact ranked.gone timer member before

/-- The message thread with another task, in the same heap. -/
theorem Ranked.withTask {σ : LocTimerContainer} (ranked : σ.Ranked) {task : MsgTask}
    (removing : task.removing = σ.msgTask.removing) : Ranked { σ with msgTask := task } := by
  apply Ranked.aside ranked
  · exact Timespec.le_refl _
  · rfl
  · exact (List.append_nil _).symm
  · exact fun _ posted => by cases posted
  · exact .nil
  · exact removing
  · rfl

/-- The loop over the expired timers, with a heap that has lost at most its top. -/
theorem Ranked.expireNext {σ : LocTimerContainer} (ranked : σ.Ranked) (now : Timespec)
    {popped : Option LocTimerDelegate × LocHeapNode LocTimerDelegate}
    (none : σ.msgTask.removing = none) (fewer : popped.2.toList ⊆ σ.mTree.toList)
    (ordered : popped.2.Ordered LocTimerDelegate.outRanks) :
    (expireNext now popped σ).Ranked := by
  have pending : ∀ timer ∈ σ.pushes ++ popped.2.toList, timer ∈ σ.pending := by
    intro timer member
    exact List.mem_append.mpr ((List.mem_append.mp member).imp_right (fun left => fewer left))
  have gone : ∀ timer ∈ σ.deleted, timer ∉ σ.pending := by
    intro timer member
    apply ranked.gone timer
    rw [none]
    exact member
  have kept : ∀ task : MsgTask, task.removing = Option.none →
      Ranked { σ with mTree := popped.2, msgTask := task } := by
    intro task unremoving
    apply Ranked.fewer ranked
    · exact pending
    · exact Timespec.le_refl _
    · exact ordered
    · exact ranked.queue
    · intro timer member waits
      rw [unremoving] at member
      exact gone timer member (pending timer waits)
  rcases expireNext_cases now popped σ with ⟨top, -, next⟩ | ⟨-, next⟩
  · rw [next]
    exact kept _ rfl
  · rw [next]
    exact kept _ rfl

theorem Ranked.popTop {σ : LocTimerContainer} (ranked : σ.Ranked) :
    (σ.mTree.popTop LocTimerDelegate.outRanks).Ordered LocTimerDelegate.outRanks :=
  ranked.ordered.popTop ranked.comparable (fun _ stored => mem_pending_of_tree stored)

/-- The message thread takes the next message. -/
theorem Ranked.taken {σ : LocTimerContainer} (ranked : σ.Ranked) {msg : LocMsg}
    {rest : List LocMsg} (queue : σ.queue = msg :: rest) : Ranked { σ with queue := rest } := by
  have pending : ∀ timer ∈ pending { σ with queue := rest }, timer ∈ σ.pending := by
    intro timer member
    unfold LocTimerContainer.pending at member ⊢
    rw [List.mem_append, mem_pushes] at member ⊢
    apply member.imp_left
    intro queued
    rw [queue]
    exact List.mem_cons_of_mem _ queued
  apply Ranked.fewer ranked
  · exact pending
  · exact Timespec.le_refl _
  · exact ranked.ordered
  · have pairwise := ranked.queue
    rw [queue] at pairwise
    exact pairwise.of_cons
  · exact fun timer member waits => ranked.gone timer member (pending timer waits)

theorem Ranked.push {σ : LocTimerContainer} (ranked : σ.Ranked) (place : σ.msgTask = .idle)
    {mTimer : LocTimerDelegate} {rest : List LocMsg} (queue : σ.queue = .push mTimer :: rest) :
    (proc { σ with queue := rest } (.push mTimer)).Ranked := by
  have first : mTimer ∈ σ.pending := by
    apply List.mem_append_left
    rw [mem_pushes, queue]
    exact List.mem_cons_self
  have left := ranked.taken queue
  have pending : ∀ timer ∈ (proc { σ with queue := rest } (.push mTimer)).pending,
      timer ∈ σ.pending := by
    intro timer member
    rcases List.mem_append.mp member with queued | stored
    · rw [mem_pushes] at queued
      apply List.mem_append_left
      rw [mem_pushes, queue]
      exact List.mem_cons_of_mem _ queued
    · rcases LocHeapNode.mem_push.mp stored with rfl | before
      · exact first
      · exact mem_pending_of_tree before
  apply Ranked.fewer ranked
  · exact pending
  · exact Timespec.le_refl _
  · exact ranked.ordered.push ranked.comparable (fun _ stored => mem_pending_of_tree stored) first
  · exact left.queue
  · intro timer member waits
    apply ranked.gone timer ?_ (pending timer waits)
    rw [place]
    exact member

/-- What is about to be deleted has left the queue and the heap. -/
theorem Ranked.remove {made : Nat → Option LocTimerDelegate} {σ : LocTimerContainer}
    (ranked : σ.Ranked) (owned : σ.Owned made) {mTimer : LocTimerDelegate} {rest : List LocMsg}
    (queue : σ.queue = .remove mTimer :: rest) :
    (proc { σ with queue := rest } (.remove mTimer)).Ranked := by
  have left := ranked.taken queue
  have pending : ∀ timer ∈ (proc { σ with queue := rest } (.remove mTimer)).pending,
      timer ∈ LocTimerContainer.pending { σ with queue := rest } := by
    intro timer member
    apply List.mem_append.mpr
    exact (List.mem_append.mp member).imp_right
      (fun stored => LocHeapNode.remove_subset σ.mTree mTimer stored)
  apply Ranked.fewer left
  · exact pending
  · exact Timespec.le_refl _
  · exact ranked.ordered.remove ranked.comparable (fun _ stored => mem_pending_of_tree stored)
      mTimer
  · exact left.queue
  · intro timer member waits
    rcases List.mem_cons.mp member with rfl | deleted
    · rcases List.mem_append.mp waits with queued | stored
      · rw [mem_pushes] at queued
        have pairwise := ranked.queue
        rw [queue, List.pairwise_cons] at pairwise
        exact pairwise.1 _ queued timer rfl rfl
      · have once := List.nodup_iff_count.mp owned.places timer
        unfold LocTimerContainer.places at once
        rw [List.count_append, List.count_append, List.count_append] at once
        apply ranked.ordered.not_mem_remove ?_ stored
        omega
    · apply left.gone timer ?_ (pending timer waits)
      exact List.mem_append_right _ deleted

theorem Ranked.msgStep {made : Nat → Option LocTimerDelegate} {σ τ : LocTimerContainer}
    (ranked : σ.Ranked) (owned : σ.Owned made) (step : σ.MsgStep τ) : τ.Ranked := by
  cases step with
  | handle place queue =>
      rename_i msg rest
      cases msg with
      | push mTimer => exact ranked.push place queue
      | remove mTimer => exact ranked.remove owned queue
      | expire =>
          apply (ranked.taken queue).expireNext
          · show σ.msgTask.removing = none
            rw [place]
            rfl
          · exact LocHeapNode.popTop_subset σ.mTree
          · exact ranked.popTop
  | call place =>
      rename_i next calls mTimer
      have called : (σ.call next).Ranked := by
        cases next <;> exact ⟨ranked.near, ranked.ahead, ranked.ordered, ranked.queue, ranked.gone⟩
      apply called.withTask
      cases next <;> exact (congrArg MsgTask.removing place).symm
  | delete place =>
      apply Ranked.fewer ranked
      · exact fun _ => id
      · exact Timespec.le_refl _
      · exact ranked.ordered
      · exact ranked.queue
      · intro timer member waits
        apply ranked.gone timer ?_ waits
        rw [place]
        exact (List.mem_append.mp member).elim (fun none => by cases none)
          (fun deleted => (List.mem_append.mp deleted).elim
            (List.mem_append_right _) (List.mem_append_left _))
  | pop place =>
      rename_i now
      apply ranked.expireNext
      · rw [place]
        rfl
      · exact popIfOutRanks_subset σ now
      · unfold popIfOutRanks
        split
        · exact ranked.ordered
        · split
          · exact ranked.ordered
          · exact ranked.popTop
  | skip place unset => exact ranked.withTask (congrArg MsgTask.removing place).symm
  | read place owner => exact ranked.withTask (congrArg MsgTask.removing place).symm
  | late place none => exact ranked.withTask (congrArg MsgTask.removing place).symm
  | stop place running =>
      rename_i now timer stopped client
      obtain ⟨msgs, posts⟩ := stop_posts_some client σ
      apply (ranked.stop client).withTask
      rw [posts.msgTask, place]
      rfl
  | callBack place =>
      have ranked := ranked.withTask (congrArg MsgTask.removing place).symm
      exact ⟨ranked.near, ranked.ahead, ranked.ordered, ranked.queue, ranked.gone⟩

theorem Ranked.stepPollTask {σ τ : LocTimerContainer} (ranked : σ.Ranked)
    (taken : σ.stepPollTask = some τ) : τ.Ranked := by
  rcases stepPollTask_cases taken with ⟨-, -, -, rfl⟩ | ⟨-, rfl⟩ | ⟨-, rfl⟩ | ⟨-, rfl⟩
  · exact ⟨ranked.near, ranked.ahead, ranked.ordered, ranked.queue, ranked.gone⟩
  · exact ⟨ranked.near, ranked.ahead, ranked.ordered, ranked.queue, ranked.gone⟩
  · exact ⟨ranked.near, ranked.ahead, ranked.ordered, ranked.queue, ranked.gone⟩
  · apply Ranked.aside ranked
    · exact Timespec.le_refl _
    · rfl
    · rfl
    · intro msg posted timer
      rw [List.mem_singleton.mp posted]
      exact nofun
    · exact List.pairwise_singleton _ _
    · rfl
    · rfl

theorem ranked_new (clock : Timespec) : (new clock).Ranked where
  near := fun _ member => by cases member
  ahead := fun _ member => by cases member
  ordered := trivial
  queue := .nil
  gone := fun _ member => by cases member

end LocTimerContainer

end A5Common.Timer
