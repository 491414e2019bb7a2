import A5Common.Timer.Container

set_option autoImplicit false

namespace A5Common.Timer

namespace LocTimerContainer

/-- A delegate that exists, and is at most the longest timeout ahead of the clock. -/
structure Known (created : Nat) (clock : Timespec) (timer : LocTimerDelegate) : Prop where
  created : timer.address < created
  near : timer.mFutureTime.tv_sec ≤ clock.tv_sec + 4294968

/-- The time an expiry has read is past, and was read after the heap was filled. -/
structure Reading (clock : Timespec) (tree : LocHeapNode LocTimerDelegate) (now : Timespec) :
    Prop where
  past : now ≤ clock
  near : ∀ timer ∈ tree.toList, timer.mFutureTime.tv_sec ≤ now.tv_sec + 4294968

/-- What the message thread knows of the timer in its hands. -/
def InHand (σ : LocTimerContainer) : MsgTask → Prop
  | .idle | .updating .. => True
  | .popping now => Reading σ.clock σ.mTree now
  | .expiring now timer => Reading σ.clock σ.mTree now ∧ timer.address < σ.created ∧
      (timer.mFutureTime ≤ σ.clock ∨ σ.mClient timer.address = none)
  | .stopping now timer _ => Reading σ.clock σ.mTree now ∧ timer.mFutureTime ≤ σ.clock
  | .callingBack now timer _ stopped =>
      Reading σ.clock σ.mTree now ∧ timer.mFutureTime ≤ σ.clock ∧ stopped.mFutureTime ≤ σ.clock

/-- No callback was made before the time of the timer that expired, nor before
that of the timer that was stopped for it. -/
def CallbacksDue (σ : LocTimerContainer) : Prop :=
  ∀ made ∈ σ.callbacks, made.timer.mFutureTime ≤ made.clock ∧ made.stopped.mFutureTime ≤ made.clock

structure Sound (σ : LocTimerContainer) : Prop where
  tree : ∀ timer ∈ σ.mTree.toList, Known σ.created σ.clock timer
  queue : ∀ timer, LocMsg.push timer ∈ σ.queue → Known σ.created σ.clock timer
  task : σ.InHand σ.msgTask
  callbacks : σ.CallbacksDue

/-- What a step outside the message thread may do, seen from that thread. -/
structure Later (σ τ : LocTimerContainer) : Prop where
  mTree : τ.mTree = σ.mTree
  msgTask : τ.msgTask = σ.msgTask
  callbacks : τ.callbacks = σ.callbacks
  clock : σ.clock ≤ τ.clock
  created : σ.created ≤ τ.created
  queue : ∀ timer, LocMsg.push timer ∈ τ.queue →
    LocMsg.push timer ∈ σ.queue ∨ Known τ.created τ.clock timer
  mClient : ∀ address < σ.created, σ.mClient address = none → τ.mClient address = none

theorem Known.later {σ τ : LocTimerContainer} {timer : LocTimerDelegate}
    (known : Known σ.created σ.clock timer) (later : σ.Later τ) :
    Known τ.created τ.clock timer where
  created := Nat.lt_of_lt_of_le known.created later.created
  near := by
    have seconds := Timespec.tv_sec_mono later.clock
    have near := known.near
    omega

theorem Reading.later {σ τ : LocTimerContainer} {now : Timespec}
    (reading : Reading σ.clock σ.mTree now) (later : σ.Later τ) :
    Reading τ.clock τ.mTree now where
  past := Timespec.le_trans reading.past later.clock
  near := by
    rw [later.mTree]
    exact reading.near

theorem InHand.later {σ τ : LocTimerContainer} {task : MsgTask} (held : σ.InHand task)
    (later : σ.Later τ) : τ.InHand task := by
  cases task with
  | idle => trivial
  | updating calls mTimer => trivial
  | popping now => exact Reading.later held later
  | expiring now timer =>
      obtain ⟨reading, made, due⟩ := held
      refine ⟨reading.later later, Nat.lt_of_lt_of_le made later.created, ?_⟩
      rcases due with due | stopped
      · exact .inl (Timespec.le_trans due later.clock)
      · exact .inr (later.mClient _ made stopped)
  | stopping now timer client =>
      obtain ⟨reading, due⟩ := held
      exact ⟨reading.later later, Timespec.le_trans due later.clock⟩
  | callingBack now timer client stopped =>
      obtain ⟨reading, due, dueStopped⟩ := held
      exact ⟨reading.later later, Timespec.le_trans due later.clock,
        Timespec.le_trans dueStopped later.clock⟩

theorem Sound.later {σ τ : LocTimerContainer} (sound : σ.Sound) (later : σ.Later τ) : τ.Sound where
  tree := by
    intro timer member
    rw [later.mTree] at member
    exact (sound.tree timer member).later later
  queue := by
    intro timer queued
    rcases later.queue timer queued with before | known
    · exact (sound.queue timer before).later later
    · exact known
  task := by
    rw [later.msgTask]
    exact sound.task.later later
  callbacks := by
    unfold CallbacksDue
    rw [later.callbacks]
    exact sound.callbacks

/-- The descriptor and the poll thread are none of the message thread's business. -/
theorem later_aside (σ : LocTimerContainer) (it_value : Option Timespec) (polled : Bool)
    (pollTask : PollTask) :
    σ.Later { σ with it_value := it_value, polled := polled, pollTask := pollTask } :=
  ⟨rfl, rfl, rfl, Timespec.le_refl _, Nat.le_refl _, fun _ queued => .inl queued,
    fun _ _ same => same⟩

theorem start_later (client : Nat) (timeOutInMs : BitVec 32) (σ : LocTimerContainer) :
    σ.Later (σ.start client timeOutInMs) := by
  unfold start
  split
  · exact later_aside σ _ _ _
  · refine ⟨rfl, rfl, rfl, Timespec.le_refl _, Nat.le_succ _, ?_, ?_⟩
    · intro timer queued
      simp only [sendMsg, List.mem_append, List.mem_singleton, LocMsg.push.injEq] at queued
      rcases queued with before | fresh
      · exact .inl before
      · subst fresh
        exact .inr ⟨Nat.lt_succ_self _, Timespec.futureTime_near _ _⟩
    · intro address old unset
      have other : address ≠ σ.created := by omega
      simpa only [sendMsg, Function.update_of_ne other] using unset

theorem stop_later (client : Nat) (σ : LocTimerContainer) : σ.Later (σ.stop client).2 := by
  unfold stop
  split
  · exact later_aside σ _ _ _
  · rename_i timer running
    have unset : ∀ address, σ.mClient address = none →
        Function.update σ.mClient timer.address none address = none := by
      intro address before
      by_cases same : address = timer.address
      · subst same
        exact Function.update_self _ _ _
      · rw [Function.update_of_ne same, before]
    dsimp only [destroyLocked]
    split
    · refine ⟨rfl, rfl, rfl, Timespec.le_refl _, Nat.le_refl _, ?_, fun address _ => unset address⟩
      intro other queued
      simp only [sendMsg, List.mem_append, List.mem_singleton, reduceCtorEq, or_false] at queued
      exact .inl queued
    · exact ⟨rfl, rfl, rfl, Timespec.le_refl _, Nat.le_refl _, fun _ queued => .inl queued,
        fun address _ => unset address⟩

theorem call_later (next : SysCall) (σ : LocTimerContainer) : σ.Later (σ.call next) := by
  cases next <;> exact later_aside σ _ _ _

theorem sendMsg_expire_later (σ : LocTimerContainer) : σ.Later (σ.sendMsg .expire) := by
  refine ⟨rfl, rfl, rfl, Timespec.le_refl _, Nat.le_refl _, ?_, fun _ _ same => same⟩
  intro timer queued
  simp only [sendMsg, List.mem_append, List.mem_singleton, reduceCtorEq, or_false] at queued
  exact .inl queued

theorem Later.trans {σ τ υ : LocTimerContainer} (first : σ.Later τ) (second : τ.Later υ) :
    σ.Later υ where
  mTree := second.mTree.trans first.mTree
  msgTask := second.msgTask.trans first.msgTask
  callbacks := second.callbacks.trans first.callbacks
  clock := Timespec.le_trans first.clock second.clock
  created := Nat.le_trans first.created second.created
  queue := by
    intro timer queued
    rcases second.queue timer queued with before | known
    · rcases first.queue timer before with before | known
      · exact .inl before
      · exact .inr (known.later second)
    · exact .inr known
  mClient := by
    intro address old unset
    apply second.mClient address (Nat.lt_of_lt_of_le old first.created)
    exact first.mClient address old unset

theorem stepPollTask_later {σ τ : LocTimerContainer} (taken : σ.stepPollTask = some τ) :
    σ.Later τ := by
  unfold stepPollTask at taken
  split at taken
  · split at taken
    · cases taken
    · split at taken
      · cases taken
        exact later_aside σ _ _ _
      · cases taken
  · cases taken
    exact later_aside σ _ _ _
  · cases taken
    exact later_aside σ _ _ _
  · cases taken
    exact (sendMsg_expire_later σ).trans (later_aside _ _ _ _)

theorem tick_later {σ : LocTimerContainer} {clock : Timespec} (forward : σ.clock ≤ clock) :
    σ.Later { σ with clock := clock } :=
  ⟨rfl, rfl, rfl, forward, Nat.le_refl _, fun _ queued => .inl queued, fun _ _ same => same⟩

end LocTimerContainer

end A5Common.Timer
