import A5Common.Timer.Interference
import A5Common.Timer.Steps

set_option autoImplicit false

namespace A5Common.Timer

open A5Common.Run

namespace LocTimerContainer

/-- The message thread with another tree and at another point, given what it
then has in hand. -/
theorem Sound.resume {σ : LocTimerContainer} (sound : σ.Sound)
    {tree : LocHeapNode LocTimerDelegate} {task : MsgTask}
    (known : ∀ timer ∈ tree.toList, Known σ.created σ.clock timer)
    (held : InHand { σ with mTree := tree } task) :
    Sound { σ with mTree := tree, msgTask := task } :=
  ⟨known, sound.queue, held, sound.callbacks⟩

theorem Sound.withTask {σ : LocTimerContainer} (sound : σ.Sound) {task : MsgTask}
    (held : σ.InHand task) : Sound { σ with msgTask := task } :=
  sound.resume sound.tree held

/-- The loop goes on with a timer that is due, or has been stopped. -/
theorem Sound.expireNext {σ : LocTimerContainer} (sound : σ.Sound) {now : Timespec}
    (reading : Reading σ.clock σ.mTree now)
    {popped : Option LocTimerDelegate × LocHeapNode LocTimerDelegate}
    (fewer : popped.2.toList ⊆ σ.mTree.toList)
    (due : ∀ timer, popped.1 = some timer → timer ∈ σ.mTree.toList ∧
      (timer.mFutureTime ≤ σ.clock ∨ σ.mClient timer.address = none)) :
    (expireNext now popped σ).Sound := by
  have known : ∀ timer ∈ popped.2.toList, Known σ.created σ.clock timer :=
    fun timer member => sound.tree timer (fewer member)
  unfold LocTimerContainer.expireNext
  dsimp only
  cases next : popped.1 with
  | none => exact sound.resume known trivial
  | some timer =>
      obtain ⟨listed, reached⟩ := due timer next
      apply sound.resume known
      refine ⟨⟨reading.past, ?_⟩, (sound.tree timer listed).created, reached⟩
      exact fun other member => reading.near other (fewer member)

theorem popIfOutRanks_due {σ : LocTimerContainer} {now : Timespec}
    (reading : Reading σ.clock σ.mTree now) {timer : LocTimerDelegate}
    (popped : (σ.popIfOutRanks now).1 = some timer) :
    timer ∈ σ.mTree.toList ∧ timer.mFutureTime ≤ σ.clock := by
  unfold popIfOutRanks at popped
  split at popped
  · cases popped
  · rename_i top peeked
    split at popped
    · cases popped
    · rename_i reached
      have same : top = timer := Option.some.inj (peeked.symm.trans popped)
      subst same
      have member := LocHeapNode.peek_mem peeked
      refine ⟨member, Timespec.le_trans ?_ reading.past⟩
      apply Timespec.le_of_not_outRanks (reading.near top member)
      exact Bool.eq_false_iff.mpr reached

/-- The unconditional first pop of `MsgTimerExpire` finds the heap empty, a
timer that is due, or one that its client has stopped. -/
def FirstPopDue (σ : LocTimerContainer) : Prop :=
  ∀ top ∈ σ.getSoonestTimer, top.mFutureTime ≤ σ.clock ∨ σ.mClient top.address = none

/-- The timer that the client has running when an expiry stops it is due. -/
def RunningDue (σ : LocTimerContainer) (client : Nat) : Prop :=
  ∀ running ∈ σ.mTimer client, running.mFutureTime ≤ σ.clock

instance (σ : LocTimerContainer) : Decidable σ.FirstPopDue :=
  Option.decidableForallMem _

instance (σ : LocTimerContainer) (client : Nat) : Decidable (σ.RunningDue client) :=
  Option.decidableForallMem _

/-- What the message thread finds when it begins an expiry, and when it stops
the client of an expired timer. -/
def DueAt (σ : LocTimerContainer) : MsgTask → List LocMsg → Prop
  | .idle, .expire :: _ => σ.FirstPopDue
  | .stopping _ _ client, _ => σ.RunningDue client
  | _, _ => True

instance (σ : LocTimerContainer) (task : MsgTask) (queue : List LocMsg) :
    Decidable (σ.DueAt task queue) :=
  match task, queue with
  | .idle, .expire :: _ => inferInstanceAs (Decidable σ.FirstPopDue)
  | .stopping _ _ client, _ => inferInstanceAs (Decidable (σ.RunningDue client))
  | .idle, [] | .idle, .push _ :: _ | .idle, .remove _ :: _ | .updating .., _ | .popping _, _
  | .expiring .., _ | .callingBack .., _ => inferInstanceAs (Decidable True)

/-- An expiry that is begun, or that stops its client, finds a due timer there. -/
def expiryDue (σ : LocTimerContainer) : Label → Prop
  | .msgTask => σ.DueAt σ.msgTask σ.queue
  | _ => True

instance (σ : LocTimerContainer) (label : Label) : Decidable (σ.expiryDue label) :=
  match label with
  | .msgTask => inferInstanceAs (Decidable (σ.DueAt σ.msgTask σ.queue))
  | .tick _ | .start .. | .stop _ | .pollTask => inferInstanceAs (Decidable True)

theorem Sound.proc {σ : LocTimerContainer} (sound : σ.Sound) {msg : LocMsg}
    (ready : ∀ timer, msg = .push timer → Known σ.created σ.clock timer)
    (due : msg = .expire → σ.FirstPopDue) :
    (σ.proc msg).Sound := by
  cases msg with
  | push mTimer =>
      refine sound.resume ?_ trivial
      intro timer member
      rcases LocHeapNode.mem_push.mp member with pushed | before
      · exact pushed ▸ ready mTimer rfl
      · exact sound.tree timer before
  | remove mTimer =>
      refine sound.resume ?_ trivial
      intro timer member
      exact sound.tree timer (LocHeapNode.remove_subset σ.mTree mTimer member)
  | expire =>
      have reading : Reading σ.clock σ.mTree σ.clock :=
        ⟨Timespec.le_refl _, fun timer member => (sound.tree timer member).near⟩
      apply sound.expireNext reading (LocHeapNode.popTop_subset σ.mTree)
      intro timer top
      exact ⟨LocHeapNode.peek_mem top, due rfl timer top⟩

theorem Sound.withQueue {σ : LocTimerContainer} (sound : σ.Sound) {queue : List LocMsg}
    (fewer : queue ⊆ σ.queue) : Sound { σ with queue := queue } :=
  ⟨sound.tree, fun timer queued => sound.queue timer (fewer queued), sound.task, sound.callbacks⟩

theorem Sound.withCallback {σ : LocTimerContainer} (sound : σ.Sound) {made : Callback}
    (due : made.timer.mFutureTime ≤ made.clock)
    (dueStopped : made.stopped.mFutureTime ≤ made.clock) :
    Sound { σ with callbacks := σ.callbacks ++ [made] } where
  tree := sound.tree
  queue := sound.queue
  task := sound.task
  callbacks := by
    intro other member
    rcases List.mem_append.mp member with before | last
    · exact sound.callbacks other before
    · rw [List.mem_singleton.mp last]
      exact ⟨due, dueStopped⟩

/-- The message thread's step, in each of its places. -/
theorem Sound.stepMsgTask {σ τ : LocTimerContainer} (sound : σ.Sound)
    (due : σ.DueAt σ.msgTask σ.queue) (taken : σ.stepMsgTask = some τ) : τ.Sound := by
  have held := sound.task
  cases stepMsgTask_cases taken with
  | @handle msg rest place queue =>
      rw [place, queue] at due
      have fewer : rest ⊆ σ.queue := by
        rw [queue]
        exact List.subset_cons_self msg rest
      apply (sound.withQueue fewer).proc
      · intro timer first
        apply sound.queue timer
        rw [queue, first]
        exact List.mem_cons_self
      · intro first
        subst first
        exact due
  | delete place =>
      have held : σ.InHand .idle := trivial
      exact ⟨sound.tree, sound.queue, held, sound.callbacks⟩
  | @call next calls mTimer place =>
      have held : (σ.call next).InHand (.updating calls mTimer) := trivial
      exact (sound.later (call_later next σ)).withTask held
  | @pop now place =>
      rw [place] at held
      apply sound.expireNext held (popIfOutRanks_subset σ now)
      intro timer popped
      obtain ⟨listed, reached⟩ := popIfOutRanks_due held popped
      exact ⟨listed, .inl reached⟩
  | skip place unset =>
      rw [place] at held
      exact sound.withTask held.1
  | @read now timer client place owner =>
      rw [place] at held
      obtain ⟨reading, -, reached⟩ := held
      apply sound.withTask
      refine ⟨reading, reached.resolve_right ?_⟩
      rw [owner]
      exact Option.some_ne_none client
  | late place none =>
      rw [place] at held
      exact sound.withTask held.1
  | @stop now timer stopped client place running =>
      rw [place] at held due
      have later := stop_later client σ
      apply (sound.later later).withTask
      exact ⟨held.1.later later, Timespec.le_trans held.2 later.clock,
        Timespec.le_trans (due stopped running) later.clock⟩
  | @callBack now timer stopped client place =>
      rw [place] at held
      obtain ⟨reading, reached, reachedStopped⟩ := held
      let made : Callback := ⟨client, timer, stopped, σ.clock⟩
      have called : Sound { σ with callbacks := σ.callbacks ++ [made] } :=
        sound.withCallback reached reachedStopped
      exact called.withTask reading

theorem sound_new (clock : Timespec) : (new clock).Sound where
  tree := fun _ member => by cases member
  queue := fun _ queued => by cases queued
  task := trivial
  callbacks := fun _ member => by cases member

end LocTimerContainer

theorem timers_sound {σ : LocTimerContainer}
    (run : timers.ReachableUnder LocTimerContainer.expiryDue σ) : σ.Sound := by
  apply run.invariant LocTimerContainer.Sound
  · intro σ first
    obtain ⟨clock, rfl⟩ := first
    exact LocTimerContainer.sound_new clock
  · intro before label after _ sound due taken
    cases label with
    | tick clock =>
        simp only [timers, LocTimerContainer.step] at taken
        split at taken
        · rename_i forward
          obtain rfl := Option.some.inj taken
          exact sound.later (LocTimerContainer.tick_later forward)
        · cases taken
    | start client timeOutInMs =>
        obtain rfl := Option.some.inj taken
        exact sound.later (LocTimerContainer.start_later client timeOutInMs before)
    | stop client =>
        obtain rfl := Option.some.inj taken
        exact sound.later (LocTimerContainer.stop_later client before)
    | msgTask => exact sound.stepMsgTask due taken
    | pollTask => exact sound.later (LocTimerContainer.stepPollTask_later taken)

/-- In every run in which an expiry is begun with a due timer on top, and stops
a due timer, no callback is early. -/
theorem timers_not_early {σ : LocTimerContainer}
    (run : timers.ReachableUnder LocTimerContainer.expiryDue σ) :
    ∀ made ∈ σ.callbacks, made.timer.mFutureTime ≤ made.clock ∧
      made.stopped.mFutureTime ≤ made.clock :=
  (timers_sound run).callbacks

/-- One timer, from its start to its callback. -/
theorem timers_not_early_single :
    ∃ σ, timers.execUnder LocTimerContainer.expiryDue (.new .zero)
        ([.start 1 1000#32] ++ List.replicate 4 .msgTask ++ [.tick (.seconds 1)] ++
          List.replicate 4 .pollTask ++ List.replicate 4 .msgTask) = some σ ∧
      σ.callbacks.map Callback.client = [1] ∧
      ∀ made ∈ σ.callbacks, made.timer.mFutureTime ≤ made.clock ∧
        made.stopped.mFutureTime ≤ made.clock := by
  have first : timers.initial (.new .zero) := ⟨.zero, rfl⟩
  apply System.execUnder_then first
  · intro σ run _
    exact timers_not_early run
  · decide +kernel

open LocTimerContainer.Label

/-- The first of two timers fires, and is stopped before the expiry is handled:
the second, due in nine seconds, is then on top and popped for it. -/
theorem timers_early :
    ¬ ∀ σ, timers.Reachable σ → ∀ made ∈ σ.callbacks,
      made.timer.mFutureTime ≤ made.clock ∧ made.stopped.mFutureTime ≤ made.clock := by
  intro notEarly
  have first : timers.initial (.new .zero) := ⟨.zero, rfl⟩
  obtain ⟨σ, run, seen⟩ := System.reachable_of_exec first
    ([start 1 1000#32, start 2 10000#32] ++ List.replicate 6 msgTask ++
      [tick (.seconds 1)] ++ List.replicate 3 pollTask ++ [stop 1, pollTask] ++
      List.replicate 8 msgTask)
    (fun σ => σ.callbacks.any (fun made => decide (made.clock < made.timer.mFutureTime)))
    (by decide +kernel)
  obtain ⟨made, member, early⟩ := List.any_eq_true.mp seen
  exact absurd (notEarly σ run made member).1 (Timespec.not_le_of_lt (of_decide_eq_true early))

end A5Common.Timer
