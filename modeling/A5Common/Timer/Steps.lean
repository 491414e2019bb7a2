import A5Common.Timer.Container

set_option autoImplicit false

namespace A5Common.Timer

namespace LocTimerContainer

/-- A step that posts messages and may change the fields of timers and delegates. -/
structure Posts (σ τ : LocTimerContainer) (msgs : List LocMsg) : Prop where
  clock : τ.clock = σ.clock
  mTree : τ.mTree = σ.mTree
  it_value : τ.it_value = σ.it_value
  polled : τ.polled = σ.polled
  queue : τ.queue = σ.queue ++ msgs
  msgTask : τ.msgTask = σ.msgTask
  pollTask : τ.pollTask = σ.pollTask
  deleted : τ.deleted = σ.deleted
  callbacks : τ.callbacks = σ.callbacks

theorem Posts.refl (σ : LocTimerContainer) : σ.Posts σ [] :=
  ⟨rfl, rfl, rfl, rfl, (List.append_nil _).symm, rfl, rfl, rfl, rfl⟩

theorem sendMsg_posts (msg : LocMsg) (σ : LocTimerContainer) : σ.Posts (σ.sendMsg msg) [msg] :=
  ⟨rfl, rfl, rfl, rfl, rfl, rfl, rfl, rfl, rfl⟩

theorem start_some {σ : LocTimerContainer} {client : Nat} {timer : LocTimerDelegate}
    (running : σ.mTimer client = some timer) (timeOutInMs : BitVec 32) :
    σ.start client timeOutInMs = σ := by
  unfold start
  rw [running]
  rfl

theorem start_none {σ : LocTimerContainer} {client : Nat} (none : σ.mTimer client = none)
    (timeOutInMs : BitVec 32) :
    σ.start client timeOutInMs = { σ with
      queue := σ.queue ++ [.push ⟨σ.created, σ.clock.futureTime timeOutInMs⟩]
      mTimer := Function.update σ.mTimer client
        (some ⟨σ.created, σ.clock.futureTime timeOutInMs⟩)
      mClient := Function.update σ.mClient σ.created (some client)
      mContainer := Function.update σ.mContainer σ.created true
      created := σ.created + 1 } := by
  unfold start
  rw [none]
  rfl

/-- Starting a timer that runs does nothing; another one posts its delegate. -/
theorem start_posts (client : Nat) (timeOutInMs : BitVec 32) (σ : LocTimerContainer) :
    (∃ timer, σ.mTimer client = some timer ∧ σ.start client timeOutInMs = σ) ∨
      (σ.mTimer client = none ∧ σ.Posts (σ.start client timeOutInMs)
        [.push ⟨σ.created, σ.clock.futureTime timeOutInMs⟩]) := by
  cases running : σ.mTimer client with
  | some timer => exact .inl ⟨timer, rfl, start_some running timeOutInMs⟩
  | none =>
      rw [start_none running]
      exact .inr ⟨rfl, ⟨rfl, rfl, rfl, rfl, rfl, rfl, rfl, rfl, rfl⟩⟩

theorem stop_none {σ : LocTimerContainer} {client : Nat} (none : σ.mTimer client = none) :
    (σ.stop client).2 = σ := by
  unfold stop
  rw [none]

theorem stop_some {σ : LocTimerContainer} {client : Nat} {timer : LocTimerDelegate}
    (running : σ.mTimer client = some timer) (contained : σ.mContainer timer.address = true) :
    (σ.stop client).2 = { σ with
      queue := σ.queue ++ [.remove timer]
      mTimer := Function.update σ.mTimer client none
      mClient := Function.update σ.mClient timer.address none
      mContainer := Function.update σ.mContainer timer.address false } := by
  unfold stop
  rw [running]
  exact if_pos contained

/-- Stopping posts at most the removal of the timer that runs. -/
theorem stop_posts (client : Nat) (σ : LocTimerContainer) :
    σ.Posts (σ.stop client).2 [] ∨
      ∃ timer, σ.mTimer client = some timer ∧ σ.Posts (σ.stop client).2 [.remove timer] := by
  unfold stop
  split
  · exact .inl (.refl σ)
  · rename_i timer running
    dsimp only [destroyLocked]
    split
    · exact .inr ⟨timer, running, ⟨rfl, rfl, rfl, rfl, rfl, rfl, rfl, rfl, rfl⟩⟩
    · exact .inl ⟨rfl, rfl, rfl, rfl, (List.append_nil _).symm, rfl, rfl, rfl, rfl⟩

/-- What the poll thread does, with the wake-up in its hands until it is sent on. -/
theorem stepPollTask_cases {σ τ : LocTimerContainer} (taken : σ.stepPollTask = some τ) :
    (σ.pollTask = .waiting ∧ σ.polled = true ∧ (∃ it_value, σ.it_value = some it_value) ∧
      τ = { σ with pollTask := .woken }) ∨
    (σ.pollTask = .woken ∧ τ = { σ with it_value := none, pollTask := .disarmed }) ∨
    (σ.pollTask = .disarmed ∧ τ = { σ with polled := false, pollTask := .unregistered }) ∨
    (σ.pollTask = .unregistered ∧
      τ = { σ with queue := σ.queue ++ [.expire], pollTask := .waiting }) := by
  unfold stepPollTask at taken
  split at taken
  · rename_i place
    split at taken
    · cases taken
    · rename_i it_value armed
      split at taken
      · rename_i fired
        rw [Bool.and_eq_true] at fired
        exact .inl ⟨place, fired.1, ⟨it_value, armed⟩, (Option.some.inj taken).symm⟩
      · cases taken
  · rename_i place
    exact .inr (.inl ⟨place, (Option.some.inj taken).symm⟩)
  · rename_i place
    exact .inr (.inr (.inl ⟨place, (Option.some.inj taken).symm⟩))
  · rename_i place
    exact .inr (.inr (.inr ⟨place, (Option.some.inj taken).symm⟩))

theorem popIfOutRanks_contents (σ : LocTimerContainer) (now : Timespec) :
    σ.mTree.toList.Perm ((σ.popIfOutRanks now).1.toList ++ (σ.popIfOutRanks now).2.toList) := by
  unfold popIfOutRanks
  split
  · exact .refl _
  · split
    · exact .refl _
    · exact LocHeapNode.pop_contents LocTimerDelegate.outRanks σ.mTree

theorem popIfOutRanks_subset (σ : LocTimerContainer) (now : Timespec) :
    (σ.popIfOutRanks now).2.toList ⊆ σ.mTree.toList := by
  intro timer member
  exact (σ.popIfOutRanks_contents now).mem_iff.mpr (List.mem_append_right _ member)

/-- The loop over the expired timers takes the next one, or sets the descriptor anew. -/
theorem expireNext_cases (now : Timespec)
    (popped : Option LocTimerDelegate × LocHeapNode LocTimerDelegate) (σ : LocTimerContainer) :
    (∃ timer, popped.1 = some timer ∧
      expireNext now popped σ = { σ with mTree := popped.2, msgTask := .expiring now timer }) ∨
    (popped.1 = none ∧ expireNext now popped σ = { σ with
      mTree := popped.2
      msgTask := .updating (updateSoonestTime none { σ with mTree := popped.2 }) none }) := by
  unfold expireNext
  cases next : popped.1 with
  | some timer => exact .inl ⟨timer, rfl, rfl⟩
  | none => exact .inr ⟨rfl, rfl⟩

/-- What the message thread does at each of its places. -/
inductive MsgStep (σ : LocTimerContainer) : LocTimerContainer → Prop where
  | handle {msg : LocMsg} {rest : List LocMsg} (place : σ.msgTask = .idle)
      (queue : σ.queue = msg :: rest) : MsgStep σ (proc { σ with queue := rest } msg)
  | call {next : SysCall} {calls : List SysCall} {mTimer : Option LocTimerDelegate}
      (place : σ.msgTask = .updating (next :: calls) mTimer) :
      MsgStep σ { σ.call next with msgTask := .updating calls mTimer }
  | delete {mTimer : Option LocTimerDelegate} (place : σ.msgTask = .updating [] mTimer) :
      MsgStep σ { σ with msgTask := .idle, deleted := σ.deleted ++ mTimer.toList }
  | pop {now : Timespec} (place : σ.msgTask = .popping now) :
      MsgStep σ (expireNext now (σ.popIfOutRanks now) σ)
  | skip {now : Timespec} {timer : LocTimerDelegate} (place : σ.msgTask = .expiring now timer)
      (unset : σ.mClient timer.address = none) : MsgStep σ { σ with msgTask := .popping now }
  | read {now : Timespec} {timer : LocTimerDelegate} {client : Nat}
      (place : σ.msgTask = .expiring now timer) (owner : σ.mClient timer.address = some client) :
      MsgStep σ { σ with msgTask := .stopping now timer client }
  | late {now : Timespec} {timer : LocTimerDelegate} {client : Nat}
      (place : σ.msgTask = .stopping now timer client) (none : σ.mTimer client = none) :
      MsgStep σ { σ with msgTask := .popping now }
  | stop {now : Timespec} {timer stopped : LocTimerDelegate} {client : Nat}
      (place : σ.msgTask = .stopping now timer client) (running : σ.mTimer client = some stopped) :
      MsgStep σ { (σ.stop client).2 with msgTask := .callingBack now timer client stopped }
  | callBack {now : Timespec} {timer stopped : LocTimerDelegate} {client : Nat}
      (place : σ.msgTask = .callingBack now timer client stopped) :
      MsgStep σ { σ with
        msgTask := .popping now
        callbacks := σ.callbacks ++ [⟨client, timer, stopped, σ.clock⟩] }

theorem stepMsgTask_cases {σ τ : LocTimerContainer} (taken : σ.stepMsgTask = some τ) :
    σ.MsgStep τ := by
  unfold stepMsgTask at taken
  cases place : σ.msgTask with
  | idle =>
      cases queue : σ.queue with
      | nil =>
          simp only [place, queue] at taken
          cases taken
      | cons msg rest =>
          simp only [place, queue, Option.some.injEq] at taken
          exact taken ▸ .handle place queue
  | updating calls mTimer =>
      cases calls with
      | nil =>
          simp only [place, Option.some.injEq] at taken
          exact taken ▸ .delete place
      | cons next calls =>
          simp only [place, Option.some.injEq] at taken
          exact taken ▸ .call place
  | popping now =>
      simp only [place, Option.some.injEq] at taken
      exact taken ▸ .pop place
  | expiring now timer =>
      cases owner : σ.mClient timer.address with
      | none =>
          simp only [place, owner, Option.some.injEq] at taken
          exact taken ▸ .skip place owner
      | some client =>
          simp only [place, owner, Option.some.injEq] at taken
          exact taken ▸ .read place owner
  | stopping now timer client =>
      cases running : σ.mTimer client with
      | none =>
          simp only [place, running, stop_none running, Option.some.injEq] at taken
          exact taken ▸ .late place running
      | some stopped =>
          simp only [place, running, Option.some.injEq] at taken
          exact taken ▸ .stop place running
  | callingBack now timer client stopped =>
      simp only [place, Option.some.injEq] at taken
      exact taken ▸ .callBack place

end LocTimerContainer

end A5Common.Timer
