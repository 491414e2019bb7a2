import A5Common.Run.System
import A5Common.Timer.LocHeap
import A5Common.Timer.Timespec
import Mathlib.Logic.Function.Basic

set_option autoImplicit false

namespace A5Common.Timer

open A5Common.Run

/-- A delegate is known by its address; its time is set once, when it is made. -/
structure LocTimerDelegate where
  address : Nat
  mFutureTime : Timespec
deriving DecidableEq

def LocTimerDelegate.outRanks (this timer : LocTimerDelegate) : Bool :=
  this.mFutureTime.outRanks timer.mFutureTime

inductive LocMsg where
  | push (mTimer : LocTimerDelegate)
  | remove (mTimer : LocTimerDelegate)
  | expire
deriving DecidableEq

/-- The system calls on the descriptor of the container. -/
inductive SysCall where
  | addPoll
  | removePoll
  | settime (it_value : Timespec)

/-- Where the message thread stands. -/
inductive MsgTask where
  | idle
  /-- The rest of `updateSoonestTime`, then the delete of a removed timer. -/
  | updating (calls : List SysCall) (mTimer : Option LocTimerDelegate)
  | popping (now : Timespec)
  /-- At the head of `LocTimerDelegate::expire`. -/
  | expiring (now : Timespec) (timer : LocTimerDelegate)
  /-- With the client read, before its `stop`. -/
  | stopping (now : Timespec) (timer : LocTimerDelegate) (client : Nat)
  /-- With the timer that `stop` has stopped. -/
  | callingBack (now : Timespec) (timer : LocTimerDelegate) (client : Nat)
      (stopped : LocTimerDelegate)

/-- Where the poll thread stands in `LocTimerContainer::expire`. -/
inductive PollTask where
  | waiting
  | woken
  | disarmed
  | unregistered

structure Callback where
  client : Nat
  timer : LocTimerDelegate
  stopped : LocTimerDelegate
  clock : Timespec

/-- A container, the threads around it and the fields of its timers by address. -/
structure LocTimerContainer where
  clock : Timespec
  mTree : LocHeapNode LocTimerDelegate
  /-- When the descriptor fires, if it is armed. -/
  it_value : Option Timespec
  polled : Bool
  queue : List LocMsg
  msgTask : MsgTask
  pollTask : PollTask
  mTimer : Nat → Option LocTimerDelegate
  mClient : Nat → Option Nat
  mContainer : Nat → Bool
  created : Nat
  deleted : List LocTimerDelegate
  callbacks : List Callback

namespace LocTimerContainer

def new (clock : Timespec) : LocTimerContainer where
  clock := clock
  mTree := .null
  it_value := none
  polled := false
  queue := []
  msgTask := .idle
  pollTask := .waiting
  mTimer := fun _ => none
  mClient := fun _ => none
  mContainer := fun _ => false
  created := 0
  deleted := []
  callbacks := []

def sendMsg (msg : LocMsg) (σ : LocTimerContainer) : LocTimerContainer :=
  { σ with queue := σ.queue ++ [msg] }

def getSoonestTimer (σ : LocTimerContainer) : Option LocTimerDelegate :=
  σ.mTree.peek

/-- The system call, where registering twice or removing twice changes nothing
and a zero time disarms. -/
def call (σ : LocTimerContainer) : SysCall → LocTimerContainer
  | .addPoll => { σ with polled := true }
  | .removePoll => { σ with polled := false }
  | .settime it_value => { σ with it_value := if it_value = .zero then none else some it_value }

/-- The calls that `updateSoonestTime` goes on to make. -/
def updateSoonestTime (priorTop : Option LocTimerDelegate) (σ : LocTimerContainer) :
    List SysCall :=
  if σ.getSoonestTimer = priorTop then []
  else
    match σ.getSoonestTimer, priorTop with
    | none, _ => [.removePoll, .settime .zero]
    | some curTop, none => [.addPoll, .settime curTop.mFutureTime]
    | some curTop, some priorTop =>
        if curTop.outRanks priorTop then [.addPoll, .settime curTop.mFutureTime] else []

/-- `LocTimer::start`, in one step under the lock of the client, with the
constructor of the delegate and `add`. -/
def start (client : Nat) (timeOutInMs : BitVec 32) (σ : LocTimerContainer) : LocTimerContainer :=
  if (σ.mTimer client).isSome then σ
  else
    let timer : LocTimerDelegate := ⟨σ.created, σ.clock.futureTime timeOutInMs⟩
    sendMsg (.push timer) { σ with
      mTimer := Function.update σ.mTimer client (some timer)
      mClient := Function.update σ.mClient timer.address (some client)
      mContainer := Function.update σ.mContainer timer.address true
      created := σ.created + 1 }

def destroyLocked (timer : LocTimerDelegate) (σ : LocTimerContainer) : LocTimerContainer :=
  let cleared := { σ with mClient := Function.update σ.mClient timer.address none }
  if σ.mContainer timer.address then
    sendMsg (.remove timer)
      { cleared with mContainer := Function.update σ.mContainer timer.address false }
  else cleared

/-- `LocTimer::stop`, in one step under the lock of the client. -/
def stop (client : Nat) (σ : LocTimerContainer) : Bool × LocTimerContainer :=
  match σ.mTimer client with
  | none => (false, σ)
  | some timer =>
      (true, destroyLocked timer { σ with mTimer := Function.update σ.mTimer client none })

/-- The body of the loop over the expired timers, or its end. -/
def expireNext (now : Timespec)
    (popped : Option LocTimerDelegate × LocHeapNode LocTimerDelegate) (σ : LocTimerContainer) :
    LocTimerContainer :=
  let rest := { σ with mTree := popped.2 }
  match popped.1 with
  | some timer => { rest with msgTask := .expiring now timer }
  | none => { rest with msgTask := .updating (rest.updateSoonestTime none) none }

def popIfOutRanks (timer : Timespec) (σ : LocTimerContainer) :
    Option LocTimerDelegate × LocHeapNode LocTimerDelegate :=
  match σ.mTree.peek with
  | none => (none, σ.mTree)
  | some top =>
      if timer.outRanks top.mFutureTime then (none, σ.mTree)
      else σ.mTree.pop LocTimerDelegate.outRanks

/-- `proc` of a message, up to its first access to what other threads share. -/
def proc (σ : LocTimerContainer) : LocMsg → LocTimerContainer
  | .push mTimer =>
      let pushed := { σ with mTree := σ.mTree.push LocTimerDelegate.outRanks mTimer }
      { pushed with msgTask := .updating (pushed.updateSoonestTime σ.getSoonestTimer) none }
  | .remove mTimer =>
      let removed := σ.mTree.remove LocTimerDelegate.outRanks mTimer
      let rest := { σ with mTree := removed.2 }
      -- equal also when the heap is empty and nothing is removed
      let calls := if σ.getSoonestTimer = removed.1 then rest.updateSoonestTime none else []
      { rest with msgTask := .updating calls (some mTimer) }
  -- the first pop does not look at the time
  | .expire => expireNext σ.clock (σ.mTree.pop LocTimerDelegate.outRanks) σ

def stepMsgTask (σ : LocTimerContainer) : Option LocTimerContainer :=
  match σ.msgTask with
  | .idle =>
      match σ.queue with
      | [] => none
      | msg :: rest => some ({ σ with queue := rest }.proc msg)
  | .updating (next :: calls) mTimer =>
      some { σ.call next with msgTask := .updating calls mTimer }
  | .updating [] mTimer =>
      some { σ with msgTask := .idle, deleted := σ.deleted ++ mTimer.toList }
  | .popping now => some (expireNext now (σ.popIfOutRanks now) σ)
  | .expiring now timer =>
      match σ.mClient timer.address with
      | some client => some { σ with msgTask := .stopping now timer client }
      | none => some { σ with msgTask := .popping now }
  | .stopping now timer client =>
      -- the timer the client has by now, which need not be the one that expired
      match σ.mTimer client with
      | some stopped => some { (σ.stop client).2 with
          msgTask := .callingBack now timer client stopped }
      | none => some { (σ.stop client).2 with msgTask := .popping now }
  | .callingBack now timer client stopped =>
      some { σ with
        msgTask := .popping now
        callbacks := σ.callbacks ++ [⟨client, timer, stopped, σ.clock⟩] }

/-- The poll thread, from the return of `epoll_wait` for the descriptor on. -/
def stepPollTask (σ : LocTimerContainer) : Option LocTimerContainer :=
  match σ.pollTask with
  | .waiting =>
      match σ.it_value with
      | none => none
      | some it_value =>
          if σ.polled && decide (it_value ≤ σ.clock) then some { σ with pollTask := .woken }
          else none
  | .woken => some { σ.call (.settime .zero) with pollTask := .disarmed }
  | .disarmed => some { σ.call .removePoll with pollTask := .unregistered }
  | .unregistered => some { σ.sendMsg .expire with pollTask := .waiting }

inductive Label where
  | tick (clock : Timespec)
  | start (client : Nat) (timeOutInMs : BitVec 32)
  | stop (client : Nat)
  | msgTask
  | pollTask

def step (σ : LocTimerContainer) : Label → Option LocTimerContainer
  | .tick clock => if σ.clock ≤ clock then some { σ with clock := clock } else none
  | .start client timeOutInMs => some (σ.start client timeOutInMs)
  | .stop client => some (σ.stop client).2
  | .msgTask => σ.stepMsgTask
  | .pollTask => σ.stepPollTask

end LocTimerContainer

/-- A container with its clients, its poll thread and its message thread. -/
def timers : System LocTimerContainer LocTimerContainer.Label where
  initial σ := ∃ clock, σ = LocTimerContainer.new clock
  step := LocTimerContainer.step

end A5Common.Timer
