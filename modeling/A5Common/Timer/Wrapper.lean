import A5Common.Timer.Deadline
import A5Common.Timer.Lifetime

set_option autoImplicit false

namespace A5Common.Timer

open A5Common.Run

/-- Where a thread stands in `LocTimerWrapper::destroy`. -/
inductive Destroy where
  | entering
  | locked
  /-- In `~LocTimerWrapper`, and in `~LocTimer` before and after its `stop`. -/
  | clearing
  | stopping
  | dropping
  | unlocking
deriving DecidableEq

/-- Where the call of `loc_timer_stop` for a wrapper stands. -/
inductive StopTask where
  | uncalled
  | destroying (place : Destroy)
  | returned
deriving DecidableEq

/-- Up to the test of the wrapper. -/
def StopTask.early : StopTask → Bool
  | .uncalled | .destroying .entering | .destroying .locked => true
  | .destroying .clearing | .destroying .stopping | .destroying .dropping
  | .destroying .unlocking | .returned => false

/-- Where the message thread stands in `timeOutCallback`. -/
inductive ExpiryTask where
  | reading
  /-- With the callback read. -/
  | calling
  | running
  | destroying (place : Destroy)
deriving DecidableEq

/-- The threads that take `LocTimerWrapper::mMutex`. -/
inductive Thread where
  | msgTask
  | stop (wrapper : Nat)
deriving DecidableEq

/-- A container whose clients are the wrappers of the C interface, the first `count` numbers.
A deleted wrapper keeps its last contents; the last three lists are the wrappers that have
been deleted, those that were used after it, and those whose callback began after
`loc_timer_stop` had returned. -/
structure LocTimerWrappers where
  container : LocTimerContainer
  count : Nat
  mCb : Nat → Bool
  mMe : Nat → Option Nat
  mMutex : Option Thread
  stopTask : Nat → StopTask
  expiryTask : ExpiryTask
  deleted : List Nat
  used : List Nat
  late : List Nat

namespace LocTimerWrappers

def new (clock : Timespec) : LocTimerWrappers where
  container := .new clock
  count := 0
  mCb := fun _ => false
  mMe := fun _ => none
  mMutex := none
  stopTask := fun _ => .uncalled
  expiryTask := .reading
  deleted := []
  used := []
  late := []

/-- An access to the fields of a wrapper. -/
def use (wrapper : Nat) (s : LocTimerWrappers) : LocTimerWrappers :=
  { s with used := s.used ++ if wrapper ∈ s.deleted then [wrapper] else [] }

/-- `loc_timer_start` with a callback. -/
def locTimerStart (msec : BitVec 64) (s : LocTimerWrappers) : LocTimerWrappers :=
  { s with
    container := s.container.locTimerStart s.count msec
    count := s.count + 1
    mCb := Function.update s.mCb s.count true
    mMe := Function.update s.mMe s.count (some s.count) }

/-- A step of `LocTimerWrapper::destroy`, with the place that it comes to, none at its end. -/
def destroy (thread : Thread) (wrapper : Nat) (s : LocTimerWrappers) :
    Destroy → Option (LocTimerWrappers × Option Destroy)
  | .entering =>
      if s.mMutex = none then some ({ s with mMutex := some thread }, some .locked) else none
  | .locked =>
      some (s.use wrapper,
        if s.mCb wrapper = true ∧ s.mMe wrapper = some wrapper then some .clearing
        else some .unlocking)
  | .clearing =>
      some ({ s.use wrapper with
        mCb := Function.update s.mCb wrapper false
        mMe := Function.update s.mMe wrapper none }, some .stopping)
  | .stopping =>
      some ({ s.use wrapper with container := (s.container.stop wrapper).2 }, some .dropping)
  -- who comes in between the drop of the lock and the release of the memory has no lock to
  -- take, and is counted with those that come after both
  | .dropping => some ({ s.use wrapper with deleted := s.deleted ++ [wrapper] }, some .unlocking)
  | .unlocking => some ({ s with mMutex := none }, none)

/-- A step of `loc_timer_stop`. -/
def locTimerStop (wrapper : Nat) (s : LocTimerWrappers) : Option LocTimerWrappers :=
  match s.stopTask wrapper with
  | .destroying place =>
      (s.destroy (.stop wrapper) wrapper place).map fun (next, place) =>
        { next with
          stopTask := Function.update s.stopTask wrapper
            (place.elim .returned .destroying) }
  | .uncalled | .returned => none

/-- A step of `timeOutCallback`, at the end of which `LocTimerDelegate::expire` returns. -/
def timeOutCallback (wrapper : Nat) (s : LocTimerWrappers) : Option LocTimerWrappers :=
  match s.expiryTask with
  | .reading =>
      some { s.use wrapper with
        expiryTask := if s.mCb wrapper then .calling else .destroying .entering }
  | .calling =>
      some { s with
        expiryTask := .running
        late := s.late ++ if s.stopTask wrapper = .returned then [wrapper] else [] }
  | .running => some { s with expiryTask := .destroying .entering }
  | .destroying place =>
      (s.destroy .msgTask wrapper place).bind fun (next, place) =>
        match place with
        | some place => some { next with expiryTask := .destroying place }
        | none =>
            next.container.stepMsgTask.map fun container =>
              { next with container := container, expiryTask := .reading }

def stepMsgTask (s : LocTimerWrappers) : Option LocTimerWrappers :=
  match s.container.msgTask with
  | .callingBack _ _ wrapper _ => s.timeOutCallback wrapper
  | .stopping _ _ wrapper =>
      s.container.stepMsgTask.map fun container => { s.use wrapper with container := container }
  | .idle | .updating .. | .popping _ | .expiring .. =>
      s.container.stepMsgTask.map fun container => { s with container := container }

inductive Label where
  | tick (clock : Timespec)
  | pollTask
  | msgTask
  | start (msec : BitVec 64)
  /-- The call of `loc_timer_stop` for a handle, and a step of it. -/
  | call (wrapper : Nat)
  | stop (wrapper : Nat)

def step (s : LocTimerWrappers) : Label → Option LocTimerWrappers
  | .tick clock =>
      (s.container.step (.tick clock)).map fun container => { s with container := container }
  | .pollTask =>
      s.container.stepPollTask.map fun container => { s with container := container }
  | .msgTask => s.stepMsgTask
  | .start msec => some (s.locTimerStart msec)
  | .call wrapper =>
      if wrapper < s.count ∧ s.stopTask wrapper = .uncalled then
        some { s with
          stopTask := Function.update s.stopTask wrapper (.destroying .entering) }
      else none
  | .stop wrapper => s.locTimerStop wrapper

/-- A handle is stopped while its timer runs, before the expiry has stopped it; and an
expiry that has the wrapper at hand stops it before that call has tested the wrapper, or
when the call has stopped it and not yet deleted it. -/
def orderly (s : LocTimerWrappers) : Label → Prop
  | .stop wrapper =>
      s.stopTask wrapper = .destroying .locked → (s.container.mTimer wrapper).isSome = true
  | .msgTask =>
      ∀ wrapper ∈ s.container.msgTask.stops, (s.stopTask wrapper).early = true ∨
        s.stopTask wrapper = .destroying .dropping
  | .tick _ | .pollTask | .start _ | .call _ => True

instance (s : LocTimerWrappers) (label : Label) : Decidable (s.orderly label) :=
  match label with
  | .stop wrapper => inferInstanceAs (Decidable
      (s.stopTask wrapper = .destroying .locked → (s.container.mTimer wrapper).isSome = true))
  | .msgTask => inferInstanceAs (Decidable
      (∀ wrapper ∈ s.container.msgTask.stops, (s.stopTask wrapper).early = true ∨
        s.stopTask wrapper = .destroying .dropping))
  | .tick _ | .pollTask | .start _ | .call _ => inferInstanceAs (Decidable True)

/-- What is promised of the handles. -/
structure Handled (s : LocTimerWrappers) : Prop where
  once : s.deleted.Nodup
  stopped : ∀ wrapper, s.stopTask wrapper = .returned → wrapper ∈ s.deleted
  expired : ∀ made ∈ s.container.callbacks, made.client ∈ s.deleted
  used : s.used = []
  late : s.late = []

end LocTimerWrappers

end A5Common.Timer
