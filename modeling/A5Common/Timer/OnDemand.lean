import A5Common.Run.System
import A5Common.Run.Critical
import Mathlib.Data.List.Nodup

set_option autoImplicit false

namespace A5Common.Timer.OnDemand

open A5Common.Run

inductive ClockId where
  | CLOCK_MONOTONIC
  | CLOCK_BOOTTIME
  | CLOCK_BOOTTIME_ALARM
deriving DecidableEq

/-- What `timerfd_create` does: it makes a descriptor or leaves an errno. -/
inductive TimerFd where
  | created
  | EINVAL
  | otherErrno
deriving DecidableEq

/-- A `LocTimerContainer` that has been made, with the clock of its descriptor if it has one. -/
structure Container where
  wakeOnExpire : Bool
  mDevFd : Option ClockId
deriving DecidableEq

/-- The clock that the constructor asks for first. -/
def bootClock (wakeOnExpire : Bool) : ClockId :=
  if wakeOnExpire then .CLOCK_BOOTTIME_ALARM else .CLOCK_BOOTTIME

/-- The next access of a call of `get` that has the mutex. -/
inductive Critical where
  | testsContainer
  | createsTimerFd
  | createsMonotonic
  | testsPollTask (clock : ClockId)
  | makesPollTask (clock : ClockId)
  | testsMsgTask (clock : ClockId)
  | makesMsgTask (clock : ClockId)
  | storesContainer (mDevFd : Option ClockId)
  | testsTimerFd
  | deletes
  | storesNull
  | unlocks
deriving DecidableEq

/-- The next access of a thread that makes a delegate. -/
inductive Stage where
  | testsContainer
  | locks
  | critical (next : Critical)
  | returns
  | adds (mContainer : Option Nat)
deriving DecidableEq

/-- The static members of the class. Objects are numbered as they are made. Records are the tasks
and the containers that have been made, and the containers that have been deleted. -/
structure Statics where
  mSwTimers : Option Nat
  mHwTimers : Option Nat
  mMsgTask : Option Nat
  mPollTask : Option Nat
  msgTasks : Nat
  pollTasks : Nat
  containers : List Container
  deleted : List Nat

namespace Statics

def new : Statics where
  mSwTimers := none
  mHwTimers := none
  mMsgTask := none
  mPollTask := none
  msgTasks := 0
  pollTasks := 0
  containers := []
  deleted := []

def container (statics : Statics) : Bool → Option Nat
  | true => statics.mHwTimers
  | false => statics.mSwTimers

def setContainer (statics : Statics) (container : Option Nat) : Bool → Statics
  | true => { statics with mHwTimers := container }
  | false => { statics with mSwTimers := container }

/-- `container->getTimerFd()` of the container that is stored now, where none is -1. -/
def getTimerFd (statics : Statics) (wakeOnExpire : Bool) : Option ClockId :=
  ((statics.container wakeOnExpire).bind (fun c => statics.containers[c]?)).bind Container.mDevFd

/-- An access under the mutex, and the next one, if the mutex is not given back. -/
def access (statics : Statics) (wakeOnExpire : Bool) (timerFd : TimerFd) :
    Critical → Statics × Option Critical
  | .testsContainer =>
      (statics, some (if statics.container wakeOnExpire = none then .createsTimerFd else .unlocks))
  | .createsTimerFd =>
      (statics,
        some (match timerFd with
          | .created => .testsPollTask (bootClock wakeOnExpire)
          | .EINVAL => .createsMonotonic
          | .otherErrno => .storesContainer none))
  | .createsMonotonic =>
      (statics,
        some (match timerFd with
          | .created => .testsPollTask .CLOCK_MONOTONIC
          | .EINVAL | .otherErrno => .storesContainer none))
  | .testsPollTask clock =>
      (statics,
        some (if statics.mPollTask = none then .makesPollTask clock else .testsMsgTask clock))
  | .makesPollTask clock =>
      ({ statics with
          mPollTask := some statics.pollTasks
          pollTasks := statics.pollTasks + 1 }, some (.testsMsgTask clock))
  | .testsMsgTask clock =>
      (statics,
        some (if statics.mMsgTask = none then .makesMsgTask clock
          else .storesContainer (some clock)))
  | .makesMsgTask clock =>
      ({ statics with
          mMsgTask := some statics.msgTasks
          msgTasks := statics.msgTasks + 1 }, some (.storesContainer (some clock)))
  | .storesContainer mDevFd =>
      (setContainer
        { statics with containers := statics.containers ++ [⟨wakeOnExpire, mDevFd⟩] }
        (some statics.containers.length) wakeOnExpire, some .testsTimerFd)
  | .testsTimerFd =>
      (statics, some (if statics.getTimerFd wakeOnExpire = none then .deletes else .unlocks))
  | .deletes =>
      ({ statics with deleted := statics.deleted ++ (statics.container wakeOnExpire).toList },
        some .storesNull)
  | .storesNull => (statics.setContainer none wakeOnExpire, some .unlocks)
  | .unlocks => (statics, none)

end Statics

/-- The `sendMsg` of a `MsgTimerPush`: the task that it is called on and the container. -/
structure Push where
  wakeOnExpire : Bool
  mTimerContainer : Option Nat
  mMsgTask : Option Nat
deriving DecidableEq

/-- The static members and the threads that make delegates, each in one or in none. -/
structure Timers where
  statics : Statics
  threads : Threads Nat (Option (Bool × Stage))
  pushed : List Push

inductive TimersLabel where
  | LocTimerDelegate (thread : Nat) (wakeOnExpire : Bool)
  | goesOn (thread : Nat) (timerFd : TimerFd)
deriving DecidableEq

namespace Timers

def new : Timers where
  statics := .new
  threads := ⟨fun _ => none, none⟩
  pushed := []

/-- The next access of a thread: `get`, with its test before the mutex is taken and its second
look at the reference as it returns, and then `add`. -/
def access (σ : Timers) (thread : Nat) (timerFd : TimerFd) (wakeOnExpire : Bool) :
    Stage → Option Timers
  | .testsContainer =>
      let next := if σ.statics.container wakeOnExpire = none then Stage.locks else .returns
      some { σ with threads := σ.threads.move thread (some (wakeOnExpire, next)) }
  | .locks =>
      (σ.threads.lock thread (some (wakeOnExpire, .critical .testsContainer))).map
        (fun threads => { σ with threads := threads })
  | .critical here =>
      match σ.statics.access wakeOnExpire timerFd here with
      | (statics, some next) =>
          some { σ with
            statics := statics
            threads := σ.threads.move thread (some (wakeOnExpire, .critical next)) }
      | (statics, none) =>
          some { σ with
            statics := statics
            threads := σ.threads.unlock thread (some (wakeOnExpire, .returns)) }
  | .returns =>
      let container := σ.statics.container wakeOnExpire
      some { σ with threads := σ.threads.move thread (some (wakeOnExpire, .adds container)) }
  | .adds mContainer =>
      some { σ with
        pushed := σ.pushed ++ [⟨wakeOnExpire, mContainer, σ.statics.mMsgTask⟩]
        threads := σ.threads.move thread none }

def step (σ : Timers) : TimersLabel → Option Timers
  | .LocTimerDelegate thread wakeOnExpire =>
      if σ.threads.position thread = none then
        some { σ with
          threads := σ.threads.move thread (some (wakeOnExpire, .testsContainer)) }
      else none
  | .goesOn thread timerFd =>
      match σ.threads.position thread with
      | some (wakeOnExpire, stage) => σ.access thread timerFd wakeOnExpire stage
      | none => none

end Timers

/-- Any number of threads, in any order, whatever `timerfd_create` does. -/
def timerContainers : System Timers TimersLabel where
  initial σ := σ = .new
  step := Timers.step

namespace Statics

variable {statics after : Statics} {wakeOnExpire : Bool}

@[simp] theorem container_setContainer (statics : Statics) (made : Option Nat)
    (wakeOnExpire other : Bool) :
    (statics.setContainer made wakeOnExpire).container other =
      if other = wakeOnExpire then made else statics.container other := by
  cases wakeOnExpire <;> cases other <;> rfl

@[simp] theorem setContainer_containers (made : Option Nat) (wakeOnExpire : Bool) :
    (statics.setContainer made wakeOnExpire).containers = statics.containers := by
  cases wakeOnExpire <;> rfl

@[simp] theorem setContainer_deleted (made : Option Nat) (wakeOnExpire : Bool) :
    (statics.setContainer made wakeOnExpire).deleted = statics.deleted := by
  cases wakeOnExpire <;> rfl

@[simp] theorem setContainer_mMsgTask (made : Option Nat) (wakeOnExpire : Bool) :
    (statics.setContainer made wakeOnExpire).mMsgTask = statics.mMsgTask := by
  cases wakeOnExpire <;> rfl

@[simp] theorem setContainer_mPollTask (made : Option Nat) (wakeOnExpire : Bool) :
    (statics.setContainer made wakeOnExpire).mPollTask = statics.mPollTask := by
  cases wakeOnExpire <;> rfl

@[simp] theorem setContainer_msgTasks (made : Option Nat) (wakeOnExpire : Bool) :
    (statics.setContainer made wakeOnExpire).msgTasks = statics.msgTasks := by
  cases wakeOnExpire <;> rfl

@[simp] theorem setContainer_pollTasks (made : Option Nat) (wakeOnExpire : Bool) :
    (statics.setContainer made wakeOnExpire).pollTasks = statics.pollTasks := by
  cases wakeOnExpire <;> rfl

/-- A container that has a descriptor. -/
def Works (statics : Statics) (c : Nat) (wakeOnExpire : Bool) : Prop :=
  ∃ clock, statics.containers[c]? = some ⟨wakeOnExpire, some clock⟩

/-- A container for which `timerfd_create` has failed. -/
def Failed (statics : Statics) (c : Nat) (wakeOnExpire : Bool) : Prop :=
  statics.containers[c]? = some ⟨wakeOnExpire, none⟩

/-- The clock that a container gets its descriptor from. -/
def ClockOf (wakeOnExpire : Bool) (clock : ClockId) : Prop :=
  clock = bootClock wakeOnExpire ∨ clock = .CLOCK_MONOTONIC

theorem failed_setContainer {made : Option Nat} {c : Nat} {other : Bool} :
    (statics.setContainer made wakeOnExpire).Failed c other ↔ statics.Failed c other := by
  unfold Failed
  rw [setContainer_containers]

/-- One task of each sort, at most, and a container with a descriptor for each value of
`wakeOnExpire`, at most, that is stored from then on. Only failed containers are deleted, once. -/
structure Single (statics : Statics) : Prop where
  pollTask : statics.mPollTask = none ∧ statics.pollTasks = 0 ∨
    statics.mPollTask = some 0 ∧ statics.pollTasks = 1
  msgTask : statics.mMsgTask = none ∧ statics.msgTasks = 0 ∨
    statics.mMsgTask = some 0 ∧ statics.msgTasks = 1
  clock : ∀ made ∈ statics.containers, ∀ clock, made.mDevFd = some clock →
    ClockOf made.wakeOnExpire clock ∧ statics.mPollTask = some 0 ∧ statics.mMsgTask = some 0
  works : ∀ c wakeOnExpire, statics.Works c wakeOnExpire →
    statics.container wakeOnExpire = some c
  stored : ∀ c wakeOnExpire, statics.container wakeOnExpire = some c →
    ∃ made, statics.containers[c]? = some made ∧ made.wakeOnExpire = wakeOnExpire
  deleted : ∀ c ∈ statics.deleted, ∃ wakeOnExpire, statics.Failed c wakeOnExpire
  once : statics.deleted.Nodup

/-- Nothing is half done: what is stored has a descriptor, and what has failed is deleted. -/
structure Settled (statics : Statics) : Prop extends statics.Single where
  storedWorks : ∀ c wakeOnExpire, statics.container wakeOnExpire = some c →
    statics.Works c wakeOnExpire
  gone : ∀ c wakeOnExpire, statics.Failed c wakeOnExpire → c ∈ statics.deleted

/-- A container has been made for this value of `wakeOnExpire`, with a descriptor or without. -/
def Tried (statics : Statics) (wakeOnExpire : Bool) : Prop :=
  ∃ made ∈ statics.containers, made.wakeOnExpire = wakeOnExpire

/-- Once what is stored has been deleted and replaced by NULL, nothing is half done. -/
def Doomed (statics : Statics) (wakeOnExpire : Bool) : Prop :=
  (setContainer
    { statics with deleted := statics.deleted ++ (statics.container wakeOnExpire).toList }
    none wakeOnExpire).Settled

/-- What holds while a call has the mutex. -/
def Holding (statics : Statics) (wakeOnExpire : Bool) : Critical → Prop
  | .testsContainer => statics.Settled
  | .createsTimerFd | .createsMonotonic =>
      statics.Settled ∧ statics.container wakeOnExpire = none
  | .testsPollTask clock =>
      statics.Settled ∧ statics.container wakeOnExpire = none ∧ ClockOf wakeOnExpire clock
  | .makesPollTask clock =>
      statics.Settled ∧ statics.container wakeOnExpire = none ∧ ClockOf wakeOnExpire clock ∧
        statics.mPollTask = none
  | .testsMsgTask clock =>
      statics.Settled ∧ statics.container wakeOnExpire = none ∧ ClockOf wakeOnExpire clock ∧
        statics.mPollTask = some 0
  | .makesMsgTask clock =>
      statics.Settled ∧ statics.container wakeOnExpire = none ∧ ClockOf wakeOnExpire clock ∧
        statics.mPollTask = some 0 ∧ statics.mMsgTask = none
  | .storesContainer mDevFd =>
      statics.Settled ∧ statics.container wakeOnExpire = none ∧
        ∀ clock, mDevFd = some clock →
          ClockOf wakeOnExpire clock ∧ statics.mPollTask = some 0 ∧ statics.mMsgTask = some 0
  | .testsTimerFd =>
      statics.Single ∧ statics.Tried wakeOnExpire ∧
        (statics.getTimerFd wakeOnExpire = none ∧ statics.Doomed wakeOnExpire ∨
          statics.getTimerFd wakeOnExpire ≠ none ∧ statics.Settled)
  | .deletes => statics.Single ∧ statics.Tried wakeOnExpire ∧ statics.Doomed wakeOnExpire
  | .storesNull =>
      statics.Single ∧ statics.Tried wakeOnExpire ∧
        (statics.setContainer none wakeOnExpire).Settled
  | .unlocks => statics.Settled ∧ statics.Tried wakeOnExpire

theorem Holding.single {here : Critical} (holding : statics.Holding wakeOnExpire here) :
    statics.Single := by
  cases here with
  | testsContainer => exact Settled.toSingle holding
  | createsTimerFd | createsMonotonic | testsPollTask clock | makesPollTask clock
  | testsMsgTask clock | makesMsgTask clock | storesContainer mDevFd | unlocks =>
      exact holding.1.toSingle
  | testsTimerFd | deletes | storesNull => exact holding.1

theorem getElem?_concat_eq_some {α : Type} {last made : α} {all : List α} {c : Nat} :
    (all ++ [last])[c]? = some made ↔ all[c]? = some made ∨ c = all.length ∧ last = made := by
  rw [List.getElem?_append]
  split
  · rename_i inside
    exact ⟨Or.inl, fun this => this.resolve_right (fun last => absurd last.1 (Nat.ne_of_lt inside))⟩
  · rename_i outside
    have last : c - all.length = 0 ↔ c = all.length := by omega
    rw [List.getElem?_eq_none (Nat.le_of_not_lt outside), List.getElem?_singleton]
    simp [last]

/-- What a new container changes, once it is stored or has been deleted. -/
structure Makes (statics after : Statics) (made : Container) : Prop where
  containers : after.containers = statics.containers ++ [made]
  pollTask : after.mPollTask = statics.mPollTask ∧ after.pollTasks = statics.pollTasks
  msgTask : after.mMsgTask = statics.mMsgTask ∧ after.msgTasks = statics.msgTasks
  keeps : ∀ c wakeOnExpire, statics.container wakeOnExpire = some c →
    after.container wakeOnExpire = some c
  stores : ∀ c wakeOnExpire, after.container wakeOnExpire = some c →
    statics.container wakeOnExpire = some c ∨
      c = statics.containers.length ∧ made.wakeOnExpire = wakeOnExpire
  works : made.mDevFd ≠ none →
    after.container made.wakeOnExpire = some statics.containers.length
  deletes : after.deleted = statics.deleted ∨
    after.deleted = statics.deleted ++ [statics.containers.length] ∧ made.mDevFd = none

theorem Makes.getElem? {made other : Container} (makes : statics.Makes after made) {c : Nat} :
    after.containers[c]? = some other ↔
      statics.containers[c]? = some other ∨ c = statics.containers.length ∧ made = other := by
  rw [makes.containers]
  exact getElem?_concat_eq_some

theorem Single.deleted_lt (single : statics.Single) {c : Nat} (deleted : c ∈ statics.deleted) :
    c < statics.containers.length := by
  obtain ⟨wakeOnExpire, failed⟩ := single.deleted c deleted
  exact (List.getElem?_eq_some_iff.mp failed).1

theorem Makes.single {made : Container} (makes : statics.Makes after made)
    (single : statics.Single)
    (clock : ∀ clock, made.mDevFd = some clock → ClockOf made.wakeOnExpire clock ∧
      statics.mPollTask = some 0 ∧ statics.mMsgTask = some 0) : after.Single where
  pollTask := by
    rw [makes.pollTask.1, makes.pollTask.2]
    exact single.pollTask
  msgTask := by
    rw [makes.msgTask.1, makes.msgTask.2]
    exact single.msgTask
  clock other member := by
    rw [makes.containers, List.mem_append, List.mem_singleton] at member
    rw [makes.pollTask.1, makes.msgTask.1]
    rcases member with earlier | rfl
    · exact single.clock other earlier
    · exact clock
  works c wakeOnExpire works := by
    obtain ⟨clock, found⟩ := works
    rcases makes.getElem?.mp found with earlier | ⟨rfl, rfl⟩
    · exact makes.keeps c wakeOnExpire (single.works c wakeOnExpire ⟨clock, earlier⟩)
    · exact makes.works (fun none => by cases none)
  stored c wakeOnExpire stored := by
    rcases makes.stores c wakeOnExpire stored with earlier | ⟨rfl, same⟩
    · obtain ⟨other, found, same⟩ := single.stored c wakeOnExpire earlier
      exact ⟨other, makes.getElem?.mpr (Or.inl found), same⟩
    · exact ⟨made, makes.getElem?.mpr (Or.inr ⟨rfl, rfl⟩), same⟩
  deleted c member := by
    have earlier (member : c ∈ statics.deleted) : ∃ wakeOnExpire, after.Failed c wakeOnExpire := by
      obtain ⟨wakeOnExpire, failed⟩ := single.deleted c member
      exact ⟨wakeOnExpire, makes.getElem?.mpr (Or.inl failed)⟩
    rcases makes.deletes with same | ⟨longer, failed⟩
    · exact earlier (same ▸ member)
    · rw [longer, List.mem_append, List.mem_singleton] at member
      refine member.elim earlier (fun last => ⟨made.wakeOnExpire, ?_⟩)
      exact makes.getElem?.mpr (Or.inr ⟨last, by rw [← failed]⟩)
  once := by
    rcases makes.deletes with same | ⟨longer, -⟩
    · rw [same]
      exact single.once
    · rw [longer]
      refine List.Nodup.append single.once (List.nodup_singleton _) ?_
      rw [List.disjoint_singleton]
      exact fun member => Nat.lt_irrefl _ (single.deleted_lt member)

/-- With a descriptor it stays stored; without, it has been deleted and is stored no more. -/
theorem Makes.settled {made : Container} (makes : statics.Makes after made)
    (settled : statics.Settled)
    (clock : ∀ clock, made.mDevFd = some clock → ClockOf made.wakeOnExpire clock ∧
      statics.mPollTask = some 0 ∧ statics.mMsgTask = some 0)
    (failed : made.mDevFd = none → after.container made.wakeOnExpire = none ∧
      statics.containers.length ∈ after.deleted) : after.Settled where
  toSingle := makes.single settled.toSingle clock
  storedWorks c wakeOnExpire stored := by
    rcases makes.stores c wakeOnExpire stored with earlier | ⟨rfl, rfl⟩
    · obtain ⟨clock, found⟩ := settled.storedWorks c wakeOnExpire earlier
      exact ⟨clock, makes.getElem?.mpr (Or.inl found)⟩
    · cases descriptor : made.mDevFd with
      | none =>
          rw [(failed descriptor).1] at stored
          cases stored
      | some clock =>
          exact ⟨clock, makes.getElem?.mpr (Or.inr ⟨rfl, by rw [← descriptor]⟩)⟩
  gone c wakeOnExpire gone := by
    rcases makes.getElem?.mp gone with earlier | ⟨rfl, rfl⟩
    · have member := settled.gone c wakeOnExpire earlier
      rcases makes.deletes with same | ⟨longer, -⟩
      · rw [same]
        exact member
      · rw [longer]
        exact List.mem_append_left _ member
    · exact (failed rfl).2

theorem container_congr {statics after : Statics} (sw : after.mSwTimers = statics.mSwTimers)
    (hw : after.mHwTimers = statics.mHwTimers) (wakeOnExpire : Bool) :
    after.container wakeOnExpire = statics.container wakeOnExpire := by
  cases wakeOnExpire with
  | true => exact hw
  | false => exact sw

/-- The container is stored as it has been made. -/
theorem makes_stored (mDevFd : Option ClockId)
    (absent : statics.container wakeOnExpire = none) :
    statics.Makes (setContainer
      { statics with containers := statics.containers ++ [⟨wakeOnExpire, mDevFd⟩] }
      (some statics.containers.length) wakeOnExpire) ⟨wakeOnExpire, mDevFd⟩ where
  containers := setContainer_containers _ _
  pollTask := ⟨setContainer_mPollTask _ _, setContainer_pollTasks _ _⟩
  msgTask := ⟨setContainer_mMsgTask _ _, setContainer_msgTasks _ _⟩
  keeps c other stored := by
    have different : other ≠ wakeOnExpire := by
      rintro rfl
      rw [absent] at stored
      cases stored
    rw [container_setContainer, if_neg different]
    exact (container_congr rfl rfl other).trans stored
  stores c other stored := by
    rw [container_setContainer] at stored
    split at stored
    · rename_i same
      exact Or.inr ⟨(Option.some.inj stored).symm, same.symm⟩
    · exact Or.inl ((container_congr rfl rfl other).symm.trans stored)
  works _ := by rw [container_setContainer, if_pos rfl]
  deletes := Or.inl (setContainer_deleted _ _)

/-- Without a descriptor the container is deleted and NULL is stored again. -/
theorem makes_deleted (absent : statics.container wakeOnExpire = none) :
    statics.Makes (setContainer
      { statics with
        containers := statics.containers ++ [⟨wakeOnExpire, none⟩]
        deleted := statics.deleted ++ [statics.containers.length] }
      none wakeOnExpire) ⟨wakeOnExpire, none⟩ where
  containers := setContainer_containers _ _
  pollTask := ⟨setContainer_mPollTask _ _, setContainer_pollTasks _ _⟩
  msgTask := ⟨setContainer_mMsgTask _ _, setContainer_msgTasks _ _⟩
  keeps c other stored := by
    have different : other ≠ wakeOnExpire := by
      rintro rfl
      rw [absent] at stored
      cases stored
    rw [container_setContainer, if_neg different]
    exact (container_congr rfl rfl other).trans stored
  stores c other stored := by
    rw [container_setContainer] at stored
    split at stored
    · cases stored
    · exact Or.inl ((container_congr rfl rfl other).symm.trans stored)
  works some := absurd rfl some
  deletes := Or.inr ⟨setContainer_deleted _ _, rfl⟩

theorem Settled.makesPollTask (settled : statics.Settled) (none : statics.mPollTask = none) :
    ({ statics with
        mPollTask := some statics.pollTasks
        pollTasks := statics.pollTasks + 1 } : Statics).Settled ∧ statics.pollTasks = 0 := by
  have first := (settled.pollTask.resolve_right (fun task => by
    rw [none] at task
    cases task.1)).2
  refine ⟨{ settled with pollTask := Or.inr ?_, clock := fun made member clock some => ?_ }, first⟩
  · show some statics.pollTasks = some 0 ∧ statics.pollTasks + 1 = 1
    rw [first]
    exact ⟨rfl, rfl⟩
  · have task := (settled.clock made member clock some).2.1
    rw [none] at task
    cases task

theorem Settled.makesMsgTask (settled : statics.Settled) (none : statics.mMsgTask = none) :
    ({ statics with
        mMsgTask := some statics.msgTasks
        msgTasks := statics.msgTasks + 1 } : Statics).Settled ∧ statics.msgTasks = 0 := by
  have first := (settled.msgTask.resolve_right (fun task => by
    rw [none] at task
    cases task.1)).2
  refine ⟨{ settled with msgTask := Or.inr ?_, clock := fun made member clock some => ?_ }, first⟩
  · show some statics.msgTasks = some 0 ∧ statics.msgTasks + 1 = 1
    rw [first]
    exact ⟨rfl, rfl⟩
  · have task := (settled.clock made member clock some).2.2
    rw [none] at task
    cases task

theorem Settled.storesContainer {mDevFd : Option ClockId} (settled : statics.Settled)
    (absent : statics.container wakeOnExpire = none)
    (clock : ∀ clock, mDevFd = some clock → ClockOf wakeOnExpire clock ∧
      statics.mPollTask = some 0 ∧ statics.mMsgTask = some 0) :
    (setContainer
      { statics with containers := statics.containers ++ [⟨wakeOnExpire, mDevFd⟩] }
      (some statics.containers.length) wakeOnExpire).Holding wakeOnExpire .testsTimerFd := by
  have makes := makes_stored mDevFd absent
  have descriptor : getTimerFd (setContainer
      { statics with containers := statics.containers ++ [⟨wakeOnExpire, mDevFd⟩] }
      (some statics.containers.length) wakeOnExpire) wakeOnExpire = mDevFd := by
    unfold getTimerFd
    rw [container_setContainer, if_pos rfl, setContainer_containers, Option.bind_some,
      List.getElem?_concat_length, Option.bind_some]
  refine ⟨makes.single settled.toSingle clock, ⟨⟨wakeOnExpire, mDevFd⟩, ?_, rfl⟩, ?_⟩
  · rw [makes.containers]
    exact List.mem_append_right _ (List.mem_singleton_self _)
  · rw [descriptor]
    cases mDevFd with
    | some fd =>
        exact Or.inr ⟨Option.some_ne_none fd,
          makes.settled settled clock (fun none => by cases none)⟩
    | none =>
        refine Or.inl ⟨rfl, ?_⟩
        have doomed := (makes_deleted absent).settled settled clock (fun _ => ⟨?_, ?_⟩)
        · unfold Doomed
          cases wakeOnExpire <;> exact doomed
        · rw [container_setContainer, if_pos rfl]
        · rw [setContainer_deleted]
          exact List.mem_append_right _ (List.mem_singleton_self _)

/-- What an access under the mutex leaves, for the next one or for other threads. -/
def Leaves (statics : Statics) (wakeOnExpire : Bool) : Option Critical → Prop
  | some next => statics.Holding wakeOnExpire next
  | none => statics.Settled ∧ statics.Tried wakeOnExpire

theorem Holding.access {here : Critical} (holding : statics.Holding wakeOnExpire here)
    (timerFd : TimerFd) :
    statics.containers <+: (statics.access wakeOnExpire timerFd here).1.containers ∧
      (statics.access wakeOnExpire timerFd here).1.Leaves wakeOnExpire
        (statics.access wakeOnExpire timerFd here).2 := by
  cases here with
  | testsContainer =>
      have settled : statics.Settled := holding
      refine ⟨List.prefix_rfl, ?_⟩
      unfold Statics.access
      dsimp only
      split
      · rename_i absent
        exact ⟨settled, absent⟩
      · rename_i stored
        obtain ⟨c, stored⟩ := Option.ne_none_iff_exists'.mp stored
        obtain ⟨made, found, same⟩ := settled.stored c wakeOnExpire stored
        exact ⟨settled, made, List.mem_of_getElem? found, same⟩
  | createsTimerFd =>
      obtain ⟨settled, absent⟩ := holding
      refine ⟨List.prefix_rfl, ?_⟩
      cases timerFd with
      | created => exact ⟨settled, absent, Or.inl rfl⟩
      | EINVAL => exact ⟨settled, absent⟩
      | otherErrno => exact ⟨settled, absent, fun clock some => by cases some⟩
  | createsMonotonic =>
      obtain ⟨settled, absent⟩ := holding
      refine ⟨List.prefix_rfl, ?_⟩
      cases timerFd with
      | created => exact ⟨settled, absent, Or.inr rfl⟩
      | EINVAL | otherErrno => exact ⟨settled, absent, fun clock some => by cases some⟩
  | testsPollTask clock =>
      obtain ⟨settled, absent, clockOf⟩ := holding
      refine ⟨List.prefix_rfl, ?_⟩
      unfold Statics.access
      dsimp only
      split
      · rename_i none
        exact ⟨settled, absent, clockOf, none⟩
      · rename_i task
        have pollTask := (settled.pollTask.resolve_left (fun none => task none.1)).1
        exact ⟨settled, absent, clockOf, pollTask⟩
  | makesPollTask clock =>
      obtain ⟨settled, absent, clockOf, none⟩ := holding
      obtain ⟨made, first⟩ := settled.makesPollTask none
      exact ⟨List.prefix_rfl, made, absent, clockOf, congrArg some first⟩
  | testsMsgTask clock =>
      obtain ⟨settled, absent, clockOf, pollTask⟩ := holding
      refine ⟨List.prefix_rfl, ?_⟩
      unfold Statics.access
      dsimp only
      split
      · rename_i none
        exact ⟨settled, absent, clockOf, pollTask, none⟩
      · rename_i task
        have msgTask := (settled.msgTask.resolve_left (fun none => task none.1)).1
        refine ⟨settled, absent, ?_⟩
        rintro _ ⟨⟩
        exact ⟨clockOf, pollTask, msgTask⟩
  | makesMsgTask clock =>
      obtain ⟨settled, absent, clockOf, pollTask, none⟩ := holding
      obtain ⟨made, first⟩ := settled.makesMsgTask none
      refine ⟨List.prefix_rfl, made, absent, ?_⟩
      rintro _ ⟨⟩
      exact ⟨clockOf, pollTask, congrArg some first⟩
  | storesContainer mDevFd =>
      obtain ⟨settled, absent, clock⟩ := holding
      refine ⟨?_, settled.storesContainer absent clock⟩
      show statics.containers <+: (setContainer _ _ wakeOnExpire).containers
      rw [setContainer_containers]
      exact List.prefix_append _ _
  | testsTimerFd =>
      obtain ⟨single, tried, ⟨failed, doomed⟩ | ⟨works, settled⟩⟩ := holding
      · refine ⟨List.prefix_rfl, ?_⟩
        unfold Statics.access
        dsimp only
        rw [if_pos failed]
        exact ⟨single, tried, doomed⟩
      · refine ⟨List.prefix_rfl, ?_⟩
        unfold Statics.access
        dsimp only
        rw [if_neg works]
        exact ⟨settled, tried⟩
  | deletes =>
      obtain ⟨single, tried, doomed⟩ := holding
      refine ⟨List.prefix_rfl, { single with deleted := ?_, once := ?_ }, tried, doomed⟩
      · have deleted := doomed.deleted
        rw [setContainer_deleted] at deleted
        intro c member
        obtain ⟨other, failed⟩ := deleted c member
        exact ⟨other, failed_setContainer.mp failed⟩
      · exact (setContainer_deleted none wakeOnExpire) ▸ doomed.once
  | storesNull =>
      obtain ⟨single, tried, settled⟩ := holding
      refine ⟨?_, settled, ?_⟩
      · show statics.containers <+: (setContainer _ _ wakeOnExpire).containers
        exact (setContainer_containers none wakeOnExpire).symm ▸ List.prefix_rfl
      · obtain ⟨made, member, same⟩ := tried
        exact ⟨made, (setContainer_containers none wakeOnExpire).symm ▸ member, same⟩
  | unlocks => exact ⟨List.prefix_rfl, holding⟩

end Statics

/-- A thread has the mutex. -/
def insideGet : Option (Bool × Stage) → Bool
  | some (_, .critical _) => true
  | some (_, .testsContainer) | some (_, .locks) | some (_, .returns) | some (_, .adds _)
  | none => false

namespace Timers

variable {σ τ : Timers} {thread : Nat} {wakeOnExpire : Bool}

/-- What holds while a thread has the mutex; no thread has it elsewhere. -/
def Inside : Option (Bool × Stage) → Statics → Prop
  | some (wakeOnExpire, .critical here), statics => statics.Holding wakeOnExpire here
  | some (_, .testsContainer), _ | some (_, .locks), _ | some (_, .returns), _
  | some (_, .adds _), _ | none, _ => False

/-- What `get` returns: a container that has been made for this value of `wakeOnExpire`, or NULL
after a failure. -/
def Gets (statics : Statics) (wakeOnExpire : Bool) : Option Nat → Prop
  | some c => ∃ made, statics.containers[c]? = some made ∧ made.wakeOnExpire = wakeOnExpire
  | none => ∃ c, statics.Failed c wakeOnExpire

/-- What a thread without the mutex can rely on. -/
def Stands : Option (Bool × Stage) → Statics → Prop
  | some (wakeOnExpire, .returns), statics => statics.Tried wakeOnExpire
  | some (wakeOnExpire, .adds mContainer), statics => Gets statics wakeOnExpire mContainer
  | some (_, .testsContainer), _ | some (_, .locks), _ | some (_, .critical _), _
  | none, _ => True

theorem getElem?_grows {statics after : Statics} {made : Container} {c : Nat}
    (grows : statics.containers <+: after.containers)
    (found : statics.containers[c]? = some made) : after.containers[c]? = some made := by
  obtain ⟨inside, rfl⟩ := List.getElem?_eq_some_iff.mp found
  exact List.prefix_iff_getElem?.mp grows c inside

theorem Gets.grows {statics after : Statics} (grows : statics.containers <+: after.containers)
    {container : Option Nat} (gets : Gets statics wakeOnExpire container) :
    Gets after wakeOnExpire container := by
  cases container with
  | some c =>
      obtain ⟨made, found, same⟩ := gets
      exact ⟨made, getElem?_grows grows found, same⟩
  | none =>
      obtain ⟨c, failed⟩ := gets
      exact ⟨c, getElem?_grows grows failed⟩

theorem Stands.grows {statics after : Statics} (grows : statics.containers <+: after.containers)
    {position : Option (Bool × Stage)} (stands : Stands position statics) :
    Stands position after := by
  match position, stands with
  | some (wakeOnExpire, .returns), ⟨made, member, same⟩ =>
      exact ⟨made, grows.subset member, same⟩
  | some (wakeOnExpire, .adds mContainer), gets => exact Gets.grows grows gets
  | some (_, .testsContainer), _ | some (_, .locks), _ | some (_, .critical _), _
  | none, _ => exact trivial

/-- What the threads keep about the static members. -/
def monitor : Monitor Statics (Option (Bool × Stage)) where
  inside := insideGet
  settled := Statics.Settled
  holding := Inside
  stands := Stands
  grows statics after := statics.containers <+: after.containers
  stable grows := Stands.grows grows

theorem single_of_kept (kept : monitor.Kept σ.statics σ.threads) : σ.statics.Single := by
  have held := kept.held
  match holder : σ.threads.holder, held with
  | some (some (wakeOnExpire, .critical here)), holding => exact Statics.Holding.single holding
  | none, settled => exact Statics.Settled.toSingle settled

/-- What has been sent has been sent through the MsgTask, unless the creation failed. -/
def Pushed (statics : Statics) (push : Push) : Prop :=
  Gets statics push.wakeOnExpire push.mTimerContainer ∧
    ∀ c, push.mTimerContainer = some c → statics.Works c push.wakeOnExpire →
      push.mMsgTask = some 0

structure Sound (σ : Timers) : Prop where
  kept : monitor.Kept σ.statics σ.threads
  pushed : ∀ push ∈ σ.pushed, Pushed σ.statics push

theorem new_sound : new.Sound where
  kept :=
    { exclusive := fun thread =>
        iff_of_false Bool.false_ne_true (Option.some_ne_none thread).symm
      held :=
        { pollTask := Or.inl ⟨rfl, rfl⟩
          msgTask := Or.inl ⟨rfl, rfl⟩
          clock := fun made member => by cases member
          works := fun c wakeOnExpire works => by cases works.choose_spec
          stored := fun c wakeOnExpire stored => by cases wakeOnExpire <;> cases stored
          deleted := fun c member => by cases member
          once := List.nodup_nil
          storedWorks := fun c wakeOnExpire stored => by cases wakeOnExpire <;> cases stored
          gone := fun c wakeOnExpire failed => by cases failed }
      stands := fun _ => trivial }
  pushed push member := by cases member

theorem works_of_grows {statics after : Statics} {c : Nat}
    (grows : statics.containers <+: after.containers) (found : c < statics.containers.length)
    (works : after.Works c wakeOnExpire) : statics.Works c wakeOnExpire := by
  obtain ⟨clock, works⟩ := works
  refine ⟨clock, ?_⟩
  rw [List.prefix_iff_getElem?.mp grows c found] at works
  rw [List.getElem?_eq_getElem found]
  exact works

theorem Pushed.grows {statics after : Statics} {push : Push}
    (grows : statics.containers <+: after.containers) (pushed : Pushed statics push) :
    Pushed after push := by
  obtain ⟨gets, task⟩ := pushed
  refine ⟨Gets.grows grows gets, fun c same works => task c same ?_⟩
  rw [same] at gets
  obtain ⟨made, found, -⟩ := gets
  exact works_of_grows grows (List.getElem?_eq_some_iff.mp found).1 works

/-- An access of a thread without the mutex that only moves on. -/
theorem Sound.moves (sound : σ.Sound) {next : Option (Bool × Stage)}
    (here : insideGet (σ.threads.position thread) = false) (stays : insideGet next = false)
    (stands : Stands next σ.statics) :
    ({ σ with threads := σ.threads.move thread next } : Timers).Sound :=
  ⟨sound.kept.outside here stays List.prefix_rfl (fun _ => id) stands, sound.pushed⟩

theorem Sound.access (sound : σ.Sound) {timerFd : TimerFd} {stage : Stage}
    (position : σ.threads.position thread = some (wakeOnExpire, stage))
    (taken : σ.access thread timerFd wakeOnExpire stage = some τ) : τ.Sound := by
  have stands : Stands (σ.threads.position thread) σ.statics := sound.kept.stands thread
  rw [position] at stands
  cases stage with
  | testsContainer =>
      cases taken
      have here : insideGet (σ.threads.position thread) = false := by
        rw [position]
        rfl
      split
      · exact sound.moves here rfl trivial
      · rename_i stored
        obtain ⟨c, stored⟩ := Option.ne_none_iff_exists'.mp stored
        obtain ⟨made, found, same⟩ := (single_of_kept sound.kept).stored c wakeOnExpire stored
        exact sound.moves here rfl ⟨made, List.mem_of_getElem? found, same⟩
  | locks =>
      obtain ⟨threads, locked, rfl⟩ := Option.map_eq_some_iff.mp taken
      exact ⟨sound.kept.lock locked rfl List.prefix_rfl id trivial, sound.pushed⟩
  | critical here =>
      have within : insideGet (σ.threads.position thread) = true := by
        rw [position]
        rfl
      have holding : σ.statics.Holding wakeOnExpire here := by
        have holding : Inside (σ.threads.position thread) σ.statics := sound.kept.holding within
        rw [position] at holding
        exact holding
      obtain ⟨grows, leaves⟩ := holding.access timerFd
      simp only [Timers.access] at taken
      split at taken
      · rename_i statics next accessed
        cases taken
        rw [accessed] at grows leaves
        exact ⟨sound.kept.inside within rfl grows leaves trivial,
          fun push member => (sound.pushed push member).grows grows⟩
      · rename_i statics accessed
        cases taken
        rw [accessed] at grows leaves
        exact ⟨sound.kept.unlock within rfl grows leaves.1 leaves.2,
          fun push member => (sound.pushed push member).grows grows⟩
  | returns =>
      cases taken
      have here : insideGet (σ.threads.position thread) = false := by
        rw [position]
        rfl
      refine sound.moves here rfl ?_
      have single := single_of_kept sound.kept
      show Gets σ.statics wakeOnExpire (σ.statics.container wakeOnExpire)
      cases stored : σ.statics.container wakeOnExpire with
      | some c => exact single.stored c wakeOnExpire stored
      | none =>
          -- one that works would be stored
          obtain ⟨⟨kind, mDevFd⟩, member, rfl⟩ := stands
          obtain ⟨c, found⟩ := List.mem_iff_getElem?.mp member
          cases mDevFd with
          | none => exact ⟨c, found⟩
          | some clock =>
              have works := single.works c kind ⟨clock, found⟩
              rw [stored] at works
              cases works
  | adds mContainer =>
      cases taken
      have here : insideGet (σ.threads.position thread) = false := by
        rw [position]
        rfl
      refine ⟨sound.kept.outside here rfl List.prefix_rfl (fun _ => id) trivial,
        fun push member => ?_⟩
      rcases List.mem_append.mp member with earlier | now
      · exact sound.pushed push earlier
      · rw [List.mem_singleton.mp now]
        refine ⟨stands, fun c same works => ?_⟩
        obtain ⟨clock, found⟩ := works
        exact ((single_of_kept sound.kept).clock _ (List.mem_of_getElem? found) clock rfl).2.2

theorem Sound.step (sound : σ.Sound) {label : TimersLabel} (taken : σ.step label = some τ) :
    τ.Sound := by
  cases label with
  | LocTimerDelegate thread wakeOnExpire =>
      simp only [Timers.step] at taken
      split at taken
      · rename_i idle
        cases taken
        have here : insideGet (σ.threads.position thread) = false := by
          rw [idle]
          rfl
        exact sound.moves here rfl trivial
      · cases taken
  | goesOn thread timerFd =>
      simp only [Timers.step] at taken
      split at taken
      · rename_i wakeOnExpire stage position
        exact sound.access position taken
      · cases taken

theorem reachable_sound (run : timerContainers.Reachable σ) : σ.Sound := by
  apply run.invariant Sound
  · rintro σ rfl
    exact new_sound
  · intro before label after _ sound _ taken
    exact sound.step taken

end Timers

/-- However many threads make timers in whatever order, and whatever `timerfd_create` does, there
is one poll task and one MsgTask at most, and for each value of `wakeOnExpire` one container with
a descriptor at most, which is made after the tasks, stays stored and is never deleted. A failed
one is deleted once, and NULL stored, before the mutex is given back. A timer is sent to the
container with a descriptor, through the MsgTask, or after a failure to the failed container or
to NULL. -/
theorem timer_containers {σ : Timers} (run : timerContainers.Reachable σ) :
    σ.statics.Single ∧ (σ.threads.mutex = none → σ.statics.Settled) ∧
      ∀ push ∈ σ.pushed,
        match push.mTimerContainer with
        | some c =>
            σ.statics.Works c push.wakeOnExpire ∧
                σ.statics.container push.wakeOnExpire = some c ∧ push.mMsgTask = some 0 ∨
              σ.statics.Failed c push.wakeOnExpire
        | none => ∃ c, σ.statics.Failed c push.wakeOnExpire := by
  have sound := Timers.reachable_sound run
  have single := Timers.single_of_kept sound.kept
  refine ⟨single, fun free => ?_, fun push member => ?_⟩
  · have held := sound.kept.held
    rw [Threads.holder, free] at held
    exact held
  obtain ⟨gets, task⟩ := sound.pushed push member
  cases container : push.mTimerContainer with
  | none =>
      rw [container] at gets
      exact gets
  | some c =>
      rw [container] at gets
      obtain ⟨⟨kind, mDevFd⟩, found, rfl⟩ := gets
      cases mDevFd with
      | none => exact Or.inr found
      | some clock =>
          have works : σ.statics.Works c push.wakeOnExpire := ⟨clock, found⟩
          exact Or.inl ⟨works, single.works c _ works, task c container works⟩

/-- The descriptor of an alarm cannot be made: another thread takes the container meanwhile, and
sends a timer to it after its deletion. The container of the timers falls back to another clock. -/
theorem timer_containers_failed :
    ∃ σ, timerContainers.exec .new
        ([.LocTimerDelegate 0 true] ++ List.replicate 3 (.goesOn 0 .created) ++
          List.replicate 2 (.goesOn 0 .otherErrno) ++
          [.LocTimerDelegate 1 true, .goesOn 1 .created, .goesOn 1 .created] ++
          List.replicate 3 (.goesOn 0 .created) ++ [.goesOn 1 .created] ++
          List.replicate 3 (.goesOn 0 .created) ++ [.LocTimerDelegate 0 false] ++
          List.replicate 3 (.goesOn 0 .created) ++ [.goesOn 0 .EINVAL] ++
          List.replicate 10 (.goesOn 0 .created)) = some σ ∧
      (σ.pushed = [⟨true, some 0, none⟩, ⟨true, none, none⟩, ⟨false, some 1, some 0⟩] ∧
        σ.statics.deleted = [0] ∧ σ.threads.mutex = none) ∧ σ.statics.Settled := by
  have first : timerContainers.initial .new := rfl
  exact System.execUnder_then first (fun σ run seen => (timer_containers run).2.1 seen.2.2)
    (by decide +kernel)

end A5Common.Timer.OnDemand
