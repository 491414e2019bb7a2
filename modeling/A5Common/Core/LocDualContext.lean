import A5Common.Run.System
import A5Common.Run.Critical
import A5Common.Core.LocApiBase
import Mathlib.Data.List.Nodup

set_option autoImplicit false

namespace A5Common.Core

open A5Common.Run

/-- The index of an event in `loc_api_adapter_event_index`, of those that a mask names. -/
inductive EventIndex where
  | LOC_API_ADAPTER_REPORT_POSITION
  | LOC_API_ADAPTER_REPORT_SATELLITE
  | LOC_API_ADAPTER_REPORT_NMEA_1HZ
  | LOC_API_ADAPTER_REPORT_NMEA_POSITION
  | LOC_API_ADAPTER_REPORT_IOCTL
  | LOC_API_ADAPTER_REPORT_STATUS
  | LOC_API_ADAPTER_GEOFENCE_GEN_ALERT
  | LOC_API_ADAPTER_GNSS_MEASUREMENT

def EventIndex.bit : EventIndex → EventMask
  | .LOC_API_ADAPTER_REPORT_POSITION => 1 <<< 0
  | .LOC_API_ADAPTER_REPORT_SATELLITE => 1 <<< 1
  | .LOC_API_ADAPTER_REPORT_NMEA_1HZ => 1 <<< 2
  | .LOC_API_ADAPTER_REPORT_NMEA_POSITION => 1 <<< 3
  | .LOC_API_ADAPTER_REPORT_IOCTL => 1 <<< 7
  | .LOC_API_ADAPTER_REPORT_STATUS => 1 <<< 8
  | .LOC_API_ADAPTER_GEOFENCE_GEN_ALERT => 1 <<< 14
  | .LOC_API_ADAPTER_GNSS_MEASUREMENT => 1 <<< 24

def mFgExclMask : EventMask := 0

def mBgExclMask : EventMask :=
  EventIndex.bit .LOC_API_ADAPTER_REPORT_POSITION |||
    EventIndex.bit .LOC_API_ADAPTER_REPORT_SATELLITE |||
    EventIndex.bit .LOC_API_ADAPTER_REPORT_NMEA_1HZ |||
    EventIndex.bit .LOC_API_ADAPTER_REPORT_NMEA_POSITION |||
    EventIndex.bit .LOC_API_ADAPTER_REPORT_IOCTL |||
    EventIndex.bit .LOC_API_ADAPTER_REPORT_STATUS |||
    EventIndex.bit .LOC_API_ADAPTER_GEOFENCE_GEN_ALERT |||
    EventIndex.bit .LOC_API_ADAPTER_GNSS_MEASUREMENT

inductive ContextKind where
  | fg
  | bg
deriving DecidableEq

def ContextKind.exclMask : ContextKind → EventMask
  | .fg => mFgExclMask
  | .bg => mBgExclMask

/-- A `LocDualContext` that has been made, with what its constructor was given. -/
structure Context where
  kind : ContextKind
  msgTask : Option Nat
  exMask : EventMask
deriving DecidableEq

/-- A call of `getLocFgContext` or of `getLocBgContext`. -/
structure ContextCall where
  kind : ContextKind
  firstMsg : Option Nat
deriving DecidableEq

/-- The next access of a call that has the mutex. -/
inductive Critical where
  | testsContext
  | testsMsgTask
  | makesMsgTask
  | storesMsgTask (msgTask : Nat)
  | makesContext (msgTask : Option Nat)
  | storesContext (context : Nat)
  | testsInject
  | storesInject
  | injects
  | unlocks
deriving DecidableEq

/-- The next access of a call. -/
inductive Stage where
  | locks
  | critical (next : Critical)
  | sendsMsg
  | returns
deriving DecidableEq

/-- The static members of the class. Objects are numbered as they are made. Records are the
MsgTasks and the contexts that have been made, and what has been injected by a call. -/
structure Statics where
  mMsgTask : Option Nat
  mFgContext : Option Nat
  mBgContext : Option Nat
  mInjectContext : Option Nat
  msgTasks : Nat
  contexts : List Context
  injected : List (Option Nat)

namespace Statics

def new : Statics where
  mMsgTask := none
  mFgContext := none
  mBgContext := none
  mInjectContext := none
  msgTasks := 0
  contexts := []
  injected := []

def context (statics : Statics) : ContextKind → Option Nat
  | .fg => statics.mFgContext
  | .bg => statics.mBgContext

def setContext (statics : Statics) (context : Nat) : ContextKind → Statics
  | .fg => { statics with mFgContext := some context }
  | .bg => { statics with mBgContext := some context }

/-- An access under the mutex, and the next one, if the mutex is not given back. -/
def access (statics : Statics) (call : ContextCall) : Critical → Statics × Option Critical
  | .testsContext =>
      (statics, some (if statics.context call.kind = none then .testsMsgTask else .testsInject))
  | .testsMsgTask =>
      (statics,
        some (if statics.mMsgTask = none then .makesMsgTask else .makesContext statics.mMsgTask))
  | .makesMsgTask =>
      ({ statics with msgTasks := statics.msgTasks + 1 }, some (.storesMsgTask statics.msgTasks))
  | .storesMsgTask msgTask =>
      ({ statics with mMsgTask := some msgTask }, some (.makesContext (some msgTask)))
  | .makesContext msgTask =>
      ({ statics with
          contexts := statics.contexts ++ [⟨call.kind, msgTask, call.kind.exclMask⟩] },
        some (.storesContext statics.contexts.length))
  | .storesContext context => (statics.setContext context call.kind, some .testsInject)
  | .testsInject =>
      (statics, some (if statics.mInjectContext = none then .storesInject else .unlocks))
  | .storesInject =>
      ({ statics with mInjectContext := statics.context call.kind }, some .injects)
  -- `injectFeatureConfig` compares the context with itself
  | .injects =>
      ({ statics with injected := statics.injected ++ [statics.mInjectContext] }, some .unlocks)
  | .unlocks => (statics, none)

end Statics

/-- The static members and the threads that call, each in a call or in none. Records are the
contexts whose features have been injected after a restart of the engine, the messages that have
been sent, and the calls with what they returned. -/
structure LocDualContext where
  statics : Statics
  threads : Threads Nat (Option (ContextCall × Stage))
  reinjected : List Nat
  sent : List (Option Nat × Nat)
  returned : List (ContextCall × Option Nat)

inductive ContextLabel where
  | getLocFgContext (thread : Nat) (firstMsg : Option Nat)
  | getLocBgContext (thread : Nat) (firstMsg : Option Nat)
  | goesOn (thread : Nat)
  | handleEngineUpEvent (context : Nat)
deriving DecidableEq

namespace LocDualContext

def new : LocDualContext where
  statics := .new
  threads := ⟨fun _ => none, none⟩
  reinjected := []
  sent := []
  returned := []

/-- A thread that is in no call begins one. -/
def calls (σ : LocDualContext) (thread : Nat) (call : ContextCall) : Option LocDualContext :=
  if σ.threads.position thread = none then
    some { σ with threads := σ.threads.move thread (some (call, .locks)) }
  else none

/-- The next access of a call. -/
def access (σ : LocDualContext) (thread : Nat) (call : ContextCall) : Stage → Option LocDualContext
  | .locks =>
      (σ.threads.lock thread (some (call, .critical .testsContext))).map
        (fun threads => { σ with threads := threads })
  | .critical here =>
      match σ.statics.access call here with
      | (statics, some next) =>
          some { σ with
            statics := statics
            threads := σ.threads.move thread (some (call, .critical next)) }
      | (statics, none) =>
          some { σ with
            statics := statics
            threads := σ.threads.unlock thread
              (some (call, if call.firstMsg.isSome then .sendsMsg else .returns)) }
  | .sendsMsg =>
      some { σ with
        sent := σ.sent ++ (call.firstMsg.map (fun msg => (σ.statics.context call.kind, msg))).toList
        threads := σ.threads.move thread (some (call, .returns)) }
  | .returns =>
      some { σ with
        returned := σ.returned ++ [(call, σ.statics.context call.kind)]
        threads := σ.threads.move thread none }

/-- `injectFeatureConfig` as the engine of a context comes up again. -/
def reinject (σ : LocDualContext) (context : Nat) : LocDualContext :=
  if σ.statics.mInjectContext = some context then
    { σ with reinjected := σ.reinjected ++ [context] }
  else σ

def step (σ : LocDualContext) : ContextLabel → Option LocDualContext
  | .getLocFgContext thread firstMsg => σ.calls thread ⟨.fg, firstMsg⟩
  | .getLocBgContext thread firstMsg => σ.calls thread ⟨.bg, firstMsg⟩
  | .goesOn thread =>
      match σ.threads.position thread with
      | some (call, stage) => σ.access thread call stage
      | none => none
  | .handleEngineUpEvent context =>
      if context < σ.statics.contexts.length then some (σ.reinject context) else none

end LocDualContext

/-- Any number of threads, in any order. -/
def dualContext : System LocDualContext ContextLabel where
  initial σ := σ = .new
  step := LocDualContext.step

namespace Statics

variable {statics after : Statics} {call : ContextCall}

@[simp] theorem context_setContext (statics : Statics) (made : Nat) (kind other : ContextKind) :
    (statics.setContext made kind).context other =
      if other = kind then some made else statics.context other := by
  cases kind <;> cases other <;> rfl

@[simp] theorem setContext_mMsgTask (made : Nat) (kind : ContextKind) :
    (statics.setContext made kind).mMsgTask = statics.mMsgTask := by
  cases kind <;> rfl

@[simp] theorem setContext_mInjectContext (made : Nat) (kind : ContextKind) :
    (statics.setContext made kind).mInjectContext = statics.mInjectContext := by
  cases kind <;> rfl

@[simp] theorem setContext_msgTasks (made : Nat) (kind : ContextKind) :
    (statics.setContext made kind).msgTasks = statics.msgTasks := by
  cases kind <;> rfl

@[simp] theorem setContext_contexts (made : Nat) (kind : ContextKind) :
    (statics.setContext made kind).contexts = statics.contexts := by
  cases kind <;> rfl

@[simp] theorem setContext_injected (made : Nat) (kind : ContextKind) :
    (statics.setContext made kind).injected = statics.injected := by
  cases kind <;> rfl

/-- What holds when nothing is half done. -/
structure Settled (statics : Statics) : Prop where
  task : statics.mMsgTask = none ∧ statics.msgTasks = 0 ∧ statics.contexts = [] ∨
    statics.mMsgTask = some 0 ∧ statics.msgTasks = 1
  kinds : (statics.contexts.map Context.kind).Nodup
  made : ∀ made ∈ statics.contexts, made.msgTask = some 0 ∧ made.exMask = made.kind.exclMask ∧
    statics.context made.kind ≠ none
  stored : ∀ kind c, statics.context kind = some c →
    statics.contexts[c]? = some ⟨kind, some 0, kind.exclMask⟩
  inject : statics.injected = (statics.mInjectContext.map some).toList
  injectContext : ∀ c, statics.mInjectContext = some c → ∃ kind, statics.context kind = some c

/-- What holds while a call has the mutex. What is half done is completed by the next store. -/
def Holding (statics : Statics) (call : ContextCall) : Critical → Prop
  | .testsContext => statics.Settled
  | .testsMsgTask => statics.Settled ∧ statics.context call.kind = none
  | .makesMsgTask =>
      statics.Settled ∧ statics.context call.kind = none ∧ statics.mMsgTask = none
  | .storesMsgTask msgTask =>
      ({ statics with mMsgTask := some msgTask } : Statics).Settled ∧
        statics.context call.kind = none
  | .makesContext msgTask =>
      statics.Settled ∧ statics.context call.kind = none ∧ statics.mMsgTask = some 0 ∧
        msgTask = some 0
  | .storesContext context =>
      (statics.setContext context call.kind).Settled ∧ statics.context call.kind = none
  | .testsInject => statics.Settled ∧ statics.context call.kind ≠ none
  | .storesInject =>
      statics.Settled ∧ statics.context call.kind ≠ none ∧ statics.mInjectContext = none
  | .injects =>
      ({ statics with injected := statics.injected ++ [statics.mInjectContext] } :
        Statics).Settled ∧ statics.context call.kind ≠ none ∧ statics.mInjectContext ≠ none
  | .unlocks =>
      statics.Settled ∧ statics.context call.kind ≠ none ∧ statics.mInjectContext ≠ none

/-- What has been stored stays. -/
structure Grows (statics after : Statics) : Prop where
  context : ∀ kind, statics.context kind ≠ none → after.context kind = statics.context kind
  inject : statics.mInjectContext ≠ none → after.mInjectContext = statics.mInjectContext
  injected : statics.injected ≠ [] → after.injected ≠ []

theorem Grows.refl (statics : Statics) : statics.Grows statics :=
  ⟨fun _ _ => rfl, fun _ => rfl, id⟩

/-- What a call has seen to when it gives the mutex back. -/
structure Served (statics : Statics) (call : ContextCall) : Prop where
  context : statics.context call.kind ≠ none
  injected : statics.injected ≠ []

theorem Grows.served (grows : statics.Grows after) (served : statics.Served call) :
    after.Served call where
  context := by
    rw [grows.context call.kind served.context]
    exact served.context
  injected := grows.injected served.injected

theorem Settled.injected_ne_nil (settled : statics.Settled)
    (inject : statics.mInjectContext ≠ none) : statics.injected ≠ [] := by
  rw [settled.inject]
  cases stored : statics.mInjectContext with
  | none => exact absurd stored inject
  | some c => exact List.cons_ne_nil _ _

/-- A context that has been made and is stored next. -/
theorem Settled.makesContext (settled : statics.Settled) (task : statics.mMsgTask = some 0)
    (absent : statics.context call.kind = none) :
    (Statics.setContext
      { statics with
        contexts := statics.contexts ++ [⟨call.kind, some 0, call.kind.exclMask⟩] }
      statics.contexts.length call.kind).Settled := by
  have others : ∀ kind, Statics.context
      { statics with contexts := statics.contexts ++ [⟨call.kind, some 0, call.kind.exclMask⟩] }
      kind = statics.context kind := by
    intro kind
    cases kind <;> rfl
  have tasks := settled.task.resolve_left (fun none => by rw [none.1] at task; cases task)
  constructor
  · simp only [setContext_mMsgTask, setContext_msgTasks]
    exact Or.inr tasks
  · simp only [setContext_contexts, List.map_append, List.map_cons, List.map_nil]
    refine List.Nodup.append settled.kinds (List.nodup_singleton _) ?_
    rw [List.disjoint_singleton, List.mem_map]
    rintro ⟨made, member, same⟩
    exact (settled.made made member).2.2 (same ▸ absent)
  · intro made member
    rw [setContext_contexts, List.mem_append, List.mem_singleton] at member
    rw [context_setContext, others]
    rcases member with earlier | rfl
    · obtain ⟨msgTask, exMask, stored⟩ := settled.made made earlier
      have different : made.kind ≠ call.kind := fun same => stored (same ▸ absent)
      rw [if_neg different]
      exact ⟨msgTask, exMask, stored⟩
    · rw [if_pos rfl]
      exact ⟨rfl, rfl, Option.some_ne_none _⟩
  · intro kind c stored
    rw [context_setContext, others] at stored
    rw [setContext_contexts]
    by_cases same : kind = call.kind
    · rw [if_pos same, Option.some_inj] at stored
      rw [← stored, List.getElem?_concat_length, same]
    · rw [if_neg same] at stored
      have listed := settled.stored kind c stored
      rw [List.getElem?_append_left (List.getElem?_eq_some_iff.mp listed).1]
      exact listed
  · simp only [setContext_injected, setContext_mInjectContext]
    exact settled.inject
  · intro c inject
    rw [setContext_mInjectContext] at inject
    obtain ⟨kind, stored⟩ := settled.injectContext c inject
    refine ⟨kind, ?_⟩
    rw [context_setContext, others, if_neg (fun same => ?_)]
    · exact stored
    · rw [same, absent] at stored
      cases stored

/-- What an access under the mutex leaves, for the next one or for other threads. -/
def Leaves (statics : Statics) (call : ContextCall) : Option Critical → Prop
  | some next => statics.Holding call next
  | none => statics.Settled ∧ statics.Served call

theorem Holding.access {here : Critical} (holding : statics.Holding call here) :
    statics.Grows (statics.access call here).1 ∧
      (statics.access call here).1.Leaves call (statics.access call here).2 := by
  cases here with
  | testsContext =>
      have settled : statics.Settled := holding
      refine ⟨.refl statics, ?_⟩
      unfold Statics.access
      dsimp only
      split
      · rename_i absent
        exact ⟨settled, absent⟩
      · rename_i stored
        exact ⟨settled, stored⟩
  | testsMsgTask =>
      obtain ⟨settled, absent⟩ := holding
      refine ⟨.refl statics, ?_⟩
      unfold Statics.access
      dsimp only
      split
      · rename_i none
        exact ⟨settled, absent, none⟩
      · rename_i task
        have same := (settled.task.resolve_left (fun none => task none.1)).1
        exact ⟨settled, absent, same, same⟩
  | makesMsgTask =>
      obtain ⟨settled, absent, none⟩ := holding
      obtain ⟨-, first, -⟩ :=
        settled.task.resolve_right (fun task => by rw [none] at task; cases task.1)
      have task : statics.msgTasks + 1 = 1 := by rw [first]
      exact ⟨⟨fun _ _ => rfl, fun _ => rfl, id⟩,
        { settled with task := Or.inr ⟨congrArg some first, task⟩ }, absent⟩
  | storesMsgTask msgTask =>
      obtain ⟨settled, absent⟩ := holding
      have task := (settled.task.resolve_left (fun none => by cases none.1)).1
      exact ⟨⟨fun kind _ => by cases kind <;> rfl, fun _ => rfl, id⟩, settled, absent, task, task⟩
  | makesContext msgTask =>
      obtain ⟨settled, absent, task, rfl⟩ := holding
      exact ⟨⟨fun kind _ => by cases kind <;> rfl, fun _ => rfl, id⟩,
        settled.makesContext task absent, absent⟩
  | storesContext made =>
      obtain ⟨settled, absent⟩ := holding
      refine ⟨⟨fun kind stored => ?_, fun _ => ?_, fun _ => ?_⟩, settled, ?_⟩
      · have different : kind ≠ call.kind := fun same => stored (same ▸ absent)
        show (statics.setContext made call.kind).context kind = _
        rw [context_setContext, if_neg different]
      · exact setContext_mInjectContext made call.kind
      · rw [show (statics.access call (.storesContext made)).1.injected = statics.injected from
          setContext_injected made call.kind]
        assumption
      · show (statics.setContext made call.kind).context call.kind ≠ none
        rw [context_setContext, if_pos rfl]
        exact Option.some_ne_none made
  | testsInject =>
      obtain ⟨settled, stored⟩ := holding
      refine ⟨.refl statics, ?_⟩
      unfold Statics.access
      dsimp only
      split
      · rename_i none
        exact ⟨settled, stored, none⟩
      · rename_i inject
        exact ⟨settled, stored, inject⟩
  | storesInject =>
      obtain ⟨settled, stored, none⟩ := holding
      have nothing : statics.injected = [] := by
        rw [settled.inject, none]
        rfl
      refine ⟨⟨fun kind _ => by cases kind <;> rfl, fun inject => absurd none inject, id⟩,
        { settled with
          inject := ?_
          injectContext := fun c same => ⟨call.kind, same⟩ }, stored, stored⟩
      show statics.injected ++ [statics.context call.kind] =
        ((statics.context call.kind).map some).toList
      rw [nothing]
      cases context : statics.context call.kind with
      | none => exact absurd context stored
      | some c => rfl
  | injects =>
      obtain ⟨settled, stored, inject⟩ := holding
      exact ⟨⟨fun kind _ => by cases kind <;> rfl, fun _ => rfl,
        fun _ => List.append_ne_nil_of_right_ne_nil _ (List.cons_ne_nil _ _)⟩,
        settled, stored, inject⟩
  | unlocks =>
      obtain ⟨settled, stored, inject⟩ := holding
      exact ⟨.refl statics, settled, stored, settled.injected_ne_nil inject⟩

end Statics

/-- A call has the mutex. -/
def insideCall : Option (ContextCall × Stage) → Bool
  | some (_, .critical _) => true
  | some (_, .locks) | some (_, .sendsMsg) | some (_, .returns) | none => false

namespace LocDualContext

variable {σ τ : LocDualContext} {call : ContextCall} {thread : Nat}

/-- What holds while a call has the mutex; no call has it elsewhere. -/
def Inside : Option (ContextCall × Stage) → LocDualContext → Prop
  | some (call, .critical here), σ => σ.statics.Holding call here
  | some (_, .locks), _ | some (_, .sendsMsg), _ | some (_, .returns), _ | none, _ => False

/-- What a call that has given the mutex back can rely on. -/
def Stands : Option (ContextCall × Stage) → LocDualContext → Prop
  | some (call, .sendsMsg), σ => σ.statics.Served call
  | some (call, .returns), σ =>
      σ.statics.Served call ∧
        ∀ msg, call.firstMsg = some msg → (σ.statics.context call.kind, msg) ∈ σ.sent
  | some (_, .locks), _ | some (_, .critical _), _ | none, _ => True

/-- What a call has returned is the context of its kind, whose features have been injected,
and its first message has been sent to that. -/
def Returned (σ : LocDualContext) (entry : ContextCall × Option Nat) : Prop :=
  σ.statics.Served entry.1 ∧ σ.statics.context entry.1.kind = entry.2 ∧
    ∀ msg, entry.1.firstMsg = some msg → (entry.2, msg) ∈ σ.sent

structure Grows (σ τ : LocDualContext) : Prop where
  statics : σ.statics.Grows τ.statics
  sent : ∀ entry ∈ σ.sent, entry ∈ τ.sent

theorem Stands.grows {position : Option (ContextCall × Stage)} (grows : σ.Grows τ)
    (stands : Stands position σ) : Stands position τ := by
  match position, stands with
  | some (call, .sendsMsg), served => exact grows.statics.served served
  | some (call, .returns), ⟨served, told⟩ =>
      refine ⟨grows.statics.served served, fun msg first => grows.sent _ ?_⟩
      rw [grows.statics.context call.kind served.context]
      exact told msg first
  | some (_, .locks), _ | some (_, .critical _), _ | none, _ => exact trivial

theorem Returned.grows {entry : ContextCall × Option Nat} (grows : σ.Grows τ)
    (returned : σ.Returned entry) : τ.Returned entry := by
  obtain ⟨served, same, told⟩ := returned
  refine ⟨grows.statics.served served, ?_, fun msg first => grows.sent _ (told msg first)⟩
  rw [grows.statics.context entry.1.kind served.context]
  exact same

/-- What the calls keep about the static members. -/
def monitor : Monitor LocDualContext (Option (ContextCall × Stage)) where
  inside := insideCall
  settled σ := σ.statics.Settled
  holding := Inside
  stands := Stands
  grows := Grows
  stable := Stands.grows

structure Sound (σ : LocDualContext) : Prop where
  kept : monitor.Kept σ σ.threads
  returned : ∀ entry ∈ σ.returned, σ.Returned entry
  sent : ∀ entry ∈ σ.sent, ∃ kind, σ.statics.context kind = entry.1 ∧ entry.1 ≠ none
  reinjected : ∀ c ∈ σ.reinjected, σ.statics.mInjectContext = some c

theorem new_sound : new.Sound where
  kept :=
    { exclusive := fun thread =>
        iff_of_false Bool.false_ne_true (Option.some_ne_none thread).symm
      held :=
        { task := Or.inl ⟨rfl, rfl, rfl⟩
          kinds := List.nodup_nil
          made := fun made member => by cases member
          stored := fun kind c stored => by cases kind <;> cases stored
          inject := rfl
          injectContext := fun c inject => by cases inject }
      stands := fun _ => trivial }
  returned entry member := by cases member
  sent entry member := by cases member
  reinjected c member := by cases member

/-- The facts about the records after a step that adds none. -/
theorem Sound.of_grows (sound : σ.Sound) (statics : Statics)
    (threads : Threads Nat (Option (ContextCall × Stage))) (grows : σ.statics.Grows statics)
    (kept : monitor.Kept { σ with statics := statics, threads := threads } threads) :
    ({ σ with statics := statics, threads := threads } : LocDualContext).Sound where
  kept := kept
  returned entry member := (sound.returned entry member).grows ⟨grows, fun _ => id⟩
  sent entry member := by
    obtain ⟨kind, same, stored⟩ := sound.sent entry member
    exact ⟨kind, (grows.context kind (same ▸ stored)).trans same, stored⟩
  reinjected c member := by
    have stored := sound.reinjected c member
    have kept := grows.inject (by rw [stored]; exact Option.some_ne_none c)
    exact kept.trans stored

/-- A change of the records alone leaves what a call keeps half done. -/
theorem held_of_statics (same : τ.statics = σ.statics) :
    ∀ holder, monitor.Held σ holder → monitor.Held τ holder
  | none, settled => by
      show τ.statics.Settled
      rw [same]
      exact settled
  | some (some (call, .critical here)), holding => by
      show τ.statics.Holding call here
      rw [same]
      exact holding
  | some (some (_, .locks)), never => never
  | some (some (_, .sendsMsg)), never => never
  | some (some (_, .returns)), never => never
  | some none, never => never

theorem Sound.calls (sound : σ.Sound) (taken : σ.calls thread call = some τ) : τ.Sound := by
  unfold LocDualContext.calls at taken
  split at taken
  · rename_i idle
    cases taken
    have outside : insideCall (σ.threads.position thread) = false := by
      rw [idle]
      rfl
    exact sound.of_grows _ _ (.refl _)
      (sound.kept.outside outside rfl ⟨.refl _, fun _ => id⟩ (held_of_statics rfl) trivial)
  · cases taken

theorem Sound.access (sound : σ.Sound) {stage : Stage}
    (position : σ.threads.position thread = some (call, stage))
    (taken : σ.access thread call stage = some τ) : τ.Sound := by
  cases stage with
  | locks =>
      obtain ⟨threads, locked, rfl⟩ := Option.map_eq_some_iff.mp taken
      exact sound.of_grows _ _ (.refl _)
        (sound.kept.lock locked rfl ⟨.refl _, fun _ => id⟩ id trivial)
  | critical here =>
      have within : insideCall (σ.threads.position thread) = true := by
        rw [position]
        rfl
      have holding : σ.statics.Holding call here := by
        have holding : Inside (σ.threads.position thread) σ := sound.kept.holding within
        rw [position] at holding
        exact holding
      obtain ⟨grows, leaves⟩ := holding.access
      simp only [LocDualContext.access] at taken
      split at taken
      · rename_i statics next accessed
        cases taken
        rw [accessed] at grows leaves
        exact sound.of_grows _ _ grows
          (sound.kept.inside within rfl ⟨grows, fun _ => id⟩ leaves trivial)
      · rename_i statics accessed
        cases taken
        rw [accessed] at grows leaves
        refine sound.of_grows _ _ grows
          (sound.kept.unlock within ?_ ⟨grows, fun _ => id⟩ leaves.1 ?_)
        · cases call.firstMsg <;> rfl
        · cases first : call.firstMsg with
          | some msg => exact leaves.2
          | none => exact ⟨leaves.2, fun msg other => by rw [first] at other; cases other⟩
  | sendsMsg =>
      cases taken
      have outside : insideCall (σ.threads.position thread) = false := by
        rw [position]
        rfl
      have served : σ.statics.Served call := by
        have stands : Stands (σ.threads.position thread) σ := sound.kept.stands thread
        rw [position] at stands
        exact stands
      have grows : σ.Grows { σ with
          sent := σ.sent ++
            (call.firstMsg.map (fun msg => (σ.statics.context call.kind, msg))).toList
          threads := σ.threads.move thread (some (call, .returns)) } :=
        ⟨.refl _, fun entry member => List.mem_append_left _ member⟩
      refine ⟨sound.kept.outside outside rfl grows (held_of_statics rfl)
        ⟨served, fun msg first => List.mem_append_right _ ?_⟩,
        fun entry member => (sound.returned entry member).grows grows, fun entry member => ?_,
        sound.reinjected⟩
      · rw [first]
        exact List.mem_singleton_self _
      · rcases List.mem_append.mp member with earlier | now
        · exact sound.sent entry earlier
        · rw [Option.mem_toList, Option.map_eq_some_iff] at now
          obtain ⟨msg, -, rfl⟩ := now
          exact ⟨call.kind, rfl, served.context⟩
  | returns =>
      cases taken
      have outside : insideCall (σ.threads.position thread) = false := by
        rw [position]
        rfl
      have stands : Stands (σ.threads.position thread) σ := sound.kept.stands thread
      rw [position] at stands
      have grows : σ.Grows { σ with
          returned := σ.returned ++ [(call, σ.statics.context call.kind)]
          threads := σ.threads.move thread none } := ⟨.refl _, fun _ => id⟩
      refine ⟨sound.kept.outside outside rfl grows (held_of_statics rfl) trivial,
        fun entry member => ?_, sound.sent, sound.reinjected⟩
      rcases List.mem_append.mp member with earlier | now
      · exact (sound.returned entry earlier).grows grows
      · rw [List.mem_singleton.mp now]
        exact ⟨stands.1, rfl, stands.2⟩

theorem Sound.reinject (sound : σ.Sound) (c : Nat) : (σ.reinject c).Sound := by
  unfold LocDualContext.reinject
  split
  · rename_i inject
    have grows : σ.Grows { σ with reinjected := σ.reinjected ++ [c] } := ⟨.refl _, fun _ => id⟩
    refine ⟨sound.kept.grows grows (held_of_statics rfl),
      fun entry member => (sound.returned entry member).grows grows, sound.sent,
      fun other member => ?_⟩
    rcases List.mem_append.mp member with earlier | now
    · exact sound.reinjected other earlier
    · rw [List.mem_singleton.mp now]
      exact inject
  · exact sound

theorem Sound.step (sound : σ.Sound) {label : ContextLabel} (taken : σ.step label = some τ) :
    τ.Sound := by
  cases label with
  | getLocFgContext thread firstMsg | getLocBgContext thread firstMsg => exact sound.calls taken
  | goesOn thread =>
      simp only [LocDualContext.step] at taken
      split at taken
      · rename_i call stage position
        exact sound.access position taken
      · cases taken
  | handleEngineUpEvent c =>
      simp only [LocDualContext.step] at taken
      split at taken
      · cases taken
        exact sound.reinject c
      · cases taken

/-- The inject context is stored once. A restart of its engine injects its features again, and
no other step does. -/
theorem Sound.step_inject (sound : σ.Sound) {label : ContextLabel} {c : Nat}
    (inject : σ.statics.mInjectContext = some c) (taken : σ.step label = some τ) :
    τ.statics.mInjectContext = some c ∧
      τ.reinjected =
        σ.reinjected ++ List.replicate ([label].count (.handleEngineUpEvent c)) c := by
  have nothing : σ.reinjected = σ.reinjected ++ List.replicate 0 c := (List.append_nil _).symm
  cases label with
  | getLocFgContext thread firstMsg | getLocBgContext thread firstMsg =>
      simp only [LocDualContext.step, LocDualContext.calls] at taken
      split at taken <;> cases taken
      exact ⟨inject, nothing⟩
  | goesOn thread =>
      simp only [LocDualContext.step] at taken
      split at taken
      · rename_i call stage position
        cases stage with
        | locks =>
            obtain ⟨threads, -, rfl⟩ := Option.map_eq_some_iff.mp taken
            exact ⟨inject, nothing⟩
        | critical here =>
            have holding : Inside (σ.threads.position thread) σ :=
              sound.kept.holding (by rw [position]; rfl)
            rw [position] at holding
            have kept := holding.access.1.inject (by rw [inject]; exact Option.some_ne_none c)
            simp only [LocDualContext.access] at taken
            split at taken <;> rename_i accessed <;> cases taken <;> rw [accessed] at kept <;>
              exact ⟨kept.trans inject, nothing⟩
        | sendsMsg | returns =>
            cases taken
            exact ⟨inject, nothing⟩
      · cases taken
  | handleEngineUpEvent other =>
      simp only [LocDualContext.step] at taken
      split at taken
      · cases taken
        unfold LocDualContext.reinject
        by_cases same : other = c
        · rw [same, if_pos inject, List.count_singleton_self]
          exact ⟨inject, rfl⟩
        · have differs : (ContextLabel.handleEngineUpEvent other == .handleEngineUpEvent c) =
              false := by
            simpa using same
          rw [if_neg (fun stored => same (Option.some.inj (stored.symm.trans inject))),
            List.count_singleton, differs]
          exact ⟨inject, nothing⟩
      · cases taken

/-- Over a run the restarts of the inject context are counted. -/
theorem Sound.exec_reinjected (sound : σ.Sound) {c : Nat}
    (inject : σ.statics.mInjectContext = some c) (labels : List ContextLabel)
    (ran : dualContext.exec σ labels = some τ) :
    τ.reinjected = σ.reinjected ++ List.replicate (labels.count (.handleEngineUpEvent c)) c := by
  induction labels generalizing σ with
  | nil =>
      cases ran
      exact (List.append_nil _).symm
  | cons label rest ih =>
      rw [System.exec, System.execUnder, if_pos trivial] at ran
      obtain ⟨middle, taken, ran⟩ := Option.bind_eq_some_iff.mp ran
      obtain ⟨stays, first⟩ := sound.step_inject inject taken
      rw [ih (sound.step taken) stays ran, first, List.append_assoc,
        List.replicate_append_replicate, ← List.count_append, List.singleton_append]

end LocDualContext

/-- What is half done leaves one MsgTask, one context of each kind, and one injection. -/
structure Statics.Single (statics : Statics) : Prop where
  msgTasks : statics.msgTasks ≤ 1
  kinds : (statics.contexts.map Context.kind).Nodup
  made : ∀ made ∈ statics.contexts, made.msgTask = some 0 ∧ made.exMask = made.kind.exclMask
  stored : ∀ kind c, statics.context kind = some c →
    statics.contexts[c]? = some ⟨kind, some 0, kind.exclMask⟩
  injected : statics.injected.length ≤ 1
  inject : ∀ c ∈ statics.injected, c = statics.mInjectContext ∧ ∃ made, c = some made
  injectContext : ∀ c, statics.mInjectContext = some c → c < statics.contexts.length

theorem Statics.Settled.single {statics : Statics} (settled : statics.Settled) :
    statics.Single where
  msgTasks := by
    rcases settled.task with ⟨-, none, -⟩ | ⟨-, one⟩
    · rw [none]
      exact Nat.zero_le 1
    · exact Nat.le_of_eq one
  kinds := settled.kinds
  made made member := ⟨(settled.made made member).1, (settled.made made member).2.1⟩
  stored := settled.stored
  injected := by
    rw [settled.inject]
    cases statics.mInjectContext with
    | none => exact Nat.zero_le 1
    | some c => exact Nat.le_refl 1
  inject c member := by
    rw [settled.inject, Option.mem_toList, Option.map_eq_some_iff] at member
    obtain ⟨made, inject, rfl⟩ := member
    exact ⟨inject.symm, made, rfl⟩
  injectContext c inject := by
    obtain ⟨kind, stored⟩ := settled.injectContext c inject
    exact (List.getElem?_eq_some_iff.mp (settled.stored kind c stored)).1

theorem Statics.Holding.single {statics : Statics} {call : ContextCall} {here : Critical}
    (holding : statics.Holding call here) : statics.Single := by
  cases here with
  | testsContext => exact Settled.single holding
  | testsMsgTask | makesMsgTask | makesContext msgTask => exact holding.1.single
  | testsInject | storesInject | unlocks => exact holding.1.single
  | storesMsgTask msgTask =>
      exact { holding.1.single with stored := holding.1.stored }
  | storesContext c =>
      have single := holding.1.single
      constructor
      · exact setContext_msgTasks c call.kind ▸ single.msgTasks
      · exact setContext_contexts c call.kind ▸ single.kinds
      · exact setContext_contexts c call.kind ▸ single.made
      · intro kind other stored
        have different : kind ≠ call.kind := by
          intro same
          rw [same, holding.2] at stored
          cases stored
        have same := single.stored kind other
        rw [context_setContext, if_neg different, setContext_contexts] at same
        exact same stored
      · exact setContext_injected c call.kind ▸ single.injected
      · have inject := single.inject
        rw [setContext_injected, setContext_mInjectContext] at inject
        exact inject
      · have inject := single.injectContext
        rw [setContext_mInjectContext, setContext_contexts] at inject
        exact inject
  | injects =>
      have single := holding.1.single
      have short := single.injected
      rw [List.length_append, List.length_singleton] at short
      have nothing := List.length_eq_zero_iff.mp (Nat.le_zero.mp (Nat.le_of_add_le_add_right short))
      exact
        { msgTasks := single.msgTasks
          kinds := single.kinds
          made := single.made
          stored := holding.1.stored
          injected := by rw [nothing]; exact Nat.zero_le 1
          inject := fun c member => by rw [nothing] at member; cases member
          injectContext := single.injectContext }

namespace LocDualContext

variable {σ : LocDualContext}

theorem reachable_sound (run : dualContext.Reachable σ) : σ.Sound := by
  apply run.invariant Sound
  · rintro σ rfl
    exact new_sound
  · intro before label after _ sound _ taken
    exact sound.step taken

theorem Sound.single (sound : σ.Sound) : σ.statics.Single := by
  have held := sound.kept.held
  match holder : σ.threads.holder, held with
  | some (some (call, .critical here)), holding => exact Statics.Holding.single holding
  | none, settled => exact Statics.Settled.single settled

end LocDualContext

/-- Whatever threads ask for a context in whatever order, there is one MsgTask and at most one
context of each kind, with that MsgTask and the mask of the kind. All calls for a kind return
that one, and before they do their first message has been sent to it and the features of the
inject context have been injected, which happens once. Each restart of its engine injects them
again for that context, and nothing else does. -/
theorem dual_context {σ : LocDualContext} (run : dualContext.Reachable σ) :
    σ.statics.Single ∧
      (∀ entry ∈ σ.returned,
        (∃ c, entry.2 = some c ∧
          σ.statics.contexts[c]? = some ⟨entry.1.kind, some 0, entry.1.kind.exclMask⟩) ∧
        (∀ other ∈ σ.returned, other.1.kind = entry.1.kind → other.2 = entry.2) ∧
        σ.statics.injected = [σ.statics.mInjectContext] ∧
        ∀ msg, entry.1.firstMsg = some msg → (entry.2, msg) ∈ σ.sent) ∧
      (∀ c ∈ σ.reinjected, σ.statics.mInjectContext = some c) ∧
      ∀ c, σ.statics.mInjectContext = some c →
        (dualContext.step σ (.handleEngineUpEvent c)).isSome = true ∧
          ∀ labels τ, dualContext.exec σ labels = some τ →
            τ.reinjected =
              σ.reinjected ++ List.replicate (labels.count (.handleEngineUpEvent c)) c := by
  have sound := LocDualContext.reachable_sound run
  have single := sound.single
  refine ⟨single, fun entry member => ?_, sound.reinjected, fun c inject =>
    ⟨?_, fun labels τ ran => sound.exec_reinjected inject labels ran⟩⟩
  obtain ⟨served, same, told⟩ := sound.returned entry member
  refine ⟨?_, fun other also kind => ?_, ?_, told⟩
  · cases stored : σ.statics.context entry.1.kind with
    | none => exact absurd stored served.context
    | some c => exact ⟨c, same.symm.trans stored, single.stored _ c stored⟩
  · have here := (sound.returned other also).2.1
    rw [kind] at here
    exact here.symm.trans same
  · have short := single.injected
    obtain ⟨first, rest, parts⟩ := List.exists_cons_of_ne_nil served.injected
    rw [parts, List.length_cons] at short
    have nothing : rest = [] := List.length_eq_zero_iff.mp (by omega)
    have inject := (single.inject first (by rw [parts]; exact List.mem_cons_self)).1
    rw [parts, nothing, inject]
  · show (if c < σ.statics.contexts.length then some (σ.reinject c) else none).isSome = true
    rw [if_pos (single.injectContext c inject)]
    rfl

/-- Two threads at once, one for each kind, and a restart of the engine. -/
theorem dual_context_two :
    ∃ σ, dualContext.exec .new
        ([.getLocBgContext 0 none, .getLocFgContext 1 (some 7), .goesOn 1] ++
          List.replicate 10 (.goesOn 1) ++ [.goesOn 0, .handleEngineUpEvent 0] ++
          List.replicate 2 (.goesOn 1) ++ List.replicate 7 (.goesOn 0)) = some σ ∧
      σ.returned = [(⟨.fg, some 7⟩, some 0), (⟨.bg, none⟩, some 1)] ∧ σ.statics.Single := by
  have first : dualContext.initial .new := rfl
  exact System.execUnder_then first (fun σ run seen => (dual_context run).1) (by decide +kernel)

end A5Common.Core
