import A5Common.Run.System
import Mathlib.Data.List.Basic

set_option autoImplicit false

namespace A5Common.Engine.Ril

open A5Common.Run

def MAX_APN_LEN : Nat := 100

/-- The messages that have to do with the availability of data. -/
inductive LocMsg where
  | LocEngInit
  | LocEngUp
  | LocEngDown
  | LocEngEnableData (mAPN : Option (List Char)) (mEnable : BitVec 32)
deriving DecidableEq

/-- The calls of the adapter. -/
inductive AdapterCall where
  | enableData (enable : BitVec 32)
  | setAPN (apn : List Char)
deriving DecidableEq

/-- What the message thread does: nothing, or `loc_eng_reinit`, before it reads the status
or between that and the message with what it has read. -/
inductive MsgThread where
  | idle
  | reinit
  | enabling (mEnable : BitVec 32)
deriving DecidableEq

/-- The adapter, its messages and the stored status. A caller that has stored its status
and not gone on is in `updating`, and one that has made the adapter and not sent its message
in `starting`. The updates and the calls of the adapter are recorded. -/
structure LocEngData where
  agpsStatus : BitVec 32
  adapter : Bool
  starting : Bool
  initialized : Bool
  queue : List LocMsg
  thread : MsgThread
  updating : Option (BitVec 32 × Option (List Char))
  updates : List (BitVec 32)
  calls : List AdapterCall
deriving DecidableEq

inductive Label where
  | updateNetworkAvailability (available : BitVec 32) (apn : Option (List Char))
  | updateSends
  | init
  | initSends
  | handleEngineUpEvent
  | handleEngineDownEvent
  | takeMsg
  | reinitReads
  | reinitSends
deriving DecidableEq

namespace LocEngData

def sendMsg (σ : LocEngData) (msg : LocMsg) : LocEngData :=
  { σ with queue := σ.queue ++ [msg] }

/-- What is left to an update after `agpsStatus` is stored. -/
def updateSends (σ : LocEngData) (available : BitVec 32) (apn : Option (List Char)) : LocEngData :=
  let σ := { σ with updating := none }
  if σ.adapter = true then
    match apn with
    | some apn => σ.sendMsg (.LocEngEnableData (some (apn.take MAX_APN_LEN)) available)
    | none => σ
  else σ

/-- The message thread takes a message off the queue. -/
def proc (σ : LocEngData) : LocMsg → LocEngData
  | .LocEngInit => { σ with initialized := true, thread := .reinit }
  | .LocEngUp => { σ with thread := .reinit }
  | .LocEngDown => σ
  | .LocEngEnableData mAPN mEnable =>
      { σ with calls := σ.calls ++ .enableData mEnable :: (mAPN.map AdapterCall.setAPN).toList }

def step (σ : LocEngData) : Label → Option LocEngData
  | .updateNetworkAvailability available apn =>
      match σ.updating with
      | none =>
          some { σ with
            agpsStatus := available
            updating := some (available, apn)
            updates := σ.updates ++ [available] }
      | some _ => none
  | .updateSends => σ.updating.map (fun update => σ.updateSends update.1 update.2)
  | .init => if σ.adapter = true then some σ else some { σ with adapter := true, starting := true }
  | .initSends =>
      if σ.starting = true then some ({ σ with starting := false }.sendMsg .LocEngInit) else none
  | .handleEngineUpEvent => if σ.adapter = true then some (σ.sendMsg .LocEngUp) else none
  | .handleEngineDownEvent => if σ.adapter = true then some (σ.sendMsg .LocEngDown) else none
  | .takeMsg =>
      match σ.thread, σ.queue with
      | .idle, msg :: rest => some ({ σ with queue := rest }.proc msg)
      | _, _ => none
  | .reinitReads =>
      if σ.thread = .reinit then
        some { σ with thread := .enabling (if σ.agpsStatus ≠ 0 then 1 else 0) }
      else none
  | .reinitSends =>
      match σ.thread with
      | .enabling mEnable =>
          some ({ σ with thread := .idle }.sendMsg (.LocEngEnableData none mEnable))
      | _ => none

end LocEngData

/-- The stored default is that there is no data. -/
def LocEngData.new : LocEngData where
  agpsStatus := 0
  adapter := false
  starting := false
  initialized := false
  queue := []
  thread := .idle
  updating := none
  updates := []
  calls := []

def ril : System LocEngData Label where
  initial σ := σ = .new
  step := LocEngData.step

/-- A value that tells the adapter of an availability, as it is or as 0 or 1. -/
def EnableValueOf (available enable : BitVec 32) : Prop :=
  enable = available ∨ enable = if available ≠ 0 then 1 else 0

instance (available enable : BitVec 32) : Decidable (EnableValueOf available enable) :=
  inferInstanceAs (Decidable (_ ∨ _))

def AdapterCall.enable : AdapterCall → Option (BitVec 32)
  | .enableData enable => some enable
  | .setAPN _ => none

namespace LocMsg

def enable : LocMsg → Option (BitVec 32)
  | .LocEngEnableData _ mEnable => some mEnable
  | .LocEngInit | .LocEngUp | .LocEngDown => none

/-- A message with which `loc_eng_reinit` is called. -/
def reinits : LocMsg → Bool
  | .LocEngInit | .LocEngUp => true
  | .LocEngDown | .LocEngEnableData _ _ => false

end LocMsg

namespace LocEngData

/-- The most recent update, or the stored default when there was none. -/
def recent (σ : LocEngData) : BitVec 32 :=
  σ.updates.getLast?.getD 0

/-- The values that the adapter has been given, and those that are in messages to it. -/
def values (σ : LocEngData) : List (BitVec 32) :=
  σ.calls.filterMap AdapterCall.enable ++ σ.queue.filterMap LocMsg.enable

def lastEnabled (σ : LocEngData) : Option (BitVec 32) :=
  (σ.calls.filterMap AdapterCall.enable).getLast?

/-- No message is left, none is being processed, and no update is on its way. -/
def Quiet (σ : LocEngData) : Prop :=
  σ.queue = [] ∧ σ.thread = .idle ∧ σ.updating = none

instance (σ : LocEngData) : Decidable σ.Quiet :=
  inferInstanceAs (Decidable (_ ∧ _))

/-- The status is still to be read. -/
def rereads (σ : LocEngData) : Bool :=
  σ.thread = .reinit || σ.queue.any LocMsg.reinits

/-- The value that the adapter is given last, unless the status is read again. -/
def last (σ : LocEngData) : Option (BitVec 32) :=
  match σ.thread with
  | .enabling mEnable => some mEnable
  | .idle | .reinit => σ.values.getLast?

/-- What the adapter is given last is the most recent update, if there is no other. -/
def settled (σ : LocEngData) : Bool :=
  σ.rereads || σ.last.any (fun enable => EnableValueOf σ.recent enable)

/-- An update that does not wait for the initialization sends a message behind the last one,
or does not need to. -/
def forwarded (σ : LocEngData) : Label → Prop
  | .updateSends =>
      σ.initialized = true → σ.settled = true ∨
        σ.thread = .idle ∧ ∃ update ∈ σ.updating, update.2.isSome = true
  | _ => True

instance (σ : LocEngData) (label : Label) : Decidable (σ.forwarded label) :=
  match label with
  | .updateSends => inferInstanceAs (Decidable (_ → _))
  | .updateNetworkAvailability _ _ | .init | .initSends | .handleEngineUpEvent
  | .handleEngineDownEvent | .takeMsg | .reinitReads | .reinitSends =>
      inferInstanceAs (Decidable True)

/-- The status is the most recent update, and has been or is going to be passed on. Nothing
happens before there is an adapter. -/
structure Forwarding (σ : LocEngData) : Prop where
  stored : σ.agpsStatus = σ.recent
  closed : σ.adapter = false → σ.initialized = false ∧ σ.starting = false ∧ σ.queue = [] ∧
    σ.thread = .idle
  update : ∀ update ∈ σ.updating, update.1 = σ.recent
  settled : σ.initialized = true → σ.updating = none → σ.settled = true

theorem settled_of_rereads {σ : LocEngData} (rereads : σ.rereads = true) : σ.settled = true := by
  rw [settled, rereads, Bool.true_or]

@[simp] theorem rereads_sendMsg (σ : LocEngData) (msg : LocMsg) :
    (σ.sendMsg msg).rereads = (σ.rereads || msg.reinits) := by
  unfold rereads sendMsg
  rw [List.any_append, List.any_cons, List.any_nil, Bool.or_false]
  exact (Bool.or_assoc _ _ _).symm

@[simp] theorem values_sendMsg (σ : LocEngData) (msg : LocMsg) :
    (σ.sendMsg msg).values = σ.values ++ msg.enable.toList := by
  unfold values sendMsg
  rw [List.filterMap_append, ← List.append_assoc]
  cases enable : msg.enable with
  | none =>
      rw [List.filterMap_cons_none enable]
      rfl
  | some v =>
      rw [List.filterMap_cons_some enable]
      rfl

/-- Only the messages of the adapter tell it a value. -/
theorem settled_sendMsg {σ : LocEngData} {msg : LocMsg} (settled : σ.settled = true)
    (other : msg.enable = none) : (σ.sendMsg msg).settled = true := by
  have same : (σ.sendMsg msg).last = σ.last := by
    unfold last
    rw [values_sendMsg, other, Option.toList_none, List.append_nil]
    rfl
  unfold LocEngData.settled at settled ⊢
  rw [rereads_sendMsg, same]
  rcases Bool.or_eq_true_iff.mp settled with rereads | told
  · rw [rereads, Bool.true_or, Bool.true_or]
  · rw [Bool.or_eq_true_iff]
    exact Or.inr told

/-- A message with the most recent update, behind all others, settles it. -/
theorem settled_enableData {σ : LocEngData} (idle : σ.thread = .idle) {enable : BitVec 32}
    (told : EnableValueOf σ.recent enable) (mAPN : Option (List Char)) :
    (σ.sendMsg (.LocEngEnableData mAPN enable)).settled = true := by
  have last : (σ.sendMsg (.LocEngEnableData mAPN enable)).last = some enable := by
    have thread : (σ.sendMsg (.LocEngEnableData mAPN enable)).thread = .idle := idle
    unfold LocEngData.last
    rw [thread, values_sendMsg]
    exact List.getLast?_concat
  rw [settled, last, Bool.or_eq_true_iff]
  exact Or.inr (decide_eq_true told)

theorem values_proc {σ : LocEngData} {msg : LocMsg} {rest : List LocMsg}
    (queue : σ.queue = msg :: rest) : ({ σ with queue := rest }.proc msg).values = σ.values := by
  unfold values
  rw [queue]
  cases msg with
  | LocEngEnableData mAPN mEnable =>
      rw [List.filterMap_cons_some (show LocMsg.enable (.LocEngEnableData mAPN mEnable) = _ from rfl)]
      simp only [proc, List.filterMap_append]
      cases mAPN <;> simp [AdapterCall.enable]
  | LocEngInit | LocEngUp | LocEngDown => rfl

/-- Processing a message changes no value that the adapter is to be given. -/
theorem settled_proc {σ : LocEngData} {msg : LocMsg} {rest : List LocMsg}
    (idle : σ.thread = .idle) (queue : σ.queue = msg :: rest)
    (settled : msg.reinits = false → σ.settled = true) :
    ({ σ with queue := rest }.proc msg).settled = true := by
  cases reinits : msg.reinits with
  | true =>
      apply settled_of_rereads
      cases msg with
      | LocEngInit | LocEngUp => rfl
      | LocEngDown | LocEngEnableData _ _ => cases reinits
  | false =>
      have kept : ({ σ with queue := rest }.proc msg).thread = .idle ∧
          ({ σ with queue := rest }.proc msg).recent = σ.recent ∧
          ({ σ with queue := rest }.proc msg).queue = rest := by
        cases msg with
        | LocEngInit | LocEngUp => cases reinits
        | LocEngDown | LocEngEnableData _ _ => exact ⟨idle, rfl, rfl⟩
      have before := settled reinits
      unfold LocEngData.settled rereads last at before ⊢
      rw [idle, queue, List.any_cons, reinits, Bool.false_or] at before
      rw [kept.1, kept.2.1, kept.2.2, values_proc queue]
      exact before

/-- A message with the most recent update settles it also if the status is read again, or
if one that has been read is as good. -/
theorem settled_again {σ : LocEngData} {enable : BitVec 32} (told : EnableValueOf σ.recent enable)
    (settled : σ.settled = true ∨ σ.thread = .idle) (mAPN : Option (List Char)) :
    (σ.sendMsg (.LocEngEnableData mAPN enable)).settled = true := by
  cases thread : σ.thread with
  | idle => exact settled_enableData thread told mAPN
  | reinit =>
      apply settled_of_rereads
      rw [rereads_sendMsg, rereads, thread]
      rfl
  | enabling read =>
      have before := settled.resolve_right (by rw [thread]; intro idle; cases idle)
      have sent : (σ.sendMsg (.LocEngEnableData mAPN enable)).thread = .enabling read := thread
      unfold LocEngData.settled last at before ⊢
      rw [thread] at before
      rw [sent, rereads_sendMsg]
      rcases Bool.or_eq_true_iff.mp before with rereads | good
      · rw [rereads, Bool.true_or, Bool.true_or]
      · rw [Bool.or_eq_true_iff]
        exact Or.inr good

/-- Whatever is under way shows that there is an adapter. -/
theorem Forwarding.opened {σ : LocEngData} (forwarding : σ.Forwarding)
    (active : σ.initialized = true ∨ σ.starting = true ∨ σ.queue ≠ [] ∨ σ.thread ≠ .idle) :
    σ.adapter = true := by
  by_contra unopened
  obtain ⟨uninitialized, unstarted, empty, idle⟩ :=
    forwarding.closed (eq_false_of_ne_true unopened)
  rcases active with initialized | starting | queued | working
  · rw [uninitialized] at initialized
    cases initialized
  · rw [unstarted] at starting
    cases starting
  · exact queued empty
  · exact working idle

theorem settled_reinits (σ : LocEngData) {msg : LocMsg} (reinits : msg.reinits = true) :
    (σ.sendMsg msg).settled = true := by
  apply settled_of_rereads
  rw [rereads_sendMsg, reinits]
  exact Bool.or_true _

theorem forwarding_sendMsg {σ : LocEngData} {msg : LocMsg} (stored : σ.agpsStatus = σ.recent)
    (opened : σ.adapter = true) (update : ∀ update ∈ σ.updating, update.1 = σ.recent)
    (settled : σ.initialized = true → σ.updating = none → (σ.sendMsg msg).settled = true) :
    (σ.sendMsg msg).Forwarding where
  stored := stored
  closed := by
    intro unopened
    rw [show (σ.sendMsg msg).adapter = true from opened] at unopened
    cases unopened
  update := update
  settled := settled

theorem Forwarding.updates {σ : LocEngData} (forwarding : σ.Forwarding) {available : BitVec 32}
    {apn : Option (List Char)} (begun : σ.updating = some (available, apn))
    (forwarded : σ.initialized = true →
      σ.settled = true ∨ σ.thread = .idle ∧ apn.isSome = true) :
    (σ.updateSends available apn).Forwarding := by
  have told : EnableValueOf σ.recent available :=
    Or.inl (forwarding.update (available, apn) (by rw [begun]; rfl))
  unfold updateSends
  dsimp only
  by_cases opened : σ.adapter = true
  · rw [if_pos opened]
    cases apn with
    | none =>
        refine ⟨forwarding.stored, forwarding.closed, ?_, ?_⟩
        · intro update none
          cases none
        · intro initialized _
          rcases forwarded initialized with settled | ⟨-, given⟩
          · exact settled
          · cases given
    | some apn =>
        refine forwarding_sendMsg forwarding.stored opened ?_ ?_
        · intro update none
          cases none
        · intro initialized _
          exact settled_again told ((forwarded initialized).imp id And.left) _
  · rw [if_neg opened]
    refine ⟨forwarding.stored, forwarding.closed, ?_, ?_⟩
    · intro update none
      cases none
    · intro initialized _
      exact absurd (forwarding.opened (Or.inl initialized)) opened

theorem Forwarding.takes {σ : LocEngData} (forwarding : σ.Forwarding) (idle : σ.thread = .idle)
    {msg : LocMsg} {rest : List LocMsg} (queue : σ.queue = msg :: rest) :
    ({ σ with queue := rest }.proc msg).Forwarding := by
  have queued : σ.queue ≠ [] := by
    rw [queue]
    exact List.cons_ne_nil _ _
  have opened := forwarding.opened (Or.inr (Or.inr (Or.inl queued)))
  have kept : ({ σ with queue := rest }.proc msg).agpsStatus = σ.agpsStatus ∧
      ({ σ with queue := rest }.proc msg).recent = σ.recent ∧
      ({ σ with queue := rest }.proc msg).adapter = σ.adapter ∧
      ({ σ with queue := rest }.proc msg).updating = σ.updating := by
    cases msg <;> exact ⟨rfl, rfl, rfl, rfl⟩
  obtain ⟨status, recent, adapter, updating⟩ := kept
  constructor
  · rw [status, recent]
    exact forwarding.stored
  · intro unopened
    rw [adapter, opened] at unopened
    cases unopened
  · rw [updating, recent]
    exact forwarding.update
  · intro initialized none
    apply settled_proc idle queue
    intro other
    rw [updating] at none
    apply forwarding.settled _ none
    cases msg with
    | LocEngInit | LocEngUp => cases other
    | LocEngDown | LocEngEnableData _ _ => exact initialized

/-- The status that has been read is as good as the most recent update. -/
theorem Forwarding.reads {σ : LocEngData} (forwarding : σ.Forwarding) (thread : σ.thread = .reinit) :
    ({ σ with thread := .enabling (if σ.agpsStatus ≠ 0 then 1 else 0) } :
      LocEngData).Forwarding where
  stored := forwarding.stored
  closed := by
    intro unopened
    have idle := (forwarding.closed unopened).2.2.2
    rw [thread] at idle
    cases idle
  update := forwarding.update
  settled := by
    intro _ _
    have told : EnableValueOf σ.recent (if σ.agpsStatus ≠ 0 then 1 else 0) := by
      rw [forwarding.stored]
      exact Or.inr rfl
    unfold LocEngData.settled
    rw [Bool.or_eq_true_iff]
    exact Or.inr (decide_eq_true told)

theorem Forwarding.reinits {σ : LocEngData} (forwarding : σ.Forwarding) {mEnable : BitVec 32}
    (thread : σ.thread = .enabling mEnable) :
    ({ σ with thread := .idle }.sendMsg (.LocEngEnableData none mEnable)).Forwarding := by
  have working : σ.thread ≠ .idle := by
    rw [thread]
    intro idle
    cases idle
  have opened := forwarding.opened (Or.inr (Or.inr (Or.inr working)))
  refine forwarding_sendMsg forwarding.stored opened forwarding.update ?_
  intro initialized none
  have before := forwarding.settled initialized none
  unfold LocEngData.settled rereads last at before
  rw [thread] at before
  rcases Bool.or_eq_true_iff.mp before with again | told
  · apply settled_of_rereads
    rw [rereads_sendMsg, Bool.or_eq_true_iff]
    exact Or.inl again
  · have idle : ({ σ with thread := .idle } : LocEngData).thread = .idle := rfl
    exact settled_enableData idle (of_decide_eq_true told) _

theorem Forwarding.step {σ τ : LocEngData} (forwarding : σ.Forwarding) {label : Label}
    (met : σ.forwarded label) (taken : σ.step label = some τ) : τ.Forwarding := by
  cases label with
  | updateNetworkAvailability available apn =>
      simp only [LocEngData.step] at taken
      split at taken
      · cases taken
        have recent : (σ.updates ++ [available]).getLast?.getD 0 = available := by
          rw [List.getLast?_concat]
          rfl
        refine ⟨recent.symm, forwarding.closed, ?_, ?_⟩
        · intro update begun
          cases begun
          exact recent.symm
        · intro _ none
          cases none
      · cases taken
  | updateSends =>
      obtain ⟨⟨available, apn⟩, begun, rfl⟩ := Option.map_eq_some_iff.mp taken
      apply forwarding.updates begun
      intro initialized
      rcases met initialized with settled | ⟨idle, update, mem, given⟩
      · exact Or.inl settled
      · rw [begun] at mem
        cases mem
        exact Or.inr ⟨idle, given⟩
  | init =>
      simp only [LocEngData.step] at taken
      split at taken
      · cases taken
        exact forwarding
      · rename_i unopened
        cases taken
        refine ⟨forwarding.stored, ?_, forwarding.update, forwarding.settled⟩
        intro none
        cases none
  | initSends =>
      simp only [LocEngData.step] at taken
      split at taken
      · rename_i starting
        cases taken
        have opened := forwarding.opened (Or.inr (Or.inl starting))
        refine forwarding_sendMsg forwarding.stored opened forwarding.update ?_
        intro _ _
        exact settled_reinits _ rfl
      · cases taken
  | handleEngineUpEvent =>
      simp only [LocEngData.step] at taken
      split at taken
      · rename_i opened
        cases taken
        refine forwarding_sendMsg forwarding.stored opened forwarding.update ?_
        intro _ _
        exact settled_reinits _ rfl
      · cases taken
  | handleEngineDownEvent =>
      simp only [LocEngData.step] at taken
      split at taken
      · rename_i opened
        cases taken
        refine forwarding_sendMsg forwarding.stored opened forwarding.update ?_
        intro initialized none
        exact settled_sendMsg (forwarding.settled initialized none) rfl
      · cases taken
  | takeMsg =>
      simp only [LocEngData.step] at taken
      split at taken
      · rename_i idle queue
        cases taken
        exact forwarding.takes idle queue
      · cases taken
  | reinitReads =>
      simp only [LocEngData.step] at taken
      split at taken
      · rename_i thread
        cases taken
        exact forwarding.reads thread
      · cases taken
  | reinitSends =>
      simp only [LocEngData.step] at taken
      split at taken
      · rename_i mEnable thread
        cases taken
        exact forwarding.reinits thread
      · cases taken

end LocEngData

theorem ril_forwarding {σ : LocEngData} (run : ril.ReachableUnder LocEngData.forwarded σ) :
    σ.Forwarding := by
  apply run.invariant LocEngData.Forwarding
  · rintro σ rfl
    refine ⟨rfl, fun _ => ⟨rfl, rfl, rfl, rfl⟩, ?_, ?_⟩
    · intro update none
      cases none
    · intro initialized
      cases initialized
  · intro before label after _ forwarding met taken
    exact forwarding.step met taken

/-- In runs whose updates forward what they store, the adapter has the most recent update
whenever all is quiet. -/
theorem availability_enabled {σ : LocEngData} (run : ril.ReachableUnder LocEngData.forwarded σ)
    (initialized : σ.initialized = true) (quiet : σ.Quiet) :
    ∃ enable, σ.lastEnabled = some enable ∧ EnableValueOf σ.recent enable := by
  obtain ⟨queue, thread, updating⟩ := quiet
  have settled := (ril_forwarding run).settled initialized updating
  unfold LocEngData.settled LocEngData.rereads LocEngData.last LocEngData.values at settled
  rw [thread, queue, List.filterMap_nil, List.append_nil] at settled
  have told := (Bool.or_eq_true_iff.mp settled).resolve_left Bool.false_ne_true
  obtain ⟨enable, last, good⟩ := (Option.any_eq_true _ _).mp told
  exact ⟨enable, last, of_decide_eq_true good⟩

/-- Two updates, the first before there is an adapter, and a restart between them. -/
theorem availability_restarted :
    ∃ σ, ril.execUnder LocEngData.forwarded .new
        [.updateNetworkAvailability 1 none, .updateSends, .init, .initSends, .takeMsg,
          .reinitReads, .reinitSends, .takeMsg, .handleEngineDownEvent, .handleEngineUpEvent,
          .updateNetworkAvailability 0 (some "internet".toList), .updateSends, .takeMsg,
          .takeMsg, .reinitReads, .reinitSends, .takeMsg, .takeMsg] = some σ ∧
      (σ.initialized = true ∧ σ.Quiet ∧ σ.updates = [1, 0]) ∧
      ∃ enable, σ.lastEnabled = some enable ∧ EnableValueOf σ.recent enable :=
  System.execUnder_then rfl
    (fun σ run seen => availability_enabled run seen.1 seen.2.1) (by decide)

/-- An update without a name after the initialization is not passed on. -/
theorem availability_kept_back :
    ∃ σ, ril.Reachable σ ∧ σ.adapter = true ∧ σ.initialized = true ∧ σ.Quiet ∧
      ¬ ∃ enable, σ.lastEnabled = some enable ∧ EnableValueOf σ.recent enable := by
  have first : ril.initial .new := rfl
  obtain ⟨σ, run, test⟩ := System.reachable_of_exec first
    [.init, .initSends, .takeMsg, .reinitReads, .reinitSends, .takeMsg,
      .updateNetworkAvailability 1 none, .updateSends]
    (fun σ => σ.adapter && σ.initialized && decide σ.Quiet && decide (σ.recent = 1) &&
      decide (σ.lastEnabled = some 0)) (by decide)
  simp only [Bool.and_eq_true, decide_eq_true_eq] at test
  obtain ⟨⟨⟨⟨opened, initialized⟩, quiet⟩, recent⟩, last⟩ := test
  refine ⟨σ, run, opened, initialized, quiet, ?_⟩
  rintro ⟨enable, given, told⟩
  rw [last] at given
  cases given
  rw [recent] at told
  exact absurd told (by decide)

end A5Common.Engine.Ril
