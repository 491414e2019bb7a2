import A5Common.Utils.LocThread
import A5Common.Utils.MsgQ
import Mathlib.Data.List.Perm.Basic

set_option autoImplicit false

namespace A5Common.Utils

open A5Common.Run

/-- The function that a `MsgTask` gives with a message: it deletes the message. -/
inductive LocMsgDealloc where
  | LocMsgDestroy
deriving DecidableEq

/-- Where the thread is in `MsgTask::run`. -/
inductive RunAt (Msg : Type) where
  | receives
  | waits
  | procs (msg : Msg)
  | deletesMsg (msg : Msg)
  | returns (again : Bool)
deriving DecidableEq

def RunAt.ofReceipt {Msg : Type} : Receipt Msg → RunAt Msg
  | .waits => .waits
  | .returns .eMSG_Q_SUCCESS (some (some msg)) => .procs msg
  | .returns _ _ => .returns false

/-- The message that `run` has received and not yet deleted. -/
def RunAt.inHand {Msg : Type} : RunAt Msg → List Msg
  | .procs msg | .deletesMsg msg => [msg]
  | _ => []

/-- Where a client is in `MsgTask::destroy`, with the thread that it has read. -/
inductive ClientAt where
  | loadsThread
  | unblocks (thread : Bool)
  | testsThread (thread : Bool)
  | deletesThread
  | deletesThis
deriving DecidableEq

/-- How far `MsgTask::~MsgTask` has come. -/
inductive DestructorAt where
  | flushes
  | destroysQueue
  | done
deriving DecidableEq

/-- A `MsgTask`, its thread if it has one, and where the thread and a client are. The
messages that have been given to `sendMsg`, those that the queue refused, and those that
`run` deleted are records, and so is whether a pointer that leads nowhere has been followed. -/
structure MsgTask (Addr Msg : Type) where
  mQ : MsgQ Addr Msg LocMsgDealloc Unit
  mThread : Bool
  delegate : Option LocThreadDelegate
  run : RunAt Msg
  client : ClientAt
  destructor : DestructorAt
  given : List Msg
  refused : List Msg
  processed : List Msg
  crashed : Bool

/-- Any thread sends, a client destroys, and the thread of the task goes on, or it wakes up
without a signal. -/
inductive TaskStep (Addr Msg : Type) where
  | sendMsg (malloc : Option (Malloc Addr Msg LocMsgDealloc)) (msg : Option Msg) (choice : Nat)
  | destroy
  | spawned
  | spurious

namespace MsgTask

variable {Addr Msg : Type}

/-- What the constructor leaves, with a thread or after it could not be created. -/
def constructed (joinable thread : Bool) : MsgTask Addr Msg where
  mQ := msgQInit
  mThread := thread
  delegate := if thread then some { LocThreadDelegate.created joinable with parent := .started }
    else none
  run := .receives
  client := .loadsThread
  destructor := .flushes
  given := []
  refused := []
  processed := []
  crashed := false

/-- The messages that have been deleted, by `run` or when the queue was flushed. -/
def deleted (σ : MsgTask Addr Msg) : List Msg :=
  σ.processed ++ σ.mQ.msg_list.deallocated.map Prod.snd

variable [DecidableEq Addr]

def sendMsg (malloc : Option (Malloc Addr Msg LocMsgDealloc)) (msg : Option Msg) (choice : Nat)
    (σ : MsgTask Addr Msg) : MsgTask Addr Msg :=
  match msgQSnd malloc msg (some .LocMsgDestroy) choice σ.mQ with
  | none => { σ with crashed := true }
  | some (rv, mQ) =>
      { σ with
        mQ := mQ
        given := σ.given ++ msg.toList
        refused := σ.refused ++ if rv = .eMSG_Q_SUCCESS then [] else msg.toList }

def destructorStep (σ : MsgTask Addr Msg) : Option (MsgTask Addr Msg) :=
  match σ.destructor with
  | .flushes =>
      match msgQFlush σ.mQ with
      | none => some { σ with crashed := true }
      | some (_, mQ) => some { σ with mQ := mQ, destructor := .destroysQueue }
  | .destroysQueue =>
      match msgQDestroy σ.mQ with
      | none => some { σ with crashed := true }
      | some (_, mQ) => some { σ with mQ := mQ, destructor := .done }
  | .done => none

def receive (σ : MsgTask Addr Msg) :
    Option (Receipt Msg × MsgQ Addr Msg LocMsgDealloc Unit) → MsgTask Addr Msg
  | none => { σ with crashed := true }
  | some (receipt, mQ) => { σ with mQ := mQ, run := .ofReceipt receipt }

/-- `MsgTask::run` on the thread of the task. -/
def runStep (delegate : LocThreadDelegate) (σ : MsgTask Addr Msg) : Option (MsgTask Addr Msg) :=
  match σ.run with
  | .receives => some (σ.receive (msgQRcv true () σ.mQ))
  | .waits =>
      (σ.mQ.list_cond.resume ()).map (fun list_cond =>
        σ.receive (rcvLoop () { σ.mQ with list_cond := list_cond }))
  | .procs msg => some { σ with run := .deletesMsg msg }
  | .deletesMsg msg =>
      some { σ with run := .returns true, processed := σ.processed ++ [msg] }
  | .returns again =>
      (delegate.spawnedStep again).map (fun delegate =>
        { σ with delegate := some delegate, run := .receives })

/-- The thread of the task, whose runnable is the task. -/
def spawnedStep (σ : MsgTask Addr Msg) : Option (MsgTask Addr Msg) :=
  match σ.delegate with
  | none => none
  | some delegate =>
      if delegate.spawned = .runs then σ.runStep delegate
      else if delegate.spawned = .deletesRunnable ∧ σ.destructor ≠ .done then σ.destructorStep
      else
        (delegate.spawnedStep false).map (fun delegate => { σ with delegate := some delegate })

/-- `MsgTask::destroy` -/
def destroyStep (joinable : Bool) (σ : MsgTask Addr Msg) : Option (MsgTask Addr Msg) :=
  match σ.client with
  | .loadsThread => some { σ with client := .unblocks σ.mThread }
  | .unblocks thread =>
      some { σ with mQ := (msgQUnblock σ.mQ).2, client := .testsThread thread }
  | .testsThread thread =>
      if thread then some { σ with mThread := false, client := .deletesThread }
      else some { σ with client := .deletesThis }
  | .deletesThread =>
      match σ.delegate with
      | none => none
      | some delegate =>
          (delegate.parentStep joinable false).map (fun delegate =>
            { σ with delegate := some delegate })
  | .deletesThis => σ.destructorStep

def step (joinable : Bool) (σ : MsgTask Addr Msg) :
    TaskStep Addr Msg → Option (MsgTask Addr Msg)
  | .sendMsg malloc msg choice =>
      if σ.destructor = .done then none else some (σ.sendMsg malloc msg choice)
  | .destroy => σ.destroyStep joinable
  | .spawned => σ.spawnedStep
  | .spurious =>
      (σ.mQ.list_cond.spurious ()).map (fun list_cond =>
        { σ with mQ := { σ.mQ with list_cond := list_cond } })

end MsgTask

/-- A task that has been constructed, with its thread or without. -/
def msgTask {Addr Msg : Type} [DecidableEq Addr] (joinable : Bool) :
    System (MsgTask Addr Msg) (TaskStep Addr Msg) where
  initial σ := ∃ thread, σ = .constructed joinable thread
  step := MsgTask.step joinable

/-- A message is sent before `msg_q_unblock`, and there is memory for it. -/
def SentInTime {Addr Msg : Type} (σ : MsgTask Addr Msg) (label : TaskStep Addr Msg) : Prop :=
  match label with
  | .sendMsg malloc msg _ => msg ≠ none → σ.mQ.unblocked = false ∧ malloc.isSome = true
  | _ => True

instance {Addr Msg : Type} (σ : MsgTask Addr Msg) (label : TaskStep Addr Msg) :
    Decidable (SentInTime σ label) :=
  match label with
  | .sendMsg _ none _ => .isTrue (fun given => absurd rfl given)
  | .sendMsg malloc (some _) _ =>
      decidable_of_iff (σ.mQ.unblocked = false ∧ malloc.isSome = true)
        ⟨fun accepts _ => accepts, fun met => met nofun⟩
  | .destroy | .spawned | .spurious => .isTrue trivial

theorem msgQUnblock_list {Addr Msg Dealloc Receiver : Type}
    (p_msg_q : MsgQ Addr Msg Dealloc Receiver) :
    (msgQUnblock p_msg_q).2.msg_list = p_msg_q.msg_list := by
  unfold msgQUnblock
  split
  · rfl
  · rfl

/-- Deallocating the elements of a task deletes their messages. -/
theorem released_owned {Msg : Type} {contents : List (Element Msg LocMsgDealloc)}
    (owned : ∀ elem ∈ contents, elem.dealloc_func = some .LocMsgDestroy) :
    (contents.flatMap Element.released).map Prod.snd = contents.map Element.data_ptr := by
  induction contents with
  | nil => rfl
  | cons elem rest ih =>
      rw [List.forall_mem_cons] at owned
      rw [List.flatMap_cons, List.map_append, ih owned.2, Element.released, owned.1]
      rfl

namespace MsgTask

variable {Addr Msg : Type} {σ after : MsgTask Addr Msg} {list : AbstractList Msg LocMsgDealloc}

/-- A client that has read that there is no thread is right. -/
def Detached (σ : MsgTask Addr Msg) : Prop :=
  match σ.client with
  | .loadsThread => σ.mThread = false → σ.delegate = none
  | .unblocks thread | .testsThread thread => thread = false → σ.delegate = none
  | .deletesThread => True
  | .deletesThis => σ.delegate = none

theorem Detached.moved (detached : σ.Detached) {delegate : LocThreadDelegate}
    (here : σ.delegate = some delegate) (client : after.client = σ.client)
    (mThread : after.mThread = σ.mThread) : after.Detached := by
  unfold Detached at detached ⊢
  rw [client, mThread]
  cases at_client : σ.client with
  | loadsThread =>
      rw [at_client, here] at detached
      exact fun none_there => absurd (detached none_there) nofun
  | unblocks thread | testsThread thread =>
      rw [at_client, here] at detached
      exact fun none_there => absurd (detached none_there) nofun
  | deletesThread => trivial
  | deletesThis =>
      rw [at_client, here] at detached
      cases detached

/-- The thread of the task, if it has one, does not run any more. -/
def Leaving (σ : MsgTask Addr Msg) : Prop :=
  ∀ delegate, σ.delegate = some delegate →
    delegate.spawned = .deletesRunnable ∨ delegate.spawned = .destroys

theorem Leaving.spawned_ne (leaving : σ.Leaving) {delegate : LocThreadDelegate}
    (here : σ.delegate = some delegate) : delegate.spawned ≠ .runs := by
  intro runs
  rcases leaving delegate here with leaves | leaves
  · rw [runs] at leaves
    cases leaves
  · rw [runs] at leaves
    cases leaves

variable [DecidableEq Addr]

/-- Each message that was given was refused, is in the hand of `run`, is in the queue, or has
been deleted, and only one of these. -/
structure Accounted (σ : MsgTask Addr Msg) (list : AbstractList Msg LocMsgDealloc) : Prop where
  mirrors : σ.mQ.msg_list.Mirrors list
  owned : ∀ elem ∈ list.contents, elem.dealloc_func = some .LocMsgDestroy
  balance : σ.given.Perm
    (σ.refused ++ (σ.run.inHand ++ (list.contents.map Element.data_ptr ++ σ.deleted)))
  idle : σ.run ≠ .receives →
    ∃ delegate, σ.delegate = some delegate ∧ delegate.spawned = .runs
  detached : σ.Detached
  emptied : σ.destructor = .done → list.contents = [] ∧ σ.Leaving
  intact : σ.crashed = false

theorem constructed_accounted (joinable thread : Bool) :
    (constructed joinable thread : MsgTask Addr Msg).Accounted .new where
  mirrors := ListState.mirrors_new
  owned _ := nofun
  balance := List.Perm.refl _
  idle := fun runs => absurd rfl runs
  detached := by
    intro none_created
    cases none_created
    rfl
  emptied := nofun
  intact := rfl

theorem Accounted.sendMsg (accounted : σ.Accounted list)
    (malloc : Option (Malloc Addr Msg LocMsgDealloc)) (msg : Option Msg) (choice : Nat)
    (undestroyed : σ.destructor ≠ .done) :
    (∃ list, (σ.sendMsg malloc msg choice).Accounted list) ∧
      (σ.sendMsg malloc msg choice).refused = σ.refused ++
        if σ.mQ.unblocked = false ∧ malloc.isSome = true then [] else msg.toList := by
  obtain ⟨rv, mQ, sent, accepted, mirrors⟩ :=
    msgQSnd_cases accounted.mirrors malloc msg (some .LocMsgDestroy) choice
  unfold MsgTask.sendMsg
  simp only [sent]
  have deallocated : mQ.msg_list.deallocated = σ.mQ.msg_list.deallocated := by
    rw [mirrors.deallocated, accounted.mirrors.deallocated]
    split
    · rfl
    · rfl
  have balance := accounted.balance
  unfold deleted at balance
  by_cases success : rv = .eMSG_Q_SUCCESS
  · rw [if_pos success] at mirrors
    obtain ⟨given, accepts⟩ := accepted.mp success
    obtain ⟨msg, rfl⟩ := Option.ne_none_iff_exists'.mp given
    refine ⟨⟨_, mirrors, ?_, ?_, accounted.idle, accounted.detached,
      fun done => absurd done undestroyed, accounted.intact⟩, by rw [if_pos success, if_pos accepts]⟩
    · exact List.forall_mem_cons.mpr ⟨rfl, accounted.owned⟩
    · unfold deleted
      simp only [deallocated, if_pos success]
      classical
      rw [List.perm_iff_count] at balance ⊢
      intro other
      have counts := balance other
      simp only [List.count_append, List.map_append, List.map_cons, List.map_nil, Option.toList,
        List.count_nil] at counts ⊢
      omega
  · rw [if_neg success] at mirrors
    refine ⟨⟨list, mirrors, accounted.owned, ?_, accounted.idle, accounted.detached,
      fun done => absurd done undestroyed, accounted.intact⟩, ?_⟩
    · unfold deleted
      simp only [deallocated, if_neg success]
      classical
      rw [List.perm_iff_count] at balance ⊢
      intro other
      have counts := balance other
      simp only [List.count_append] at counts ⊢
      omega
    · rw [if_neg success]
      cases msg with
      | none => rw [Option.toList_none, ite_self]
      | some msg => rw [if_neg (fun accepts => success (accepted.mpr ⟨nofun, accepts⟩))]

/-- A queue that is flushed deletes its messages. -/
theorem Accounted.flush (accounted : σ.Accounted list) (leaving : σ.Leaving)
    {mQ : MsgQ Addr Msg LocMsgDealloc Unit} (mirrors : mQ.msg_list.Mirrors list.flush.2)
    (destructor : DestructorAt) :
    Accounted { σ with mQ := mQ, destructor := destructor } list.flush.2 where
  mirrors := mirrors
  owned _ := nofun
  balance := by
    have balance := accounted.balance
    have released := released_owned accounted.owned
    unfold deleted at balance ⊢
    simp only [mirrors.deallocated, accounted.mirrors.deallocated, AbstractList.flush,
      List.map_append, released] at balance ⊢
    classical
    rw [List.perm_iff_count] at balance ⊢
    intro other
    have counts := balance other
    simp only [List.count_append, List.map_nil, List.count_nil] at counts ⊢
    omega
  idle := accounted.idle
  detached := accounted.detached
  emptied _ := ⟨rfl, leaving⟩
  intact := accounted.intact

theorem Accounted.destructorStep (accounted : σ.Accounted list) (leaving : σ.Leaving)
    (taken : σ.destructorStep = some after) :
    (∃ list, after.Accounted list) ∧ after.refused = σ.refused := by
  obtain ⟨msg_list, flushed, mirrors⟩ := accounted.mirrors.flush
  unfold MsgTask.destructorStep msgQFlush msgQDestroy at taken
  simp only [flushed, Option.bind_eq_bind, Option.bind_some] at taken
  split at taken
  · cases taken
    exact ⟨⟨_, accounted.flush leaving mirrors _⟩, rfl⟩
  · cases taken
    exact ⟨⟨_, accounted.flush leaving mirrors _⟩, rfl⟩
  · cases taken

theorem Accounted.undestroyed (accounted : σ.Accounted list) {delegate : LocThreadDelegate}
    (here : σ.delegate = some delegate) (runs : delegate.spawned = .runs) :
    σ.destructor ≠ .done :=
  fun done => (accounted.emptied done).2.spawned_ne here runs

theorem Accounted.receives_of (accounted : σ.Accounted list) {delegate : LocThreadDelegate}
    (here : σ.delegate = some delegate) (outside : delegate.spawned ≠ .runs) :
    σ.run = .receives := by
  by_contra runs
  obtain ⟨other, there, runs⟩ := accounted.idle runs
  rw [here] at there
  cases there
  exact outside runs

/-- `run` goes on with the messages as they are. -/
theorem Accounted.goOn (accounted : σ.Accounted list) {delegate : LocThreadDelegate}
    (here : σ.delegate = some delegate) (runs : delegate.spawned = .runs)
    {mQ : MsgQ Addr Msg LocMsgDealloc Unit} (mirrors : mQ.msg_list.Mirrors list)
    (next : RunAt Msg) (hand : next.inHand = σ.run.inHand) :
    Accounted { σ with mQ := mQ, run := next } list where
  mirrors := mirrors
  owned := accounted.owned
  balance := by
    have balance := accounted.balance
    unfold deleted at balance ⊢
    rw [accounted.mirrors.deallocated, ← mirrors.deallocated, ← hand] at balance
    exact balance
  idle _ := ⟨delegate, here, runs⟩
  detached := accounted.detached
  emptied done := absurd done (accounted.undestroyed here runs)
  intact := accounted.intact

/-- What `run` receives leaves the queue. -/
theorem Accounted.receive (accounted : σ.Accounted list) {delegate : LocThreadDelegate}
    (here : σ.delegate = some delegate) (runs : delegate.spawned = .runs)
    (none_held : σ.run.inHand = []) {mQ : MsgQ Addr Msg LocMsgDealloc Unit}
    (mirrors : mQ.msg_list.Mirrors list) :
    (∃ list, (σ.receive (rcvLoop () mQ)).Accounted list) ∧
      (σ.receive (rcvLoop () mQ)).refused = σ.refused := by
  rcases rcvLoop_cases mirrors () with ⟨-, -, waits⟩ | ⟨msg_list, removed, received⟩
  · rw [waits]
    refine ⟨⟨list, accounted.goOn here runs ?_ .waits none_held.symm⟩, rfl⟩
    exact mirrors
  · rw [received]
    rcases list.remove_cases with ⟨-, taken⟩ | ⟨front, last, contents, taken⟩
    · rw [taken] at removed ⊢
      refine ⟨⟨list, accounted.goOn here runs ?_ (.returns false) none_held.symm⟩, rfl⟩
      exact removed
    · rw [taken] at removed ⊢
      refine ⟨⟨_, removed, ?_, ?_, fun _ => ⟨delegate, here, runs⟩, accounted.detached,
        fun done => absurd done (accounted.undestroyed here runs), accounted.intact⟩, rfl⟩
      · intro elem inside
        exact accounted.owned elem (contents ▸ List.mem_append_left _ inside)
      · have balance := accounted.balance
        have deallocated : msg_list.deallocated = σ.mQ.msg_list.deallocated :=
          removed.deallocated.trans accounted.mirrors.deallocated.symm
        unfold deleted at balance ⊢
        rw [none_held, ← deallocated, contents] at balance
        classical
        rw [List.perm_iff_count] at balance ⊢
        intro other
        have counts := balance other
        simp only [MsgTask.receive, RunAt.ofReceipt, RunAt.inHand, convertLinkedListErrType,
          List.count_append, List.map_append, List.map_cons, List.map_nil, List.count_nil]
          at counts ⊢
        omega

theorem Accounted.runStep (accounted : σ.Accounted list) {delegate : LocThreadDelegate}
    (here : σ.delegate = some delegate) (runs : delegate.spawned = .runs)
    (taken : σ.runStep delegate = some after) :
    (∃ list, after.Accounted list) ∧ after.refused = σ.refused := by
  unfold MsgTask.runStep at taken
  cases at_run : σ.run with
  | receives =>
      rw [at_run] at taken
      cases taken
      have none_held : σ.run.inHand = [] := at_run ▸ rfl
      by_cases unblocked : σ.mQ.unblocked = true
      · have fails : msgQRcv true () σ.mQ =
            some (.returns .eMSG_Q_UNAVAILABLE_RESOURCE none, σ.mQ) := if_pos unblocked
        rw [fails]
        exact ⟨⟨list, accounted.goOn here runs accounted.mirrors (.returns false) none_held.symm⟩, rfl⟩
      · have enters : msgQRcv true () σ.mQ = rcvLoop () σ.mQ := if_neg unblocked
        rw [enters]
        exact accounted.receive here runs none_held accounted.mirrors
  | waits =>
      rw [at_run] at taken
      obtain ⟨list_cond, -, rfl⟩ := Option.map_eq_some_iff.mp taken
      exact accounted.receive here runs (at_run ▸ rfl) accounted.mirrors
  | procs msg =>
      rw [at_run] at taken
      cases taken
      exact ⟨⟨list, accounted.goOn here runs accounted.mirrors (.deletesMsg msg) (at_run ▸ rfl)⟩,
        rfl⟩
  | deletesMsg msg =>
      rw [at_run] at taken
      cases taken
      refine ⟨⟨list, accounted.mirrors, accounted.owned, ?_, fun _ => ⟨delegate, here, runs⟩,
        accounted.detached, fun done => absurd done (accounted.undestroyed here runs),
        accounted.intact⟩, rfl⟩
      have balance := accounted.balance
      rw [at_run] at balance
      unfold deleted at balance ⊢
      classical
      rw [List.perm_iff_count] at balance ⊢
      intro other
      have counts := balance other
      simp only [RunAt.inHand, List.count_append, List.count_nil] at counts ⊢
      omega
  | returns again =>
      rw [at_run] at taken
      obtain ⟨moved, -, rfl⟩ := Option.map_eq_some_iff.mp taken
      have balance := accounted.balance
      rw [at_run] at balance
      exact ⟨⟨list, accounted.mirrors, accounted.owned, balance, fun runs => absurd rfl runs,
        accounted.detached.moved here rfl rfl,
        fun done => absurd done (accounted.undestroyed here runs), accounted.intact⟩, rfl⟩

/-- The thread goes on outside `run` and the destructor of the task. -/
theorem Accounted.move (accounted : σ.Accounted list) {delegate moved : LocThreadDelegate}
    (here : σ.delegate = some delegate)
    (idle : moved.spawned = .runs ∨ σ.run = .receives)
    (leaving : σ.Leaving → moved.spawned = .deletesRunnable ∨ moved.spawned = .destroys) :
    Accounted { σ with delegate := some moved } list where
  mirrors := accounted.mirrors
  owned := accounted.owned
  balance := accounted.balance
  idle runs := ⟨moved, rfl, idle.resolve_right runs⟩
  detached := accounted.detached.moved here rfl rfl
  emptied done := by
    obtain ⟨empty, leaves⟩ := accounted.emptied done
    refine ⟨empty, ?_⟩
    intro delegate there
    cases there
    exact leaving leaves
  intact := accounted.intact

theorem Accounted.spawnedStep (accounted : σ.Accounted list)
    (taken : σ.spawnedStep = some after) :
    (∃ list, after.Accounted list) ∧ after.refused = σ.refused := by
  unfold MsgTask.spawnedStep at taken
  cases here : σ.delegate with
  | none =>
      rw [here] at taken
      cases taken
  | some delegate =>
      simp only [here] at taken
      split at taken
      · rename_i runs
        exact accounted.runStep here runs taken
      · rename_i outside
        have idle := accounted.receives_of here outside
        split at taken
        · rename_i deletes
          refine accounted.destructorStep (fun other there => ?_) taken
          rw [here] at there
          cases there
          exact Or.inl deletes.1
        · obtain ⟨moved, stepped, rfl⟩ := Option.map_eq_some_iff.mp taken
          refine ⟨⟨list, accounted.move here (Or.inr idle) (fun leaving => ?_)⟩, rfl⟩
          exact LocThreadDelegate.spawnedStep_leaving (leaving delegate here) stepped

theorem Accounted.destroyStep (accounted : σ.Accounted list) {joinable : Bool}
    (taken : σ.destroyStep joinable = some after) :
    (∃ list, after.Accounted list) ∧ after.refused = σ.refused := by
  have detached := accounted.detached
  unfold Detached at detached
  unfold MsgTask.destroyStep at taken
  cases at_client : σ.client with
  | loadsThread =>
      rw [at_client] at taken detached
      cases taken
      exact ⟨⟨list, { accounted with detached := detached }⟩, rfl⟩
  | unblocks thread =>
      rw [at_client] at taken detached
      cases taken
      have same := msgQUnblock_list σ.mQ
      refine ⟨⟨list, { accounted with
        mirrors := same ▸ accounted.mirrors, balance := ?_, detached := detached }⟩, rfl⟩
      have balance := accounted.balance
      unfold deleted at balance ⊢
      rw [← same] at balance
      exact balance
  | testsThread thread =>
      rw [at_client] at detached
      simp only [at_client] at taken
      split at taken
      · cases taken
        exact ⟨⟨list, { accounted with detached := trivial }⟩, rfl⟩
      · rename_i none_there
        cases taken
        have none_there : thread = false := Bool.eq_false_iff.mpr none_there
        exact ⟨⟨list, { accounted with detached := detached none_there }⟩, rfl⟩
  | deletesThread =>
      simp only [at_client] at taken
      cases here : σ.delegate with
      | none =>
          rw [here] at taken
          cases taken
      | some delegate =>
          simp only [here] at taken
          obtain ⟨moved, stepped, rfl⟩ := Option.map_eq_some_iff.mp taken
          have spawned := LocThreadDelegate.parentStep_spawned stepped
          rw [← at_client]
          refine ⟨⟨list, accounted.move here ?_ (fun leaving => ?_)⟩, rfl⟩
          · by_cases runs : delegate.spawned = .runs
            · exact Or.inl (spawned.trans runs)
            · exact Or.inr (accounted.receives_of here runs)
          · rw [spawned]
            exact leaving delegate here
  | deletesThis =>
      rw [at_client] at taken detached
      refine accounted.destructorStep (fun delegate here => ?_) taken
      rw [detached] at here
      cases here

theorem Accounted.step (accounted : σ.Accounted list) {joinable : Bool}
    {label : TaskStep Addr Msg} (taken : σ.step joinable label = some after) :
    (∃ list, after.Accounted list) ∧ ∃ more, after.refused = σ.refused ++ more ∧
      (more = [] ↔ SentInTime σ label) := by
  cases label with
  | sendMsg malloc msg choice =>
      change (if σ.destructor = .done then none else some (σ.sendMsg malloc msg choice)) =
        some after at taken
      split at taken
      · cases taken
      · rename_i undestroyed
        cases taken
        obtain ⟨kept, refused⟩ := accounted.sendMsg malloc msg choice undestroyed
        refine ⟨kept, _, refused, ?_⟩
        unfold SentInTime
        cases msg with
        | none => rw [Option.toList_none, ite_self]; exact ⟨fun _ => nofun, fun _ => rfl⟩
        | some msg =>
            split
            · rename_i accepts
              exact ⟨fun _ _ => accepts, fun _ => rfl⟩
            · rename_i refuses
              exact ⟨nofun, fun met => absurd (met nofun) refuses⟩
  | destroy =>
      obtain ⟨kept, same⟩ := accounted.destroyStep taken
      exact ⟨kept, [], same.trans (List.append_nil _).symm, fun _ => trivial, fun _ => rfl⟩
  | spawned =>
      obtain ⟨kept, same⟩ := accounted.spawnedStep taken
      exact ⟨kept, [], same.trans (List.append_nil _).symm, fun _ => trivial, fun _ => rfl⟩
  | spurious =>
      obtain ⟨list_cond, -, rfl⟩ := Option.map_eq_some_iff.mp taken
      exact ⟨⟨list, { accounted with }⟩, [], (List.append_nil _).symm, fun _ => trivial,
        fun _ => rfl⟩

theorem Accounted.deleted_iff (accounted : σ.Accounted list) (done : σ.destructor = .done) :
    σ.deleted.Perm σ.given ↔ σ.refused = [] := by
  have idle : σ.run = .receives := by
    by_contra runs
    obtain ⟨delegate, here, runs⟩ := accounted.idle runs
    exact (accounted.emptied done).2.spawned_ne here runs
  have balance := accounted.balance
  rw [idle, (accounted.emptied done).1] at balance
  constructor
  · intro all
    have lengths := (all.trans balance).length_eq
    simp only [RunAt.inHand, List.map_nil, List.nil_append, List.length_append] at lengths
    exact List.eq_nil_of_length_eq_zero (by omega)
  · intro none_refused
    rw [none_refused] at balance
    exact balance.symm

/-- Every message that was given has been deleted once when the task has been destroyed. -/
def AllDeleted (σ : MsgTask Addr Msg) : Prop :=
  σ.destructor = .done → σ.deleted.Perm σ.given

end MsgTask

/-- In a run in which every message is sent before `destroy` unblocks the queue, and with
memory for it, all messages are deleted once. The first message that is sent otherwise is
not, however the run goes on. -/
theorem msg_task_deletes_all {Addr Msg : Type} [DecidableEq Addr] {joinable : Bool}
    {σ : MsgTask Addr Msg} (run : (msgTask joinable).ReachableUnder SentInTime σ) :
    σ.AllDeleted ∧ σ.crashed = false ∧
      ∀ label after, (msgTask joinable).step σ label = some after → ¬ SentInTime σ label →
        ∀ later, ((msgTask joinable).startingAt after).Reachable later →
          later.destructor = .done → ¬ later.deleted.Perm later.given := by
  have kept : (∃ list, σ.Accounted list) ∧ σ.refused = [] := by
    apply run.invariant (fun σ => (∃ list, σ.Accounted list) ∧ σ.refused = [])
    · rintro σ ⟨thread, rfl⟩
      exact ⟨⟨.new, MsgTask.constructed_accounted joinable thread⟩, rfl⟩
    · rintro before label after - ⟨⟨list, accounted⟩, none_refused⟩ met taken
      obtain ⟨kept, more, refused, iff_met⟩ := accounted.step taken
      rw [none_refused, iff_met.mpr met] at refused
      exact ⟨kept, refused⟩
  obtain ⟨⟨list, accounted⟩, none_refused⟩ := kept
  refine ⟨fun done => (accounted.deleted_iff done).mpr none_refused, accounted.intact, ?_⟩
  intro label after taken broken later reached done all
  have lost : (∃ list, later.Accounted list) ∧ later.refused ≠ [] := by
    apply reached.invariant (fun later => (∃ list, later.Accounted list) ∧ later.refused ≠ [])
    · rintro later rfl
      obtain ⟨kept, more, refused, iff_met⟩ := accounted.step taken
      rw [none_refused, List.nil_append] at refused
      exact ⟨kept, fun none_more => broken (iff_met.mp (refused.symm.trans none_more))⟩
    · rintro before label after - ⟨⟨list, accounted⟩, some_refused⟩ - taken
      obtain ⟨kept, more, refused, -⟩ := accounted.step taken
      refine ⟨kept, fun none_more => some_refused ?_⟩
      rw [refused] at none_more
      exact (List.append_eq_nil_iff.mp none_more).1
  obtain ⟨⟨list, accounted⟩, some_refused⟩ := lost
  exact some_refused ((accounted.deleted_iff done).mp all)

/-- One message is processed, another one is flushed. -/
theorem msg_task_deletes_all_two :
    ∃ σ : MsgTask Nat Nat,
      (msgTask false).execUnder SentInTime (.constructed false true)
          ([.sendMsg (some (.next Nat LocMsgDealloc)) (some 1) 0] ++ .replicate 8 .spawned ++
            [.sendMsg (some (.next Nat LocMsgDealloc)) (some 2) 0] ++ .replicate 3 .destroy ++
              .replicate 8 .spawned) = some σ ∧
        (σ.destructor = .done ∧ σ.given = [1, 2]) ∧ σ.AllDeleted ∧ σ.crashed = false ∧
        ∀ label after, (msgTask false).step σ label = some after → ¬ SentInTime σ label →
          ∀ later, ((msgTask false).startingAt after).Reachable later →
            later.destructor = .done → ¬ later.deleted.Perm later.given := by
  have first : (msgTask false).initial (.constructed false true : MsgTask Nat Nat) := ⟨true, rfl⟩
  apply System.execUnder_then first
  · intro σ run _
    exact msg_task_deletes_all run
  · decide +kernel

/-- A message that is sent after `destroy` has unblocked the queue is not deleted. -/
theorem msg_task_leaks :
    ¬ ∀ joinable, ∀ σ : MsgTask Nat Nat, (msgTask joinable).Reachable σ → σ.AllDeleted := by
  intro deletes
  have first : (msgTask false).initial (.constructed false true : MsgTask Nat Nat) := ⟨true, rfl⟩
  obtain ⟨σ, run, seen⟩ := System.reachable_of_exec first
    (.replicate 2 .destroy ++ [.sendMsg (some (.next Nat LocMsgDealloc)) (some 1) 0] ++
      .replicate 11 .spawned)
    (fun σ => decide (σ.destructor = .done ∧ σ.deleted = [] ∧ σ.given = [1])) (by decide +kernel)
  obtain ⟨done, kept, given⟩ := of_decide_eq_true seen
  have all := deletes false σ run done
  rw [kept, given] at all
  exact absurd all.length_eq Nat.zero_ne_one

end A5Common.Utils
