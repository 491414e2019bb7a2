import A5Common.Run.Condition
import A5Common.Run.System
import A5Common.Utils.AbstractList

set_option autoImplicit false

namespace A5Common.Utils

open A5Common.Run

/-- `msq_q_err_type` -/
inductive MsgQErr where
  | eMSG_Q_SUCCESS
  | eMSG_Q_FAILURE_GENERAL
  | eMSG_Q_INVALID_PARAMETER
  | eMSG_Q_INVALID_HANDLE
  | eMSG_Q_UNAVAILABLE_RESOURCE
  | eMSG_Q_INSUFFICIENT_BUFFER
deriving DecidableEq

def convertLinkedListErrType : LinkedListErr → MsgQErr
  | .eLINKED_LIST_SUCCESS => .eMSG_Q_SUCCESS
  | .eLINKED_LIST_INVALID_PARAMETER => .eMSG_Q_INVALID_PARAMETER
  | .eLINKED_LIST_INVALID_HANDLE => .eMSG_Q_INVALID_HANDLE
  | .eLINKED_LIST_UNAVAILABLE_RESOURCE => .eMSG_Q_UNAVAILABLE_RESOURCE
  | .eLINKED_LIST_INSUFFICIENT_BUFFER => .eMSG_Q_INSUFFICIENT_BUFFER
  | .eLINKED_LIST_FAILURE_GENERAL => .eMSG_Q_FAILURE_GENERAL

/-- A `msg_q`. What a thread does while it holds `list_mutex` is one step. -/
structure MsgQ (Addr Msg Dealloc Receiver : Type) where
  msg_list : ListState Addr Msg Dealloc
  list_cond : Condition Receiver
  unblocked : Bool

/-- How a call of `msg_q_rcv` goes on when it gives up `list_mutex`. -/
inductive Receipt (Msg : Type) where
  | waits
  | returns (rv : MsgQErr) (msg_obj : Option (Option Msg))
deriving DecidableEq

/-- The message that a call of `msg_q_rcv` returns with, if it does. -/
def Receipt.taken {Msg : Type} : Receipt Msg → List Msg
  | .returns .eMSG_Q_SUCCESS (some (some msg)) => [msg]
  | _ => []

variable {Addr Msg Dealloc Receiver : Type}

/-- What `msg_q_init` leaves. -/
def msgQInit : MsgQ Addr Msg Dealloc Receiver where
  msg_list := linkedListInit
  list_cond := .idle
  unblocked := false

/-- The mutex section of `msg_q_unblock`. -/
def msgQUnblock (p_msg_q : MsgQ Addr Msg Dealloc Receiver) :
    MsgQErr × MsgQ Addr Msg Dealloc Receiver :=
  if p_msg_q.unblocked then (.eMSG_Q_UNAVAILABLE_RESOURCE, p_msg_q)
  else
    (.eMSG_Q_SUCCESS,
      { p_msg_q with unblocked := true, list_cond := p_msg_q.list_cond.broadcast })

variable [DecidableEq Addr]

/-- `msg_q_snd`, with what `malloc` answers and the choice of the receiver that is woken. -/
def msgQSnd (malloc : Option (Malloc Addr Msg Dealloc)) (msg_obj : Option Msg)
    (dealloc : Option Dealloc) (choice : Nat) (p_msg_q : MsgQ Addr Msg Dealloc Receiver) :
    Option (MsgQErr × MsgQ Addr Msg Dealloc Receiver) :=
  if msg_obj = none then some (.eMSG_Q_INVALID_PARAMETER, p_msg_q)
  else if p_msg_q.unblocked then some (.eMSG_Q_UNAVAILABLE_RESOURCE, p_msg_q)
  else do
    let (returned, msg_list) ← linkedListAdd malloc msg_obj dealloc p_msg_q.msg_list
    some (convertLinkedListErrType returned.rv,
      { p_msg_q with msg_list := msg_list, list_cond := p_msg_q.list_cond.signal choice })

/-- `msg_q_rcv` from the test of its loop on: it waits, or it goes on to its end. -/
def rcvLoop (receiver : Receiver) (p_msg_q : MsgQ Addr Msg Dealloc Receiver) :
    Option (Receipt Msg × MsgQ Addr Msg Dealloc Receiver) :=
  if linkedListEmpty p_msg_q.msg_list ≠ 0 ∧ !p_msg_q.unblocked then
    some (.waits, { p_msg_q with list_cond := p_msg_q.list_cond.wait receiver })
  else do
    let (returned, msg_list) ← linkedListRemove true p_msg_q.msg_list
    some (.returns (convertLinkedListErrType returned.rv) returned.out,
      { p_msg_q with msg_list := msg_list })

/-- `msg_q_rcv` up to where it first gives up `list_mutex`. The caller passes a pointer
for the message, or NULL. -/
def msgQRcv (msg_obj : Bool) (receiver : Receiver) (p_msg_q : MsgQ Addr Msg Dealloc Receiver) :
    Option (Receipt Msg × MsgQ Addr Msg Dealloc Receiver) :=
  if !msg_obj then some (.returns .eMSG_Q_INVALID_PARAMETER none, p_msg_q)
  else if p_msg_q.unblocked then some (.returns .eMSG_Q_UNAVAILABLE_RESOURCE none, p_msg_q)
  else rcvLoop receiver p_msg_q

def msgQFlush (p_msg_q : MsgQ Addr Msg Dealloc Receiver) :
    Option (MsgQErr × MsgQ Addr Msg Dealloc Receiver) := do
  let (returned, msg_list) ← linkedListFlush p_msg_q.msg_list
  some (convertLinkedListErrType returned.rv, { p_msg_q with msg_list := msg_list })

/-- What `msg_q_destroy` does before it gives the memory back. -/
def msgQDestroy (p_msg_q : MsgQ Addr Msg Dealloc Receiver) :
    Option (MsgQErr × MsgQ Addr Msg Dealloc Receiver) := do
  let (_, msg_list) ← linkedListFlush p_msg_q.msg_list
  some (.eMSG_Q_SUCCESS, { p_msg_q with msg_list := msg_list, unblocked := false })

variable {p_msg_q : MsgQ Addr Msg Dealloc Receiver} {σ : AbstractList Msg Dealloc}

/-- The messages of a list, in the order in which they are removed. -/
def AbstractList.queued (σ : AbstractList Msg Dealloc) : List Msg :=
  (σ.contents.map Element.data_ptr).reverse

/-- What is added comes last, and it counts if it is added. -/
theorem AbstractList.add_queued (memory : Bool) (msg : Msg) (dealloc : Option Dealloc)
    (σ : AbstractList Msg Dealloc) :
    (σ.add memory (some msg) dealloc).2.queued =
        σ.queued ++
          (if convertLinkedListErrType (σ.add memory (some msg) dealloc).1.rv =
            .eMSG_Q_SUCCESS then [msg] else []) ∧
      (σ.add memory (some msg) dealloc).2.contents.length ≤ σ.contents.length + 1 := by
  cases memory with
  | true => exact ⟨List.reverse_cons, Nat.le_refl _⟩
  | false => exact ⟨(List.append_nil _).symm, Nat.le_succ _⟩

/-- A removal takes the last element, if there is one. -/
theorem AbstractList.remove_cases (σ : AbstractList Msg Dealloc) :
    (σ.contents = [] ∧ σ.remove true = (⟨.eLINKED_LIST_UNAVAILABLE_RESOURCE, none⟩, σ)) ∨
      ∃ front last, σ.contents = front ++ [last] ∧
        σ.remove true =
          (⟨.eLINKED_LIST_SUCCESS, some (some last.data_ptr)⟩, { σ with contents := front }) := by
  obtain ⟨contents, deallocated⟩ := σ
  rcases List.eq_nil_or_concat' contents with rfl | ⟨front, last, rfl⟩
  · exact Or.inl ⟨rfl, rfl⟩
  · refine Or.inr ⟨front, last, rfl, ?_⟩
    unfold remove
    simp only [Bool.not_true, Bool.false_eq_true, if_false, List.getLast?_concat,
      List.dropLast_concat]

/-- What is removed came first. -/
theorem AbstractList.remove_queued (σ : AbstractList Msg Dealloc) :
    σ.queued =
        Receipt.taken (.returns (convertLinkedListErrType (σ.remove true).1.rv)
          (σ.remove true).1.out) ++ (σ.remove true).2.queued ∧
      (σ.remove true).2.contents.length = σ.contents.length - 1 := by
  rcases σ.remove_cases with ⟨empty, removed⟩ | ⟨front, last, contents, removed⟩
  · rw [removed, empty]
    exact ⟨rfl, rfl⟩
  · rw [removed]
    unfold queued
    rw [contents, List.map_append, List.map_singleton, List.reverse_concat, List.length_append,
      List.length_singleton, Nat.add_sub_cancel]
    exact ⟨rfl, rfl⟩

/-- A message is accepted if there is one, the queue is not unblocked and there is memory
for it. -/
theorem msgQSnd_cases (mirrors : p_msg_q.msg_list.Mirrors σ)
    (malloc : Option (Malloc Addr Msg Dealloc)) (msg_obj : Option Msg) (dealloc : Option Dealloc)
    (choice : Nat) :
    ∃ rv after, msgQSnd malloc msg_obj dealloc choice p_msg_q = some (rv, after) ∧
      (rv = .eMSG_Q_SUCCESS ↔
        msg_obj ≠ none ∧ p_msg_q.unblocked = false ∧ malloc.isSome = true) ∧
      after.msg_list.Mirrors (if rv = .eMSG_Q_SUCCESS then
        { σ with contents := msg_obj.toList.map (fun msg => ⟨msg, dealloc⟩) ++ σ.contents }
      else σ) := by
  unfold msgQSnd
  cases msg_obj with
  | none =>
      refine ⟨.eMSG_Q_INVALID_PARAMETER, p_msg_q, rfl, iff_of_false ?_ ?_, mirrors⟩
      · decide
      · exact fun given => given.1 rfl
  | some msg =>
      cases unblocked : p_msg_q.unblocked with
      | true =>
          refine ⟨.eMSG_Q_UNAVAILABLE_RESOURCE, p_msg_q, rfl, iff_of_false ?_ ?_, mirrors⟩
          · decide
          · exact fun given => Bool.false_ne_true given.2.1.symm
      | false =>
          obtain ⟨msg_list, added, mirrors⟩ := mirrors.add malloc (some msg) dealloc
          simp only [added, Option.bind_eq_bind, Option.bind_some]
          cases malloc with
          | none =>
              refine ⟨.eMSG_Q_FAILURE_GENERAL, _, rfl, iff_of_false ?_ ?_, mirrors⟩
              · decide
              · exact fun given => Bool.false_ne_true given.2.2
          | some malloc =>
              refine ⟨.eMSG_Q_SUCCESS, _, rfl, iff_of_true rfl ?_, mirrors⟩
              exact ⟨Option.some_ne_none msg, trivial, rfl⟩

/-- A receiver waits if there is nothing to take, or it takes what came first. -/
theorem rcvLoop_cases (mirrors : p_msg_q.msg_list.Mirrors σ) (receiver : Receiver) :
    (σ.contents = [] ∧ p_msg_q.unblocked = false ∧ rcvLoop receiver p_msg_q =
        some (.waits, { p_msg_q with list_cond := p_msg_q.list_cond.wait receiver })) ∨
      ∃ msg_list, msg_list.Mirrors (σ.remove true).2 ∧
        rcvLoop receiver p_msg_q =
          some (.returns (convertLinkedListErrType (σ.remove true).1.rv) (σ.remove true).1.out,
            { p_msg_q with msg_list := msg_list }) := by
  unfold rcvLoop
  split
  · rename_i waiting
    refine Or.inl ⟨?_, (Bool.not_eq_true' _).mp waiting.2, rfl⟩
    have isEmpty := waiting.1
    rw [mirrors.empty] at isEmpty
    split at isEmpty
    · rename_i empty
      exact List.isEmpty_iff.mp empty
    · exact absurd rfl isEmpty
  · obtain ⟨msg_list, removed, mirrors⟩ := mirrors.remove true
    refine Or.inr ⟨msg_list, mirrors, ?_⟩
    rw [removed]
    rfl

/-- A queue whose list is this sequence, that does not lose a wake-up, and on which nobody
waits once it is unblocked. -/
structure MsgQ.Sound (p_msg_q : MsgQ Addr Msg Dealloc Receiver)
    (σ : AbstractList Msg Dealloc) : Prop where
  mirrors : p_msg_q.msg_list.Mirrors σ
  covers : p_msg_q.unblocked = false → p_msg_q.list_cond.Covers σ.contents.length
  nobody : p_msg_q.unblocked = true → p_msg_q.list_cond.asleep = []

namespace MsgQ

theorem init_sound : (msgQInit : MsgQ Addr Msg Dealloc Receiver).Sound .new where
  mirrors := ListState.mirrors_new
  covers _ := Condition.covers_zero
  nobody _ := rfl

/-- Whoever waits is woken. -/
theorem Sound.unblock (sound : p_msg_q.Sound σ) :
    (msgQUnblock p_msg_q).2.Sound σ ∧ (msgQUnblock p_msg_q).2.unblocked = true ∧
      ∀ receiver ∈ p_msg_q.list_cond.asleep,
        receiver ∈ (msgQUnblock p_msg_q).2.list_cond.woken := by
  unfold msgQUnblock
  split
  · rename_i unblocked
    refine ⟨sound, unblocked, fun receiver waiting => ?_⟩
    rw [sound.nobody unblocked] at waiting
    cases waiting
  · exact ⟨⟨sound.mirrors, nofun, fun _ => rfl⟩, rfl, fun _ => Condition.broadcast_woken⟩

/-- What is accepted comes last in the queue, and nothing is accepted after
`msg_q_unblock`. -/
theorem Sound.snd (sound : p_msg_q.Sound σ) (malloc : Option (Malloc Addr Msg Dealloc))
    (msg_obj : Option Msg) (dealloc : Option Dealloc) (choice : Nat) :
    ∃ rv after, ∃ σ' : AbstractList Msg Dealloc,
      msgQSnd malloc msg_obj dealloc choice p_msg_q = some (rv, after) ∧
      after.Sound σ' ∧ after.unblocked = p_msg_q.unblocked ∧
      σ'.queued = σ.queued ++ (if rv = .eMSG_Q_SUCCESS then msg_obj.toList else []) ∧
      (p_msg_q.unblocked = true → rv ≠ .eMSG_Q_SUCCESS) := by
  unfold msgQSnd
  cases msg_obj with
  | none => exact ⟨_, p_msg_q, σ, rfl, sound, rfl, (List.append_nil _).symm, fun _ => nofun⟩
  | some msg =>
      cases unblocked : p_msg_q.unblocked with
      | true =>
          exact ⟨_, p_msg_q, σ, rfl, sound, unblocked, (List.append_nil _).symm, fun _ => nofun⟩
      | false =>
          obtain ⟨msg_list, added, mirrors⟩ := sound.mirrors.add malloc (some msg) dealloc
          obtain ⟨queued, length⟩ := σ.add_queued malloc.isSome msg dealloc
          simp only [added, Option.bind_eq_bind, Option.bind_some]
          refine ⟨_, _, _, rfl, ⟨mirrors, fun _ => ?_, nofun⟩, rfl, queued, nofun⟩
          exact ((sound.covers unblocked).signal choice).mono length

/-- What a receiver takes came first in the queue. -/
theorem rcvLoop_sound (mirrors : p_msg_q.msg_list.Mirrors σ)
    (covers : p_msg_q.unblocked = false → p_msg_q.list_cond.Covers (σ.contents.length - 1))
    (nobody : p_msg_q.unblocked = true → p_msg_q.list_cond.asleep = []) (receiver : Receiver) :
    ∃ receipt after, ∃ σ' : AbstractList Msg Dealloc,
      rcvLoop receiver p_msg_q = some (receipt, after) ∧
      after.Sound σ' ∧ after.unblocked = p_msg_q.unblocked ∧
      σ.queued = receipt.taken ++ σ'.queued := by
  rcases rcvLoop_cases mirrors receiver with
    ⟨empty, blocking, waits⟩ | ⟨msg_list, mirrors, received⟩
  · refine ⟨.waits, _, σ, waits, ⟨mirrors, fun _ => ?_, ?_⟩, rfl, rfl⟩
    · rw [empty]
      exact Condition.covers_zero
    · intro unblocked
      rw [blocking] at unblocked
      cases unblocked
  · obtain ⟨queued, length⟩ := σ.remove_queued
    refine ⟨_, _, _, received, ⟨mirrors, fun unblocked => ?_, nobody⟩, rfl, queued⟩
    rw [length]
    exact covers unblocked

theorem Sound.rcv (sound : p_msg_q.Sound σ) (msg_obj : Bool) (receiver : Receiver) :
    ∃ receipt after, ∃ σ' : AbstractList Msg Dealloc,
      msgQRcv msg_obj receiver p_msg_q = some (receipt, after) ∧
      after.Sound σ' ∧ after.unblocked = p_msg_q.unblocked ∧
      σ.queued = receipt.taken ++ σ'.queued := by
  unfold msgQRcv
  split
  · exact ⟨_, p_msg_q, σ, rfl, sound, rfl, rfl⟩
  · split
    · exact ⟨_, p_msg_q, σ, rfl, sound, rfl, rfl⟩
    · exact rcvLoop_sound sound.mirrors
        (fun unblocked => (sound.covers unblocked).mono (Nat.sub_le _ _)) sound.nobody receiver

end MsgQ

/-- A queue in use. What it has accepted and what has been received are records, and
so is whether a pointer that leads nowhere has been followed. -/
structure QueueRun (Addr Msg Dealloc Receiver : Type) where
  queue : MsgQ Addr Msg Dealloc Receiver
  accepted : List Msg
  received : List Msg
  crashed : Bool

/-- A receiver that is woken, or that wakes up without a signal, still has to take the
mutex and to test the condition of its loop again. -/
inductive QueueStep (Addr Msg Dealloc Receiver : Type) where
  | snd (malloc : Option (Malloc Addr Msg Dealloc)) (msg_obj : Option Msg)
      (dealloc : Option Dealloc) (choice : Nat)
  | rcv (msg_obj : Bool) (receiver : Receiver)
  | spurious (receiver : Receiver)
  | resume (receiver : Receiver)
  | unblock

namespace QueueRun

def start : QueueRun Addr Msg Dealloc Receiver where
  queue := msgQInit
  accepted := []
  received := []
  crashed := false

/-- What a receiver does is recorded. -/
def receive (run : QueueRun Addr Msg Dealloc Receiver) :
    Option (Receipt Msg × MsgQ Addr Msg Dealloc Receiver) → QueueRun Addr Msg Dealloc Receiver
  | none => { run with crashed := true }
  | some (receipt, queue) =>
      { run with queue := queue, received := run.received ++ receipt.taken }

variable [DecidableEq Receiver]

def step (run : QueueRun Addr Msg Dealloc Receiver) :
    QueueStep Addr Msg Dealloc Receiver → Option (QueueRun Addr Msg Dealloc Receiver)
  | .snd malloc msg_obj dealloc choice =>
      match msgQSnd malloc msg_obj dealloc choice run.queue with
      | none => some { run with crashed := true }
      | some (rv, queue) =>
          some { run with
            queue := queue
            accepted :=
              run.accepted ++ if rv = .eMSG_Q_SUCCESS then msg_obj.toList else [] }
  | .rcv msg_obj receiver =>
      if receiver ∈ run.queue.list_cond.asleep ∨ receiver ∈ run.queue.list_cond.woken then none
      else some (run.receive (msgQRcv msg_obj receiver run.queue))
  | .spurious receiver =>
      (run.queue.list_cond.spurious receiver).map (fun list_cond =>
        { run with queue := { run.queue with list_cond := list_cond } })
  | .resume receiver =>
      (run.queue.list_cond.resume receiver).map (fun list_cond =>
        run.receive (rcvLoop receiver { run.queue with list_cond := list_cond }))
  | .unblock => some { run with queue := (msgQUnblock run.queue).2 }

end QueueRun

/-- Any threads send, receive and unblock, in any order. -/
def msgQ [DecidableEq Receiver] :
    System (QueueRun Addr Msg Dealloc Receiver) (QueueStep Addr Msg Dealloc Receiver) where
  initial run := run = .start
  step := QueueRun.step

namespace QueueRun

/-- What is accepted has been received or is still in the queue, in this order. -/
structure Fifo (run : QueueRun Addr Msg Dealloc Receiver) (σ : AbstractList Msg Dealloc) :
    Prop where
  sound : run.queue.Sound σ
  order : run.accepted = run.received ++ σ.queued
  intact : run.crashed = false

variable {run after : QueueRun Addr Msg Dealloc Receiver}

theorem start_fifo : Fifo (start : QueueRun Addr Msg Dealloc Receiver) .new where
  sound := MsgQ.init_sound
  order := rfl
  intact := rfl

/-- A run goes on in order, and if the queue is unblocked nothing more is accepted. -/
def Continues (run after : QueueRun Addr Msg Dealloc Receiver) : Prop :=
  (∃ σ' : AbstractList Msg Dealloc, after.Fifo σ') ∧
    (run.queue.unblocked = true →
      after.queue.unblocked = true ∧ after.accepted = run.accepted)

theorem Fifo.receive (fifo : run.Fifo σ) {σ' : AbstractList Msg Dealloc}
    {queue : MsgQ Addr Msg Dealloc Receiver} {receipt : Receipt Msg} (sound : queue.Sound σ')
    (unblocked : queue.unblocked = run.queue.unblocked)
    (taken : σ.queued = receipt.taken ++ σ'.queued) :
    run.Continues (run.receive (some (receipt, queue))) := by
  refine ⟨⟨σ', sound, ?_, fifo.intact⟩, fun before => ⟨unblocked.trans before, rfl⟩⟩
  have order := fifo.order
  rw [taken, ← List.append_assoc] at order
  exact order

variable [DecidableEq Receiver]

theorem Fifo.step (fifo : run.Fifo σ) {label : QueueStep Addr Msg Dealloc Receiver}
    (taken : run.step label = some after) : run.Continues after := by
  have sound := fifo.sound
  cases label with
  | snd malloc msg_obj dealloc choice =>
      obtain ⟨rv, queue, σ', sent, sound, unblocked, queued, refused⟩ :=
        sound.snd malloc msg_obj dealloc choice
      unfold QueueRun.step at taken
      simp only [sent] at taken
      cases taken
      refine ⟨⟨σ', sound, ?_, fifo.intact⟩, fun before => ⟨unblocked.trans before, ?_⟩⟩
      · rw [queued, fifo.order, List.append_assoc]
      · simp only [if_neg (refused before), List.append_nil]
  | rcv msg_obj receiver =>
      obtain ⟨receipt, queue, σ', received, sound, unblocked, queued⟩ :=
        sound.rcv msg_obj receiver
      unfold QueueRun.step at taken
      simp only [received] at taken
      split at taken
      · cases taken
      · cases taken
        exact fifo.receive sound unblocked queued
  | spurious receiver =>
      obtain ⟨list_cond, woke, rfl⟩ := Option.map_eq_some_iff.mp taken
      refine ⟨⟨σ, ⟨sound.mirrors, fun unblocked => ?_, fun unblocked => ?_⟩, fifo.order,
        fifo.intact⟩, fun before => ⟨before, rfl⟩⟩
      · exact (sound.covers unblocked).spurious woke
      · rw [Condition.spurious_nobody (sound.nobody unblocked)] at woke
        cases woke
  | resume receiver =>
      obtain ⟨list_cond, went, rfl⟩ := Option.map_eq_some_iff.mp taken
      have covers : run.queue.unblocked = false → list_cond.Covers (σ.contents.length - 1) := by
        intro unblocked
        have covers := sound.covers unblocked
        cases contents : σ.contents with
        | nil => exact Condition.covers_zero
        | cons msg rest =>
            rw [contents] at covers
            exact covers.resume went
      obtain ⟨receipt, queue, σ', received, sound, unblocked, queued⟩ :=
        @MsgQ.rcvLoop_sound _ _ _ _ _ { run.queue with list_cond := list_cond } σ sound.mirrors
          covers (fun unblocked => (Condition.resume_asleep went).trans (sound.nobody unblocked))
          receiver
      rw [received]
      exact fifo.receive sound unblocked queued
  | unblock =>
      cases taken
      obtain ⟨sound, unblocked, -⟩ := sound.unblock
      exact ⟨⟨σ, sound, fifo.order, fifo.intact⟩, fun _ => ⟨unblocked, rfl⟩⟩

theorem reachable_fifo (reached : msgQ.Reachable run) :
    ∃ σ : AbstractList Msg Dealloc, run.Fifo σ := by
  apply reached.invariant (fun run => ∃ σ : AbstractList Msg Dealloc, run.Fifo σ)
  · rintro run rfl
    exact ⟨.new, start_fifo⟩
  · rintro before label after - ⟨σ, fifo⟩ - taken
    exact (fifo.step taken).1

/-- A queue that is unblocked accepts nothing more, and nobody waits on it again. -/
theorem accepted_unblocked (reached : msgQ.Reachable run) (unblocked : run.queue.unblocked = true)
    (later : (msgQ.startingAt run).Reachable after) :
    after.accepted = run.accepted ∧ after.queue.list_cond.asleep = [] := by
  have kept : msgQ.Reachable after ∧ after.queue.unblocked = true ∧
      after.accepted = run.accepted := by
    apply later.invariant (fun after => msgQ.Reachable after ∧ after.queue.unblocked = true ∧
      after.accepted = run.accepted)
    · rintro after rfl
      exact ⟨reached, unblocked, rfl⟩
    · rintro before label after - ⟨reached, unblocked, accepted⟩ - taken
      obtain ⟨σ, fifo⟩ := reachable_fifo reached
      obtain ⟨still, same⟩ := (fifo.step taken).2 unblocked
      exact ⟨reached.step taken, still, same.trans accepted⟩
  obtain ⟨reached, unblocked, accepted⟩ := kept
  obtain ⟨σ, fifo⟩ := reachable_fifo reached
  exact ⟨accepted, fifo.sound.nobody unblocked⟩

end QueueRun

/-- In every state of every run no pointer that leads nowhere has been followed, what has
been received are the first of the messages that were accepted, and the others are in the
queue. As long as there are messages and the queue is not unblocked, a receiver that waits
is not left to wait: some receiver has a wake-up. `msg_q_unblock` wakes every receiver that
waits, and nothing is accepted after it and nobody waits again. -/
theorem msg_q_fifo {Addr Msg Dealloc Receiver : Type} [DecidableEq Addr] [DecidableEq Receiver]
    {run : QueueRun Addr Msg Dealloc Receiver} (reached : msgQ.Reachable run) :
    run.crashed = false ∧
      run.received <+: run.accepted ∧
      (∃ list : AbstractList Msg Dealloc,
        run.queue.msg_list.Mirrors list ∧ run.accepted = run.received ++ list.queued ∧
          (list.contents ≠ [] → run.queue.unblocked = false →
            run.queue.list_cond.asleep ≠ [] → run.queue.list_cond.woken ≠ [])) ∧
      (run.queue.unblocked = true → ∀ later, (msgQ.startingAt run).Reachable later →
        later.accepted = run.accepted) ∧
      ∃ unblocked, msgQ.step run .unblock = some unblocked ∧
        (∀ receiver ∈ run.queue.list_cond.asleep,
          receiver ∈ unblocked.queue.list_cond.woken) ∧
        ∀ later, (msgQ.startingAt unblocked).Reachable later →
          later.accepted = run.accepted ∧ later.queue.list_cond.asleep = [] := by
  obtain ⟨σ, fifo⟩ := QueueRun.reachable_fifo reached
  refine ⟨fifo.intact, ⟨σ.queued, fifo.order.symm⟩, ⟨σ, fifo.sound.mirrors, fifo.order, ?_⟩, ?_,
    _, rfl, ?_, ?_⟩
  · intro some_left blocking
    exact (fifo.sound.covers blocking).exists_woken
      (fun none_left => some_left (List.eq_nil_of_length_eq_zero none_left))
  · exact fun unblocked later moved => (QueueRun.accepted_unblocked reached unblocked moved).1
  · exact fifo.sound.unblock.2.2
  · intro later moved
    have taken : msgQ.step run .unblock =
        some { run with queue := (msgQUnblock run.queue).2 } := rfl
    have kept := QueueRun.accepted_unblocked (reached.step taken) fifo.sound.unblock.2.1 moved
    exact kept

/-- A receiver is woken for a message that another one takes, and waits again. -/
theorem msg_q_fifo_taken :
    ∃ run : QueueRun Nat Nat Unit Nat,
      msgQ.exec .start
          [.rcv true 1, .snd (some (.next Nat Unit)) (some 10) none 0, .rcv true 2, .resume 1,
            .snd (some (.next Nat Unit)) (some 20) (some ()) 0] = some run ∧
        (run.received = [10] ∧ run.accepted = [10, 20] ∧ run.queue.list_cond.woken = [1]) ∧
        run.crashed = false ∧
        run.received <+: run.accepted ∧
        (∃ list : AbstractList Nat Unit,
          run.queue.msg_list.Mirrors list ∧ run.accepted = run.received ++ list.queued ∧
            (list.contents ≠ [] → run.queue.unblocked = false →
              run.queue.list_cond.asleep ≠ [] → run.queue.list_cond.woken ≠ [])) ∧
        (run.queue.unblocked = true → ∀ later, (msgQ.startingAt run).Reachable later →
          later.accepted = run.accepted) ∧
        ∃ unblocked, msgQ.step run .unblock = some unblocked ∧
          (∀ receiver ∈ run.queue.list_cond.asleep,
            receiver ∈ unblocked.queue.list_cond.woken) ∧
          ∀ later, (msgQ.startingAt unblocked).Reachable later →
            later.accepted = run.accepted ∧ later.queue.list_cond.asleep = [] := by
  apply System.execUnder_then rfl
  · exact fun run reached _ => msg_q_fifo reached
  · decide +kernel

end A5Common.Utils
