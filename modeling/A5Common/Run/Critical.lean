import Mathlib.Logic.Function.Basic

set_option autoImplicit false

namespace A5Common.Run

universe u v w

/-- Threads that are each at a position, and the one that has the mutex. -/
structure Threads (Thread : Type u) (Position : Type v) where
  position : Thread → Position
  mutex : Option Thread

namespace Threads

variable {Thread : Type u} {Position : Type v} [DecidableEq Thread]
  {inside : Position → Bool} {threads after : Threads Thread Position}
  {thread : Thread} {next : Position}

def move (thread : Thread) (next : Position) (threads : Threads Thread Position) :
    Threads Thread Position :=
  { threads with position := Function.update threads.position thread next }

/-- A thread that takes the mutex goes on, if the mutex is free. -/
def lock (thread : Thread) (next : Position) (threads : Threads Thread Position) :
    Option (Threads Thread Position) :=
  if threads.mutex = none then some { threads.move thread next with mutex := some thread } else none

def unlock (thread : Thread) (next : Position) (threads : Threads Thread Position) :
    Threads Thread Position :=
  { threads.move thread next with mutex := none }

/-- Where the thread is that has the mutex. -/
def holder (threads : Threads Thread Position) : Option Position :=
  threads.mutex.map threads.position

/-- A thread has the mutex when it is at a position inside, and only then. -/
def Exclusive (inside : Position → Bool) (threads : Threads Thread Position) : Prop :=
  ∀ thread, inside (threads.position thread) = true ↔ threads.mutex = some thread

@[simp] theorem position_move_self : (threads.move thread next).position thread = next :=
  Function.update_self _ _ _

theorem position_move_of_ne {other : Thread} (different : other ≠ thread) :
    (threads.move thread next).position other = threads.position other :=
  Function.update_of_ne different _ _

omit [DecidableEq Thread] in
theorem Exclusive.holder_eq (exclusive : threads.Exclusive inside)
    (here : inside (threads.position thread) = true) :
    threads.holder = some (threads.position thread) := by
  unfold holder
  rw [(exclusive thread).mp here]
  rfl

theorem lock_eq_some (taken : threads.lock thread next = some after) :
    threads.mutex = none ∧ after = { threads.move thread next with mutex := some thread } := by
  unfold lock at taken
  split at taken
  · rename_i free
    cases taken
    exact ⟨free, rfl⟩
  · cases taken

/-- The mutex is taken while nobody has it. -/
theorem Exclusive.lock (exclusive : threads.Exclusive inside) (enters : inside next = true)
    (taken : threads.lock thread next = some after) :
    after.Exclusive inside ∧ threads.holder = none ∧ after.holder = some next := by
  obtain ⟨free, rfl⟩ := lock_eq_some taken
  refine ⟨fun other => ?_, ?_, ?_⟩
  · by_cases same : other = thread
    · rw [same]
      exact iff_of_true (by rw [position_move_self, enters]) rfl
    · have outside := (not_congr (exclusive other)).mpr (by
        rw [free]
        exact (Option.some_ne_none other).symm)
      refine iff_of_false ?_ (fun this => same (Option.some.inj this).symm)
      show ¬ inside ((threads.move thread next).position other) = true
      rw [position_move_of_ne same]
      exact outside
  · rw [holder, free]
    rfl
  · show some ((threads.move thread next).position thread) = some next
    rw [position_move_self]

theorem Exclusive.unlock (exclusive : threads.Exclusive inside)
    (here : inside (threads.position thread) = true) (leaves : inside next = false) :
    (threads.unlock thread next).Exclusive inside := by
  intro other
  refine iff_of_false ?_ (Option.some_ne_none other).symm
  show ¬ inside ((threads.move thread next).position other) = true
  by_cases same : other = thread
  · rw [same, position_move_self, leaves]
    exact Bool.false_ne_true
  · rw [position_move_of_ne same, exclusive other, (exclusive thread).mp here, Option.some_inj]
    exact Ne.symm same

/-- A thread that stays inside, or outside, changes nothing about the mutex. -/
theorem Exclusive.move (exclusive : threads.Exclusive inside)
    (same : inside next = inside (threads.position thread)) :
    (threads.move thread next).Exclusive inside := by
  intro other
  by_cases this : other = thread
  · rw [this, position_move_self, same]
    exact exclusive thread
  · rw [position_move_of_ne this]
    exact exclusive other

theorem Exclusive.holder_move (exclusive : threads.Exclusive inside)
    (here : inside (threads.position thread) = true) :
    (threads.move thread next).holder = some next := by
  show threads.mutex.map (threads.move thread next).position = some next
  rw [(exclusive thread).mp here, Option.map_some, position_move_self]

theorem Exclusive.holder_move_outside (exclusive : threads.Exclusive inside)
    (outside : inside (threads.position thread) = false) :
    (threads.move thread next).holder = threads.holder := by
  show threads.mutex.map (threads.move thread next).position = threads.mutex.map threads.position
  cases held : threads.mutex with
  | none => rfl
  | some other =>
      have different : other ≠ thread := by
        rintro rfl
        have here := (exclusive other).mpr held
        rw [outside] at here
        cases here
      rw [Option.map_some, Option.map_some, position_move_of_ne different]

end Threads

/-- What threads keep about what they share: what holds while nobody has the mutex, what holds
while a thread inside has it, what a thread can rely on wherever it is, and how the others change
what is shared meanwhile. -/
structure Monitor (Shared : Type w) (Position : Type v) where
  inside : Position → Bool
  settled : Shared → Prop
  holding : Position → Shared → Prop
  stands : Position → Shared → Prop
  grows : Shared → Shared → Prop
  stable : ∀ {position shared after}, grows shared after → stands position shared →
    stands position after

namespace Monitor

variable {Thread : Type u} {Position : Type v} {Shared : Type w} {monitor : Monitor Shared Position}
  {shared changed : Shared} {threads after : Threads Thread Position} {thread : Thread}
  {next : Position}

def Held (monitor : Monitor Shared Position) (shared : Shared) : Option Position → Prop
  | none => monitor.settled shared
  | some position => monitor.holding position shared

structure Kept (monitor : Monitor Shared Position) (shared : Shared)
    (threads : Threads Thread Position) : Prop where
  exclusive : threads.Exclusive monitor.inside
  held : monitor.Held shared threads.holder
  stands : ∀ thread, monitor.stands (threads.position thread) shared

theorem Kept.grows (kept : monitor.Kept shared threads) (grows : monitor.grows shared changed)
    (held : ∀ holder, monitor.Held shared holder → monitor.Held changed holder) :
    monitor.Kept changed threads where
  exclusive := kept.exclusive
  held := held _ kept.held
  stands thread := monitor.stable grows (kept.stands thread)

variable [DecidableEq Thread]

omit [DecidableEq Thread] in
theorem Kept.holding (kept : monitor.Kept shared threads)
    (here : monitor.inside (threads.position thread) = true) :
    monitor.holding (threads.position thread) shared := by
  have held := kept.held
  rw [kept.exclusive.holder_eq here] at held
  exact held

/-- After a move, the others still have what they rely on. -/
theorem Kept.stands_move (kept : monitor.Kept shared threads)
    (grows : monitor.grows shared changed) (stands : monitor.stands next changed)
    (other : Thread) :
    monitor.stands ((threads.move thread next).position other) changed := by
  by_cases same : other = thread
  · rw [same, Threads.position_move_self]
    exact stands
  · rw [Threads.position_move_of_ne same]
    exact monitor.stable grows (kept.stands other)

theorem Kept.lock (kept : monitor.Kept shared threads)
    (taken : threads.lock thread next = some after) (enters : monitor.inside next = true)
    (grows : monitor.grows shared changed)
    (holds : monitor.settled shared → monitor.holding next changed)
    (stands : monitor.stands next changed) : monitor.Kept changed after := by
  obtain ⟨exclusive, free, holder⟩ := kept.exclusive.lock enters taken
  obtain ⟨-, rfl⟩ := Threads.lock_eq_some taken
  have settled := kept.held
  rw [free] at settled
  refine ⟨exclusive, ?_, kept.stands_move grows stands⟩
  rw [holder]
  exact holds settled

/-- An access of the thread that has the mutex. -/
theorem Kept.inside (kept : monitor.Kept shared threads)
    (here : monitor.inside (threads.position thread) = true) (stays : monitor.inside next = true)
    (grows : monitor.grows shared changed) (holds : monitor.holding next changed)
    (stands : monitor.stands next changed) :
    monitor.Kept changed (threads.move thread next) := by
  refine ⟨kept.exclusive.move (stays.trans here.symm), ?_, kept.stands_move grows stands⟩
  rw [kept.exclusive.holder_move here]
  exact holds

theorem Kept.unlock (kept : monitor.Kept shared threads)
    (here : monitor.inside (threads.position thread) = true) (leaves : monitor.inside next = false)
    (grows : monitor.grows shared changed) (settled : monitor.settled changed)
    (stands : monitor.stands next changed) :
    monitor.Kept changed (threads.unlock thread next) :=
  ⟨kept.exclusive.unlock here leaves, settled, kept.stands_move grows stands⟩

/-- An access of a thread without the mutex, that what another keeps half done survives. -/
theorem Kept.outside (kept : monitor.Kept shared threads)
    (here : monitor.inside (threads.position thread) = false) (stays : monitor.inside next = false)
    (grows : monitor.grows shared changed)
    (held : ∀ holder, monitor.Held shared holder → monitor.Held changed holder)
    (stands : monitor.stands next changed) :
    monitor.Kept changed (threads.move thread next) := by
  refine ⟨kept.exclusive.move (stays.trans here.symm), ?_, kept.stands_move grows stands⟩
  rw [kept.exclusive.holder_move_outside here]
  exact held _ kept.held

end Monitor

end A5Common.Run
