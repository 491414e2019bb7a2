import Mathlib.Data.List.Basic

set_option autoImplicit false

namespace A5Common.Run

/-- A condition variable: the threads that wait for a wake-up, and those that have got one
and still have to take the mutex. -/
structure Condition (Thread : Type) where
  asleep : List Thread
  woken : List Thread

namespace Condition

variable {Thread : Type}

def idle : Condition Thread where
  asleep := []
  woken := []

def wait (thread : Thread) (cond : Condition Thread) : Condition Thread :=
  { cond with asleep := thread :: cond.asleep }

/-- One of the threads that wait is woken, if there is one. Which one is a choice. -/
def signal (choice : Nat) (cond : Condition Thread) : Condition Thread :=
  match cond.asleep[choice % cond.asleep.length]? with
  | none => cond
  | some thread =>
      { asleep := cond.asleep.eraseIdx (choice % cond.asleep.length)
        woken := thread :: cond.woken }

def broadcast (cond : Condition Thread) : Condition Thread where
  asleep := []
  woken := cond.asleep ++ cond.woken

/-- There are wake-ups for this many threads, or no thread waits for one. -/
def Covers (count : Nat) (cond : Condition Thread) : Prop :=
  cond.asleep = [] ∨ count ≤ cond.woken.length

section

variable [DecidableEq Thread]

/-- A thread wakes up without a signal. -/
def spurious (thread : Thread) (cond : Condition Thread) : Option (Condition Thread) :=
  if thread ∈ cond.asleep then
    some { asleep := cond.asleep.erase thread, woken := thread :: cond.woken }
  else none

/-- A thread that has been woken takes the mutex. -/
def resume (thread : Thread) (cond : Condition Thread) : Option (Condition Thread) :=
  if thread ∈ cond.woken then some { cond with woken := cond.woken.erase thread } else none

end

variable {count : Nat} {cond : Condition Thread}

theorem covers_zero : cond.Covers 0 :=
  Or.inr (Nat.zero_le _)

theorem Covers.mono (covers : cond.Covers count) {fewer : Nat} (le : fewer ≤ count) :
    cond.Covers fewer :=
  covers.imp_right (Nat.le_trans le)

theorem Covers.signal (covers : cond.Covers count) (choice : Nat) :
    (cond.signal choice).Covers (count + 1) := by
  unfold Condition.signal
  cases empty : cond.asleep with
  | nil => exact Or.inl empty
  | cons thread rest =>
      have enough := covers.resolve_left (empty ▸ List.cons_ne_nil thread rest)
      have inside := Nat.mod_lt choice (Nat.succ_pos rest.length)
      rw [List.length_cons, List.getElem?_eq_getElem inside]
      exact Or.inr (Nat.succ_le_succ enough)

/-- A signal does not lose a thread that waits or has been woken. -/
theorem signal_woken (known : cond.asleep ≠ [] ∨ cond.woken ≠ []) (choice : Nat) :
    (cond.signal choice).woken ≠ [] := by
  unfold Condition.signal
  cases waiting : cond.asleep with
  | nil => exact known.resolve_left (not_not.mpr waiting)
  | cons thread rest =>
      have inside := Nat.mod_lt choice (Nat.succ_pos rest.length)
      rw [List.length_cons, List.getElem?_eq_getElem inside]
      exact List.cons_ne_nil _ _

theorem broadcast_woken {thread : Thread} (waiting : thread ∈ cond.asleep) :
    thread ∈ cond.broadcast.woken :=
  List.mem_append_left _ waiting

/-- If threads wait although there is something for them, one of them has been woken. -/
theorem Covers.exists_woken (covers : cond.Covers count) (some_left : count ≠ 0)
    (waiting : cond.asleep ≠ []) : cond.woken ≠ [] := by
  intro none_woken
  have enough := covers.resolve_left waiting
  rw [none_woken] at enough
  exact some_left (Nat.le_zero.mp enough)

variable [DecidableEq Thread] {after : Condition Thread} {thread : Thread}

theorem Covers.spurious (covers : cond.Covers count)
    (woke : cond.spurious thread = some after) : after.Covers count := by
  unfold Condition.spurious at woke
  split at woke
  · rename_i waiting
    cases woke
    have enough := covers.resolve_left (List.ne_nil_of_mem waiting)
    exact Or.inr (Nat.le_succ_of_le enough)
  · cases woke

/-- A thread that wakes up without a signal has been woken. -/
theorem spurious_woken (woke : cond.spurious thread = some after) : after.woken ≠ [] := by
  unfold Condition.spurious at woke
  split at woke
  · cases woke
    exact List.cons_ne_nil _ _
  · cases woke

theorem exists_resume {cond : Condition Unit} (woken : cond.woken ≠ []) :
    ∃ after, cond.resume () = some after := by
  obtain ⟨thread, mem⟩ := List.exists_mem_of_ne_nil _ woken
  exact ⟨_, if_pos mem⟩

theorem resume_asleep (went : cond.resume thread = some after) : after.asleep = cond.asleep := by
  unfold Condition.resume at went
  split at went
  · cases went
    rfl
  · cases went

/-- Where no thread waits, none wakes up without a signal. -/
theorem spurious_nobody (nobody : cond.asleep = []) : cond.spurious thread = none := by
  unfold Condition.spurious
  rw [nobody]
  exact if_neg List.not_mem_nil

/-- A thread that goes on takes one wake-up with it. -/
theorem Covers.resume (covers : cond.Covers (count + 1))
    (went : cond.resume thread = some after) : after.Covers count := by
  unfold Condition.resume at went
  split at went
  · rename_i woken
    cases went
    apply covers.imp_right
    intro enough
    rw [List.length_erase_of_mem woken]
    exact Nat.le_sub_one_of_lt enough
  · cases went

end Condition

end A5Common.Run
