import A5Common.Timer.Container

set_option autoImplicit false

namespace A5Common.Timer

/-- A delay that is an `unsigned int` is added to the clock without loss, on
both sides of the carry. -/
theorem Timespec.nanoseconds_futureTime (now : Timespec) (timeOutInMs : BitVec 32) :
    (now.futureTime timeOutInMs).nanoseconds = now.nanoseconds + timeOutInMs.toNat * 1000000 := by
  have seconds := toNat_seconds timeOutInMs
  have parts : timeOutInMs.toNat = timeOutInMs.toNat / 1000 * 1000 + timeOutInMs.toNat % 1000 := by
    omega
  unfold futureTime
  dsimp only
  split
  · simp only [nanoseconds, seconds, toNat_nanoseconds]
    omega
  · simp only [nanoseconds, seconds, toNat_nanoseconds]
    omega

namespace LocTimerContainer

/-- `loc_timer_start` with a callback: the wrapper it makes has no timer yet, and
its delay becomes the `unsigned int` that `LocTimer::start` takes. -/
def locTimerStart (client : Nat) (msec : BitVec 64) (σ : LocTimerContainer) :
    LocTimerContainer :=
  start client (msec.setWidth 32) { σ with mTimer := Function.update σ.mTimer client none }

theorem locTimerStart_mTimer (client : Nat) (msec : BitVec 64) (σ : LocTimerContainer) :
    (σ.locTimerStart client msec).mTimer client =
      some ⟨σ.created, σ.clock.futureTime (msec.setWidth 32)⟩ := by
  unfold locTimerStart start
  simp only [Function.update_self, Option.isSome_none, Bool.false_eq_true, ↓reduceIte, sendMsg]

/-- The delegate of a wrapper's timer expires exactly `msec` milliseconds after
the reading of the clock. -/
def ExactDeadline (client : Nat) (msec : BitVec 64) (σ : LocTimerContainer) : Prop :=
  ∃ timer, (σ.locTimerStart client msec).mTimer client = some timer ∧
    timer.mFutureTime.nanoseconds = σ.clock.nanoseconds + msec.toNat * 1000000 ∧
    0 ≤ timer.mFutureTime.tv_nsec ∧ timer.mFutureTime.tv_nsec < 1000000000

/-- What is added is the remainder of the delay by 2^32. -/
theorem exactDeadline_iff_mod (client : Nat) (msec : BitVec 64) (σ : LocTimerContainer) :
    σ.ExactDeadline client msec ↔ msec.toNat % 4294967296 = msec.toNat := by
  have stored := locTimerStart_mTimer client msec σ
  have added := Timespec.nanoseconds_futureTime σ.clock (msec.setWidth 32)
  have cut : (msec.setWidth 32).toNat = msec.toNat % 4294967296 := BitVec.toNat_setWidth 32 msec
  rw [cut] at added
  constructor
  · intro ⟨timer, held, due, _⟩
    rw [stored] at held
    cases held
    dsimp only at due
    omega
  · intro kept
    rw [kept] at added
    exact ⟨_, stored, added, Timespec.normalised _⟩

/-- The delay is kept as far as an `unsigned int` goes, a little under fifty days. -/
theorem exactDeadline_iff (client : Nat) (msec : BitVec 64) (σ : LocTimerContainer) :
    σ.ExactDeadline client msec ↔ msec.toNat < 4294967296 := by
  rw [exactDeadline_iff_mod]
  omega

/-- Of 2^32 milliseconds nothing is left: the timer is due at once. -/
theorem deadline_lost : ¬ ∀ client msec σ, ExactDeadline client msec σ := by
  intro every
  have kept := (exactDeadline_iff_mod 0 4294967296#64 (new .zero)).mp (every _ _ _)
  exact absurd kept (by decide)

end LocTimerContainer

end A5Common.Timer
