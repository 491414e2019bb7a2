import A5Common.Timer.Deadline
import A5Common.Timer.HeapOrder
import Mathlib.Data.BitVec

set_option autoImplicit false

namespace A5Common.Timer

/-- A normalised `struct timespec` whose `time_t` and `long` have 32 bits. -/
structure Timespec32 where
  tv_sec : BitVec 32
  tv_nsec : BitVec 32
  normalised : 0 ≤ tv_nsec.toInt ∧ tv_nsec.toInt < 1000000000
deriving DecidableEq

namespace Timespec32

/-- The time without its bounds. -/
def time (t : Timespec32) : Timespec :=
  ⟨t.tv_sec.toInt, t.tv_nsec.toInt, t.normalised⟩

theorem toInt_nanoseconds (timeOutInMs : BitVec 32) :
    (timeOutInMs % 1000#32 * 1000000#32).toInt = timeOutInMs.toNat % 1000 * 1000000 := by
  have value := Timespec.toNat_nanoseconds timeOutInMs
  rw [BitVec.toInt_eq_toNat_of_lt (by omega), value]
  omega

theorem toInt_seconds (timeOutInMs : BitVec 32) :
    (timeOutInMs / 1000#32).toInt = timeOutInMs.toNat / 1000 := by
  have value := Timespec.toNat_seconds timeOutInMs
  rw [BitVec.toInt_eq_toNat_of_lt (by omega), value]
  omega

/-- The nanoseconds of a reading and a delay fit a `long`. -/
theorem toInt_tv_nsec (now : Timespec32) (timeOutInMs : BitVec 32) :
    (now.tv_nsec + timeOutInMs % 1000#32 * 1000000#32).toInt =
      now.tv_nsec.toInt + timeOutInMs.toNat % 1000 * 1000000 := by
  have normal := now.normalised
  rw [BitVec.toInt_add, toInt_nanoseconds]
  apply Int.bmod_eq_of_le <;> omega

theorem srem_normalised {tv_nsec : BitVec 32} (positive : 0 ≤ tv_nsec.toInt) :
    (tv_nsec.srem 1000000000#32).toInt = tv_nsec.toInt % 1000000000 := by
  have divisor : (1000000000#32).toInt = 1000000000 := by decide
  rw [BitVec.toInt_srem, divisor, Int.tmod_eq_emod_of_nonneg positive]

theorem toInt_carry {tv_nsec : BitVec 32} (positive : 0 ≤ tv_nsec.toInt) :
    (tv_nsec.sdiv 1000000000#32).toInt = tv_nsec.toInt / 1000000000 := by
  have divisor : (1000000000#32).toInt = 1000000000 := by decide
  have bound := BitVec.toInt_lt (x := tv_nsec)
  rw [BitVec.toInt_sdiv, divisor, Int.tdiv_eq_ediv_of_nonneg positive]
  apply Int.bmod_eq_of_le <;> omega

theorem sle_carry {tv_nsec : BitVec 32} :
    (1000000000#32).sle tv_nsec = true ↔ 1000000000 ≤ tv_nsec.toInt :=
  BitVec.sle_iff_toInt_le

/-- The `futureTime` of `LocTimer::start`. The sums with an `unsigned int` are unsigned and
are converted back, the others are signed. -/
def futureTime (now : Timespec32) (timeOutInMs : BitVec 32) : Timespec32 :=
  let tv_sec := now.tv_sec + timeOutInMs / 1000#32
  let tv_nsec := now.tv_nsec + timeOutInMs % 1000#32 * 1000000#32
  if carry : (1000000000#32).sle tv_nsec = true then
    ⟨tv_sec + tv_nsec.sdiv 1000000000#32, tv_nsec.srem 1000000000#32, by
      have large := sle_carry.mp carry
      rw [srem_normalised (by omega)]
      omega⟩
  else
    ⟨tv_sec, tv_nsec, by
      have small := mt sle_carry.mpr carry
      have sum := toInt_tv_nsec now timeOutInMs
      have normal := now.normalised
      rw [show tv_nsec.toInt = _ from sum] at small ⊢
      omega⟩

/-- `LocTimerDelegate::ranks`, of a delegate that is there. -/
def ranks (this timer : Timespec32) : BitVec 32 :=
  let rank := timer.tv_sec - this.tv_sec
  if rank = 0 then timer.tv_nsec - this.tv_nsec else rank

def outRanks (this timer : Timespec32) : Bool :=
  (0#32).slt (this.ranks timer)

/-- The differences of `ranks` are values of type `int`. -/
structure Fits (this timer : Timespec32) : Prop where
  tv_sec : BitVec.ssubOverflow timer.tv_sec this.tv_sec = false
  tv_nsec : BitVec.ssubOverflow timer.tv_nsec this.tv_nsec = false

theorem futureTime_of_carry {now : Timespec32} {timeOutInMs : BitVec 32}
    (carry : (1000000000#32).sle
      (now.tv_nsec + timeOutInMs % 1000#32 * 1000000#32) = true) :
    (now.futureTime timeOutInMs).tv_sec = now.tv_sec + timeOutInMs / 1000#32 +
        (now.tv_nsec + timeOutInMs % 1000#32 * 1000000#32).sdiv 1000000000#32 ∧
      (now.futureTime timeOutInMs).tv_nsec =
        (now.tv_nsec + timeOutInMs % 1000#32 * 1000000#32).srem 1000000000#32 := by
  have taken : now.futureTime timeOutInMs = _ := dif_pos carry
  rw [taken]
  exact ⟨rfl, rfl⟩

theorem futureTime_of_not_carry {now : Timespec32} {timeOutInMs : BitVec 32}
    (carry : ¬ (1000000000#32).sle
      (now.tv_nsec + timeOutInMs % 1000#32 * 1000000#32) = true) :
    (now.futureTime timeOutInMs).tv_sec = now.tv_sec + timeOutInMs / 1000#32 ∧
      (now.futureTime timeOutInMs).tv_nsec =
        now.tv_nsec + timeOutInMs % 1000#32 * 1000000#32 := by
  have passed : now.futureTime timeOutInMs = _ := dif_neg carry
  rw [passed]
  exact ⟨rfl, rfl⟩

/-- Past the carry the nanoseconds are what the seconds leave, and before it too. -/
theorem toInt_tv_nsec_futureTime (now : Timespec32) (timeOutInMs : BitVec 32) :
    (now.futureTime timeOutInMs).tv_nsec.toInt =
      (now.tv_nsec.toInt + timeOutInMs.toNat % 1000 * 1000000) % 1000000000 := by
  have normal := now.normalised
  have nsec := toInt_tv_nsec now timeOutInMs
  by_cases carry : (1000000000#32).sle
      (now.tv_nsec + timeOutInMs % 1000#32 * 1000000#32) = true
  · rw [(futureTime_of_carry carry).2, srem_normalised (by omega), nsec]
  · have small := mt sle_carry.mpr carry
    rw [(futureTime_of_not_carry carry).2]
    omega

theorem toInt_tv_sec_futureTime {now : Timespec32} {timeOutInMs : BitVec 32}
    (low : 0 ≤ now.tv_sec.toInt) (high : now.tv_sec.toInt ≤ 2147483647 - 4294968) :
    (now.futureTime timeOutInMs).tv_sec.toInt = now.tv_sec.toInt + timeOutInMs.toNat / 1000 +
      (now.tv_nsec.toInt + timeOutInMs.toNat % 1000 * 1000000) / 1000000000 := by
  have wide := timeOutInMs.isLt
  have normal := now.normalised
  have nsec := toInt_tv_nsec now timeOutInMs
  have sec : (now.tv_sec + timeOutInMs / 1000#32).toInt =
      now.tv_sec.toInt + timeOutInMs.toNat / 1000 := by
    rw [BitVec.toInt_add, toInt_seconds]
    apply Int.bmod_eq_of_le <;> omega
  by_cases carry : (1000000000#32).sle
      (now.tv_nsec + timeOutInMs % 1000#32 * 1000000#32) = true
  · rw [(futureTime_of_carry carry).1, BitVec.toInt_add, sec, toInt_carry (by omega), nsec]
    apply Int.bmod_eq_of_le <;> omega
  · have small := mt sle_carry.mpr carry
    rw [(futureTime_of_not_carry carry).1]
    omega

/-- With 32 bits the time is the one without bounds: nothing wraps. -/
theorem time_futureTime {now : Timespec32} {timeOutInMs : BitVec 32}
    (low : 0 ≤ now.tv_sec.toInt) (high : now.tv_sec.toInt ≤ 2147483647 - 4294968) :
    (now.futureTime timeOutInMs).time = now.time.futureTime timeOutInMs := by
  have total := Timespec.nanoseconds_futureTime now.time timeOutInMs
  have unbounded := (now.time.futureTime timeOutInMs).normalised
  have sec := @toInt_tv_sec_futureTime now timeOutInMs low high
  have nsec := toInt_tv_nsec_futureTime now timeOutInMs
  generalize now.time.futureTime timeOutInMs = future at total unbounded
  obtain ⟨tv_sec, tv_nsec, normal⟩ := future
  simp only [Timespec.nanoseconds, time] at total unbounded
  unfold time
  rw [Timespec.mk.injEq, sec, nsec]
  omega

/-- `ranks` is the one without bounds on the times, which wraps where it does. -/
theorem toInt_ranks (this timer : Timespec32) :
    (this.ranks timer).toInt = this.time.ranks timer.time := by
  have zero : timer.tv_sec - this.tv_sec = 0 ↔
      Timespec.toInt32 (timer.tv_sec.toInt - this.tv_sec.toInt) = 0 := by
    rw [← BitVec.toInt_inj, BitVec.toInt_sub]
    rfl
  unfold ranks Timespec.ranks time
  dsimp only
  by_cases same : timer.tv_sec - this.tv_sec = 0
  · rw [if_pos same, if_pos (zero.mp same), BitVec.toInt_sub]
    rfl
  · rw [if_neg same, if_neg (mt zero.mpr same), BitVec.toInt_sub]
    rfl

theorem outRanks_time (this timer : Timespec32) :
    this.outRanks timer = this.time.outRanks timer.time := by
  unfold outRanks Timespec.outRanks
  rw [← toInt_ranks, Bool.eq_iff_iff, BitVec.slt_iff_toInt_lt, decide_eq_true_eq]
  rfl

/-- Between times whose seconds are not negative no difference wraps. -/
theorem fits {this timer : Timespec32} (before : 0 ≤ this.tv_sec.toInt)
    (after : 0 ≤ timer.tv_sec.toInt) : Fits this timer := by
  have left := this.normalised
  have right := timer.normalised
  have highest := BitVec.toInt_lt (x := this.tv_sec)
  have furthest := BitVec.toInt_lt (x := timer.tv_sec)
  constructor
  · unfold BitVec.ssubOverflow
    simp only [Bool.or_eq_false_iff, decide_eq_false_iff_not]
    omega
  · unfold BitVec.ssubOverflow
    simp only [Bool.or_eq_false_iff, decide_eq_false_iff_not]
    omega

/-- A rank that does not wrap has the sign of the time between the two. -/
theorem sign_ranks {this timer : Timespec32} (fits : Fits this timer) :
    (this.ranks timer).toInt.sign =
      (timer.time.nanoseconds - this.time.nanoseconds).sign := by
  have left := this.normalised
  have right := timer.normalised
  have seconds := BitVec.toInt_sub_of_not_ssubOverflow (ne_true_of_eq_false fits.tv_sec)
  have rest := BitVec.toInt_sub_of_not_ssubOverflow (ne_true_of_eq_false fits.tv_nsec)
  unfold ranks Timespec.nanoseconds time
  dsimp only
  split
  · rename_i same
    rw [same] at seconds
    have level : timer.tv_sec.toInt - this.tv_sec.toInt = 0 := seconds.symm
    rw [rest]
    congr 1
    omega
  · rename_i other
    have apart : timer.tv_sec.toInt - this.tv_sec.toInt ≠ 0 := by
      rw [← seconds, ← BitVec.toInt_zero, Ne, BitVec.toInt_inj]
      exact other
    rw [seconds]
    -- One second outweighs what the nanoseconds can differ by.
    obtain later | earlier := Int.lt_or_gt_of_ne apart
    · rw [Int.sign_eq_neg_one_of_neg later, Int.sign_eq_neg_one_of_neg (by omega)]
    · rw [Int.sign_eq_one_of_pos earlier, Int.sign_eq_one_of_pos (by omega)]

/-- The bits of a time are its nanoseconds. -/
theorem eq_of_nanoseconds {this timer : Timespec32}
    (same : this.time.nanoseconds = timer.time.nanoseconds) : this = timer := by
  have left := this.normalised
  have right := timer.normalised
  unfold Timespec.nanoseconds time at same
  obtain ⟨tv_sec, tv_nsec, normal⟩ := this
  dsimp only at same left
  rw [mk.injEq]
  constructor
  · apply BitVec.eq_of_toInt_eq
    omega
  · apply BitVec.eq_of_toInt_eq
    omega

end Timespec32

/-- A `LocTimer::start` that makes a delegate: its argument and the clock it reads. -/
structure StartCall where
  now : Timespec32
  timeOutInMs : BitVec 32
  clock : 0 ≤ now.tv_sec.toInt ∧ now.tv_sec.toInt ≤ 2147483647 - 4294968

namespace StartCall

/-- The deadline that the delegate is made with. -/
def mFutureTime (call : StartCall) : Timespec32 :=
  call.now.futureTime call.timeOutInMs

/-- The delay after the reading of the clock, in nanoseconds. -/
def instant (call : StartCall) : Int :=
  call.now.time.nanoseconds + call.timeOutInMs.toNat * 1000000

theorem nanoseconds_mFutureTime (call : StartCall) :
    call.mFutureTime.time.nanoseconds = call.instant := by
  rw [mFutureTime, Timespec32.time_futureTime call.clock.1 call.clock.2]
  exact Timespec.nanoseconds_futureTime call.now.time call.timeOutInMs

theorem tv_sec_nonneg (call : StartCall) : 0 ≤ call.mFutureTime.tv_sec.toInt := by
  have normal := call.now.normalised
  have low := call.clock.1
  rw [mFutureTime, Timespec32.toInt_tv_sec_futureTime low call.clock.2]
  omega

theorem fits (a b : StartCall) : Timespec32.Fits a.mFutureTime b.mFutureTime :=
  Timespec32.fits a.tv_sec_nonneg b.tv_sec_nonneg

/-- Of two deadlines the one that outranks the other is meant for before it. -/
theorem outRanks_iff (a b : StartCall) :
    a.mFutureTime.outRanks b.mFutureTime = true ↔ a.instant < b.instant := by
  have lowest := a.tv_sec_nonneg
  have least := b.tv_sec_nonneg
  have highest := BitVec.toInt_lt (x := a.mFutureTime.tv_sec)
  have most := BitVec.toInt_lt (x := b.mFutureTime.tv_sec)
  have before : a.mFutureTime.time.tv_sec < b.mFutureTime.time.tv_sec + 2147483648 := by
    dsimp only [Timespec32.time]
    omega
  have after : b.mFutureTime.time.tv_sec < a.mFutureTime.time.tv_sec + 2147483648 := by
    dsimp only [Timespec32.time]
    omega
  rw [Timespec32.outRanks_time, Timespec.outRanks_iff before after,
    ← nanoseconds_mFutureTime, ← nanoseconds_mFutureTime]
  rfl

end StartCall

/-- The rank of two deadlines has the sign of the time between them, and none of its
differences wraps: `outRanks` is the strict part of a total preorder whose equivalent
deadlines are equal. -/
theorem ranks_chronological :
    (∀ call : StartCall, call.mFutureTime.time.nanoseconds = call.instant) ∧
    (∀ a b : StartCall, Timespec32.Fits a.mFutureTime b.mFutureTime ∧
      (a.mFutureTime.ranks b.mFutureTime).toInt.sign = (b.instant - a.instant).sign) ∧
    (∀ a : StartCall, a.mFutureTime.outRanks a.mFutureTime = false) ∧
    (∀ a b c : StartCall, a.mFutureTime.outRanks b.mFutureTime = true →
      b.mFutureTime.outRanks c.mFutureTime = true →
      a.mFutureTime.outRanks c.mFutureTime = true) ∧
    (∀ a b : StartCall, a.mFutureTime.outRanks b.mFutureTime = true ∨
      b.mFutureTime.outRanks a.mFutureTime = true ∨ a.mFutureTime = b.mFutureTime) ∧
    RanksBy (fun a b : StartCall => a.mFutureTime.outRanks b.mFutureTime)
      (fun a b => b.instant ≤ a.instant) := by
  refine ⟨StartCall.nanoseconds_mFutureTime, ?_, ?_, ?_, ?_,
    .of_key StartCall.instant StartCall.outRanks_iff⟩
  · intro a b
    refine ⟨StartCall.fits a b, ?_⟩
    rw [Timespec32.sign_ranks (StartCall.fits a b), StartCall.nanoseconds_mFutureTime,
      StartCall.nanoseconds_mFutureTime]
  · intro a
    rw [← Bool.not_eq_true, StartCall.outRanks_iff]
    exact Int.lt_irrefl _
  · intro a b c first second
    rw [StartCall.outRanks_iff] at first second ⊢
    exact Int.lt_trans first second
  · intro a b
    rw [StartCall.outRanks_iff, StartCall.outRanks_iff]
    obtain earlier | same | later := Int.lt_trichotomy a.instant b.instant
    · exact .inl earlier
    · refine .inr (.inr (Timespec32.eq_of_nanoseconds ?_))
      rw [StartCall.nanoseconds_mFutureTime, StartCall.nanoseconds_mFutureTime, same]
    · exact .inr (.inl later)

end A5Common.Timer
