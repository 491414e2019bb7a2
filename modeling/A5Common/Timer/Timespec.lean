set_option autoImplicit false

namespace A5Common.Timer

/-- A normalised `struct timespec`, its seconds unbounded. -/
structure Timespec where
  tv_sec : Int
  tv_nsec : Int
  normalised : 0 ≤ tv_nsec ∧ tv_nsec < 1000000000
deriving DecidableEq

namespace Timespec

def nanoseconds (t : Timespec) : Int :=
  t.tv_sec * 1000000000 + t.tv_nsec

instance : LE Timespec := ⟨fun t u => t.nanoseconds ≤ u.nanoseconds⟩

instance : LT Timespec := ⟨fun t u => t.nanoseconds < u.nanoseconds⟩

instance (t u : Timespec) : Decidable (t ≤ u) := Int.decLe _ _

instance (t u : Timespec) : Decidable (t < u) := Int.decLt _ _

theorem le_def {t u : Timespec} : t ≤ u ↔ t.nanoseconds ≤ u.nanoseconds := Iff.rfl

theorem le_refl (t : Timespec) : t ≤ t := Int.le_refl _

theorem le_trans {t u v : Timespec} (first : t ≤ u) (second : u ≤ v) : t ≤ v :=
  Int.le_trans first second

theorem not_le_of_lt {t u : Timespec} (before : t < u) : ¬ u ≤ t :=
  Int.not_le.mpr before

theorem tv_sec_mono {t u : Timespec} (before : t ≤ u) : t.tv_sec ≤ u.tv_sec := by
  have left := t.normalised
  have right := u.normalised
  simp only [le_def, nanoseconds] at before
  omega

def seconds (tv_sec : Int) : Timespec := ⟨tv_sec, 0, by decide⟩

def zero : Timespec := seconds 0

/-- The conversion of a `long` to an `int`. -/
def toInt32 (x : Int) : Int :=
  x.bmod 4294967296

theorem toInt32_of_small {x : Int} (low : -2147483648 ≤ x) (high : x < 2147483648) :
    toInt32 x = x := by
  unfold toInt32
  apply Int.bmod_eq_of_le <;> omega

theorem carry_normalised (nsec : Int) :
    0 ≤ nsec % 1000000000 ∧ nsec % 1000000000 < 1000000000 := by
  omega

/-- The `futureTime` of `LocTimer::start`: a delay in milliseconds, an
`unsigned int`, added to the clock. -/
def futureTime (now : Timespec) (timeOutInMs : BitVec 32) : Timespec :=
  let tv_sec := now.tv_sec + (timeOutInMs / 1000#32).toNat
  let tv_nsec := now.tv_nsec + ((timeOutInMs % 1000#32) * 1000000#32).toNat
  if carry : tv_nsec ≥ 1000000000 then
    ⟨tv_sec + tv_nsec / 1000000000, tv_nsec % 1000000000, carry_normalised tv_nsec⟩
  else
    ⟨tv_sec, tv_nsec, by
      have normal := now.normalised
      omega⟩

/-- The product of the nanoseconds does not wrap. -/
theorem toNat_nanoseconds (timeOutInMs : BitVec 32) :
    ((timeOutInMs % 1000#32) * 1000000#32).toNat = timeOutInMs.toNat % 1000 * 1000000 := by
  have fits : timeOutInMs.toNat % 1000 * 1000000 < 4294967296 := by omega
  have modulus : (1000#32).toNat = 1000 := rfl
  have factor : (1000000#32).toNat = 1000000 := rfl
  rw [BitVec.toNat_mul, BitVec.toNat_umod, modulus, factor]
  exact Nat.mod_eq_of_lt fits

theorem toNat_seconds (timeOutInMs : BitVec 32) :
    (timeOutInMs / 1000#32).toNat = timeOutInMs.toNat / 1000 := by
  simp only [BitVec.toNat_udiv, BitVec.toNat_ofNat, Nat.reducePow, Nat.reduceMod]

theorem futureTime_near (now : Timespec) (timeOutInMs : BitVec 32) :
    (now.futureTime timeOutInMs).tv_sec ≤ now.tv_sec + 4294968 := by
  have normal := now.normalised
  have seconds := toNat_seconds timeOutInMs
  have wide := timeOutInMs.isLt
  unfold futureTime
  dsimp only
  split
  · simp only [seconds, toNat_nanoseconds]
    omega
  · simp only [seconds]
    omega

theorem le_futureTime (now : Timespec) (timeOutInMs : BitVec 32) :
    now ≤ now.futureTime timeOutInMs := by
  have normal := now.normalised
  rw [le_def, nanoseconds, nanoseconds]
  unfold futureTime
  dsimp only
  split
  · dsimp only
    omega
  · dsimp only
    omega

/-- No delay from a clock that has left zero ends at zero. -/
theorem futureTime_ne_zero {now : Timespec} (booted : zero < now) (timeOutInMs : BitVec 32) :
    now.futureTime timeOutInMs ≠ zero := by
  intro same
  have later := le_futureTime now timeOutInMs
  rw [same] at later
  exact not_le_of_lt booted later

/-- `LocTimerDelegate::ranks`: the earlier of two times ranks higher. -/
def ranks (this timer : Timespec) : Int :=
  let rank := toInt32 (timer.tv_sec - this.tv_sec)
  if rank = 0 then toInt32 (timer.tv_nsec - this.tv_nsec) else rank

def outRanks (this timer : Timespec) : Bool :=
  0 < this.ranks timer

/-- Of two times that are near enough the earlier one ranks higher. -/
theorem outRanks_iff {this timer : Timespec}
    (before : this.tv_sec < timer.tv_sec + 2147483648)
    (after : timer.tv_sec < this.tv_sec + 2147483648) :
    this.outRanks timer = true ↔ this < timer := by
  have left := this.normalised
  have right := timer.normalised
  have seconds : toInt32 (timer.tv_sec - this.tv_sec) = timer.tv_sec - this.tv_sec := by
    apply toInt32_of_small <;> omega
  have rest : toInt32 (timer.tv_nsec - this.tv_nsec) = timer.tv_nsec - this.tv_nsec := by
    apply toInt32_of_small <;> omega
  have order : this < timer ↔ this.nanoseconds < timer.nanoseconds := Iff.rfl
  rw [order, nanoseconds, nanoseconds]
  simp only [outRanks, ranks, seconds, rest, decide_eq_true_eq]
  split <;> omega

/-- What does not rank below a reading of the clock, and cannot be so far ahead
that the difference changes its sign, has been reached. -/
theorem le_of_not_outRanks {now timer : Timespec} (near : timer.tv_sec ≤ now.tv_sec + 4294968)
    (reached : now.outRanks timer = false) : timer ≤ now := by
  have left := now.normalised
  have right := timer.normalised
  rw [le_def, nanoseconds, nanoseconds]
  by_cases earlier : timer.tv_sec < now.tv_sec
  · omega
  · have seconds : toInt32 (timer.tv_sec - now.tv_sec) = timer.tv_sec - now.tv_sec := by
      apply toInt32_of_small <;> omega
    have rest : toInt32 (timer.tv_nsec - now.tv_nsec) = timer.tv_nsec - now.tv_nsec := by
      apply toInt32_of_small <;> omega
    simp only [outRanks, ranks, seconds, rest, decide_eq_false_iff_not] at reached
    split at reached <;> omega

end Timespec

end A5Common.Timer
