import A5Common.Run.System

set_option autoImplicit false

namespace A5Common.Amplifier

open A5Common.Run

/-- The modes that have a reference count. `Audio_Mode_None` is no mode. -/
inductive TfaMode where
  | Audio_Mode_Music_Normal
  | Audio_Mode_Voice
deriving DecidableEq

theorem TfaMode.forall_iff {p : TfaMode → Prop} :
    (∀ tfa_mode, p tfa_mode) ↔ p .Audio_Mode_Music_Normal ∧ p .Audio_Mode_Voice := by
  constructor
  · exact fun all => ⟨all _, all _⟩
  · intro ⟨music, voice⟩ tfa_mode
    cases tfa_mode with
    | Audio_Mode_Music_Normal => exact music
    | Audio_Mode_Voice => exact voice

instance {p : TfaMode → Prop} [DecidablePred p] : Decidable (∀ tfa_mode, p tfa_mode) :=
  decidable_of_iff _ TfaMode.forall_iff.symm

inductive AmpState where
  | AMP_STATE_DISABLED
  | AMP_STATE_ENABLED
deriving DecidableEq

/-- The sound devices of the platform that the amplifier knows, as labels of one switch. -/
structure SndDevices where
  SND_DEVICE_OUT_SPEAKER : BitVec 32
  SND_DEVICE_OUT_SPEAKER_AND_HEADPHONES : BitVec 32
  SND_DEVICE_OUT_VOICE_SPEAKER : BitVec 32
  distinct : [SND_DEVICE_OUT_SPEAKER, SND_DEVICE_OUT_SPEAKER_AND_HEADPHONES,
    SND_DEVICE_OUT_VOICE_SPEAKER].Nodup

/-- The counts are of type `int`, and wrap as its representation does. -/
structure AmpDevice where
  refcount : TfaMode → BitVec 32
  amp_state : AmpState

namespace AmpDevice

/-- What `amp_module_open` leaves. -/
def opened : AmpDevice where
  refcount := fun _ => 0
  amp_state := .AMP_STATE_DISABLED

def setRefcount (tfa_mode : TfaMode) (count : BitVec 32) (dev : AmpDevice) : AmpDevice :=
  { dev with refcount := fun mode => if mode = tfa_mode then count else dev.refcount mode }

@[simp] theorem setRefcount_self (tfa_mode : TfaMode) (count : BitVec 32) (dev : AmpDevice) :
    (dev.setRefcount tfa_mode count).refcount tfa_mode = count :=
  if_pos rfl

@[simp] theorem setRefcount_state (tfa_mode : TfaMode) (count : BitVec 32) (dev : AmpDevice) :
    (dev.setRefcount tfa_mode count).amp_state = dev.amp_state :=
  rfl

theorem setRefcount_other {tfa_mode other : TfaMode} (differs : other ≠ tfa_mode)
    (count : BitVec 32) (dev : AmpDevice) :
    (dev.setRefcount tfa_mode count).refcount other = dev.refcount other :=
  if_neg differs

end AmpDevice

variable (snd : SndDevices)

def classifySndDevice (snd_device : BitVec 32) : Option TfaMode :=
  if snd_device = snd.SND_DEVICE_OUT_SPEAKER ∨
      snd_device = snd.SND_DEVICE_OUT_SPEAKER_AND_HEADPHONES then
    some .Audio_Mode_Music_Normal
  else if snd_device = snd.SND_DEVICE_OUT_VOICE_SPEAKER then some .Audio_Mode_Voice
  else none

/-- `amp_enable_output_devices` for a mode, with what `tfa_power` returns. -/
def AmpDevice.enableMode (tfa_mode : TfaMode) (enable : Bool) (tfa_power : Int)
    (dev : AmpDevice) : Int × AmpDevice :=
  let dev :=
    if enable then dev.setRefcount tfa_mode (dev.refcount tfa_mode + 1)
    else if 0 < (dev.refcount tfa_mode).toInt then
      dev.setRefcount tfa_mode (dev.refcount tfa_mode - 1)
    else dev
  if enable ∧ dev.amp_state = .AMP_STATE_DISABLED ∧ dev.refcount tfa_mode = 1 then
    (tfa_power, if tfa_power = 0 then { dev with amp_state := .AMP_STATE_ENABLED } else dev)
  else if !enable ∧ dev.amp_state = .AMP_STATE_ENABLED ∧ dev.refcount tfa_mode = 0 then
    (tfa_power, if tfa_power = 0 then { dev with amp_state := .AMP_STATE_DISABLED } else dev)
  else (0, dev)

def ampEnableOutputDevices (devices : BitVec 32) (enable : Bool) (tfa_power : Int)
    (dev : AmpDevice) : Int × AmpDevice :=
  match classifySndDevice snd devices with
  | none => (0, dev)
  | some tfa_mode => dev.enableMode tfa_mode enable tfa_power

/-- A call, with the result of the call of `tfa_power` that it may make. -/
structure Call where
  devices : BitVec 32
  enable : Bool
  tfa_power : Int
deriving DecidableEq

def amplifier : System AmpDevice Call where
  initial dev := dev = .opened
  step dev call :=
    some (ampEnableOutputDevices snd call.devices call.enable call.tfa_power dev).2

/-- The amplifier is on exactly if some mode is in use, and no count is negative. -/
structure PowerFollowsUse (dev : AmpDevice) : Prop where
  power : dev.amp_state = .AMP_STATE_ENABLED ↔ ∃ mode, 0 < (dev.refcount mode).toInt
  counts : ∀ mode, 0 ≤ (dev.refcount mode).toInt

/-- The last use of a mode ends only when no other mode is in use, and no use is one more
than an `int` counts. -/
def LastUseAlone (dev : AmpDevice) (call : Call) : Prop :=
  ∀ tfa_mode ∈ classifySndDevice snd call.devices,
    if call.enable then (dev.refcount tfa_mode).toInt < 2147483647
    else (dev.refcount tfa_mode).toInt ≤ 1 →
      ∀ other, other ≠ tfa_mode → (dev.refcount other).toInt ≤ 0

instance (dev : AmpDevice) (call : Call) : Decidable (LastUseAlone snd dev call) :=
  inferInstanceAs (Decidable (∀ tfa_mode ∈ classifySndDevice snd call.devices, ite _ _ _))

theorem toInt_zero : (0 : BitVec 32).toInt = 0 :=
  rfl

theorem toInt_succ {count : BitVec 32} (counted : 0 ≤ count.toInt) :
    (count + 1).toInt =
      if count.toInt < 2147483647 then count.toInt + 1 else -2147483648 := by
  have value := BitVec.toInt_eq_toNat_cond count
  have next := BitVec.toInt_eq_toNat_cond (count + 1)
  have one : (1 : BitVec 32).toNat = 1 := rfl
  rw [BitVec.toNat_add, one] at next
  have bound := count.isLt
  split at value <;> split at next <;> split <;> omega

theorem toInt_pred {count : BitVec 32} (used : 0 < count.toInt) :
    (count - 1).toInt = count.toInt - 1 := by
  have value := BitVec.toInt_eq_toNat_cond count
  have next := BitVec.toInt_eq_toNat_cond (count - 1)
  have one : (1 : BitVec 32).toNat = 1 := rfl
  rw [BitVec.toNat_sub, one] at next
  have bound := count.isLt
  split at value <;> split at next <;> omega

namespace AmpDevice

def InUse (dev : AmpDevice) : Prop :=
  ∃ mode, 0 < (dev.refcount mode).toInt

def OtherInUse (tfa_mode : TfaMode) (dev : AmpDevice) : Prop :=
  ∃ other, other ≠ tfa_mode ∧ 0 < (dev.refcount other).toInt

theorem inUse_iff (tfa_mode : TfaMode) (dev : AmpDevice) :
    dev.InUse ↔ 0 < (dev.refcount tfa_mode).toInt ∨ dev.OtherInUse tfa_mode := by
  constructor
  · intro ⟨mode, used⟩
    by_cases same : mode = tfa_mode
    · exact .inl (same ▸ used)
    · exact .inr ⟨mode, same, used⟩
  · rintro (used | ⟨other, -, used⟩)
    · exact ⟨tfa_mode, used⟩
    · exact ⟨other, used⟩

/-- A count that changes leaves the uses of the other modes. -/
theorem setRefcount_otherInUse (tfa_mode : TfaMode) (count : BitVec 32) (dev : AmpDevice) :
    (dev.setRefcount tfa_mode count).OtherInUse tfa_mode ↔ dev.OtherInUse tfa_mode := by
  constructor
  · intro ⟨other, differs, used⟩
    rw [setRefcount_other differs] at used
    exact ⟨other, differs, used⟩
  · intro ⟨other, differs, used⟩
    rw [← setRefcount_other differs count dev] at used
    exact ⟨other, differs, used⟩

/-- A use more: the power follows, unless the count wraps. -/
theorem enable_iff {dev : AmpDevice} (follows : PowerFollowsUse dev) (tfa_mode : TfaMode) :
    PowerFollowsUse (dev.enableMode tfa_mode true 0).2 ↔
      (dev.refcount tfa_mode).toInt < 2147483647 := by
  have counted := follows.counts tfa_mode
  have succ := toInt_succ counted
  constructor
  · intro after
    have kept := after.counts tfa_mode
    have same : ((dev.enableMode tfa_mode true 0).2.refcount tfa_mode) =
        dev.refcount tfa_mode + 1 := by
      simp only [enableMode, if_true, Bool.not_true, Bool.false_eq_true, false_and, if_false]
      split <;> exact setRefcount_self tfa_mode _ dev
    rw [same, succ] at kept
    split at kept
    · assumption
    · omega
  · intro small
    rw [if_pos small] at succ
    have used : (dev.setRefcount tfa_mode (dev.refcount tfa_mode + 1)).InUse := by
      refine ⟨tfa_mode, ?_⟩
      rw [setRefcount_self, succ]
      omega
    have counts : ∀ mode, 0 ≤
        ((dev.setRefcount tfa_mode (dev.refcount tfa_mode + 1)).refcount mode).toInt := by
      intro mode
      by_cases same : mode = tfa_mode
      · rw [same, setRefcount_self, succ]
        omega
      · rw [setRefcount_other same]
        exact follows.counts mode
    simp only [enableMode, if_true, Bool.not_true, Bool.false_eq_true, false_and, if_false,
      true_and]
    split
    · exact ⟨⟨fun _ => used, fun _ => rfl⟩, counts⟩
    · rename_i on
      refine ⟨⟨fun _ => used, fun _ => ?_⟩, counts⟩
      rw [setRefcount_state, setRefcount_self] at on
      cases state : dev.amp_state with
      | AMP_STATE_ENABLED => exact state
      | AMP_STATE_DISABLED =>
          -- the amplifier was off: no mode was in use, and this is the first use
          have unused : ¬ 0 < (dev.refcount tfa_mode).toInt := by
            intro before
            cases state.symm.trans (follows.power.mpr ⟨tfa_mode, before⟩)
          have first : dev.refcount tfa_mode = 0 := by
            apply BitVec.eq_of_toInt_eq
            rw [toInt_zero]
            omega
          exact absurd ⟨state, by rw [first]; rfl⟩ on

/-- A use less: the power follows, unless the last use of the mode ends with another mode
in use. -/
theorem disable_iff {dev : AmpDevice} (follows : PowerFollowsUse dev) (tfa_mode : TfaMode) :
    PowerFollowsUse (dev.enableMode tfa_mode false 0).2 ↔
      ((dev.refcount tfa_mode).toInt ≤ 1 → ¬ dev.OtherInUse tfa_mode) := by
  have counted := follows.counts tfa_mode
  by_cases used : 0 < (dev.refcount tfa_mode).toInt
  · have on : dev.amp_state = .AMP_STATE_ENABLED := follows.power.mpr ⟨tfa_mode, used⟩
    have pred := toInt_pred used
    have counts : ∀ mode, 0 ≤
        ((dev.setRefcount tfa_mode (dev.refcount tfa_mode - 1)).refcount mode).toInt := by
      intro mode
      by_cases same : mode = tfa_mode
      · rw [same, setRefcount_self, pred]
        omega
      · rw [setRefcount_other same]
        exact follows.counts mode
    by_cases last : (dev.refcount tfa_mode).toInt = 1
    · have gone : dev.refcount tfa_mode - 1 = 0 := by
        apply BitVec.eq_of_toInt_eq
        rw [pred, last]
        rfl
      have off : (dev.enableMode tfa_mode false 0).2 =
          { dev.setRefcount tfa_mode (dev.refcount tfa_mode - 1) with
            amp_state := .AMP_STATE_DISABLED } := by
        simp only [enableMode, Bool.false_eq_true, if_false, used, if_true, false_and,
          Bool.not_false, setRefcount_self, setRefcount_state, on, gone, and_self]
      rw [off]
      constructor
      · intro after _ other
        have inUse := (inUse_iff tfa_mode (dev.setRefcount tfa_mode _)).mpr
          (.inr ((setRefcount_otherInUse tfa_mode (dev.refcount tfa_mode - 1) dev).mpr other))
        exact AmpState.noConfusion (after.power.mpr inUse)
      · intro alone
        refine ⟨⟨nofun, fun inUse => ?_⟩, counts⟩
        rcases (inUse_iff tfa_mode (dev.setRefcount tfa_mode _)).mp inUse with left | other
        · rw [setRefcount_self, pred] at left
          omega
        · exact absurd ((setRefcount_otherInUse tfa_mode _ dev).mp other)
            (alone (Int.le_of_eq last))
    · have some_left : dev.refcount tfa_mode - 1 ≠ 0 := by
        intro gone
        rw [gone, toInt_zero] at pred
        omega
      have same : (dev.enableMode tfa_mode false 0).2 =
          dev.setRefcount tfa_mode (dev.refcount tfa_mode - 1) := by
        simp only [enableMode, Bool.false_eq_true, if_false, used, if_true, false_and,
          setRefcount_self, some_left, and_false]
      rw [same]
      refine iff_of_true ⟨⟨fun _ => ⟨tfa_mode, ?_⟩, fun _ => on⟩, counts⟩ ?_
      · rw [setRefcount_self, pred]
        omega
      · intro low
        omega
  · have unused : dev.refcount tfa_mode = 0 := by
      apply BitVec.eq_of_toInt_eq
      rw [toInt_zero]
      omega
    cases state : dev.amp_state with
    | AMP_STATE_ENABLED =>
        -- a mode that is not in use is disabled, and another one loses its power
        have off : (dev.enableMode tfa_mode false 0).2 =
            { dev with amp_state := .AMP_STATE_DISABLED } := by
          simp only [enableMode, Bool.false_eq_true, if_false, used, false_and, Bool.not_false,
            true_and, state]
          rw [if_pos unused, if_pos trivial]
        have inUse : dev.InUse := follows.power.mp state
        have other : dev.OtherInUse tfa_mode := ((inUse_iff tfa_mode dev).mp inUse).resolve_left used
        rw [off]
        refine iff_of_false (fun after => ?_) (fun alone => alone (by omega) other)
        exact AmpState.noConfusion (after.power.mpr inUse)
    | AMP_STATE_DISABLED =>
        have same : (dev.enableMode tfa_mode false 0).2 = dev := by
          simp only [enableMode, Bool.false_eq_true, if_false, used, false_and, state,
            reduceCtorEq, and_false]
        rw [same]
        refine iff_of_true follows ?_
        intro _ other
        have inUse := (inUse_iff tfa_mode dev).mpr (.inr other)
        cases state.symm.trans (follows.power.mpr inUse)

end AmpDevice

/-- The condition is the exact one for the next call. -/
theorem step_iff {dev after : AmpDevice} (follows : PowerFollowsUse dev) {call : Call}
    (powered : call.tfa_power = 0) (taken : (amplifier snd).step dev call = some after) :
    PowerFollowsUse after ↔ LastUseAlone snd dev call := by
  obtain ⟨devices, enable, tfa_power⟩ := call
  obtain rfl : tfa_power = 0 := powered
  obtain rfl := Option.some.inj taken
  unfold LastUseAlone ampEnableOutputDevices
  cases classifySndDevice snd devices with
  | none => exact iff_of_true follows nofun
  | some tfa_mode =>
      simp only [Option.mem_def, Option.some.injEq, forall_eq']
      cases enable with
      | true =>
          rw [if_pos rfl]
          exact AmpDevice.enable_iff follows tfa_mode
      | false =>
          rw [if_neg Bool.false_ne_true, AmpDevice.disable_iff follows tfa_mode]
          simp only [AmpDevice.OtherInUse, not_exists, not_and, Int.not_lt]

/-- With every call of `tfa_power` succeeding, the power follows the uses as long as no mode
is used for the last time while another mode is in use. The first call that does so is
the one after which it does not. -/
theorem amp_power_follows_use {dev : AmpDevice}
    (run : (amplifier snd).ReachableUnder
      (fun dev call => call.tfa_power = 0 ∧ LastUseAlone snd dev call) dev) :
    PowerFollowsUse dev ∧
      ∀ call after, call.tfa_power = 0 → (amplifier snd).step dev call = some after →
        (PowerFollowsUse after ↔ LastUseAlone snd dev call) := by
  have follows : PowerFollowsUse dev := by
    apply run.invariant PowerFollowsUse
    · intro dev first
      rw [first]
      exact ⟨⟨nofun, fun ⟨_, used⟩ => absurd used (Int.lt_irrefl 0)⟩, fun _ => Int.le_refl 0⟩
    · intro before call after _ follows met taken
      exact (step_iff snd follows met.1 taken).mpr met.2
  exact ⟨follows, fun call after powered taken => step_iff snd follows powered taken⟩

/-- The switch labels of some platform. -/
def sndDevices : SndDevices where
  SND_DEVICE_OUT_SPEAKER := 2
  SND_DEVICE_OUT_SPEAKER_AND_HEADPHONES := 8
  SND_DEVICE_OUT_VOICE_SPEAKER := 11
  distinct := by decide

/-- The speaker and then a voice call are used and released; then both are used at once, and
one of two uses of the speaker ends. -/
theorem amp_power_follows_use_both :
    ∃ dev, (amplifier sndDevices).execUnder
        (fun dev call => call.tfa_power = 0 ∧ LastUseAlone sndDevices dev call) .opened
        [⟨2, true, 0⟩, ⟨2, false, 0⟩, ⟨11, true, 0⟩, ⟨11, false, 0⟩, ⟨2, true, 0⟩, ⟨8, true, 0⟩,
          ⟨11, true, 0⟩, ⟨2, false, 0⟩] = some dev ∧
      (dev.amp_state = .AMP_STATE_ENABLED ∧ ∀ mode, dev.refcount mode = 1) ∧
      PowerFollowsUse dev ∧
      ∀ call after, call.tfa_power = 0 → (amplifier sndDevices).step dev call = some after →
        (PowerFollowsUse after ↔ LastUseAlone sndDevices dev call) := by
  apply System.execUnder_then rfl
  · intro dev run _
    exact amp_power_follows_use sndDevices run
  · decide +kernel

/-- The speaker is no more used for music, and a voice call loses its power. -/
theorem amp_power_lost :
    ¬ ∀ dev, (amplifier sndDevices).ReachableUnder (fun _ call => call.tfa_power = 0) dev →
      PowerFollowsUse dev := by
  intro follows
  have first : (amplifier sndDevices).initial .opened := rfl
  obtain ⟨dev, run, seen⟩ := System.reachableUnder_of_exec (fun _ call => call.tfa_power = 0) first
    [⟨2, true, 0⟩, ⟨11, true, 0⟩, ⟨2, false, 0⟩]
    (fun dev => decide (dev.amp_state = .AMP_STATE_DISABLED ∧
      0 < (dev.refcount .Audio_Mode_Voice).toInt)) (by decide +kernel)
  obtain ⟨off, used⟩ := of_decide_eq_true seen
  cases off.symm.trans ((follows dev run).power.mpr ⟨_, used⟩)

end A5Common.Amplifier
