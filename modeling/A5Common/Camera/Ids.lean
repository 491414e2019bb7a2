import A5Common.Camera.Params
import A5Common.Cfg.Param

set_option autoImplicit false

namespace A5Common.Camera

open A5Common.Cfg

theorem supportedIsoModes_isSome_iff (modes : IsoModes) (id : Int) :
    (supportedIsoModes modes id).isSome ↔ id = 0 := by
  unfold supportedIsoModes
  split
  · rename_i negative
    simp only [Option.isSome_none, Bool.false_eq_true, false_iff]
    omega
  · rename_i positive
    rw [isSome_getElem?]
    simp only [isoValues, List.length_singleton]
    omega

namespace CameraWrapper

variable {num_cameras : Nat} {σ after : CameraWrapper}

theorem slot_isSome_iff {slots : List (Option Nat)} (allocated : σ.fixed_set_params = some slots)
    (id : Int) : (σ.slot id).isSome ↔ 0 ≤ id ∧ id < slots.length := by
  unfold slot
  rw [allocated]
  split
  · rename_i negative
    simp only [Option.isSome_none, Bool.false_eq_true, false_iff]
    omega
  · rename_i positive
    rw [Option.bind_some, isSome_getElem?]
    omega

/-- A device that is opened has the id that was asked for, which is at most the number of
cameras. -/
theorem openDevice_success {cameraid : Int} {call : OpenCall}
    (success : σ.openDevice num_cameras cameraid call = (0, after)) :
    cameraid ≤ num_cameras ∧ after.devices σ.opened = some ⟨false, cameraid⟩ ∧
      after.fixed_set_params = σ.fixed_set_params := by
  unfold openDevice at success
  split at success
  · cases success
  · rename_i inside
    split at success
    · cases success
    · split at success
      · rename_i refused
        exact absurd (congrArg Prod.fst success) refused
      · split at success
        · cases success
        · cases success
          exact ⟨Int.not_lt.mp inside, Function.update_self .., rfl⟩

theorem open_success {cameraid : Int} {call : OpenCall}
    (success : σ.cameraDeviceOpen num_cameras { call with name := some cameraid } = (0, after)) :
    cameraid ≤ num_cameras ∧ after.devices σ.opened = some ⟨false, cameraid⟩ ∧
      after.fixed_set_params = some (.replicate num_cameras none) := by
  unfold cameraDeviceOpen at success
  obtain ⟨gVendorModule, same⟩ := checkVendorModule_same call.hw_get_module σ
  simp only [same] at success
  split at success
  · cases success
  · split at success
    · cases success
    · exact openDevice_success success

/-- Any device that is opened by this name has an id that is one of a camera and an index
of both arrays. -/
def IdInRange {F : Type} (platform : Platform F) (modes : IsoModes) (num_cameras : Nat)
    (name : List Char) : Prop :=
  ∀ (σ : CameraWrapper) (call : OpenCall) (after : CameraWrapper),
    σ.cameraDeviceOpen num_cameras
        { call with name := some (atoi platform name).toInt } = (0, after) →
      ∃ camera_device, after.devices σ.opened = some camera_device ∧
        0 ≤ camera_device.id ∧ camera_device.id < num_cameras ∧
        (after.slot camera_device.id).isSome ∧
        (supportedIsoModes modes camera_device.id).isSome

/-- A call in which everything has memory and the vendor takes the name. -/
def accepted : OpenCall :=
  ⟨none, 0, true, true, 0, true⟩

theorem open_accepted {cameraid : Int} (inside : cameraid ≤ num_cameras) :
    loaded.cameraDeviceOpen num_cameras { accepted with name := some cameraid } =
      (0, { loaded with
        gVendorModule := true
        fixed_set_params := some (.replicate num_cameras none)
        devices := Function.update loaded.devices 0 (some ⟨false, cameraid⟩)
        opened := 1 }) := by
  show openDevice num_cameras cameraid _ _ = _
  unfold openDevice
  rw [if_neg (Int.not_lt.mpr inside)]
  rfl

/-- The check lets the number of cameras and every negative number pass, and the ISO modes
have one entry. -/
theorem idInRange_iff {F : Type} (platform : Platform F) (modes : IsoModes) (num_cameras : Nat)
    (name : List Char) :
    IdInRange platform modes num_cameras name ↔
      num_cameras < (atoi platform name).toInt ∨
        (atoi platform name).toInt = 0 ∧ 0 < num_cameras := by
  constructor
  · intro inRange
    by_cases past : num_cameras < (atoi platform name).toInt
    · exact .inl past
    · obtain ⟨camera_device, opened, _, below, _, iso⟩ :=
        inRange loaded accepted _ (open_accepted (Int.not_lt.mp past))
      obtain rfl := Option.some.inj opened
      have first := (supportedIsoModes_isSome_iff modes _).mp iso
      dsimp only at first below
      exact .inr ⟨first, by omega⟩
  · intro allowed σ call after success
    obtain ⟨inside, opened, allocated⟩ := open_success success
    obtain past | ⟨first, some_camera⟩ := allowed
    · exact absurd past (Int.not_lt.mpr inside)
    · refine ⟨_, opened, Int.le_of_eq first.symm, ?_, ?_, ?_⟩
      · dsimp only
        omega
      · rw [slot_isSome_iff allocated, List.length_replicate]
        dsimp only
        omega
      · exact (supportedIsoModes_isSome_iff modes _).mpr first

/-- Of two cameras the third is opened. -/
theorem id_out_of_range : ¬ ∀ (modes : IsoModes) (num_cameras : Nat) (name : List Char),
    IdInRange lp64 modes num_cameras name := by
  intro every
  obtain ⟨camera_device, opened, _, below, _⟩ :=
    every ⟨false, false, false⟩ 2 ['2'] loaded accepted _ (open_accepted (by decide))
  obtain rfl := Option.some.inj opened
  exact absurd below (by decide)

end CameraWrapper

end A5Common.Camera
