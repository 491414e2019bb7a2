import A5Common.Camera.CameraWrapper
import Mathlib.Data.List.Perm.Basic

set_option autoImplicit false

namespace A5Common.Camera

open A5Common.Run

namespace CameraWrapper

/-- A string that is stored is in one slot or has been freed once, and not both. It is used
only before it is freed, and when no device is open it has been freed. The vendor's release
is called at most once for a device. -/
structure ParamsOwned (σ : CameraWrapper) : Prop where
  defined : σ.undefined = false
  once : (σ.held ++ σ.freed).Perm (List.range σ.stored)
  used : σ.usedFreed = false
  closed : (∀ device, σ.devices device = none) → σ.held = []
  released : ∀ device, σ.releases device ≤ 1

/-- What makes a call safe: `open` gets past the vendor module, and `close` frees, only
when no slot has a string, `set_parameters` has a slot for its camera and `get_parameters`
an entry of `iso_values`, and `release` is not called. -/
def Safe (modes : IsoModes) (num_cameras : Nat) (σ : CameraWrapper) : Call → Prop
  | .open call =>
      call.name ≠ none → (σ.checkVendorModule call.hw_get_module).1 = 0 → σ.held = []
  | .set_parameters (some device) _ =>
      ∀ wrapper_dev ∈ σ.devices device, (σ.slot wrapper_dev.id).isSome = true
  | .get_parameters (some device) _ =>
      ∀ wrapper_dev ∈ σ.devices device, (supportedIsoModes modes wrapper_dev.id).isSome = true
  | .release (some _) => False
  | .close (some _) => σ.held = [] ∧ (σ.fixed_set_params = none → num_cameras = 0)
  | _ => True

instance (modes : IsoModes) (num_cameras : Nat) (σ : CameraWrapper) (call : Call) :
    Decidable (Safe modes num_cameras σ call) :=
  match call with
  | .open call =>
      inferInstanceAs (Decidable
        (call.name ≠ none → (σ.checkVendorModule call.hw_get_module).1 = 0 → σ.held = []))
  | .set_parameters (some device) _ =>
      inferInstanceAs (Decidable
        (∀ wrapper_dev ∈ σ.devices device, (σ.slot wrapper_dev.id).isSome = true))
  | .get_parameters (some device) _ =>
      inferInstanceAs (Decidable
        (∀ wrapper_dev ∈ σ.devices device, (supportedIsoModes modes wrapper_dev.id).isSome = true))
  | .release (some _) => .isFalse False.elim
  | .close (some _) =>
      inferInstanceAs (Decidable
        (σ.held = [] ∧ (σ.fixed_set_params = none → num_cameras = 0)))
  | .set_parameters none _ | .get_parameters none _ | .put_parameters _ | .release none
  | .close none => .isTrue trivial

/-- The array has a slot for each camera, and a device that is open has not been released. -/
structure Shaped (num_cameras : Nat) (σ : CameraWrapper) : Prop where
  slots : ∀ slots ∈ σ.fixed_set_params, slots.length = num_cameras
  fresh : ∀ device, σ.opened ≤ device → σ.devices device = none ∧ σ.releases device = 0
  unreleased : ∀ device wrapper_dev, σ.devices device = some wrapper_dev →
    wrapper_dev.camera_released = false ∧ σ.releases device = 0

theorem loaded_owned : loaded.ParamsOwned where
  defined := rfl
  once := List.Perm.refl _
  used := rfl
  closed _ := rfl
  released _ := Nat.zero_le _

theorem loaded_shaped (num_cameras : Nat) : loaded.Shaped num_cameras where
  slots _ := nofun
  fresh _ _ := ⟨rfl, rfl⟩
  unreleased _ _ := nofun

variable {modes : IsoModes} {num_cameras : Nat} {σ after : CameraWrapper}

theorem reduceOption_cons (slot : Option Nat) (rest : List (Option Nat)) :
    (slot :: rest).reduceOption = slot.toList ++ rest.reduceOption := by
  cases slot with
  | none => rfl
  | some str => rfl

/-- A slot that gets another string gives its old one away. -/
theorem reduceOption_set {slots : List (Option Nat)} {i : Nat} {old : Option Nat}
    (found : slots[i]? = some old) (new : Option Nat) :
    ((slots.set i new).reduceOption ++ old.toList).Perm (slots.reduceOption ++ new.toList) := by
  induction slots generalizing i with
  | nil => cases found
  | cons slot rest ih =>
      cases i with
      | zero =>
          cases found
          rw [List.set_cons_zero, reduceOption_cons, reduceOption_cons, List.perm_iff_count]
          intro str
          simp only [List.count_append]
          omega
      | succ i =>
          have tail := @ih i found
          rw [List.set_cons_succ, reduceOption_cons, reduceOption_cons, List.append_assoc,
            List.append_assoc]
          exact tail.append_left _

theorem range_flatMap_slots (slots : List (Option Nat)) :
    (List.range slots.length).flatMap (fun i => slots[i]?.join.toList) = slots.reduceOption := by
  induction slots with
  | nil => rfl
  | cons slot rest ih =>
      rw [List.length_cons, List.range_succ_eq_map, List.flatMap_cons, List.flatMap_map,
        reduceOption_cons, ← ih]
      rfl

/-- What a loop over these slots frees. -/
theorem freeSlots_eq {is : List Nat} {strs : Nat → Option Nat}
    (found : ∀ i ∈ is, σ.slot i = some (strs i)) :
    is.foldlM (fun σ i => freeSlot i σ) σ =
      some { σ with freed := σ.freed ++ is.flatMap (fun i => (strs i).toList) } := by
  induction is generalizing σ with
  | nil =>
      rw [List.flatMap_nil, List.append_nil]
      rfl
  | cons i rest ih =>
      rw [List.forall_mem_cons] at found
      rw [List.foldlM_cons, freeSlot, found.1, Option.map_some, Option.bind_eq_bind,
        Option.bind_some]
      rw [@ih { σ with freed := σ.freed ++ (strs i).toList } found.2, List.flatMap_cons,
        List.append_assoc]

/-- The loop of a close reads every slot and frees its string. -/
theorem freeParams_eq (shaped : σ.Shaped num_cameras) :
    σ.freeParams num_cameras =
      if σ.fixed_set_params = none ∧ num_cameras ≠ 0 then none
      else some { σ with freed := σ.freed ++ σ.held } := by
  unfold freeParams
  cases array : σ.fixed_set_params with
  | none =>
      cases num_cameras with
      | zero =>
          have empty : σ.held = [] := by
            unfold held
            rw [array]
            rfl
          rw [empty, List.append_nil, if_neg (fun missing => missing.2 rfl), ← array]
          rfl
      | succ rest =>
          have missing : σ.slot (0 : Nat) = none := by
            unfold slot
            rw [array]
            rfl
          rw [List.range_succ_eq_map, List.foldlM_cons, freeSlot, missing]
          rfl
  | some slots =>
      have length := shaped.slots slots array
      have found : ∀ i ∈ List.range num_cameras, σ.slot (i : Nat) = some slots[i]?.join := by
        intro i inside
        rw [List.mem_range, ← length] at inside
        unfold slot
        rw [if_neg (Int.not_lt.mpr (Int.natCast_nonneg i)), array, Option.bind_some,
          Int.toNat_natCast, List.getElem?_eq_getElem inside]
        rfl
      have held_eq : σ.held = slots.reduceOption := by
        unfold held
        rw [array]
        rfl
      rw [freeSlots_eq found, ← length, range_flatMap_slots, ← held_eq, if_neg nofun, ← array]

theorem ParamsOwned.length (owned : σ.ParamsOwned) :
    σ.held.length + σ.freed.length = σ.stored := by
  have length := owned.once.length_eq
  rw [List.length_append, List.length_range] at length
  exact length

/-- What keeps the strings and their slots, the devices and the releases keeps the property. -/
theorem ParamsOwned.same (owned : σ.ParamsOwned) (defined : after.undefined = σ.undefined)
    (held : after.held = σ.held) (freed : after.freed = σ.freed) (stored : after.stored = σ.stored)
    (used : after.usedFreed = σ.usedFreed) (devices : after.devices = σ.devices)
    (releases : after.releases = σ.releases) : after.ParamsOwned where
  defined := defined.trans owned.defined
  once := by
    rw [held, freed, stored]
    exact owned.once
  used := used.trans owned.used
  closed none_open := held.trans (owned.closed (devices ▸ none_open))
  released device := releases ▸ owned.released device

/-- A new array has no strings: those of the old one are lost. -/
theorem ParamsOwned.replace_iff (owned : σ.ParamsOwned) (defined : after.undefined = false)
    (empty : after.held = []) (freed : after.freed = σ.freed) (stored : after.stored = σ.stored)
    (used : after.usedFreed = σ.usedFreed) (releases : after.releases = σ.releases) :
    after.ParamsOwned ↔ σ.held = [] := by
  constructor
  · intro kept
    have before := owned.length
    have now := kept.length
    rw [empty, freed, stored, List.length_nil] at now
    exact List.eq_nil_of_length_eq_zero (by omega)
  · intro none_held
    have once := owned.once
    rw [none_held, ← empty, ← freed, ← stored] at once
    exact ⟨defined, once, used.trans owned.used, fun _ => empty,
      fun device => releases ▸ owned.released device⟩

theorem checkVendorModule_same (hw_get_module : Int) (σ : CameraWrapper) :
    ∃ loaded, (σ.checkVendorModule hw_get_module).2 = { σ with gVendorModule := loaded } := by
  unfold checkVendorModule
  split
  · exact ⟨σ.gVendorModule, rfl⟩
  · exact ⟨_, rfl⟩

/-- `openDevice` leaves everything but the devices. -/
theorem openDevice_same (cameraid : Int) (call : OpenCall) (σ : CameraWrapper) :
    ∃ devices opened, (σ.openDevice num_cameras cameraid call).2 =
      { σ with devices := devices, opened := opened } := by
  unfold openDevice
  split
  · exact ⟨σ.devices, σ.opened, rfl⟩
  · split
    · exact ⟨σ.devices, σ.opened, rfl⟩
    · split
      · exact ⟨σ.devices, σ.opened, rfl⟩
      · split
        · exact ⟨σ.devices, σ.opened, rfl⟩
        · exact ⟨_, _, rfl⟩

theorem open_iff (owned : σ.ParamsOwned) (call : OpenCall) :
    (σ.cameraDeviceOpen num_cameras call).2.ParamsOwned ↔
      Safe modes num_cameras σ (.open call) := by
  show _ ↔ (call.name ≠ none → (σ.checkVendorModule call.hw_get_module).1 = 0 → σ.held = [])
  unfold cameraDeviceOpen
  cases name : call.name with
  | none => exact ⟨fun _ given => absurd rfl given, fun _ => owned⟩
  | some cameraid =>
      obtain ⟨loaded, same⟩ := checkVendorModule_same call.hw_get_module σ
      simp only [same]
      by_cases found : (σ.checkVendorModule call.hw_get_module).1 = 0
      · have safe_iff : (some cameraid ≠ none →
            (σ.checkVendorModule call.hw_get_module).1 = 0 → σ.held = []) ↔ σ.held = [] :=
          ⟨fun safe => safe nofun found, fun none_held _ _ => none_held⟩
        rw [safe_iff, if_neg (not_not.mpr found)]
        split
        · exact owned.replace_iff owned.defined rfl rfl rfl rfl rfl
        · obtain ⟨devices, opened, same⟩ := @openDevice_same num_cameras cameraid call { σ with
            gVendorModule := loaded
            fixed_set_params := some (.replicate num_cameras none) }
          rw [same]
          exact owned.replace_iff owned.defined List.reduceOption_replicate_none rfl rfl rfl rfl
      · rw [if_pos found]
        exact ⟨fun _ _ loads => absurd loads found,
          fun _ => owned.same rfl rfl rfl rfl rfl rfl rfl⟩

theorem slot_eq_some {id : Int} {old : Option Nat} (found : σ.slot id = some old) :
    ∃ slots, σ.fixed_set_params = some slots ∧ slots[id.toNat]? = some old := by
  unfold slot at found
  split at found
  · cases found
  · exact Option.bind_eq_some_iff.mp found

theorem cameraSetParameters_eq {wrapper_dev : WrapperCameraDevice} {old : Option Nat}
    (found : σ.slot wrapper_dev.id = some old) (strdup : Bool) :
    σ.cameraSetParameters wrapper_dev strdup =
      vendorSetParameters (if strdup then some σ.stored else none) { σ with
        fixed_set_params := σ.fixed_set_params.map (fun slots =>
          slots.set wrapper_dev.id.toNat (if strdup then some σ.stored else none))
        stored := σ.stored + (if strdup then some σ.stored else none).toList.length
        freed := σ.freed ++ old.toList } := by
  unfold cameraSetParameters storeParams
  rw [found]
  rfl

theorem ParamsOwned.lt_stored (owned : σ.ParamsOwned) {str : Nat}
    (member : str ∈ σ.held ++ σ.freed) : str < σ.stored :=
  List.mem_range.mp (owned.once.mem_iff.mp member)

/-- The strings that have been stored after `strdup`. -/
theorem range_strdup (stored : Nat) (strdup : Bool) :
    List.range (stored + (if strdup then some stored else none).toList.length) =
      List.range stored ++ (if strdup then some stored else none).toList := by
  cases strdup with
  | false => exact (List.append_nil _).symm
  | true => exact List.range_succ

/-- The new string takes the place of the old one, which is freed. -/
theorem set_parameters_owned (owned : σ.ParamsOwned) {device : Nat}
    {wrapper_dev : WrapperCameraDevice} (here : σ.devices device = some wrapper_dev)
    {old : Option Nat} (found : σ.slot wrapper_dev.id = some old) (strdup : Bool) :
    (σ.cameraSetParameters wrapper_dev strdup).ParamsOwned := by
  obtain ⟨slots, array, at_id⟩ := slot_eq_some found
  have held_eq : σ.held = slots.reduceOption := by
    unfold held
    rw [array]
    rfl
  rw [cameraSetParameters_eq found, array]
  refine ⟨owned.defined, ?_, ?_, fun none_open => ?_, owned.released⟩
  · have moved := reduceOption_set at_id (if strdup then some σ.stored else none)
    have before := owned.once
    show List.Perm (List.reduceOption (slots.set wrapper_dev.id.toNat _) ++ (σ.freed ++ old.toList))
      (List.range (σ.stored + _))
    rw [range_strdup]
    rw [held_eq, List.perm_iff_count] at before
    rw [List.perm_iff_count] at moved ⊢
    intro str
    have counts := moved str
    have total := before str
    rw [List.count_append, List.count_append] at counts
    rw [List.count_append] at total
    rw [List.count_append, List.count_append, List.count_append, ← total]
    omega
  · have unused : σ.stored ∉ σ.freed ++ old.toList := by
      intro member
      rcases List.mem_append.mp member with freed | replaced
      · exact Nat.lt_irrefl _ (owned.lt_stored (List.mem_append_right _ freed))
      · have in_slot : σ.stored ∈ σ.held := by
          rw [held_eq, List.reduceOption_mem_iff, ← Option.mem_toList.mp replaced]
          exact List.mem_of_getElem? at_id
        exact Nat.lt_irrefl _ (owned.lt_stored (List.mem_append_left _ in_slot))
    cases strdup with
    | false => exact (Bool.or_false _).trans owned.used
    | true =>
        show (σ.usedFreed || decide (σ.stored ∈ σ.freed ++ old.toList)) = false
        rw [decide_eq_false unused, Bool.or_false, owned.used]
  · cases here.symm.trans (none_open device)

theorem set_parameters_iff (owned : σ.ParamsOwned) {device : Nat}
    {wrapper_dev : WrapperCameraDevice} (here : σ.devices device = some wrapper_dev)
    (strdup : Bool) :
    (σ.cameraSetParameters wrapper_dev strdup).ParamsOwned ↔
      (σ.slot wrapper_dev.id).isSome = true := by
  cases found : σ.slot wrapper_dev.id with
  | none =>
      unfold cameraSetParameters storeParams
      rw [found]
      exact ⟨fun kept => absurd kept.defined nofun, nofun⟩
  | some old => exact iff_of_true (set_parameters_owned owned here found strdup) rfl

/-- What a close does, if there is an array. -/
theorem cameraDeviceClose_eq (shaped : σ.Shaped num_cameras) {device : Nat}
    {wrapper_dev : WrapperCameraDevice} (here : σ.devices device = some wrapper_dev) :
    σ.cameraDeviceClose num_cameras device wrapper_dev =
      if σ.fixed_set_params = none ∧ num_cameras ≠ 0 then { σ with undefined := true }
      else { σ with
        freed := σ.freed ++ σ.held
        releases := Function.update σ.releases device (σ.releases device + 1)
        devices := Function.update σ.devices device none } := by
  unfold cameraDeviceClose
  rw [freeParams_eq shaped, (shaped.unreleased device wrapper_dev here).1]
  by_cases missing : σ.fixed_set_params = none ∧ num_cameras ≠ 0
  · rw [if_pos missing, if_pos missing]
  · rw [if_neg missing, if_neg missing]
    rfl

/-- The strings in the slots are freed, and stay there. -/
theorem close_iff (owned : σ.ParamsOwned) (shaped : σ.Shaped num_cameras) {device : Nat}
    {wrapper_dev : WrapperCameraDevice} (here : σ.devices device = some wrapper_dev) :
    (σ.cameraDeviceClose num_cameras device wrapper_dev).ParamsOwned ↔
      Safe modes num_cameras σ (.close (some device)) := by
  have releases := (shaped.unreleased device wrapper_dev here).2
  unfold Safe
  rw [cameraDeviceClose_eq shaped here]
  by_cases missing : σ.fixed_set_params = none ∧ num_cameras ≠ 0
  · rw [if_pos missing]
    exact ⟨fun kept => absurd kept.defined nofun,
      fun safe => absurd (safe.2 missing.1) missing.2⟩
  · rw [if_neg missing]
    constructor
    · intro kept
      have before := owned.length
      have now : σ.held.length + (σ.freed ++ σ.held).length = σ.stored := kept.length
      rw [List.length_append] at now
      refine ⟨List.eq_nil_of_length_eq_zero (by omega), fun null => ?_⟩
      by_contra some_cameras
      exact missing ⟨null, some_cameras⟩
    · intro safe
      refine ⟨owned.defined, ?_, owned.used, fun _ => safe.1, fun other => ?_⟩
      · have once := owned.once
        show (σ.held ++ (σ.freed ++ σ.held)).Perm _
        rw [safe.1] at once ⊢
        rw [List.append_nil]
        exact once
      · show Function.update σ.releases device (σ.releases device + 1) other ≤ 1
        by_cases same : other = device
        · rw [same, Function.update_self]
          exact Nat.le_of_eq (congrArg (· + 1) releases)
        · rw [Function.update_of_ne same]
          exact owned.released other

/-- A call does nothing with NULL, or runs on a device that is open. -/
theorem withDevice_cases {device : Option Nat} {run : Nat → WrapperCameraDevice → CameraWrapper}
    (taken : σ.withDevice device run = some after) :
    (device = none ∧ σ = after) ∨
      ∃ opened wrapper_dev, device = some opened ∧ σ.devices opened = some wrapper_dev ∧
        run opened wrapper_dev = after := by
  cases device with
  | none => exact Or.inl ⟨rfl, Option.some.inj taken⟩
  | some opened =>
      obtain ⟨wrapper_dev, here, ran⟩ := Option.map_eq_some_iff.mp taken
      exact Or.inr ⟨opened, wrapper_dev, rfl, here, ran⟩

theorem cameraGetParameters_same (modes : IsoModes) (wrapper_dev : WrapperCameraDevice)
    (strdup : Bool) (σ : CameraWrapper) :
    ∃ handed handedOut undefined, σ.cameraGetParameters modes wrapper_dev strdup =
      { σ with handed := handed, handedOut := handedOut, undefined := undefined } := by
  unfold cameraGetParameters
  split
  · exact ⟨σ.handed, σ.handedOut, true, rfl⟩
  · split
    · exact ⟨_, _, σ.undefined, rfl⟩
    · exact ⟨σ.handed, σ.handedOut, σ.undefined, rfl⟩

/-- The ISO modes are read within the array, or past it. -/
theorem get_parameters_iff (owned : σ.ParamsOwned) (wrapper_dev : WrapperCameraDevice)
    (strdup : Bool) :
    (σ.cameraGetParameters modes wrapper_dev strdup).ParamsOwned ↔
      (supportedIsoModes modes wrapper_dev.id).isSome = true := by
  unfold cameraGetParameters
  cases supportedIsoModes modes wrapper_dev.id with
  | none => exact ⟨fun kept => absurd kept.defined nofun, nofun⟩
  | some values =>
      cases strdup with
      | true => exact iff_of_true (owned.same rfl rfl rfl rfl rfl rfl rfl) rfl
      | false => exact iff_of_true owned rfl

theorem cameraPutParameters_same (params : Option Nat) (σ : CameraWrapper) :
    ∃ handed, σ.cameraPutParameters params = { σ with handed := handed } := by
  cases params with
  | none => exact ⟨σ.handed, rfl⟩
  | some params => exact ⟨_, rfl⟩

/-- A call keeps the property exactly if it is safe. -/
theorem ParamsOwned.step_iff (owned : σ.ParamsOwned) (shaped : σ.Shaped num_cameras)
    {call : Call} (taken : σ.step modes num_cameras call = some after) :
    after.ParamsOwned ↔ Safe modes num_cameras σ call := by
  unfold CameraWrapper.step at taken
  rw [if_neg (owned.defined ▸ nofun)] at taken
  cases call with
  | «open» call =>
      cases taken
      exact open_iff owned call
  | set_parameters device strdup =>
      rcases withDevice_cases taken with ⟨rfl, rfl⟩ | ⟨device, wrapper_dev, rfl, here, rfl⟩
      · exact iff_of_true owned trivial
      · rw [set_parameters_iff owned here]
        show _ ↔ ∀ wrapper_dev ∈ σ.devices device, (σ.slot wrapper_dev.id).isSome = true
        rw [here]
        exact ⟨fun found _ same => Option.mem_some_iff.mp same ▸ found, fun all => all _ rfl⟩
  | get_parameters device strdup =>
      rcases withDevice_cases taken with ⟨rfl, rfl⟩ | ⟨device, wrapper_dev, rfl, here, rfl⟩
      · exact iff_of_true owned trivial
      · rw [get_parameters_iff owned wrapper_dev]
        show _ ↔ ∀ wrapper_dev ∈ σ.devices device,
          (supportedIsoModes modes wrapper_dev.id).isSome = true
        rw [here]
        exact ⟨fun found _ same => Option.mem_some_iff.mp same ▸ found, fun all => all _ rfl⟩
  | put_parameters params =>
      dsimp only at taken
      split at taken
      · cases taken
        obtain ⟨handed, same⟩ := cameraPutParameters_same params σ
        rw [same]
        exact iff_of_true (owned.same rfl rfl rfl rfl rfl rfl rfl) trivial
      · cases taken
  | release device =>
      rcases withDevice_cases taken with ⟨rfl, rfl⟩ | ⟨device, wrapper_dev, rfl, -, rfl⟩
      · exact iff_of_true owned trivial
      · exact iff_of_false (fun kept => absurd kept.defined nofun) id
  | close device =>
      rcases withDevice_cases taken with ⟨rfl, rfl⟩ | ⟨device, wrapper_dev, rfl, here, rfl⟩
      · exact iff_of_true owned trivial
      · exact close_iff owned shaped here

/-- What keeps the slots, the devices and the releases keeps the shape. -/
theorem Shaped.same (shaped : σ.Shaped num_cameras)
    (slots : after.fixed_set_params = σ.fixed_set_params) (devices : after.devices = σ.devices)
    (opened : after.opened = σ.opened) (releases : after.releases = σ.releases) :
    after.Shaped num_cameras where
  slots := slots ▸ shaped.slots
  fresh := opened ▸ devices ▸ releases ▸ shaped.fresh
  unreleased := devices ▸ releases ▸ shaped.unreleased

theorem Shaped.openDevice (shaped : σ.Shaped num_cameras) (cameraid : Int) (call : OpenCall) :
    (σ.openDevice num_cameras cameraid call).2.Shaped num_cameras := by
  unfold CameraWrapper.openDevice
  split
  · exact shaped
  · split
    · exact shaped
    · split
      · exact shaped
      · split
        · exact shaped
        · refine ⟨shaped.slots, fun device later => ?_, fun device wrapper_dev here => ?_⟩
          · obtain ⟨closed, unreleased⟩ := shaped.fresh device (Nat.le_of_succ_le later)
            refine ⟨?_, unreleased⟩
            exact (Function.update_of_ne (Nat.ne_of_gt later) _ _).trans closed
          · by_cases new : device = σ.opened
            · have made : some (WrapperCameraDevice.mk false cameraid) = some wrapper_dev := by
                rw [← here, new]
                exact (Function.update_self σ.opened _ σ.devices).symm
              cases made
              exact ⟨rfl, (shaped.fresh device (Nat.le_of_eq new.symm)).2⟩
            · exact shaped.unreleased device wrapper_dev
                ((Function.update_of_ne new _ _).symm.trans here)

theorem Shaped.open (shaped : σ.Shaped num_cameras) (call : OpenCall) :
    (σ.cameraDeviceOpen num_cameras call).2.Shaped num_cameras := by
  unfold cameraDeviceOpen
  cases call.name with
  | none => exact shaped
  | some cameraid =>
      obtain ⟨loaded, same⟩ := checkVendorModule_same call.hw_get_module σ
      simp only [same]
      split
      · exact shaped.same rfl rfl rfl rfl
      · split
        · exact ⟨nofun, shaped.fresh, shaped.unreleased⟩
        · apply Shaped.openDevice
          refine ⟨fun slots array => ?_, shaped.fresh, shaped.unreleased⟩
          cases array
          exact List.length_replicate

theorem Shaped.set_parameters (shaped : σ.Shaped num_cameras) (wrapper_dev : WrapperCameraDevice)
    (strdup : Bool) : (σ.cameraSetParameters wrapper_dev strdup).Shaped num_cameras := by
  cases found : σ.slot wrapper_dev.id with
  | none =>
      unfold cameraSetParameters storeParams
      rw [found]
      exact shaped.same rfl rfl rfl rfl
  | some old =>
      rw [cameraSetParameters_eq found]
      refine ⟨fun slots array => ?_, shaped.fresh, shaped.unreleased⟩
      obtain ⟨before, there, rfl⟩ := Option.map_eq_some_iff.mp array
      exact List.length_set.trans (shaped.slots before there)

theorem Shaped.close (shaped : σ.Shaped num_cameras) {device : Nat}
    {wrapper_dev : WrapperCameraDevice} (here : σ.devices device = some wrapper_dev) :
    (σ.cameraDeviceClose num_cameras device wrapper_dev).Shaped num_cameras := by
  rw [cameraDeviceClose_eq shaped here]
  by_cases missing : σ.fixed_set_params = none ∧ num_cameras ≠ 0
  · rw [if_pos missing]
    exact shaped.same rfl rfl rfl rfl
  · rw [if_neg missing]
    refine ⟨shaped.slots, fun device' later => ?_, fun device' wrapper_dev' there => ?_⟩
    · obtain ⟨closed, unreleased⟩ := shaped.fresh device' later
      have differs : device' ≠ device := by
        rintro rfl
        cases here.symm.trans closed
      exact ⟨(Function.update_of_ne differs _ _).trans closed,
        (Function.update_of_ne differs _ _).trans unreleased⟩
    · have differs : device' ≠ device := by
        rintro rfl
        cases (Function.update_self device' none σ.devices).symm.trans there
      obtain ⟨unset, unreleased⟩ := shaped.unreleased device' wrapper_dev'
        ((Function.update_of_ne differs none σ.devices).symm.trans there)
      exact ⟨unset, (Function.update_of_ne differs _ _).trans unreleased⟩

theorem Shaped.step (shaped : σ.Shaped num_cameras) {call : Call}
    (taken : σ.step modes num_cameras call = some after) (safe : Safe modes num_cameras σ call) :
    after.Shaped num_cameras := by
  unfold CameraWrapper.step at taken
  split at taken
  · cases taken
  · cases call with
    | «open» call =>
        cases taken
        exact shaped.open call
    | set_parameters device strdup =>
        rcases withDevice_cases taken with ⟨rfl, rfl⟩ | ⟨device, wrapper_dev, rfl, -, rfl⟩
        · exact shaped
        · exact shaped.set_parameters wrapper_dev strdup
    | get_parameters device strdup =>
        rcases withDevice_cases taken with ⟨rfl, rfl⟩ | ⟨device, wrapper_dev, rfl, -, rfl⟩
        · exact shaped
        · obtain ⟨handed, handedOut, undefined, same⟩ :=
            cameraGetParameters_same modes wrapper_dev strdup σ
          rw [same]
          exact shaped.same rfl rfl rfl rfl
    | put_parameters params =>
        dsimp only at taken
        split at taken
        · cases taken
          obtain ⟨handed, same⟩ := cameraPutParameters_same params σ
          rw [same]
          exact shaped.same rfl rfl rfl rfl
        · cases taken
    | release device =>
        rcases withDevice_cases taken with ⟨rfl, rfl⟩ | ⟨device, wrapper_dev, rfl, -, rfl⟩
        · exact shaped
        · exact safe.elim
    | close device =>
        rcases withDevice_cases taken with ⟨rfl, rfl⟩ | ⟨device, wrapper_dev, rfl, here, rfl⟩
        · exact shaped
        · exact shaped.close here

end CameraWrapper

/-- In a run of safe calls the property holds in every state, and the first call that is not
safe breaks it. -/
theorem camera_params_owned {modes : IsoModes} {num_cameras : Nat} {σ : CameraWrapper}
    (run : (cameraWrapper modes num_cameras).ReachableUnder
      (CameraWrapper.Safe modes num_cameras) σ) :
    σ.ParamsOwned ∧
      ∀ call after, (cameraWrapper modes num_cameras).step σ call = some after →
        (after.ParamsOwned ↔ σ.Safe modes num_cameras call) := by
  have kept : σ.ParamsOwned ∧ σ.Shaped num_cameras := by
    apply run.invariant (fun σ => σ.ParamsOwned ∧ σ.Shaped num_cameras)
    · rintro σ rfl
      exact ⟨CameraWrapper.loaded_owned, CameraWrapper.loaded_shaped num_cameras⟩
    · rintro before call after - ⟨owned, shaped⟩ safe taken
      exact ⟨(owned.step_iff shaped taken).mpr safe, shaped.step taken safe⟩
  exact ⟨kept.1, fun call after taken => kept.1.step_iff kept.2 taken⟩

/-- Two cameras are opened, each sets its parameters, and the first reads them. -/
theorem camera_params_owned_two :
    ∃ σ, (cameraWrapper ⟨false, false, false⟩ 2).execUnder
        (CameraWrapper.Safe ⟨false, false, false⟩ 2) .loaded
        [.open ⟨some 0, 0, true, true, 0, true⟩, .open ⟨some 1, 0, true, true, 0, true⟩,
          .set_parameters (some 0) true, .set_parameters (some 1) true,
          .set_parameters (some 0) true, .get_parameters (some 0) true,
          .put_parameters (some 0)] = some σ ∧
      (σ.held = [2, 1] ∧ σ.freed = [0]) ∧ σ.ParamsOwned ∧
      ∀ call after, (cameraWrapper ⟨false, false, false⟩ 2).step σ call = some after →
        (after.ParamsOwned ↔ σ.Safe ⟨false, false, false⟩ 2 call) := by
  apply System.execUnder_then rfl
  · intro σ run _
    exact camera_params_owned run
  · decide +kernel

/-- A camera that has set its parameters is closed, and the slot keeps the string. -/
theorem camera_params_dangling :
    ¬ ∀ modes num_cameras σ, (cameraWrapper modes num_cameras).Reachable σ →
      σ.ParamsOwned := by
  intro owned
  have first : (cameraWrapper ⟨false, false, false⟩ 1).initial .loaded := rfl
  obtain ⟨σ, run, seen⟩ := System.reachable_of_exec first
    [.open ⟨some 0, 0, true, true, 0, true⟩, .set_parameters (some 0) true, .close (some 0)]
    (fun σ => decide (σ.held = [0] ∧ σ.freed = [0] ∧ σ.stored = 1)) (by decide +kernel)
  obtain ⟨held, freed, stored⟩ := of_decide_eq_true seen
  have once := (owned _ 1 σ run).length
  rw [held, freed, stored] at once
  cases once

end A5Common.Camera
