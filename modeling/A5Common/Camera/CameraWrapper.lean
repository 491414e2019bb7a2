import A5Common.Run.System
import Mathlib.Data.List.ReduceOption

set_option autoImplicit false

namespace A5Common.Camera

open A5Common.Run

abbrev EINVAL : Int := 22

abbrev ENOMEM : Int := 12

/-- The macros that add to `iso_values`. -/
structure IsoModes where
  ISO_MODE_50 : Bool
  ISO_MODE_HJR : Bool
  ISO_MODE_1600 : Bool

/-- No comma stands between the texts, so that the array has one entry. -/
def isoValues (modes : IsoModes) : List String :=
  ["auto," ++
    (if modes.ISO_MODE_50 then "ISO50," else "") ++
    (if modes.ISO_MODE_HJR then "ISO_HJR," else "") ++
    "ISO100,ISO200,ISO400,ISO800" ++
    (if modes.ISO_MODE_1600 then ",ISO1600" else "")]

/-- What `camera_fixup_getparams` sets for the ISO modes of a camera, if the array has it. -/
def supportedIsoModes (modes : IsoModes) (id : Int) : Option String :=
  if id < 0 then none else (isoValues modes)[id.toNat]?

/-- A `wrapper_camera_device`. -/
structure WrapperCameraDevice where
  camera_released : Bool
  id : Int
deriving DecidableEq

/-- The state of the wrapper. Devices and strings have numbers, in the order in which they
are made. Records are how many devices have been opened and how many strings stored, the
strings that are freed, whether the vendor was given one that is, the strings that
`get_parameters` handed out, the calls of the vendor's `release`, and whether a pointer has
been followed that is NULL or past its array. -/
structure CameraWrapper where
  gVendorModule : Bool
  fixed_set_params : Option (List (Option Nat))
  devices : Nat → Option WrapperCameraDevice
  opened : Nat
  stored : Nat
  freed : List Nat
  usedFreed : Bool
  handed : List Nat
  handedOut : Nat
  releases : Nat → Nat
  undefined : Bool

/-- A call of `camera_device_open`: what `atoi` makes of the name, if it is not NULL, what
`hw_get_module_by_class` and the vendor's `open` return, and which `malloc` has memory. -/
structure OpenCall where
  name : Option Int
  hw_get_module : Int
  params_memory : Bool
  device_memory : Bool
  vendor_open : Int
  ops_memory : Bool
deriving DecidableEq

/-- The calls of the wrapper. A device that is not NULL is open, and a string that is put
has been handed out; `strdup` tells whether it has memory. -/
inductive Call where
  | open (call : OpenCall)
  | set_parameters (device : Option Nat) (strdup : Bool)
  | get_parameters (device : Option Nat) (strdup : Bool)
  | put_parameters (params : Option Nat)
  | release (device : Option Nat)
  | close (device : Option Nat)
deriving DecidableEq

namespace CameraWrapper

/-- The wrapper is loaded. -/
def loaded : CameraWrapper where
  gVendorModule := false
  fixed_set_params := none
  devices := fun _ => none
  opened := 0
  stored := 0
  freed := []
  usedFreed := false
  handed := []
  handedOut := 0
  releases := fun _ => 0
  undefined := false

def checkVendorModule (hw_get_module : Int) (σ : CameraWrapper) : Int × CameraWrapper :=
  if σ.gVendorModule then (0, σ)
  else (hw_get_module, { σ with gVendorModule := decide (hw_get_module = 0) })

/-- What `camera_device_open` does after the parameters have memory. -/
def openDevice (num_cameras : Nat) (cameraid : Int) (call : OpenCall) (σ : CameraWrapper) :
    Int × CameraWrapper :=
  if num_cameras < cameraid then (-EINVAL, σ)
  else if !call.device_memory then (-ENOMEM, σ)
  else if call.vendor_open ≠ 0 then (call.vendor_open, σ)
  else if !call.ops_memory then (-ENOMEM, σ)
  else
    (0, { σ with
      devices := Function.update σ.devices σ.opened (some ⟨false, cameraid⟩)
      opened := σ.opened + 1 })

def cameraDeviceOpen (num_cameras : Nat) (call : OpenCall) (σ : CameraWrapper) :
    Int × CameraWrapper :=
  match call.name with
  | none => (0, σ)
  | some cameraid =>
      let (rv, σ) := σ.checkVendorModule call.hw_get_module
      if rv ≠ 0 then (-EINVAL, σ)
      else if !call.params_memory then (-ENOMEM, { σ with fixed_set_params := none })
      else
        openDevice num_cameras cameraid call
          { σ with fixed_set_params := some (.replicate num_cameras none) }

/-- The slot of a camera, if `fixed_set_params` has one. -/
def slot (id : Int) (σ : CameraWrapper) : Option (Option Nat) :=
  if id < 0 then none else σ.fixed_set_params.bind (fun slots => slots[id.toNat]?)

/-- What `camera_fixup_setparams` does after the string has been made. -/
def storeParams (id : Int) (strdup : Bool) (σ : CameraWrapper) :
    Option (Option Nat × CameraWrapper) := do
  let old ← σ.slot id
  let new := if strdup then some σ.stored else none
  some (new, { σ with
    fixed_set_params := σ.fixed_set_params.map (fun slots => slots.set id.toNat new)
    stored := σ.stored + new.toList.length
    freed := σ.freed ++ old.toList })

/-- The vendor uses the string that it is given. -/
def vendorSetParameters (parms : Option Nat) (σ : CameraWrapper) : CameraWrapper :=
  { σ with usedFreed := σ.usedFreed || parms.any (fun str => str ∈ σ.freed) }

def cameraSetParameters (device : WrapperCameraDevice) (strdup : Bool) (σ : CameraWrapper) :
    CameraWrapper :=
  match σ.storeParams device.id strdup with
  | none => { σ with undefined := true }
  | some (tmp, σ) => σ.vendorSetParameters tmp

/-- `camera_fixup_getparams` reads `iso_values` at the id, and a string of its own is handed
out. -/
def cameraGetParameters (modes : IsoModes) (device : WrapperCameraDevice) (strdup : Bool)
    (σ : CameraWrapper) : CameraWrapper :=
  match supportedIsoModes modes device.id with
  | none => { σ with undefined := true }
  | some _ =>
      if strdup then
        { σ with handed := σ.handedOut :: σ.handed, handedOut := σ.handedOut + 1 }
      else σ

def cameraPutParameters (params : Option Nat) (σ : CameraWrapper) : CameraWrapper :=
  match params with
  | none => σ
  | some params => { σ with handed := σ.handed.erase params }

def vendorRelease (device : Nat) (σ : CameraWrapper) : CameraWrapper :=
  { σ with releases := Function.update σ.releases device (σ.releases device + 1) }

/-- `camera_released` is written through a pointer that is NULL. -/
def cameraRelease (device : Nat) (σ : CameraWrapper) : CameraWrapper :=
  { σ.vendorRelease device with undefined := true }

/-- The string of a slot is freed, and stays in the slot. -/
def freeSlot (i : Nat) (σ : CameraWrapper) : Option CameraWrapper :=
  (σ.slot i).map (fun slot => { σ with freed := σ.freed ++ slot.toList })

/-- The loop of `camera_device_close`. A device is open, so that the vendor module has been
found and tells the number of cameras. -/
def freeParams (num_cameras : Nat) (σ : CameraWrapper) : Option CameraWrapper :=
  (List.range num_cameras).foldlM (fun σ i => freeSlot i σ) σ

def cameraDeviceClose (num_cameras device : Nat) (wrapper_dev : WrapperCameraDevice)
    (σ : CameraWrapper) : CameraWrapper :=
  match σ.freeParams num_cameras with
  | none => { σ with undefined := true }
  | some σ =>
      let σ := if wrapper_dev.camera_released then σ else σ.vendorRelease device
      { σ with devices := Function.update σ.devices device none }

/-- A call with NULL for the device does nothing. -/
def withDevice (device : Option Nat)
    (run : Nat → WrapperCameraDevice → CameraWrapper) (σ : CameraWrapper) :
    Option CameraWrapper :=
  match device with
  | none => some σ
  | some device => (σ.devices device).map (run device)

def step (modes : IsoModes) (num_cameras : Nat) (σ : CameraWrapper) (call : Call) :
    Option CameraWrapper :=
  if σ.undefined then none
  else
    match call with
    | .open call => some (σ.cameraDeviceOpen num_cameras call).2
    | .set_parameters device strdup =>
        σ.withDevice device (fun _ wrapper_dev => σ.cameraSetParameters wrapper_dev strdup)
    | .get_parameters device strdup =>
        σ.withDevice device (fun _ wrapper_dev => σ.cameraGetParameters modes wrapper_dev strdup)
    | .put_parameters params =>
        if params.all (fun params => params ∈ σ.handed) then some (σ.cameraPutParameters params)
        else none
    | .release device => σ.withDevice device (fun device _ => σ.cameraRelease device)
    | .close device =>
        σ.withDevice device (fun device wrapper_dev =>
          σ.cameraDeviceClose num_cameras device wrapper_dev)

/-- The strings in the slots. -/
def held (σ : CameraWrapper) : List Nat :=
  (σ.fixed_set_params.getD []).reduceOption

end CameraWrapper

/-- Any calls, with a vendor module that tells this number of cameras. -/
def cameraWrapper (modes : IsoModes) (num_cameras : Nat) : System CameraWrapper Call where
  initial σ := σ = .loaded
  step := CameraWrapper.step modes num_cameras

end A5Common.Camera
