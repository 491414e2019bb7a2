import A5Common.Camera.GetParams
import A5Common.Run.System

set_option autoImplicit false

namespace A5Common.Camera

open A5Common.Run CameraParameters

def KEY_RECORDING_HINT : String8 := "recording-hint".toList

def KEY_ISO_MODE : String8 := "iso".toList

def KEY_CAMERA_MODE : String8 := "camera-mode".toList

def KEY_SAMSUNG_CAMERA_MODE : String8 := "cam_mode".toList

def KEY_JPEG_QUALITY : String8 := "jpeg-quality".toList

def KEY_ZSL : String8 := "zsl".toList

/-- The ISO modes that have a number, and the number. -/
def isoNumbers : List (String8 × String8) :=
  [("ISO50".toList, "50".toList), ("ISO100".toList, "100".toList),
    ("ISO200".toList, "200".toList), ("ISO400".toList, "400".toList),
    ("ISO800".toList, "800".toList), ("ISO1600".toList, "1600".toList)]

def fixupIsoMode (qcomHardware : Bool) (params : CameraParameters) : CameraParameters :=
  match params.get KEY_ISO_MODE with
  | none => params
  | some isoMode =>
      match SortedMap.find isoMode isoNumbers with
      | some number => params.set qcomHardware (some KEY_ISO_MODE) (some number)
      | none => params

/-- The test for video chat, of two applications. A string that is missing is compared
through NULL. -/
def videoChat (params : CameraParameters) : Option Bool :=
  match params.get KEY_PREVIEW_FRAME_RATE with
  | none => none
  | some frameRate =>
      if frameRate = "15".toList then some true
      else
        match params.get KEY_PREVIEW_SIZE with
        | none => none
        | some previewSize =>
            if previewSize = "320x240".toList then
              (params.get KEY_JPEG_QUALITY).map (fun quality => decide (quality = "96".toList))
            else some false

/-- The parameters and `wasVideo` behind the branch for the camcorder mode. -/
def fixupCameraMode (build : Build) (id : Int) (isVideo wasVideo : Bool)
    (camMode : Option String8) (params : CameraParameters) :
    Option (CameraParameters × Bool) :=
  if build.SAMSUNG_CAMERA_MODE = true then
    if id = 1 then
      match camMode with
      | none => none
      | some camMode =>
          if ¬ (camMode = "1".toList ∧ isVideo = false) ∨ wasVideo = true then
            match videoChat params with
            | none => none
            | some chat =>
                some
                  (if chat = true ∧ isVideo = false then params
                    else
                      params.set build.QCOM_HARDWARE (some KEY_SAMSUNG_CAMERA_MODE)
                        (some (if isVideo then "1".toList else "0".toList)),
                    isVideo || wasVideo)
          else some (params, wasVideo)
    else some (params, false)
  else some (params, wasVideo)

def fixupZsl (build : Build) (id : Int) (isVideo : Bool) (params : CameraParameters) :
    CameraParameters :=
  if build.ENABLE_ZSL = true ∧ id ≠ 1 then
    let params := params.set build.QCOM_HARDWARE (some KEY_ZSL)
      (some (if isVideo then "off".toList else "on".toList))
    params.set build.QCOM_HARDWARE (some KEY_CAMERA_MODE)
      (some (if isVideo then "0".toList else "1".toList))
  else params

/-- Whether the parameters are those of a recording. -/
def recording (params : CameraParameters) : Bool :=
  params.get KEY_RECORDING_HINT = some "true".toList

/-- The text for the vendor, and `wasVideo`; nothing if `strcmp` reads through NULL. -/
def cameraFixupSetparams (build : Build) (id : Int) (settings : String8) (wasVideo : Bool) :
    Option (String8 × Bool) :=
  let params := unflatten settings
  let camMode := params.get KEY_SAMSUNG_CAMERA_MODE
  let isVideo := recording params
  let params := fixupIsoMode build.QCOM_HARDWARE params
  (fixupCameraMode build id isVideo wasVideo camMode params).map (fun fixed =>
    ((fixupZsl build id isVideo fixed.1).flatten, fixed.2))

/-- Parameters that are set for a camera. -/
structure SetCall where
  id : Int
  settings : String8
deriving DecidableEq

/-- The calls that write `wasVideo`. `camera_device_open` clears it first, whatever comes of
the call. -/
inductive ModeCall where
  | open
  | set_parameters (call : SetCall)

/-- What a call was, with the text for the vendor. -/
inductive ModeEvent where
  | opened
  | fixed (call : SetCall) (text : String8)
deriving DecidableEq

/-- `wasVideo`, and a record of the calls, the last one first. -/
structure CameraMode where
  wasVideo : Bool
  events : List ModeEvent
deriving DecidableEq

def CameraMode.step (build : Build) (σ : CameraMode) : ModeCall → Option CameraMode
  | .open => some { wasVideo := false, events := .opened :: σ.events }
  | .set_parameters call =>
      (cameraFixupSetparams build call.id call.settings σ.wasVideo).map (fun fixed =>
        { wasVideo := fixed.2, events := .fixed call fixed.1 :: σ.events })

/-- The calls for all cameras, in any order. -/
def cameraMode (build : Build) : System CameraMode ModeCall where
  initial σ := σ = ⟨false, []⟩
  step := CameraMode.step build

/-- A recording of the front camera, with no camera opened and no call for another one since. -/
def filmed : List ModeEvent → Bool
  | [] => false
  | .opened :: _ => false
  | .fixed call _ :: earlier =>
      if call.id = 1 then recording (unflatten call.settings) || filmed earlier else false

/-- The camcorder mode that the front camera gets: on for a recording, off for stills, unless
it is left as it is for the mode that an application has set itself, with no recording
before, and for video chat. -/
def camModeAfter (earlier : List ModeEvent) (params : CameraParameters) : Option String8 :=
  if recording params = true then some "1".toList
  else if params.get KEY_SAMSUNG_CAMERA_MODE = some "1".toList ∧ filmed earlier = false then
    params.get KEY_SAMSUNG_CAMERA_MODE
  else if videoChat params = some true then params.get KEY_SAMSUNG_CAMERA_MODE
  else some "0".toList

def isoModeAfter (isoMode : String8) : String8 :=
  (SortedMap.find isoMode isoNumbers).getD isoMode

/-- The names whose settings the fixups can change. -/
def changedNames : List String8 :=
  [KEY_ISO_MODE, KEY_SAMSUNG_CAMERA_MODE, KEY_ZSL, KEY_CAMERA_MODE, KEY_HDR_NEED_1X]

/-- What the vendor gets for a call after other calls. -/
structure FixedUp (build : Build) (earlier : List ModeEvent) (id : Int)
    (before after : CameraParameters) : Prop where
  camMode : after.get KEY_SAMSUNG_CAMERA_MODE =
    if build.SAMSUNG_CAMERA_MODE = true ∧ id = 1 then camModeAfter earlier before
    else before.get KEY_SAMSUNG_CAMERA_MODE
  isoMode : after.get KEY_ISO_MODE = (before.get KEY_ISO_MODE).map isoModeAfter
  zsl : after.get KEY_ZSL =
    if build.ENABLE_ZSL = true ∧ id ≠ 1 then
      some (if recording before then "off".toList else "on".toList)
    else before.get KEY_ZSL
  cameraMode : after.get KEY_CAMERA_MODE =
    if build.ENABLE_ZSL = true ∧ id ≠ 1 then
      some (if recording before then "0".toList else "1".toList)
    else before.get KEY_CAMERA_MODE
  others : ∀ name, name ∉ changedNames → after.mMap.lookup name = before.mMap.lookup name

section

variable {qcomHardware : Bool} {params : CameraParameters} {name key : String8}

theorem get_congr {first second : CameraParameters}
    (same : first.mMap.lookup name = second.mMap.lookup name) :
    first.get name = second.get name := by
  unfold CameraParameters.get
  rw [same]

theorem lookup_set_ne (other : key ≠ name) (named : KEY_HDR_NEED_1X ≠ name) (value : String8) :
    (params.set qcomHardware (some key) (some value)).mMap.lookup name =
      params.mMap.lookup name := by
  rw [lookup_set, settingAfterSet_leaves other named]

theorem get_set_ne (other : key ≠ name) (named : KEY_HDR_NEED_1X ≠ name) (value : String8) :
    (params.set qcomHardware (some key) (some value)).get name = params.get name :=
  get_congr (lookup_set_ne other named value)

theorem get_set_self {value : String8} (accepted : Accepted key value) (filled : value ≠ []) :
    (params.set qcomHardware (some key) (some value)).get key = some value :=
  get_of_lookup (lookup_set_self accepted params) filled

theorem not_changed (kept : name ∉ changedNames) :
    KEY_ISO_MODE ≠ name ∧ KEY_SAMSUNG_CAMERA_MODE ≠ name ∧ KEY_ZSL ≠ name ∧
      KEY_CAMERA_MODE ≠ name ∧ KEY_HDR_NEED_1X ≠ name := by
  unfold changedNames at kept
  simp only [List.mem_cons, List.not_mem_nil, or_false, not_or] at kept
  exact ⟨Ne.symm kept.1, Ne.symm kept.2.1, Ne.symm kept.2.2.1, Ne.symm kept.2.2.2.1,
    Ne.symm kept.2.2.2.2⟩

theorem chat_not_changed :
    KEY_PREVIEW_FRAME_RATE ∉ changedNames ∧ KEY_PREVIEW_SIZE ∉ changedNames ∧
      KEY_JPEG_QUALITY ∉ changedNames := by
  decide +kernel

theorem lookup_fixupIsoMode (other : KEY_ISO_MODE ≠ name) (named : KEY_HDR_NEED_1X ≠ name) :
    (fixupIsoMode qcomHardware params).mMap.lookup name = params.mMap.lookup name := by
  unfold fixupIsoMode
  split
  · rfl
  · split
    · exact lookup_set_ne other named _
    · rfl

theorem isoNumbers_accepted :
    ∀ entry ∈ isoNumbers, Accepted KEY_ISO_MODE entry.2 ∧ entry.2 ≠ [] := by
  decide +kernel

theorem get_fixupIsoMode :
    (fixupIsoMode qcomHardware params).get KEY_ISO_MODE =
      (params.get KEY_ISO_MODE).map isoModeAfter := by
  unfold fixupIsoMode
  split
  · rename_i missing
    rw [missing]
    rfl
  · rename_i isoMode there
    rw [there, Option.map_some, isoModeAfter]
    split
    · rename_i number found
      have ⟨accepted, filled⟩ := isoNumbers_accepted _ (SortedMap.mem_of_find found)
      rw [get_set_self accepted filled, found]
      rfl
    · rename_i unknown
      rw [there, unknown]
      rfl

theorem videoChat_congr {first second : CameraParameters}
    (same : ∀ name, name ∉ changedNames → first.get name = second.get name) :
    videoChat first = videoChat second := by
  obtain ⟨rate, size, quality⟩ := chat_not_changed
  unfold videoChat
  rw [same _ rate, same _ size, same _ quality]

/-- `wasVideo` behind a call. -/
def wasVideoAfter (build : Build) (id : Int) (isVideo wasVideo : Bool) : Bool :=
  if build.SAMSUNG_CAMERA_MODE = true then
    if id = 1 then isVideo || wasVideo else false
  else wasVideo

variable {build : Build} {id : Int} {isVideo wasVideo was : Bool} {after : CameraParameters}

theorem accepted_digit (isVideo : Bool) :
    Accepted KEY_SAMSUNG_CAMERA_MODE (if isVideo then "1".toList else "0".toList) ∧
      (if isVideo then "1".toList else "0".toList) ≠ [] := by
  revert isVideo
  decide +kernel

/-- The mode when the branch sets it, or leaves it for video chat. -/
theorem get_enabled {chatting : Bool}
    (enabled : ¬ (params.get KEY_SAMSUNG_CAMERA_MODE = some "1".toList ∧ isVideo = false) ∨
      wasVideo = true) :
    CameraParameters.get KEY_SAMSUNG_CAMERA_MODE
        (if chatting = true ∧ isVideo = false then params
        else params.set qcomHardware (some KEY_SAMSUNG_CAMERA_MODE)
          (some (if isVideo then "1".toList else "0".toList))) =
      if isVideo = true then some "1".toList
      else if params.get KEY_SAMSUNG_CAMERA_MODE = some "1".toList ∧ wasVideo = false then
        params.get KEY_SAMSUNG_CAMERA_MODE
      else if some chatting = some true then params.get KEY_SAMSUNG_CAMERA_MODE
      else some "0".toList := by
  have ⟨accepted, filled⟩ := accepted_digit isVideo
  cases isVideo with
  | true =>
      rw [if_neg (fun both => Bool.false_ne_true both.2.symm), if_pos rfl]
      exact get_set_self accepted filled
  | false =>
      have set_off : ¬ (params.get KEY_SAMSUNG_CAMERA_MODE = some "1".toList ∧
          wasVideo = false) := by
        intro left
        rcases enabled with other | filmed
        · exact other ⟨left.1, rfl⟩
        · rw [left.2] at filmed
          cases filmed
      rw [if_neg Bool.false_ne_true, if_neg set_off]
      cases chatting with
      | true => rfl
      | false => exact get_set_self accepted filled

/-- The branch for the camcorder mode writes one setting. A call whose mode it leaves alone
is no recording, and behind no recording. -/
theorem fixupCameraMode_spec
    (fixed : fixupCameraMode build id isVideo wasVideo (params.get KEY_SAMSUNG_CAMERA_MODE) params =
      some (after, was)) :
    was = wasVideoAfter build id isVideo wasVideo ∧
      (after.get KEY_SAMSUNG_CAMERA_MODE =
        if build.SAMSUNG_CAMERA_MODE = true ∧ id = 1 then
          if isVideo = true then some "1".toList
          else if params.get KEY_SAMSUNG_CAMERA_MODE = some "1".toList ∧ wasVideo = false then
            params.get KEY_SAMSUNG_CAMERA_MODE
          else if videoChat params = some true then params.get KEY_SAMSUNG_CAMERA_MODE
          else some "0".toList
        else params.get KEY_SAMSUNG_CAMERA_MODE) ∧
      ∀ name, KEY_SAMSUNG_CAMERA_MODE ≠ name → KEY_HDR_NEED_1X ≠ name →
        after.mMap.lookup name = params.mMap.lookup name := by
  unfold fixupCameraMode wasVideoAfter at *
  by_cases defined : build.SAMSUNG_CAMERA_MODE = true
  · rw [if_pos defined] at fixed ⊢
    by_cases front : id = 1
    · rw [if_pos front] at fixed ⊢
      rw [if_pos ⟨defined, front⟩]
      cases mode : params.get KEY_SAMSUNG_CAMERA_MODE with
      | none =>
          rw [mode] at fixed
          cases fixed
      | some camMode =>
          rw [mode] at fixed
          simp only at fixed
          by_cases enabled : ¬ (camMode = "1".toList ∧ isVideo = false) ∨ wasVideo = true
          · rw [if_pos enabled] at fixed
            cases chat : videoChat params with
            | none =>
                rw [chat] at fixed
                cases fixed
            | some chatting =>
                rw [chat] at fixed
                cases fixed
                refine ⟨rfl, ?_, fun name other named => ?_⟩
                · rw [← Option.some_inj, ← mode] at enabled
                  rw [← mode]
                  exact get_enabled enabled
                · split
                  · rfl
                  · exact lookup_set_ne other named _
          · rw [if_neg enabled] at fixed
            cases fixed
            rw [not_or, not_not, Bool.not_eq_true] at enabled
            obtain ⟨⟨one, still⟩, unfilmed⟩ := enabled
            refine ⟨?_, ?_, fun _ _ _ => rfl⟩
            · rw [still, Bool.false_or]
            · rw [still, if_neg Bool.false_ne_true, if_pos ⟨congrArg some one, unfilmed⟩, mode]
    · rw [if_neg front] at fixed ⊢
      rw [if_neg (fun both => front both.2)]
      cases fixed
      exact ⟨rfl, rfl, fun _ _ _ => rfl⟩
  · rw [if_neg defined] at fixed ⊢
    rw [if_neg (fun both => defined both.1)]
    cases fixed
    exact ⟨rfl, rfl, fun _ _ _ => rfl⟩

theorem lookup_fixupZsl (zsl : KEY_ZSL ≠ name) (mode : KEY_CAMERA_MODE ≠ name)
    (named : KEY_HDR_NEED_1X ≠ name) :
    (fixupZsl build id isVideo params).mMap.lookup name = params.mMap.lookup name := by
  unfold fixupZsl
  split
  · rw [lookup_set_ne mode named, lookup_set_ne zsl named]
  · rfl

theorem get_fixupZsl :
    (fixupZsl build id isVideo params).get KEY_ZSL =
        (if build.ENABLE_ZSL = true ∧ id ≠ 1 then
          some (if isVideo then "off".toList else "on".toList)
        else params.get KEY_ZSL) ∧
      (fixupZsl build id isVideo params).get KEY_CAMERA_MODE =
        (if build.ENABLE_ZSL = true ∧ id ≠ 1 then
          some (if isVideo then "0".toList else "1".toList)
        else params.get KEY_CAMERA_MODE) := by
  have zsl : ∀ isVideo : Bool, Accepted KEY_ZSL (if isVideo then "off".toList else "on".toList) ∧
      (if isVideo then "off".toList else "on".toList) ≠ [] := by decide +kernel
  have mode : ∀ isVideo : Bool,
      Accepted KEY_CAMERA_MODE (if isVideo then "0".toList else "1".toList) ∧
        (if isVideo then "0".toList else "1".toList) ≠ [] := by decide +kernel
  unfold fixupZsl
  split
  · constructor
    · rw [get_set_ne (by decide +kernel) (by decide +kernel)]
      exact get_set_self (zsl isVideo).1 (zsl isVideo).2
    · exact get_set_self (mode isVideo).1 (mode isVideo).2
  · exact ⟨rfl, rfl⟩

/-- One call, whose `wasVideo` is that of the calls before. -/
theorem cameraFixupSetparams_spec {earlier : List ModeEvent} {settings text : String8}
    (filming : wasVideo = (build.SAMSUNG_CAMERA_MODE && filmed earlier))
    (fixed : cameraFixupSetparams build id settings wasVideo = some (text, was)) :
    was = (build.SAMSUNG_CAMERA_MODE && filmed (.fixed ⟨id, settings⟩ text :: earlier)) ∧
      FixedUp build earlier id (unflatten settings) (unflatten text) := by
  obtain ⟨⟨chosen, now⟩, mode, same⟩ := Option.map_eq_some_iff.mp fixed
  obtain ⟨rfl, rfl⟩ := Prod.mk.inj same
  have iso := @lookup_fixupIsoMode build.QCOM_HARDWARE (unflatten settings)
  have own_mode : (fixupIsoMode build.QCOM_HARDWARE (unflatten settings)).get
      KEY_SAMSUNG_CAMERA_MODE = (unflatten settings).get KEY_SAMSUNG_CAMERA_MODE :=
    get_congr (iso (by decide +kernel) (by decide +kernel))
  have chat : videoChat (fixupIsoMode build.QCOM_HARDWARE (unflatten settings)) =
      videoChat (unflatten settings) :=
    videoChat_congr (fun name kept =>
      have other := not_changed kept
      get_congr (iso other.1 other.2.2.2.2))
  rw [← own_mode] at mode
  obtain ⟨now_eq, chosen_mode, chosen_others⟩ := fixupCameraMode_spec mode
  rw [own_mode, chat] at chosen_mode
  rw [unflatten_flatten]
  constructor
  · rw [now_eq, filming, wasVideoAfter, filmed]
    cases build.SAMSUNG_CAMERA_MODE with
    | true => rfl
    | false => rfl
  · have zsl := @get_fixupZsl chosen build id (recording (unflatten settings))
    constructor
    · rw [get_congr (lookup_fixupZsl (by decide +kernel) (by decide +kernel) (by decide +kernel)),
        chosen_mode]
      split
      · rename_i front
        rw [camModeAfter, filming, front.1, Bool.true_and]
      · rfl
    · rw [get_congr (lookup_fixupZsl (by decide +kernel) (by decide +kernel) (by decide +kernel)),
        get_congr (chosen_others _ (by decide +kernel) (by decide +kernel)), get_fixupIsoMode]
    · rw [zsl.1, get_congr (chosen_others _ (by decide +kernel) (by decide +kernel)),
        get_congr (iso (by decide +kernel) (by decide +kernel))]
    · rw [zsl.2, get_congr (chosen_others _ (by decide +kernel) (by decide +kernel)),
        get_congr (iso (by decide +kernel) (by decide +kernel))]
    · intro name kept
      obtain ⟨iso_other, mode_other, zsl_other, camera_other, named⟩ := not_changed kept
      rw [lookup_fixupZsl zsl_other camera_other named, chosen_others name mode_other named,
        iso iso_other named]

/-- What holds of the record of a run. -/
structure Recorded (build : Build) (σ : CameraMode) : Prop where
  filming : σ.wasVideo = (build.SAMSUNG_CAMERA_MODE && filmed σ.events)
  fixedUp : ∀ later call text earlier, σ.events = later ++ .fixed call text :: earlier →
    FixedUp build earlier call.id (unflatten call.settings) (unflatten text)

/-- An event is recorded with what holds of it. -/
theorem Recorded.record {σ after : CameraMode} {event : ModeEvent} (recorded : Recorded build σ)
    (events : after.events = event :: σ.events)
    (filming : after.wasVideo = (build.SAMSUNG_CAMERA_MODE && filmed after.events))
    (fixedUp : ∀ call text, event = .fixed call text →
      FixedUp build σ.events call.id (unflatten call.settings) (unflatten text)) :
    Recorded build after := by
  refine ⟨filming, fun later other other_text earlier parts => ?_⟩
  rw [events] at parts
  cases later with
  | nil =>
      obtain ⟨same, rfl⟩ := List.cons.inj parts
      exact fixedUp other other_text same
  | cons first later =>
      exact recorded.fixedUp later other other_text earlier (List.cons.inj parts).2

theorem Recorded.step {σ after : CameraMode} {call : ModeCall} (recorded : Recorded build σ)
    (taken : σ.step build call = some after) : Recorded build after := by
  cases call with
  | «open» =>
      obtain rfl := Option.some.inj taken
      exact recorded.record rfl (Bool.and_false _).symm nofun
  | set_parameters call =>
      obtain ⟨⟨text, now⟩, fixed, same⟩ := Option.map_eq_some_iff.mp taken
      have ⟨filming, fixedUp⟩ := cameraFixupSetparams_spec recorded.filming fixed
      obtain rfl := same
      refine recorded.record rfl filming (fun other other_text same => ?_)
      obtain ⟨rfl, rfl⟩ := ModeEvent.fixed.inj same
      exact fixedUp

/-- In every run of calls for both cameras, `wasVideo` tells whether the front camera has
recorded since a camera was opened and since the last call for another one, and the vendor
gets for each call the settings that it came with, but for the ISO mode, the camcorder mode
and the modes of the other cameras. -/
theorem camera_fixup_setparams {σ : CameraMode} (run : (cameraMode build).Reachable σ) :
    Recorded build σ := by
  refine run.invariant (Recorded build) ?_ (fun _ _ _ _ recorded _ taken => recorded.step taken)
  rintro _ rfl
  refine ⟨(Bool.and_false _).symm, fun later call text earlier parts => ?_⟩
  have empty := (List.append_eq_nil_iff.mp parts.symm).2
  cases empty

/-- Stills behind a recording turn the camcorder mode off, which they leave on before it, and
again when the camera has been opened anew. -/
theorem camera_fixup_setparams_stills :
    ∃ σ, (cameraMode ⟨⟨false, false, false⟩, true, false, false, false, false, true, true⟩).exec
        ⟨false, []⟩
        [.open, .set_parameters ⟨1, "cam_mode=1".toList⟩,
          .set_parameters
            ⟨1, "cam_mode=0;preview-frame-rate=30;preview-size=640x480;recording-hint=true".toList⟩,
          .set_parameters
            ⟨1, "cam_mode=1;iso=ISO200;preview-frame-rate=30;preview-size=640x480".toList⟩,
          .open, .set_parameters ⟨1, "cam_mode=1".toList⟩] = some σ ∧
      σ.events =
        [.fixed ⟨1, "cam_mode=1".toList⟩ "cam_mode=1".toList, .opened,
          .fixed ⟨1, "cam_mode=1;iso=ISO200;preview-frame-rate=30;preview-size=640x480".toList⟩
            "cam_mode=0;hdr-need-1x=false;iso=200;preview-frame-rate=30;preview-size=640x480".toList,
          .fixed
            ⟨1, "cam_mode=0;preview-frame-rate=30;preview-size=640x480;recording-hint=true".toList⟩
            ("cam_mode=1;hdr-need-1x=false;preview-frame-rate=30;preview-size=640x480;" ++
              "recording-hint=true").toList,
          .fixed ⟨1, "cam_mode=1".toList⟩ "cam_mode=1".toList, .opened] ∧
      Recorded ⟨⟨false, false, false⟩, true, false, false, false, false, true, true⟩ σ := by
  have first : (cameraMode ⟨⟨false, false, false⟩, true, false, false, false, false, true,
      true⟩).initial ⟨false, []⟩ := rfl
  exact System.execUnder_then first (fun σ run _ => camera_fixup_setparams run)
    (by decide +kernel)

end

end A5Common.Camera
