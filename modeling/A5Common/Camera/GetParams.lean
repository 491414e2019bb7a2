import A5Common.Camera.Ids
import A5Common.Camera.Sizes
import A5Common.Run.Effect

set_option autoImplicit false

namespace A5Common.Camera

open A5Common.Run

def KEY_SUPPORTED_ISO_MODES : String8 := "iso-values".toList

def KEY_SUPPORTED_SCENE_MODES : String8 := "scene-mode-values".toList

def KEY_QC_FACE_RECOGNITION : String8 := "face-recognition".toList

def KEY_QC_SUPPORTED_FACE_RECOGNITION : String8 := "face-recognition-values".toList

def KEY_QC_SUPPORTED_FACE_RECOGNITION_MODES : String8 := "face-recognition-values".toList

def KEY_QC_FACE_DETECTION : String8 := "face-detection".toList

def KEY_QC_SUPPORTED_FACE_DETECTION : String8 := "face-detection-values".toList

def KEY_FACE_DETECTION : String8 := "face-detection".toList

def KEY_SUPPORTED_FACE_DETECTION : String8 := "face-detection-values".toList

/-- The macros that are defined. -/
structure Build where
  isoModes : IsoModes
  QCOM_HARDWARE : Bool
  FFC_PICTURE_FIXUP : Bool
  FFC_VIDEO_FIXUP : Bool
  DISABLE_FACE_DETECTION : Bool
  DISABLE_FACE_DETECTION_BOTH_CAMERAS : Bool
  SAMSUNG_CAMERA_MODE : Bool
  ENABLE_ZSL : Bool

/-- `iso_values[id]`, if the array has it. -/
def isoValue (build : Build) (id : Int) : Option String8 :=
  (supportedIsoModes build.isoModes id).map String.toList

def sceneModes : String8 :=
  ("auto,asd,action,portrait,landscape,night,night-portrait,theatre,beach,snow,sunset," ++
    "steadyphoto,fireworks,sports,party,candlelight,backlight,flowers,AR").toList

/-- The keys that are removed, in this order. -/
def faceKeys : List String8 :=
  [KEY_QC_FACE_RECOGNITION, KEY_QC_SUPPORTED_FACE_RECOGNITION,
    KEY_QC_SUPPORTED_FACE_RECOGNITION_MODES, KEY_QC_FACE_DETECTION,
    KEY_QC_SUPPORTED_FACE_DETECTION, KEY_FACE_DETECTION, KEY_SUPPORTED_FACE_DETECTION]

namespace CameraParameters

def removeAll (keys : List String8) (params : CameraParameters) : CameraParameters :=
  keys.foldl (fun params key => params.remove key) params

/-- A string is set if there is none. -/
def setMissing (qcomHardware : Bool) (key value : String8) (params : CameraParameters) :
    CameraParameters :=
  if params.get key = none then params.set qcomHardware (some key) (some value) else params

end CameraParameters

section

variable (build : Build) (id : Int) (isoModes : String8)

def fixupPictureSizes (params : CameraParameters) : CameraParameters :=
  if build.FFC_PICTURE_FIXUP ∧ id = 1 then
    params.set build.QCOM_HARDWARE (some KEY_SUPPORTED_PICTURE_SIZES)
      (some "1392x1392,1280x720,640x480".toList)
  else params

def fixupVideoSizes (params : CameraParameters) : CameraParameters :=
  if build.FFC_VIDEO_FIXUP ∧ id = 1 then
    params.setMissing build.QCOM_HARDWARE KEY_SUPPORTED_VIDEO_SIZES
      "1280x720,640x480,320x240,176x144".toList
  else params

def fixupFaceDetection (params : CameraParameters) : CameraParameters :=
  if build.DISABLE_FACE_DETECTION ∧ (build.DISABLE_FACE_DETECTION_BOTH_CAMERAS ∨ id = 1) then
    params.removeAll faceKeys
  else params

/-- What is done to the parameters between `unflatten` and `flatten`. -/
def fixupParams (params : CameraParameters) : CameraParameters :=
  let params := params.set build.QCOM_HARDWARE (some KEY_SUPPORTED_ISO_MODES) (some isoModes)
  let params := params.set build.QCOM_HARDWARE (some KEY_PREFERRED_PREVIEW_SIZE_FOR_VIDEO)
    (some "1280x720".toList)
  let params := params.set build.QCOM_HARDWARE (some KEY_SUPPORTED_SCENE_MODES) (some sceneModes)
  let params := fixupPictureSizes build id params
  let params := fixupVideoSizes build id params
  fixupFaceDetection build id params

/-- The text that is handed out; nothing if `iso_values` is read past its end. -/
def cameraFixupGetparams (settings : String8) : Option String8 :=
  (isoValue build id).map (fun isoModes =>
    (fixupParams build id isoModes (.unflatten settings)).flatten)

end

namespace CameraParameters

/-- A setting that is read as none. -/
def blank (setting : Option String8) : Bool :=
  (setting.getD []).isEmpty

theorem blank_iff {setting : Option String8} : blank setting = true ↔ setting.getD [] = [] :=
  List.isEmpty_iff

/-- What is done to parameters with a property is done to each setting, and depends on no
other. -/
structure Pointwise (before : CameraParameters → Prop)
    (change : CameraParameters → CameraParameters) (effect : String8 → Effect String8) : Prop where
  lookup : ∀ params name, before params →
    (change params).mMap.lookup name = (effect name).run blank (params.mMap.lookup name)
  sensible : ∀ name, (effect name).Sensible blank

/-- If `QCOM_HARDWARE` is defined, there is a string that tells about the extra frame. -/
def Settled (qcomHardware : Bool) (params : CameraParameters) : Prop :=
  qcomHardware = true → blank (params.mMap.lookup KEY_HDR_NEED_1X) = false

/-- What `set` does to the setting of a name. -/
def setEffect (qcomHardware : Bool) (key value : Option String8) (name : String8) :
    Effect String8 :=
  match key, value with
  | some key, some value =>
      if Accepted key value then
        if key = name then .write (some value)
        else if qcomHardware = true ∧ KEY_HDR_NEED_1X = name then .default "false".toList
        else .keep
      else .keep
  | _, _ => .keep

section

variable {qcomHardware : Bool} {before middle : CameraParameters → Prop}
  {change after : CameraParameters → CameraParameters} {effect next : String8 → Effect String8}

theorem Pointwise.comp (first : Pointwise before change effect)
    (second : Pointwise middle after next)
    (between : ∀ params, before params → middle (change params)) :
    Pointwise before (fun params => after (change params))
      (fun name => (effect name).andThen blank (next name)) where
  lookup params name holds := by
    rw [second.lookup _ _ (between params holds), first.lookup _ _ holds,
      Effect.run_andThen (first.sensible name)]
  sensible name := Effect.sensible_andThen (first.sensible name) (second.sensible name)

theorem Pointwise.ite (taken : Pointwise before change effect) (condition : Prop)
    [Decidable condition] :
    Pointwise before (fun params => if condition then change params else params)
      (fun name => if condition then effect name else .keep) := by
  by_cases holds : condition
  · simp only [if_pos holds]
    exact taken
  · simp only [if_neg holds]
    exact ⟨fun _ _ _ => rfl, fun _ => trivial⟩

/-- What is done twice in a row is done once. -/
theorem Pointwise.idempotent (once : Pointwise before change effect) {params : CameraParameters}
    (first : before params) (second : before (change params)) :
    change (change params) = change params := by
  apply ext_mMap
  apply SortedMap.ext_lookup
  intro name
  rw [once.lookup _ _ second, once.lookup _ _ first, Effect.run_run (once.sensible name)]

theorem pointwise_set (qcomHardware : Bool) (key value : Option String8) :
    Pointwise (fun _ => True) (fun params => params.set qcomHardware key value)
      (setEffect qcomHardware key value) := by
  constructor
  · intro params name _
    cases key with
    | none => rfl
    | some key =>
        cases value with
        | none => rfl
        | some value =>
            rw [lookup_set, settingAfterSet, setEffect]
            split
            · split
              · rfl
              · by_cases hdr : qcomHardware = true ∧ KEY_HDR_NEED_1X = name
                · rw [if_pos hdr]
                  by_cases empty : (params.mMap.lookup name).getD [] = []
                  · rw [if_pos ⟨hdr.1, hdr.2, empty⟩]
                    exact (if_pos (blank_iff.mpr empty)).symm
                  · rw [if_neg (fun all => empty all.2.2)]
                    exact (if_neg (fun found => empty (blank_iff.mp found))).symm
                · rw [if_neg hdr, if_neg (fun all => hdr ⟨all.1, all.2.1⟩)]
                  rfl
            · rfl
  · intro name
    unfold setEffect
    split
    · split
      · split
        · trivial
        · split
          · exact rfl
          · trivial
      · trivial
    · trivial

theorem settled_set {key value : String8} (accepted : Accepted key value)
    (other : key ≠ KEY_HDR_NEED_1X) (params : CameraParameters) :
    Settled qcomHardware (params.set qcomHardware (some key) (some value)) := by
  intro defined
  rw [lookup_set, settingAfterSet, if_pos accepted, if_neg other]
  split
  · rfl
  · rename_i filled
    rw [← Bool.not_eq_true, blank_iff]
    exact fun empty => filled ⟨defined, rfl, empty⟩

theorem pointwise_setMissing {key value : String8} (accepted : Accepted key value)
    (filled : value ≠ []) :
    Pointwise (Settled qcomHardware) (fun params => params.setMissing qcomHardware key value)
      (fun name => if key = name then .default value else .keep) := by
  constructor
  · intro params name settled
    unfold setMissing
    by_cases missing : params.get key = none
    · rw [if_pos missing, lookup_set, settingAfterSet, if_pos accepted]
      rw [get_eq_none, ← blank_iff] at missing
      by_cases here : key = name
      · rw [if_pos here, if_pos here]
        exact (if_pos (here ▸ missing)).symm
      · have kept : ¬ (qcomHardware = true ∧ KEY_HDR_NEED_1X = name ∧
            (params.mMap.lookup name).getD [] = []) := by
          intro all
          have hdr := settled all.1
          rw [all.2.1, blank_iff.mpr all.2.2] at hdr
          cases hdr
        rw [if_neg here, if_neg here, if_neg kept]
        rfl
    · rw [if_neg missing]
      rw [get_eq_none, ← blank_iff] at missing
      by_cases here : key = name
      · rw [if_pos here]
        exact (if_neg (here ▸ missing)).symm
      · rw [if_neg here]
        rfl
  · intro name
    split
    · rw [Effect.Sensible, ← Bool.not_eq_true, blank_iff]
      exact filled
    · trivial

theorem lookup_removeAll (keys : List String8) (name : String8) (params : CameraParameters) :
    (params.removeAll keys).mMap.lookup name =
      if name ∈ keys then none else params.mMap.lookup name := by
  induction keys generalizing params with
  | nil => rfl
  | cons key rest ih =>
      have removed := ih (params.remove key)
      rw [remove, SortedMap.lookup_erase] at removed
      refine removed.trans ?_
      by_cases here : key = name
      · rw [if_pos here, ite_self, if_pos (here ▸ List.mem_cons_self)]
      · rw [if_neg here]
        by_cases later : name ∈ rest
        · rw [if_pos later, if_pos (List.mem_cons_of_mem _ later)]
        · rw [if_neg later, if_neg (fun member =>
            (List.mem_cons.mp member).elim (fun same => here same.symm) later)]

theorem pointwise_removeAll (keys : List String8) :
    Pointwise (fun _ => True) (fun params => params.removeAll keys)
      (fun name => if name ∈ keys then .write none else .keep) := by
  constructor
  · intro params name _
    rw [lookup_removeAll]
    split
    · rfl
    · rfl
  · intro name
    split
    · trivial
    · trivial

end

end CameraParameters

section

variable (build : Build) (id : Int) (isoModes : String8)

/-- What becomes of the setting of each name. -/
def fixupEffect (name : String8) : Effect String8 :=
  if build.DISABLE_FACE_DETECTION ∧ (build.DISABLE_FACE_DETECTION_BOTH_CAMERAS ∨ id = 1) ∧
      name ∈ faceKeys then
    .write none
  else if name = KEY_SUPPORTED_ISO_MODES then .write (some isoModes)
  else if name = KEY_PREFERRED_PREVIEW_SIZE_FOR_VIDEO then .write (some "1280x720".toList)
  else if name = KEY_SUPPORTED_SCENE_MODES then .write (some sceneModes)
  else if build.FFC_PICTURE_FIXUP ∧ id = 1 ∧ name = KEY_SUPPORTED_PICTURE_SIZES then
    .write (some "1392x1392,1280x720,640x480".toList)
  else if build.FFC_VIDEO_FIXUP ∧ id = 1 ∧ name = KEY_SUPPORTED_VIDEO_SIZES then
    .default "1280x720,640x480,320x240,176x144".toList
  else if build.QCOM_HARDWARE ∧ name = KEY_HDR_NEED_1X then .default "false".toList
  else .keep

/-- The effects of the calls, one after another. -/
def callEffect (name : String8) : Effect String8 :=
  let set key value := CameraParameters.setEffect build.QCOM_HARDWARE (some key) value name
  let andThen (first second : Effect String8) := first.andThen CameraParameters.blank second
  let modes := andThen
    (andThen (set KEY_SUPPORTED_ISO_MODES (some isoModes))
      (set KEY_PREFERRED_PREVIEW_SIZE_FOR_VIDEO (some "1280x720".toList)))
    (set KEY_SUPPORTED_SCENE_MODES (some sceneModes))
  let pictures := andThen modes
    (if build.FFC_PICTURE_FIXUP ∧ id = 1 then
      set KEY_SUPPORTED_PICTURE_SIZES (some "1392x1392,1280x720,640x480".toList)
    else .keep)
  let videos := andThen pictures
    (if build.FFC_VIDEO_FIXUP ∧ id = 1 then
      if KEY_SUPPORTED_VIDEO_SIZES = name then
        .default "1280x720,640x480,320x240,176x144".toList
      else .keep
    else .keep)
  andThen videos
    (if build.DISABLE_FACE_DETECTION ∧
        (build.DISABLE_FACE_DETECTION_BOTH_CAMERAS ∨ id = 1) then
      if name ∈ faceKeys then .write none else .keep
    else .keep)

open CameraParameters

theorem accepted_sceneModes : Accepted KEY_SUPPORTED_SCENE_MODES sceneModes := by
  decide +kernel

theorem pointwise_fixupParams :
    Pointwise (fun _ => True) (fixupParams build id isoModes) (callEffect build id isoModes) := by
  have set := pointwise_set build.QCOM_HARDWARE
  have modes := ((set (some KEY_SUPPORTED_ISO_MODES) (some isoModes)).comp
    (set (some KEY_PREFERRED_PREVIEW_SIZE_FOR_VIDEO) (some "1280x720".toList))
    (fun _ _ => trivial)).comp
    (set (some KEY_SUPPORTED_SCENE_MODES) (some sceneModes)) (fun _ _ => trivial)
  have pictures := (set (some KEY_SUPPORTED_PICTURE_SIZES)
    (some "1392x1392,1280x720,640x480".toList)).ite (build.FFC_PICTURE_FIXUP ∧ id = 1)
  have videos := (@pointwise_setMissing build.QCOM_HARDWARE KEY_SUPPORTED_VIDEO_SIZES
    "1280x720,640x480,320x240,176x144".toList (by decide +kernel) (by decide +kernel)).ite
    (build.FFC_VIDEO_FIXUP ∧ id = 1)
  have faces := (pointwise_removeAll faceKeys).ite
    (build.DISABLE_FACE_DETECTION ∧ (build.DISABLE_FACE_DETECTION_BOTH_CAMERAS ∨ id = 1))
  refine ((modes.comp pictures (fun _ _ => trivial)).comp videos (fun params _ => ?_)).comp faces
    (fun _ _ => trivial)
  split
  · exact settled_set (by decide +kernel) (by decide +kernel) _
  · exact settled_set accepted_sceneModes (by decide +kernel) _

theorem setEffect_other {qcomHardware : Bool} {key name : String8} (other : key ≠ name)
    (named : KEY_HDR_NEED_1X ≠ name) (value : Option String8) :
    setEffect qcomHardware (some key) value name = .keep := by
  unfold setEffect
  cases value with
  | none => rfl
  | some value => simp only [if_neg other, named, and_false, if_false, ite_self]

theorem setEffect_self {key value : String8} (qcomHardware : Bool) :
    setEffect qcomHardware (some key) (some value) key =
      if Accepted key value then .write (some value) else .keep := by
  unfold setEffect
  simp only [if_pos]

theorem setEffect_hdr {qcomHardware : Bool} {key value : String8} (accepted : Accepted key value)
    (other : key ≠ KEY_HDR_NEED_1X) :
    setEffect qcomHardware (some key) (some value) KEY_HDR_NEED_1X =
      if qcomHardware = true then .default "false".toList else .keep := by
  unfold setEffect
  simp only [if_pos accepted, if_neg other, and_true]

/-- The string about the extra frame gets its default at the latest in the second call. -/
theorem setEffect_hdr_andThen {qcomHardware : Bool} {key : String8}
    (other : key ≠ KEY_HDR_NEED_1X) (value : Option String8) :
    (setEffect qcomHardware (some key) value KEY_HDR_NEED_1X).andThen blank
        (if qcomHardware = true then .default "false".toList else .keep) =
      if qcomHardware = true then .default "false".toList else .keep := by
  unfold setEffect
  cases value with
  | none => exact Effect.keep_andThen _
  | some value =>
      simp only [if_neg other, and_true]
      split
      · split
        · rfl
        · rfl
      · exact Effect.keep_andThen _

/-- The keys that are written, and the one that `set` writes besides. -/
def fixupKeys : List String8 :=
  [KEY_SUPPORTED_ISO_MODES, KEY_PREFERRED_PREVIEW_SIZE_FOR_VIDEO, KEY_SUPPORTED_SCENE_MODES,
    KEY_SUPPORTED_PICTURE_SIZES, KEY_SUPPORTED_VIDEO_SIZES, KEY_HDR_NEED_1X]

theorem fixupKeys_apart :
    fixupKeys.Pairwise (fun key other => key ≠ other ∧ other ≠ key) ∧
      ∀ key ∈ fixupKeys, key ∉ faceKeys := by
  decide +kernel

variable {isoModes}

theorem callEffect_eq (iso_accepted : Accepted KEY_SUPPORTED_ISO_MODES isoModes) (name : String8) :
    callEffect build id isoModes name = fixupEffect build id isoModes name := by
  obtain ⟨apart, faces⟩ := fixupKeys_apart
  simp only [fixupKeys, List.pairwise_cons, List.forall_mem_cons, ne_eq] at apart faces
  unfold callEffect fixupEffect
  by_cases hdr : name = KEY_HDR_NEED_1X
  · rw [hdr]
    have preferred : Accepted KEY_PREFERRED_PREVIEW_SIZE_FOR_VIDEO "1280x720".toList := by
      decide +kernel
    have pictures : Accepted KEY_SUPPORTED_PICTURE_SIZES "1392x1392,1280x720,640x480".toList := by
      decide +kernel
    simp only [setEffect_hdr preferred, setEffect_hdr pictures, setEffect_hdr accepted_sceneModes,
      setEffect_hdr_andThen, apart, faces, ne_eq, not_false_eq_true, if_false, and_false, ite_self,
      Effect.andThen_keep, and_true]
    by_cases defined : build.QCOM_HARDWARE = true
    · simp only [if_pos defined, Effect.default_andThen_default]
      split
      · rfl
      · rfl
    · simp only [if_neg defined, ite_self, Effect.andThen_keep]
  have named : KEY_HDR_NEED_1X ≠ name := Ne.symm hdr
  by_cases iso : name = KEY_SUPPORTED_ISO_MODES
  · rw [iso]
    simp only [setEffect_other, setEffect_self, if_pos iso_accepted, apart, faces, ne_eq,
      not_false_eq_true, if_true, if_false, and_false, ite_self, Effect.andThen_keep]
  by_cases preferred : name = KEY_PREFERRED_PREVIEW_SIZE_FOR_VIDEO
  · rw [preferred]
    have accepted : Accepted KEY_PREFERRED_PREVIEW_SIZE_FOR_VIDEO "1280x720".toList := by
      decide +kernel
    simp only [setEffect_other, setEffect_self, if_pos accepted, apart, faces, ne_eq,
      not_false_eq_true, if_true, if_false, and_false, ite_self, Effect.andThen_keep,
      Effect.keep_andThen]
  by_cases scenes : name = KEY_SUPPORTED_SCENE_MODES
  · rw [scenes]
    simp only [setEffect_other, setEffect_self, if_pos accepted_sceneModes, apart, faces, ne_eq,
      not_false_eq_true, if_true, if_false, and_false, ite_self, Effect.andThen_keep,
      Effect.andThen_write]
  by_cases pictures : name = KEY_SUPPORTED_PICTURE_SIZES
  · rw [pictures]
    have accepted : Accepted KEY_SUPPORTED_PICTURE_SIZES "1392x1392,1280x720,640x480".toList := by
      decide +kernel
    simp only [setEffect_other, setEffect_self, if_pos accepted, apart, faces, ne_eq,
      not_false_eq_true, if_false, and_false, and_true, ite_self, Effect.andThen_keep,
      Effect.keep_andThen]
  by_cases videos : name = KEY_SUPPORTED_VIDEO_SIZES
  · rw [videos]
    simp only [setEffect_other, apart, faces, ne_eq, not_false_eq_true, if_true, if_false,
      and_false, and_true, ite_self, Effect.andThen_keep, Effect.keep_andThen]
  · simp only [setEffect_other (Ne.symm iso) named, setEffect_other (Ne.symm preferred) named,
      setEffect_other (Ne.symm scenes) named, setEffect_other (Ne.symm pictures) named,
      if_neg (Ne.symm videos), if_neg iso, if_neg preferred, if_neg scenes, pictures, videos, hdr,
      if_false, and_false, ite_self, Effect.andThen_keep, Effect.keep_andThen, ← ite_and,
      and_assoc]

theorem accepted_isoValues (modes : IsoModes) :
    ∀ values ∈ isoValues modes, Accepted KEY_SUPPORTED_ISO_MODES values.toList := by
  rcases modes with ⟨_ | _, _ | _, _ | _⟩ <;> decide +kernel

/-- The text of the ISO modes, whatever the macros say. -/
theorem isoValue_accepted (build : Build) :
    ∃ isoModes, isoValue build 0 = some isoModes ∧ Accepted KEY_SUPPORTED_ISO_MODES isoModes :=
  ⟨_, rfl, accepted_isoValues build.isoModes _ List.mem_cons_self⟩

/-- What is handed out for the first camera is what the table says of each name, whatever the
parameters are, so that a second fixup changes nothing; no other name has another setting than
before. For any other camera the ISO modes are read past their array. -/
theorem camera_fixup_getparams (build : Build) (settings : String8) :
    (∀ id, (cameraFixupGetparams build id settings).isSome = true ↔ id = 0) ∧
    ∃ text isoModes, cameraFixupGetparams build 0 settings = some text ∧
      isoValue build 0 = some isoModes ∧
      (∀ name, (unflatten text).mMap.lookup name =
        (fixupEffect build 0 isoModes name).run blank ((unflatten settings).mMap.lookup name)) ∧
      cameraFixupGetparams build 0 text = some text := by
  constructor
  · intro id
    rw [cameraFixupGetparams, isoValue, Option.isSome_map, Option.isSome_map]
    exact supportedIsoModes_isSome_iff build.isoModes id
  · obtain ⟨isoModes, found, iso_accepted⟩ := isoValue_accepted build
    have pointwise := pointwise_fixupParams build 0 isoModes
    have handed : ∀ settings, cameraFixupGetparams build 0 settings =
        some (fixupParams build 0 isoModes (unflatten settings)).flatten := by
      intro settings
      rw [cameraFixupGetparams, found]
      rfl
    refine ⟨_, isoModes, handed settings, found, fun name => ?_, ?_⟩
    · rw [unflatten_flatten, pointwise.lookup _ _ trivial, callEffect_eq build 0 iso_accepted]
    · rw [handed, unflatten_flatten, pointwise.idempotent trivial trivial]

end

end A5Common.Camera
