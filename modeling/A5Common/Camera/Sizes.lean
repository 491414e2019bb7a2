import A5Common.Camera.CameraParameters
import A5Common.Cfg.Strtol
import Mathlib.Data.List.ReduceOption

set_option autoImplicit false

namespace A5Common.Camera

open A5Common.Run A5Common.Number A5Common.Cfg Delimited

def KEY_PREVIEW_SIZE : String8 := "preview-size".toList

def KEY_PREFERRED_PREVIEW_SIZE_FOR_VIDEO : String8 := "preferred-preview-size-for-video".toList

def KEY_VIDEO_SIZE : String8 := "video-size".toList

def KEY_PICTURE_SIZE : String8 := "picture-size".toList

def KEY_PREVIEW_FPS_RANGE : String8 := "preview-fps-range".toList

def KEY_PREVIEW_FRAME_RATE : String8 := "preview-frame-rate".toList

def KEY_SUPPORTED_PREVIEW_SIZES : String8 := "preview-size-values".toList

def KEY_SUPPORTED_VIDEO_SIZES : String8 := "video-size-values".toList

def KEY_SUPPORTED_PICTURE_SIZES : String8 := "picture-size-values".toList

structure Size where
  width : BitVec 32
  height : BitVec 32
deriving DecidableEq

section

variable {F : Type} (platform : Platform F)

/-- The cast of a `long` to `int`. -/
def strtolInt (text : String8) : BitVec 32 :=
  BitVec.ofInt 32 (strtol platform 10 text)

/-- The two numbers, and the text behind them; nothing if the delimiter is not between
them. -/
def parsePair (str : String8) (delim : Char) : Option (Size × String8) :=
  let end_ := strtolEnd str
  if end_.head? ≠ some delim then none
  else some (⟨strtolInt platform str, strtolInt platform end_.tail⟩, strtolEnd end_.tail)

theorem length_parsePair {str rest : String8} {delim : Char} {size : Size}
    (parsed : parsePair platform str delim = some (size, rest)) : rest.length < str.length := by
  unfold parsePair at parsed
  simp only at parsed
  split at parsed
  · cases parsed
  · rename_i found
    cases parsed
    have first := (strtolEnd_suffix str).length_le
    have second := (strtolEnd_suffix (strtolEnd str).tail).length_le
    have filled : strtolEnd str ≠ [] := by
      intro empty
      rw [empty] at found
      exact found (Option.some_ne_none _).symm
    have positive := List.length_pos_iff.mpr filled
    rw [List.length_tail] at second
    omega

/-- The sizes that the loop of `parseSizesList` pushes. -/
def parseSizes (sizesStr : String8) : List Size :=
  match parsed : parsePair platform sizesStr 'x' with
  | none => []
  | some (size, []) => [size]
  | some (size, c :: rest) =>
      have _shorter : rest.length < sizesStr.length :=
        lt_trans (Nat.lt_succ_self _) (length_parsePair platform parsed)
      if c = ',' then size :: parseSizes rest else []
termination_by sizesStr.length

def parseSizesList (sizesStr : Option String8) (sizes : List Size) : List Size :=
  match sizesStr with
  | none => sizes
  | some sizesStr => sizes ++ parseSizes platform sizesStr

/-- `-1` and `-1` if there is no string or it is no pair. -/
def getPair (key : String8) (delim : Char) (params : CameraParameters) : Size :=
  match params.get key with
  | none => ⟨-1, -1⟩
  | some p => ((parsePair platform p delim).map Prod.fst).getD ⟨-1, -1⟩

def getInt (key : String8) (params : CameraParameters) : BitVec 32 :=
  match params.get key with
  | none => -1
  | some v => BitVec.ofInt 32 (strtolAny platform v)

end

/-- What `%dx%d` prints. -/
def printSize (size : Size) : String8 :=
  decimal 0 size.width.toInt ++ 'x' :: decimal 0 size.height.toInt

namespace CameraParameters

def setSize (key : String8) (qcomHardware : Bool) (size : Size) (params : CameraParameters) :
    CameraParameters :=
  params.set qcomHardware (some key) (some (printSize size))

def setPreviewSize : Bool → Size → CameraParameters → CameraParameters :=
  setSize KEY_PREVIEW_SIZE

def setVideoSize : Bool → Size → CameraParameters → CameraParameters :=
  setSize KEY_VIDEO_SIZE

def setPictureSize : Bool → Size → CameraParameters → CameraParameters :=
  setSize KEY_PICTURE_SIZE

def setPreviewFrameRate (qcomHardware : Bool) (fps : BitVec 32) (params : CameraParameters) :
    CameraParameters :=
  params.setInt qcomHardware (some KEY_PREVIEW_FRAME_RATE) fps

section

variable {F : Type} (platform : Platform F)

def getPreviewSize : CameraParameters → Size :=
  getPair platform KEY_PREVIEW_SIZE 'x'

def getPreferredPreviewSizeForVideo : CameraParameters → Size :=
  getPair platform KEY_PREFERRED_PREVIEW_SIZE_FOR_VIDEO 'x'

def getVideoSize : CameraParameters → Size :=
  getPair platform KEY_VIDEO_SIZE 'x'

def getPictureSize : CameraParameters → Size :=
  getPair platform KEY_PICTURE_SIZE 'x'

def getPreviewFpsRange : CameraParameters → Size :=
  getPair platform KEY_PREVIEW_FPS_RANGE ','

def getPreviewFrameRate : CameraParameters → BitVec 32 :=
  getInt platform KEY_PREVIEW_FRAME_RATE

def getSupportedPreviewSizes (params : CameraParameters) : List Size → List Size :=
  parseSizesList platform (params.get KEY_SUPPORTED_PREVIEW_SIZES)

def getSupportedVideoSizes (params : CameraParameters) : List Size → List Size :=
  parseSizesList platform (params.get KEY_SUPPORTED_VIDEO_SIZES)

def getSupportedPictureSizes (params : CameraParameters) : List Size → List Size :=
  parseSizesList platform (params.get KEY_SUPPORTED_PICTURE_SIZES)

end

/-- A call that is not about a name. -/
def Operation.Leaves (name : String8) : Operation → Prop
  | .set key _ => key ≠ some name
  | .setInt key _ => key ≠ some name
  | .remove key => key ≠ name
  | .unflatten _ => False

instance (name : String8) : DecidablePred (Operation.Leaves name)
  | .set key _ => inferInstanceAs (Decidable (key ≠ some name))
  | .setInt key _ => inferInstanceAs (Decidable (key ≠ some name))
  | .remove key => inferInstanceAs (Decidable (key ≠ name))
  | .unflatten _ => .isFalse id

variable {qcomHardware : Bool} {name : String8}

theorem settingAfterSet_leaves {key value : String8} (other : key ≠ name)
    (named : KEY_HDR_NEED_1X ≠ name) (setting : Option String8) :
    settingAfterSet qcomHardware key value name setting = setting := by
  unfold settingAfterSet
  have kept : ¬ (qcomHardware = true ∧ KEY_HDR_NEED_1X = name ∧ setting.getD [] = []) :=
    fun all => named all.2.1
  rw [if_neg other, if_neg kept, ite_self]

theorem settingAfter_leaves {operation : Operation} (leaves : operation.Leaves name)
    (named : KEY_HDR_NEED_1X ≠ name) (setting : Option String8) :
    settingAfter qcomHardware name setting operation = setting := by
  cases operation with
  | set key value =>
      cases key with
      | none => rfl
      | some key =>
          cases value with
          | none => rfl
          | some value =>
              exact settingAfterSet_leaves (fun same => leaves (congrArg some same)) named setting
  | setInt key value =>
      cases key with
      | none => rfl
      | some key =>
          exact settingAfterSet_leaves (fun same => leaves (congrArg some same)) named setting
  | remove key => exact if_neg leaves
  | unflatten text => exact leaves.elim

theorem lookup_applyAll_leaves {operations : List Operation}
    (leave : ∀ operation ∈ operations, operation.Leaves name) (named : KEY_HDR_NEED_1X ≠ name)
    (params : CameraParameters) :
    (params.applyAll qcomHardware operations).mMap.lookup name = params.mMap.lookup name := by
  rw [lookup_applyAll]
  induction operations with
  | nil => rfl
  | cons operation rest ih =>
      rw [List.forall_mem_cons] at leave
      rw [List.foldl_cons, settingAfter_leaves leave.1 named]
      exact ih leave.2

theorem lookup_set_self {key value : String8} (accepted : Accepted key value)
    (params : CameraParameters) :
    (params.set qcomHardware (some key) (some value)).mMap.lookup key = some value := by
  rw [lookup_set, settingAfterSet, if_pos accepted, if_pos rfl]

/-- A string that has been set is there as long as no call is about its key. -/
theorem get_applyAll_set {key value : String8} {operations : List Operation}
    (accepted : Accepted key value) (filled : value ≠ [])
    (leave : ∀ operation ∈ operations, operation.Leaves key) (named : KEY_HDR_NEED_1X ≠ key)
    (params : CameraParameters) :
    ((params.set qcomHardware (some key) (some value)).applyAll qcomHardware operations).get key =
      some value := by
  have kept := @lookup_applyAll_leaves qcomHardware key operations leave named
    (params.set qcomHardware (some key) (some value))
  rw [lookup_set_self accepted] at kept
  exact get_of_lookup kept filled

end CameraParameters

theorem stops_x : Stops 'x' := ⟨rfl, by decide, by decide, rfl⟩

theorem stops_comma : Stops ',' := ⟨rfl, by decide, by decide, rfl⟩

theorem not_mem_decimal {c : Char} (other : c.isDigit = false) (plus : c ≠ '-') (n : Int) :
    c ∉ decimal 0 n := by
  rw [decimal_zero, List.mem_append, not_or]
  refine ⟨fun member => ?_, fun member => ?_⟩
  · unfold sign at member
    split at member
    · exact plus (List.mem_singleton.mp member)
    · exact List.not_mem_nil member
  · have found := Nat.isDigit_of_mem_toDigits (by decide) (by decide) member
    rw [other] at found
    cases found

/-- Two numbers with a delimiter between them; a size has an `x`. -/
def printPair (delim : Char) (pair : Size) : String8 :=
  decimal 0 pair.width.toInt ++ delim :: decimal 0 pair.height.toInt

theorem not_mem_printPair {c delim : Char} (other : c.isDigit = false) (minus : c ≠ '-')
    (apart : c ≠ delim) (pair : Size) : c ∉ printPair delim pair := by
  unfold printPair
  rw [List.mem_append, List.mem_cons, not_or, not_or]
  exact ⟨not_mem_decimal other minus _, apart, not_mem_decimal other minus _⟩

theorem not_mem_printSize {c : Char} (other : c.isDigit = false) (minus : c ≠ '-') (x : c ≠ 'x')
    (size : Size) : c ∉ printSize size :=
  not_mem_printPair other minus x size

section

variable {F : Type} (platform : Platform F)

theorem strtolInt_decimal (long : 2147483647 ≤ platform.LONG_MAX) (n : BitVec 32) :
    strtolInt platform (decimal 0 n.toInt) = n := by
  have low := BitVec.le_toInt n
  have high := @BitVec.toInt_lt 32 n
  unfold strtolInt
  rw [strtol_decimal platform (by omega) (by omega), BitVec.ofInt_toInt]

theorem parsePair_printPair (long : 2147483647 ≤ platform.LONG_MAX) {delim : Char}
    (stops : Stops delim) (pair : Size) :
    parsePair platform (printPair delim pair) delim = some (pair, []) := by
  have first_end : strtolEnd (printPair delim pair) = delim :: decimal 0 pair.height.toInt := by
    unfold printPair
    rw [stops.strtolEnd_append, strtolEnd_decimal, List.nil_append]
  have first : strtolInt platform (printPair delim pair) = pair.width := by
    unfold printPair strtolInt
    rw [stops.strtol_append]
    exact strtolInt_decimal platform long pair.width
  unfold parsePair
  simp only [first_end, first, List.head?_cons, List.tail_cons, ne_eq, not_true_eq_false,
    if_false, strtolInt_decimal platform long, strtolEnd_decimal]

theorem parsePair_printSize (long : 2147483647 ≤ platform.LONG_MAX) (size : Size) :
    parsePair platform (printSize size) 'x' = some (size, []) :=
  parsePair_printPair platform long stops_x size

/-- The comma and what follows it are left behind the pair. -/
theorem parsePair_comma {delim : Char} (other : delim ≠ ',') (front rest : String8) :
    parsePair platform (front ++ ',' :: rest) delim =
      (parsePair platform front delim).map (fun parsed => (parsed.1, parsed.2 ++ ',' :: rest)) := by
  unfold parsePair strtolInt
  simp only [stops_comma.strtolEnd_append, stops_comma.strtol_append]
  cases strtolEnd front with
  | nil =>
      have comma : ([] ++ ',' :: rest).head? ≠ some delim :=
        fun same => other (Option.some_inj.mp same).symm
      have nothing : ([] : String8).head? ≠ some delim := (Option.some_ne_none delim).symm
      rw [if_pos comma, if_pos nothing]
      rfl
  | cons c end_ =>
      have head : ((c :: end_) ++ ',' :: rest).head? = (c :: end_).head? := rfl
      have tail : ((c :: end_) ++ ',' :: rest).tail = end_ ++ ',' :: rest := rfl
      rw [head, tail]
      split
      · rfl
      · rw [stops_comma.strtolEnd_append, stops_comma.strtol_append]
        rfl

theorem parsePair_suffix {str rest : String8} {delim : Char} {size : Size}
    (parsed : parsePair platform str delim = some (size, rest)) : rest <:+ str := by
  unfold parsePair at parsed
  simp only at parsed
  split at parsed
  · cases parsed
  · cases parsed
    exact (strtolEnd_suffix _).trans ((List.tail_suffix _).trans (strtolEnd_suffix _))

/-- A text that is a pair and nothing else. -/
def readSize (piece : String8) : Option Size :=
  match parsePair platform piece 'x' with
  | some (size, []) => some size
  | _ => none

/-- The pairs in front of the first piece that is none. -/
def readSizes (pieces : List String8) : List Size :=
  ((pieces.map (readSize platform)).takeWhile Option.isSome).reduceOption

theorem readSizes_cons (piece : String8) (pieces : List String8) :
    readSizes platform (piece :: pieces) =
      (readSize platform piece).elim [] (fun size => size :: readSizes platform pieces) := by
  unfold readSizes
  rw [List.map_cons]
  cases readSize platform piece with
  | none => rfl
  | some size => rfl

theorem parseSizes_eq (text : String8) :
    parseSizes platform text =
      match parsePair platform text 'x' with
      | none => []
      | some (size, []) => [size]
      | some (size, c :: rest) => if c = ',' then size :: parseSizes platform rest else [] := by
  rw [parseSizes]
  split
  · rename_i missing
    rw [missing]
  · rename_i last
    rw [last]
  · rename_i more
    simp only [more]

/-- A text without a comma is one piece. -/
theorem parseSizes_piece {text : String8} (free : ',' ∉ text) :
    parseSizes platform text = readSizes platform [text] := by
  rw [parseSizes_eq, readSizes_cons, readSize]
  cases parsed : parsePair platform text 'x' with
  | none => rfl
  | some result =>
      obtain ⟨size, rest⟩ := result
      cases rest with
      | nil => rfl
      | cons c rest =>
          have member := (parsePair_suffix platform parsed).subset List.mem_cons_self
          have other : c ≠ ',' := fun same => free (same ▸ member)
          exact if_neg other

theorem parseSizes_pieces {front : String8} (free : ',' ∉ front) (rest : String8) :
    parseSizes platform (front ++ ',' :: rest) =
      (readSize platform front).elim [] (fun size => size :: parseSizes platform rest) := by
  rw [parseSizes_eq, parsePair_comma platform (by decide), readSize]
  cases parsed : parsePair platform front 'x' with
  | none => rfl
  | some result =>
      obtain ⟨size, after⟩ := result
      cases after with
      | nil => rfl
      | cons c after =>
          have member := (parsePair_suffix platform parsed).subset List.mem_cons_self
          have other : c ≠ ',' := fun same => free (same ▸ member)
          exact if_neg other

theorem parseSizes_eq_readSizes (text : String8) :
    parseSizes platform text = readSizes platform (text.splitOn ',') := by
  induction bound : text.length using Nat.strongRecOn generalizing text with
  | ind length ih =>
      cases found : after ',' text with
      | none =>
          have free := after_eq_none.mp found
          rw [List.splitOn_eq_singleton free, parseSizes_piece platform free]
      | some rest =>
          have shorter := length_after found
          rw [after_eq_some.mp found,
            List.splitOn_append_cons_self_of_not_mem (not_mem_before ',' text),
            parseSizes_pieces platform (not_mem_before ',' text), readSizes_cons,
            ih rest.length (bound ▸ shorter) rest rfl]

theorem readSizes_print (long : 2147483647 ≤ platform.LONG_MAX) (sizes : List Size) :
    readSizes platform (sizes.map printSize) = sizes := by
  induction sizes with
  | nil => rfl
  | cons size rest ih =>
      have here : readSize platform (printSize size) = some size := by
        rw [readSize, parsePair_printSize platform long]
      rw [List.map_cons, readSizes_cons, here, Option.elim_some, ih]

theorem printPair_ne_nil (delim : Char) (pair : Size) : printPair delim pair ≠ [] := by
  unfold printPair
  intro empty
  have length := congrArg List.length empty
  rw [List.length_append, List.length_cons] at length
  exact absurd length (Nat.succ_ne_zero _)

/-- What is read of a text that was written of sizes. -/
theorem parseSizesList_print (long : 2147483647 ≤ platform.LONG_MAX) (pushed sizes : List Size) :
    parseSizesList platform (some ([','].intercalate (pushed.map printSize))) sizes =
      sizes ++ pushed := by
  refine congrArg (sizes ++ ·) ?_
  cases pushed with
  | nil =>
      rw [List.map_nil, List.intercalate_nil, parseSizes_eq]
      rfl
  | cons size rest =>
      have free : ∀ piece ∈ (size :: rest).map printSize, ',' ∉ piece := by
        intro piece member
        obtain ⟨size, _, same⟩ := List.mem_map.mp member
        rw [← same]
        exact not_mem_printSize (by decide) (by decide) (by decide) size
      rw [parseSizes_eq_readSizes, List.splitOn_intercalate ',' free (List.cons_ne_nil _ _),
        readSizes_print platform long]

/-- What `parseSizesList` pushes are the pairs in front of the first piece of the text that is
none, and all sizes that a list of them was written of. -/
theorem parse_sizes_list (platform : Platform F) (long : 2147483647 ≤ platform.LONG_MAX)
    (sizesStr : String8) (sizes pushed : List Size) :
    parseSizesList platform (some sizesStr) sizes =
        sizes ++ readSizes platform (sizesStr.splitOn ',') ∧
      parseSizesList platform (some ([','].intercalate (pushed.map printSize))) sizes =
        sizes ++ pushed :=
  ⟨congrArg (sizes ++ ·) (parseSizes_eq_readSizes platform sizesStr),
    parseSizesList_print platform long pushed sizes⟩

theorem parse_sizes_list_lp64 :
    parseSizesList lp64 (some "640x480,x5,12x,7".toList) [] = [⟨640, 480⟩, ⟨0, 5⟩, ⟨12, 0⟩] := by
  rw [(parse_sizes_list lp64 (by decide) "640x480,x5,12x,7".toList [] []).1]
  decide +kernel

variable {platform}

theorem getPair_printed {qcomHardware : Bool} {key : String8} {delim : Char} {pair : Size}
    {operations : List CameraParameters.Operation}
    (long : 2147483647 ≤ platform.LONG_MAX) (stops : Stops delim)
    (apart : '=' ≠ delim ∧ ';' ≠ delim) (plain : '=' ∉ key ∧ ';' ∉ key)
    (named : KEY_HDR_NEED_1X ≠ key)
    (leave : ∀ operation ∈ operations, operation.Leaves key) (params : CameraParameters) :
    getPair platform key delim ((params.set qcomHardware (some key)
      (some (printPair delim pair))).applyAll qcomHardware operations) = pair := by
  have accepted : CameraParameters.Accepted key (printPair delim pair) :=
    ⟨plain, not_mem_printPair (by decide) (by decide) apart.1 pair,
      not_mem_printPair (by decide) (by decide) apart.2 pair⟩
  unfold getPair
  rw [CameraParameters.get_applyAll_set accepted (printPair_ne_nil delim pair) leave named params]
  simp only [parsePair_printPair platform long stops, Option.map_some, Option.getD_some]

theorem getPair_set {qcomHardware : Bool} {key : String8} {size : Size}
    {operations : List CameraParameters.Operation}
    (long : 2147483647 ≤ platform.LONG_MAX) (plain : '=' ∉ key ∧ ';' ∉ key)
    (named : KEY_HDR_NEED_1X ≠ key) (leave : ∀ operation ∈ operations, operation.Leaves key)
    (params : CameraParameters) :
    getPair platform key 'x'
      ((params.setSize key qcomHardware size).applyAll qcomHardware operations) = size :=
  getPair_printed long stops_x (by decide) plain named leave params

theorem getInt_set {qcomHardware : Bool} {key : String8} {value : BitVec 32}
    {operations : List CameraParameters.Operation}
    (long : 2147483647 ≤ platform.LONG_MAX) (plain : '=' ∉ key ∧ ';' ∉ key)
    (named : KEY_HDR_NEED_1X ≠ key) (leave : ∀ operation ∈ operations, operation.Leaves key)
    (params : CameraParameters) :
    getInt platform key
      ((params.setInt qcomHardware (some key) value).applyAll qcomHardware operations) =
        value := by
  have accepted : CameraParameters.Accepted key (decimal 0 value.toInt) :=
    ⟨plain, not_mem_decimal (by decide) (by decide) _, not_mem_decimal (by decide) (by decide) _⟩
  have filled : decimal 0 value.toInt ≠ [] := by
    rw [decimal_zero]
    exact fun empty => Nat.toDigits_ne_nil (List.append_eq_nil_iff.mp empty).2
  have low := BitVec.le_toInt value
  have high := @BitVec.toInt_lt 32 value
  unfold getInt CameraParameters.setInt
  rw [CameraParameters.get_applyAll_set accepted filled leave named params]
  simp only
  rw [strtolAny_decimal platform (by omega) (by omega), BitVec.ofInt_toInt]

/-- A size or a rate that has been set is read again, of all 32-bit numbers, after calls that
are about other keys and after the parameters have been handed over as a text. -/
theorem size_read_back {qcomHardware : Bool} (long : 2147483647 ≤ platform.LONG_MAX)
    (params : CameraParameters) (operations : List CameraParameters.Operation) (size : Size)
    (fps : BitVec 32) :
    ((∀ operation ∈ operations, operation.Leaves KEY_PREVIEW_SIZE) →
      (CameraParameters.unflatten ((params.setPreviewSize qcomHardware size).applyAll
        qcomHardware operations).flatten).getPreviewSize platform = size) ∧
    ((∀ operation ∈ operations, operation.Leaves KEY_VIDEO_SIZE) →
      (CameraParameters.unflatten ((params.setVideoSize qcomHardware size).applyAll
        qcomHardware operations).flatten).getVideoSize platform = size) ∧
    ((∀ operation ∈ operations, operation.Leaves KEY_PICTURE_SIZE) →
      (CameraParameters.unflatten ((params.setPictureSize qcomHardware size).applyAll
        qcomHardware operations).flatten).getPictureSize platform = size) ∧
    ((∀ operation ∈ operations, operation.Leaves KEY_PREVIEW_FRAME_RATE) →
      (CameraParameters.unflatten ((params.setPreviewFrameRate qcomHardware fps).applyAll
        qcomHardware operations).flatten).getPreviewFrameRate platform = fps) := by
  simp only [CameraParameters.unflatten_flatten]
  exact ⟨fun leave => getPair_set long (by decide) (by decide) leave params,
    fun leave => getPair_set long (by decide) (by decide) leave params,
    fun leave => getPair_set long (by decide) (by decide) leave params,
    fun leave => getInt_set long (by decide) (by decide) leave params⟩

theorem size_read_back_lp64 :
    (CameraParameters.unflatten ((CameraParameters.empty.setPreviewSize true ⟨-7, 480⟩).applyAll
      true [.remove KEY_VIDEO_SIZE, .setInt (some KEY_PREVIEW_FRAME_RATE) 30]).flatten).getPreviewSize
        lp64 = ⟨-7, 480⟩ :=
  (size_read_back (by decide) .empty _ ⟨-7, 480⟩ 0).1 (by decide)

theorem not_mem_intercalate {c : Char} {pieces : List String8} (comma : c ≠ ',')
    (free : ∀ piece ∈ pieces, c ∉ piece) : c ∉ [','].intercalate pieces := by
  induction pieces with
  | nil => exact List.not_mem_nil
  | cons first rest ih =>
      rw [List.forall_mem_cons] at free
      cases rest with
      | nil =>
          rw [List.intercalate_singleton]
          exact free.1
      | cons second rest =>
          rw [List.intercalate_cons_cons, List.mem_append, List.mem_append, List.mem_singleton]
          exact not_or.mpr ⟨not_or.mpr ⟨free.1, comma⟩, ih free.2⟩

/-- A list of sizes that has been set is read back. -/
theorem getSizes_set {qcomHardware : Bool} {key : String8}
    {operations : List CameraParameters.Operation}
    (long : 2147483647 ≤ platform.LONG_MAX) (plain : '=' ∉ key ∧ ';' ∉ key)
    (named : KEY_HDR_NEED_1X ≠ key) (leave : ∀ operation ∈ operations, operation.Leaves key)
    (params : CameraParameters) {pushed : List Size} (some_size : pushed ≠ [])
    (sizes : List Size) :
    parseSizesList platform (((params.set qcomHardware (some key)
      (some ([','].intercalate (pushed.map printSize)))).applyAll qcomHardware operations).get key)
        sizes = sizes ++ pushed := by
  obtain ⟨first, rest, rfl⟩ := List.exists_cons_of_ne_nil some_size
  have free {c : Char} (other : c.isDigit = false) (minus : c ≠ '-') (x : c ≠ 'x')
      (comma : c ≠ ',') : c ∉ [','].intercalate ((first :: rest).map printSize) := by
    refine not_mem_intercalate comma ?_
    intro piece member
    obtain ⟨size, -, rfl⟩ := List.mem_map.mp member
    exact not_mem_printSize other minus x size
  have accepted : CameraParameters.Accepted key
      ([','].intercalate ((first :: rest).map printSize)) :=
    ⟨plain, free (by decide) (by decide) (by decide) (by decide),
      free (by decide) (by decide) (by decide) (by decide)⟩
  have filled : [','].intercalate ((first :: rest).map printSize) ≠ [] := by
    intro empty
    have read := parseSizesList_print platform long (first :: rest) []
    rw [empty, parseSizesList, parseSizes_eq] at read
    cases read
  rw [CameraParameters.get_applyAll_set accepted filled leave named params]
  exact parseSizesList_print platform long (first :: rest) sizes

/-- So are the lists of the sizes that are supported, the preferred size and the range of
rates, when their texts have been set as a vendor writes them. -/
theorem supported_read_back {qcomHardware : Bool} (long : 2147483647 ≤ platform.LONG_MAX)
    (params : CameraParameters) (operations : List CameraParameters.Operation) (pair : Size)
    {pushed : List Size} (some_size : pushed ≠ []) (sizes : List Size) :
    let after (key text : String8) :=
      (params.set qcomHardware (some key) (some text)).applyAll qcomHardware operations
    let list := [','].intercalate (pushed.map printSize)
    ((∀ operation ∈ operations, operation.Leaves KEY_SUPPORTED_PREVIEW_SIZES) →
      (after KEY_SUPPORTED_PREVIEW_SIZES list).getSupportedPreviewSizes platform sizes =
        sizes ++ pushed) ∧
    ((∀ operation ∈ operations, operation.Leaves KEY_SUPPORTED_VIDEO_SIZES) →
      (after KEY_SUPPORTED_VIDEO_SIZES list).getSupportedVideoSizes platform sizes =
        sizes ++ pushed) ∧
    ((∀ operation ∈ operations, operation.Leaves KEY_SUPPORTED_PICTURE_SIZES) →
      (after KEY_SUPPORTED_PICTURE_SIZES list).getSupportedPictureSizes platform sizes =
        sizes ++ pushed) ∧
    ((∀ operation ∈ operations, operation.Leaves KEY_PREFERRED_PREVIEW_SIZE_FOR_VIDEO) →
      (after KEY_PREFERRED_PREVIEW_SIZE_FOR_VIDEO (printSize pair)).getPreferredPreviewSizeForVideo
        platform = pair) ∧
    ((∀ operation ∈ operations, operation.Leaves KEY_PREVIEW_FPS_RANGE) →
      (after KEY_PREVIEW_FPS_RANGE (printPair ',' pair)).getPreviewFpsRange platform = pair) :=
  ⟨fun leave => getSizes_set long (by decide) (by decide) leave params some_size sizes,
    fun leave => getSizes_set long (by decide) (by decide) leave params some_size sizes,
    fun leave => getSizes_set long (by decide) (by decide) leave params some_size sizes,
    fun leave => getPair_printed long stops_x (by decide) (by decide) (by decide) leave params,
    fun leave => getPair_printed long stops_comma (by decide) (by decide) (by decide) leave params⟩

end

end A5Common.Camera
