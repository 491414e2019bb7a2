import A5Common.Run.SortedMap
import A5Common.Run.Delimited
import A5Common.Cfg.Param
import A5Common.Number.Decimal
import Mathlib.Data.List.Lex
import Mathlib.Data.Char

set_option autoImplicit false

namespace A5Common.Camera

open A5Common.Run A5Common.Number Delimited

/-- The characters of a string, without its terminator. -/
abbrev String8 : Type := List Char

def KEY_HDR_NEED_1X : String8 := "hdr-need-1x".toList

/-- `mMap`. No key has the sign that ends a key, and no value the one that ends a value. -/
structure CameraParameters where
  mMap : SortedMap String8 String8
  separable : ∀ binding ∈ mMap.bindings, Separable '=' ';' binding

namespace CameraParameters

instance : DecidableEq CameraParameters := fun first second =>
  decidable_of_iff (first.mMap = second.mMap)
    ⟨fun same => by cases first; cases second; cases same; rfl, congrArg CameraParameters.mMap⟩

def empty : CameraParameters := ⟨.empty, List.forall_mem_nil _⟩

def flatten (params : CameraParameters) : String8 :=
  joined '=' ';' params.mMap.bindings

/-- `add` replaces the value of a key that is there. -/
def unflatten (params : String8) : CameraParameters :=
  ⟨SortedMap.empty.insertAll (pairs '=' ';' params),
    SortedMap.forall_insertAll (pairs_separable params) (List.forall_mem_nil _)⟩

def replaceValueFor (key value : String8) (separable : Separable '=' ';' (key, value))
    (params : CameraParameters) : CameraParameters :=
  ⟨params.mMap.insert key value, SortedMap.forall_insert separable params.separable⟩

/-- A key that is missing has the empty string, and that is no value. -/
def get (key : String8) (params : CameraParameters) : Option String8 :=
  let v := (params.mMap.lookup key).getD []
  if v.length = 0 then none else some v

/-- What `set` does first if `QCOM_HARDWARE` is defined. -/
def withoutExtraFrame (qcomHardware : Bool) (params : CameraParameters) : CameraParameters :=
  if qcomHardware = true ∧ params.get KEY_HDR_NEED_1X = none then
    params.replaceValueFor KEY_HDR_NEED_1X "false".toList (by decide)
  else params

def set (qcomHardware : Bool) (key value : Option String8) (params : CameraParameters) :
    CameraParameters :=
  match key, value with
  | some key, some value =>
      if key_invalid : '=' ∈ key ∨ ';' ∈ key then params
      else if value_invalid : '=' ∈ value ∨ ';' ∈ value then params
      else
        (params.withoutExtraFrame qcomHardware).replaceValueFor key value
          ⟨(not_or.mp key_invalid).1, (not_or.mp value_invalid).2⟩
  | _, _ => params

def setInt (qcomHardware : Bool) (key : Option String8) (value : BitVec 32)
    (params : CameraParameters) : CameraParameters :=
  params.set qcomHardware key (some (decimal 0 value.toInt))

def remove (key : String8) (params : CameraParameters) : CameraParameters :=
  ⟨params.mMap.erase key, SortedMap.forall_erase params.separable⟩

/-- The calls that change the parameters. -/
inductive Operation where
  | set (key value : Option String8)
  | setInt (key : Option String8) (value : BitVec 32)
  | remove (key : String8)
  | unflatten (params : String8)
deriving DecidableEq

def apply (qcomHardware : Bool) (params : CameraParameters) : Operation → CameraParameters
  | .set key value => params.set qcomHardware key value
  | .setInt key value => params.setInt qcomHardware key value
  | .remove key => params.remove key
  | .unflatten text => unflatten text

def applyAll (qcomHardware : Bool) (operations : List Operation) (params : CameraParameters) :
    CameraParameters :=
  operations.foldl (apply qcomHardware) params

/-- A key and a value that `set` takes. -/
def Accepted (key value : String8) : Prop :=
  ('=' ∉ key ∧ ';' ∉ key) ∧ '=' ∉ value ∧ ';' ∉ value

instance (key value : String8) : Decidable (Accepted key value) :=
  inferInstanceAs (Decidable (('=' ∉ key ∧ ';' ∉ key) ∧ '=' ∉ value ∧ ';' ∉ value))

/-- What becomes of the setting of one name when another string is set. It depends on
nothing but that setting. -/
def settingAfterSet (qcomHardware : Bool) (key value name : String8)
    (setting : Option String8) : Option String8 :=
  if Accepted key value then
    if key = name then some value
    else if qcomHardware = true ∧ KEY_HDR_NEED_1X = name ∧ setting.getD [] = [] then
      some "false".toList
    else setting
  else setting

/-- What becomes of the setting of one name in a call. -/
def settingAfter (qcomHardware : Bool) (name : String8) (setting : Option String8) :
    Operation → Option String8
  | .set (some key) (some value) => settingAfterSet qcomHardware key value name setting
  | .set _ _ => setting
  | .setInt (some key) value =>
      settingAfterSet qcomHardware key (decimal 0 value.toInt) name setting
  | .setInt none _ => setting
  | .remove key => if key = name then none else setting
  | .unflatten text => SortedMap.find name (pairs '=' ';' text).reverse

variable {qcomHardware : Bool} {params : CameraParameters} {key value name : String8}

theorem ext_mMap {first second : CameraParameters} (same : first.mMap = second.mMap) :
    first = second := by
  cases first
  cases second
  cases same
  rfl

/-- What is written is read again as it was, whatever calls made it. -/
theorem unflatten_flatten (params : CameraParameters) : unflatten params.flatten = params := by
  apply ext_mMap
  have read : pairs '=' ';' params.flatten = params.mMap.bindings := pairs_joined params.separable
  calc (unflatten params.flatten).mMap
    _ = SortedMap.empty.insertAll (pairs '=' ';' params.flatten) := rfl
    _ = SortedMap.empty.insertAll params.mMap.bindings := by rw [read]
    _ = params.mMap := SortedMap.insertAll_bindings params.mMap

theorem lookup_unflatten (text name : String8) :
    (unflatten text).mMap.lookup name = SortedMap.find name (pairs '=' ';' text).reverse := by
  unfold unflatten
  rw [SortedMap.lookup_insertAll, SortedMap.lookup_empty, Option.or_none]

theorem get_eq_none : params.get key = none ↔ (params.mMap.lookup key).getD [] = [] := by
  have read : params.get key =
      if ((params.mMap.lookup key).getD []).length = 0 then none
      else some ((params.mMap.lookup key).getD []) := rfl
  rw [read]
  split
  · rename_i empty
    exact iff_of_true rfl (List.length_eq_zero_iff.mp empty)
  · rename_i filled
    exact iff_of_false (Option.some_ne_none _)
      (fun empty => filled (List.length_eq_zero_iff.mpr empty))

theorem get_of_lookup (found : params.mMap.lookup key = some value) (filled : value ≠ []) :
    params.get key = some value := by
  unfold get
  rw [found]
  exact if_neg (fun empty => filled (List.length_eq_zero_iff.mp empty))

theorem lookup_withoutExtraFrame (name : String8) :
    (params.withoutExtraFrame qcomHardware).mMap.lookup name =
      if qcomHardware = true ∧ KEY_HDR_NEED_1X = name ∧
          (params.mMap.lookup name).getD [] = [] then some "false".toList
      else params.mMap.lookup name := by
  unfold withoutExtraFrame
  by_cases missing : qcomHardware = true ∧ params.get KEY_HDR_NEED_1X = none
  · rw [if_pos missing, replaceValueFor, SortedMap.lookup_insert]
    rw [get_eq_none] at missing
    by_cases named : KEY_HDR_NEED_1X = name
    · rw [if_pos named, if_pos ⟨missing.1, named, named ▸ missing.2⟩]
    · rw [if_neg named, if_neg (fun all => named all.2.1)]
  · rw [if_neg missing]
    rw [get_eq_none] at missing
    by_cases named : KEY_HDR_NEED_1X = name
    · rw [if_neg (fun all => missing ⟨all.1, named ▸ all.2.2⟩)]
    · rw [if_neg (fun all => named all.2.1)]

theorem lookup_set (key value name : String8) (params : CameraParameters) :
    (params.set qcomHardware (some key) (some value)).mMap.lookup name =
      settingAfterSet qcomHardware key value name (params.mMap.lookup name) := by
  unfold settingAfterSet set
  by_cases key_invalid : '=' ∈ key ∨ ';' ∈ key
  · rw [if_neg (fun taken : Accepted key value => key_invalid.elim taken.1.1 taken.1.2)]
    simp only [dif_pos key_invalid]
  · by_cases value_invalid : '=' ∈ value ∨ ';' ∈ value
    · rw [if_neg (fun taken : Accepted key value => value_invalid.elim taken.2.1 taken.2.2)]
      simp only [dif_neg key_invalid, dif_pos value_invalid]
    · have taken : Accepted key value := ⟨not_or.mp key_invalid, not_or.mp value_invalid⟩
      simp only [dif_neg key_invalid, dif_neg value_invalid, if_pos taken, replaceValueFor,
        SortedMap.lookup_insert, lookup_withoutExtraFrame]

theorem lookup_apply (operation : Operation) (name : String8) (params : CameraParameters) :
    (params.apply qcomHardware operation).mMap.lookup name =
      settingAfter qcomHardware name (params.mMap.lookup name) operation := by
  cases operation with
  | set key value =>
      cases key with
      | none => rfl
      | some key =>
          cases value with
          | none => rfl
          | some value => exact lookup_set key value name params
  | setInt key value =>
      cases key with
      | none => rfl
      | some key => exact lookup_set key _ name params
  | remove key =>
      refine (SortedMap.lookup_erase key name params.mMap).trans ?_
      by_cases removed : key = name
      · exact (if_pos removed).trans (if_pos removed).symm
      · exact (if_neg removed).trans (if_neg removed).symm
  | unflatten text => exact lookup_unflatten text name

theorem lookup_applyAll (operations : List Operation) (name : String8)
    (params : CameraParameters) :
    (params.applyAll qcomHardware operations).mMap.lookup name =
      operations.foldl (settingAfter qcomHardware name) (params.mMap.lookup name) := by
  induction operations generalizing params with
  | nil => rfl
  | cons operation rest ih =>
      rw [applyAll, List.foldl_cons, List.foldl_cons, ← lookup_apply]
      exact ih _

/-- Parameters that are handed over as a text, after any calls, arrive as they are, and no
others have that text. -/
theorem handed_over (text : String8) (operations : List Operation) (other : CameraParameters) :
    unflatten ((unflatten text).applyAll qcomHardware operations).flatten =
        (unflatten text).applyAll qcomHardware operations ∧
      (other.flatten = ((unflatten text).applyAll qcomHardware operations).flatten ↔
        other = (unflatten text).applyAll qcomHardware operations) := by
  refine ⟨unflatten_flatten _, fun same => ?_, congrArg flatten⟩
  calc other
    _ = unflatten other.flatten := (unflatten_flatten other).symm
    _ = (unflatten text).applyAll qcomHardware operations := by rw [same, unflatten_flatten]

/-- After any calls the setting of a name is what they make of that setting alone: the last
call that is about the name counts. A setting that is empty is read as none. -/
theorem setting_of_name (operations : List Operation) (name : String8)
    (params : CameraParameters) :
    (params.applyAll qcomHardware operations).get name =
      (operations.foldl (settingAfter qcomHardware name) (params.mMap.lookup name)).filter
        (fun value => value ≠ []) := by
  rw [← lookup_applyAll]
  cases found : (params.applyAll qcomHardware operations).mMap.lookup name with
  | none =>
      rw [Option.filter_none, get_eq_none, found]
      rfl
  | some value =>
      by_cases empty : value = []
      · rw [Option.filter_some_neg (by simpa using empty), get_eq_none, found]
        exact empty
      · rw [Option.filter_some_pos (by simpa using empty), get_of_lookup found empty]

end CameraParameters

end A5Common.Camera
