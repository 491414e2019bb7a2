import A5Common.Engine.UserAgent
import A5Common.Engine.SerialNumber
import A5Common.Cfg.Strtol

set_option autoImplicit false

namespace A5Common.Engine.UserAgent

open A5Common.Run
open A5Common.Cfg (isspace cString forall_toDigits)
open A5Common.Daemon (Abi)
open A5Common.Number (length_toDigits_le)
open A5Common.Utils

def PROPERTY_VALUE_MAX : Nat := 92

def CHIPSET_SERIAL_NUMBER_MAX_LEN : Nat := 16

def USER_AGENT_MAX_LEN : Nat := 512

def defVal : List Char := "-".toList

inductive Property where
  | release
  | manufacture
  | model
  | board
  | brand

def Property.key : Property → String
  | .release => "ro.build.version.release"
  | .manufacture => "ro.product.manufacturer"
  | .model => "ro.product.model"
  | .board => "ro.product.board"
  | .brand => "ro.product.brand"

/-- The value of a system property, which is empty if the property is not set. -/
structure PropertyValue where
  text : List Char
  terminated : Char.ofNat 0 ∉ text
  short : text.length < PROPERTY_VALUE_MAX

/-- What the user agent tells of a device: its properties, its file with the serial number if that
can be opened, and its id. -/
structure Device where
  properties : String → PropertyValue
  serialNumber : Option (List Char)
  izatDevId : BitVec 32

/-- What `property_get` copies. -/
def Device.property_get (device : Device) (key : String) (default_value : List Char) : List Char :=
  if (device.properties key).text = [] then default_value else (device.properties key).text

def Device.value (device : Device) (property : Property) : List Char :=
  device.property_get property.key defVal

/-- What is on the stack where `proc` and `encodeInPlace` have their buffers. -/
structure Stack where
  value : Property → Nat → Char
  buffer : Property → Nat → Char
  chipsetsn : Nat → Char

/-- A property in its buffer, encoded there. -/
def encodedProperty (stack : Stack) (device : Device) (property : Property) : Option (List Char) :=
  (strlcpy ((List.range PROPERTY_VALUE_MAX).map (stack.value property)) (device.value property)
    PROPERTY_VALUE_MAX).bind
      (fun value => encodeInPlace (stack.buffer property) value PROPERTY_VALUE_MAX)

def chipsetSerialNo (abi : Abi) (stack : Stack) (device : Device) : Option (List Char) :=
  getChipsetSerialNo abi device.serialNumber
    ((List.range CHIPSET_SERIAL_NUMBER_MAX_LEN).map stack.chipsetsn)
    CHIPSET_SERIAL_NUMBER_MAX_LEN defVal

/-- What the `snprintf` of `proc` would print into a buffer of any size. -/
def agentFormat (release manufacture model board : List Char) (izatDevId : BitVec 32)
    (chipsetsn brand : List Char) : List Char :=
  ['A', '/'] ++ release ++ ['/'] ++ manufacture ++ ['/'] ++ model ++ ['/'] ++ board ++
    ['/', '-', '/', 'Q', 'C', 'X', '3', '/', 's'] ++ Nat.toDigits 10 izatDevId.toNat ++
    ['/', '-', '/'] ++ chipsetsn ++ ['/', '-', '/'] ++ brand ++ ['/', '-', '/', '-', '/', '-']

/-- The loop that replaces the spaces of a string in a buffer. -/
def replaceSpaces : List Char → List Char
  | [] => []
  | c :: rest =>
      if c = Char.ofNat 0 then c :: rest
      else (if c = ' ' then '#' else c) :: replaceSpaces rest

/-- The buffer `userAgent` up to its terminator. There is no result if memory is left. -/
def userAgent (abi : Abi) (stack : Stack) (device : Device) : Option (List Char) :=
  (chipsetSerialNo abi stack device).bind fun chipsetsn =>
    (encodedProperty stack device .release).bind fun release =>
      (encodedProperty stack device .manufacture).bind fun manufacture =>
        (encodedProperty stack device .model).bind fun model =>
          (encodedProperty stack device .board).bind fun board =>
            (encodedProperty stack device .brand).bind fun brand =>
              let text := agentFormat (cString release) (cString manufacture) (cString model)
                (cString board) device.izatDevId (cString chipsetsn) (cString brand)
              some (replaceSpaces (text.take (USER_AGENT_MAX_LEN - 1) ++ [Char.ofNat 0]))

/-- What `stat` says of `XTRA_FOLDER`. -/
inductive Stat where
  | found
  | ENOENT
  | otherErrno
deriving DecidableEq

/-- What becomes of the system calls of `saveUserAgentString`. -/
structure Storage where
  stat : Stat
  mkdir : Bool
  fopen : Bool
  fwrite : Nat

/-- The file can be opened. -/
def Storage.opens (storage : Storage) : Bool :=
  (storage.stat == .found || storage.stat == .ENOENT && storage.mkdir) && storage.fopen

/-- `saveUserAgentString`: what is in the file then, if it has been opened. -/
def saveUserAgentString (storage : Storage) (data : List Char) (len : Nat) :
    Option (List Char) :=
  if len < 1 then none
  else
    match storage.stat with
    | .found => if storage.fopen then some ((data.take len).take storage.fwrite) else none
    | .ENOENT =>
        if storage.mkdir then
          if storage.fopen then some ((data.take len).take storage.fwrite) else none
        else none
    | .otherErrno => none

/-- `LocSetXtraUserAgent::proc`, with what it leaves in the file if it opens that. -/
def proc (abi : Abi) (stack : Stack) (device : Device) (storage : Storage) :
    Option (Option (List Char)) :=
  (userAgent abi stack device).bind fun userAgent =>
    (strlen userAgent).map fun len => saveUserAgentString storage userAgent len

/-- A character of the file for a character of the text. -/
def hash (c : Char) : Char := if c = ' ' then '#' else c

theorem hash_of_ne {c : Char} (other : c ≠ ' ') : hash c = c := if_neg other

theorem replaceSpaces_eq {text : List Char} (inside : Char.ofNat 0 ∉ text) (rest : List Char) :
    replaceSpaces (text ++ Char.ofNat 0 :: rest) = text.map hash ++ Char.ofNat 0 :: rest := by
  induction text with
  | nil => rfl
  | cons c text ih =>
      rw [List.mem_cons, not_or] at inside
      rw [List.cons_append, replaceSpaces, if_neg (Ne.symm inside.1), ih inside.2]
      rfl

theorem hash_ne {c d : Char} (other : d ≠ '#') (different : c ≠ d) : hash c ≠ d := by
  unfold hash
  split
  · exact other.symm
  · exact different

/-- Codes have no spaces, and neither a space nor its replacement has a code. -/
theorem map_hash_encoded (c : Char) : (encoded c).map hash = encoded (hash c) := by
  by_cases space : c = ' '
  · rw [space]
    rfl
  · have same := hash_of_ne space
    rw [same]
    rcases encoded_cases c with ⟨-, kept, -⟩ | ⟨e, mem, -, rfl, code⟩
    · rw [kept, List.map_singleton, same]
    · rw [code]
      simp only [encodings, List.mem_cons, List.not_mem_nil, or_false] at mem
      rcases mem with rfl | rfl | rfl | rfl <;> rfl

theorem map_hash_flatMap (text : List Char) :
    (text.flatMap encoded).map hash = (text.map hash).flatMap encoded := by
  rw [List.map_flatMap, List.flatMap_map]
  exact List.flatMap_congr (fun c _ => map_hash_encoded c)

theorem toDigits_plain (n : Nat) :
    ∀ c ∈ Nat.toDigits 10 n, c ≠ ' ' ∧ c ≠ '/' ∧ c ≠ Char.ofNat 0 :=
  forall_toDigits (by decide) (by decide) n

theorem map_hash_toDigits (n : Nat) : (Nat.toDigits 10 n).map hash = Nat.toDigits 10 n := by
  rw [List.map_congr_left (fun c member => hash_of_ne (toDigits_plain n c member).1), List.map_id']

theorem cString_of_not_mem {text : List Char} (inside : Char.ofNat 0 ∉ text) :
    cString text = text :=
  List.takeWhile_eq_self_iff.mpr (fun _ member =>
    bne_iff_ne.mpr (fun same => inside (same ▸ member)))

/-- What is kept of a text that is encoded in a size. -/
def KeptOf (size : Nat) (text kept : List Char) : Prop :=
  kept <+: text ∧ ((text.flatMap encoded).length < size → kept = text)

theorem encodeInPlace_kept (stack : Nat → Char) {text rest : List Char} {size : Nat}
    (inside : Char.ofNat 0 ∉ text) (array : (text ++ Char.ofNat 0 :: rest).length = size) :
    ∃ kept after, KeptOf size text kept ∧
      encodeInPlace stack (text ++ Char.ofNat 0 :: rest) size = some after ∧
      cString after = kept.flatMap encoded ∧ (kept.flatMap encoded).length < size := by
  have some : 0 < size := by
    rw [← array, List.length_append, List.length_cons]
    omega
  obtain ⟨e, kept, loop, front, written, whole⟩ :=
    encodeLoop_written inside rest [] (written_nil stack some) rfl
      (show text.length < (text ++ Char.ofNat 0 :: rest).length by
        rw [List.length_append, List.length_cons]
        omega)
  rw [List.nil_append] at loop written
  have room := written.room
  have run : encodeInPlace stack (text ++ Char.ofNat 0 :: rest) size =
      .some (kept.flatMap encoded ++ Char.ofNat 0 ::
        (text ++ Char.ofNat 0 :: rest).drop ((kept.flatMap encoded).length + 1)) := by
    simp only [encodeInPlace, loop]
    exact copied_written written (by rw [array]; exact room)
  refine ⟨kept, _, ⟨front, fun fits => whole ?_⟩, run, cString_terminated (fun mem => ?_) _, room⟩
  · rw [List.length_nil, Nat.zero_add]
    exact fits
  · have clean : Char.ofNat 0 ∉ kept := fun terminator => inside (front.subset terminator)
    exact (mem_flatMap_encoded clean mem).2.2.2 rfl

theorem Device.value_text (device : Device) (property : Property) :
    Char.ofNat 0 ∉ device.value property ∧
      (device.value property).length < PROPERTY_VALUE_MAX := by
  unfold Device.value Device.property_get
  split
  · decide
  · exact ⟨(device.properties property.key).terminated, (device.properties property.key).short⟩

theorem encodedProperty_kept (stack : Stack) (device : Device) (property : Property) :
    ∃ kept after, KeptOf PROPERTY_VALUE_MAX (device.value property) kept ∧
      encodedProperty stack device property = some after ∧
      cString after = kept.flatMap encoded ∧
      (kept.flatMap encoded).length < PROPERTY_VALUE_MAX := by
  obtain ⟨inside, short⟩ := device.value_text property
  have array : ((List.range PROPERTY_VALUE_MAX).map (stack.value property)).length =
      PROPERTY_VALUE_MAX := by
    rw [List.length_map, List.length_range]
  obtain ⟨rest, copied, length⟩ := strlcpy_eq array (by decide) (device.value property)
  have whole : (cString (device.value property)).take (PROPERTY_VALUE_MAX - 1) =
      device.value property := by
    rw [cString_of_not_mem inside]
    exact List.take_of_length_le (Nat.le_sub_one_of_lt short)
  rw [whole] at copied length
  rw [encodedProperty, copied, Option.bind_some]
  exact encodeInPlace_kept _ inside length

/-- The serial number, or the default. -/
def Device.chipsetsn (device : Device) : List Char :=
  (serialText device.serialNumber CHIPSET_SERIAL_NUMBER_MAX_LEN defVal).rdropWhile isspace

theorem Device.chipsetsn_text (device : Device) :
    Char.ofNat 0 ∉ device.chipsetsn ∧ device.chipsetsn.length < CHIPSET_SERIAL_NUMBER_MAX_LEN := by
  have front := List.rdropWhile_prefix isspace
    (serialText device.serialNumber CHIPSET_SERIAL_NUMBER_MAX_LEN defVal)
  refine ⟨fun mem => serialText_clean _ _ _ (front.subset mem), ?_⟩
  refine Nat.lt_of_le_of_lt front.length_le ?_
  have default : ((cString defVal).take (CHIPSET_SERIAL_NUMBER_MAX_LEN - 1)).length <
      CHIPSET_SERIAL_NUMBER_MAX_LEN := by decide
  unfold serialText
  split
  · exact default
  · rename_i content
    split
    · exact default
    · refine Nat.lt_of_le_of_lt (List.takeWhile_prefix _).length_le ?_
      exact Nat.lt_of_le_of_lt (List.length_take_le _ _) (by decide)

theorem chipsetSerialNo_eq (abi : Abi) (stack : Stack) {device : Device}
    (trimmable : Trimmable device.serialNumber CHIPSET_SERIAL_NUMBER_MAX_LEN defVal) :
    ∃ after, chipsetSerialNo abi stack device = some after ∧
      cString after = device.chipsetsn := by
  have array : ((List.range CHIPSET_SERIAL_NUMBER_MAX_LEN).map stack.chipsetsn).length =
      CHIPSET_SERIAL_NUMBER_MAX_LEN := by
    rw [List.length_map, List.length_range]
  obtain ⟨after, run, -, text⟩ : SerialRead abi device.serialNumber
      ((List.range CHIPSET_SERIAL_NUMBER_MAX_LEN).map stack.chipsetsn)
      CHIPSET_SERIAL_NUMBER_MAX_LEN defVal := by
    cases file : device.serialNumber with
    | none =>
        rw [file] at trimmable
        exact (serialRead_missing abi array (by decide) defVal).mpr trimmable
    | some content =>
        rw [file] at trimmable
        exact (serialRead_present abi content array (by decide) (by decide) defVal).mpr trimmable
  exact ⟨after, run, text⟩

/-- The fields of a user agent, each between two separators. -/
def agentFields (field : Property → List Char) (izatDevId : BitVec 32) (chipsetsn : List Char) :
    List (List Char) :=
  [['A'], field .release, field .manufacture, field .model, field .board, ['-'],
    ['Q', 'C', 'X', '3'], 's' :: Nat.toDigits 10 izatDevId.toNat, ['-'], chipsetsn, ['-'],
    field .brand, ['-'], ['-'], ['-']]

theorem agentFormat_eq (field : Property → List Char) (izatDevId : BitVec 32)
    (chipsetsn : List Char) :
    agentFormat (field .release) (field .manufacture) (field .model) (field .board) izatDevId
      chipsetsn (field .brand) = ['/'].intercalate (agentFields field izatDevId chipsetsn) := by
  simp [agentFormat, agentFields, List.intercalate_cons_cons]

theorem length_agentFormat_lt (field : Property → List Char) (izatDevId : BitVec 32)
    {chipsetsn : List Char} (short : ∀ property, (field property).length < PROPERTY_VALUE_MAX)
    (serial : chipsetsn.length < CHIPSET_SERIAL_NUMBER_MAX_LEN) :
    (agentFormat (field .release) (field .manufacture) (field .model) (field .board) izatDevId
      chipsetsn (field .brand)).length < USER_AGENT_MAX_LEN := by
  have release := short .release
  have manufacture := short .manufacture
  have model := short .model
  have board := short .board
  have brand := short .brand
  have id := length_toDigits_le (show 0 < 10 by decide)
    (show izatDevId.toNat < 10 ^ 10 by have := izatDevId.isLt; omega)
  simp only [agentFormat, List.length_append, List.length_cons, List.length_nil]
  unfold PROPERTY_VALUE_MAX CHIPSET_SERIAL_NUMBER_MAX_LEN USER_AGENT_MAX_LEN at *
  omega

theorem map_hash_agentFormat (release manufacture model board : List Char) (izatDevId : BitVec 32)
    (chipsetsn brand : List Char) :
    (agentFormat release manufacture model board izatDevId chipsetsn brand).map hash =
      agentFormat (release.map hash) (manufacture.map hash) (model.map hash) (board.map hash)
        izatDevId (chipsetsn.map hash) (brand.map hash) := by
  simp only [agentFormat, List.map_append, map_hash_toDigits]
  rfl

theorem saveUserAgentString_eq (storage : Storage) {agent : List Char} (some : agent ≠ []) :
    saveUserAgentString storage (agent ++ [Char.ofNat 0]) agent.length =
      if storage.opens then .some (agent.take storage.fwrite) else none := by
  have long := List.length_pos_iff.mpr some
  unfold saveUserAgentString Storage.opens
  rw [if_neg (by omega), List.take_left]
  cases storage.stat <;> cases storage.mkdir <;> cases storage.fopen <;> rfl

/-- A property as it stands in the file. -/
def written (kept : Property → List Char) (property : Property) : List Char :=
  ((kept property).map hash).flatMap encoded

theorem map_hash_ne {text : List Char} {d : Char} (other : d ≠ '#') (inside : d ∉ text) :
    d ∉ text.map hash := by
  intro mem
  obtain ⟨c, member, same⟩ := List.mem_map.mp mem
  exact hash_ne other (fun same => inside (same ▸ member)) same

theorem mem_map_hash_slash {text : List Char} : '/' ∈ text.map hash ↔ '/' ∈ text := by
  refine ⟨fun mem => ?_, fun mem => List.mem_map.mpr ⟨'/', mem, rfl⟩⟩
  by_contra inside
  exact map_hash_ne (by decide) inside mem

/-- The whole text is in the buffer. -/
theorem userAgent_eq (abi : Abi) (stack : Stack) {device : Device}
    (trimmable : Trimmable device.serialNumber CHIPSET_SERIAL_NUMBER_MAX_LEN defVal) :
    ∃ (kept : Property → List Char) (agent : List Char),
      (∀ property, KeptOf PROPERTY_VALUE_MAX (device.value property) (kept property)) ∧
      agent = ['/'].intercalate
        (agentFields (written kept) device.izatDevId (device.chipsetsn.map hash)) ∧
      agent.length < USER_AGENT_MAX_LEN ∧ Char.ofNat 0 ∉ agent ∧
      userAgent abi stack device = some (agent ++ [Char.ofNat 0]) := by
  choose kept after kept_of run text short using encodedProperty_kept stack device
  obtain ⟨serial, number, number_text⟩ := chipsetSerialNo_eq abi stack trimmable
  have ⟨serial_inside, serial_short⟩ := device.chipsetsn_text
  obtain ⟨plain, printed⟩ : ∃ plain, agentFormat ((kept .release).flatMap encoded)
    ((kept .manufacture).flatMap encoded) ((kept .model).flatMap encoded)
    ((kept .board).flatMap encoded) device.izatDevId device.chipsetsn
    ((kept .brand).flatMap encoded) = plain := ⟨_, rfl⟩
  have whole : plain.length < USER_AGENT_MAX_LEN := by
    rw [← printed]
    exact length_agentFormat_lt (fun property => (kept property).flatMap encoded)
      device.izatDevId short serial_short
  have inside : Char.ofNat 0 ∉ plain := by
    have digits : Char.ofNat 0 ∉ Nat.toDigits 10 device.izatDevId.toNat :=
      fun mem => (toDigits_plain _ _ mem).2.2 rfl
    have codes (property : Property) : Char.ofNat 0 ∉ (kept property).flatMap encoded := by
      intro mem
      have clean : Char.ofNat 0 ∉ kept property :=
        fun terminator => (device.value_text property).1 ((kept_of property).1.subset terminator)
      exact (mem_flatMap_encoded clean mem).2.2.2 rfl
    rw [← printed]
    simp [agentFormat, codes, digits, serial_inside]
  refine ⟨kept, plain.map hash, kept_of, ?_, ?_, map_hash_ne (by decide) inside, ?_⟩
  · rw [← printed]
    simp only [map_hash_agentFormat, map_hash_flatMap]
    exact agentFormat_eq (written kept) device.izatDevId (device.chipsetsn.map hash)
  · rw [List.length_map]
    exact whole
  · rw [userAgent, number, Option.bind_some, run, Option.bind_some, run, Option.bind_some, run,
      Option.bind_some, run, Option.bind_some, run, Option.bind_some]
    dsimp only
    rw [number_text, text, text, text, text, text, printed,
      List.take_of_length_le (Nat.le_sub_one_of_lt whole), replaceSpaces_eq inside]

theorem not_mem_of_mem_splitOn {c : Char} {text piece : List Char}
    (member : piece ∈ text.splitOn c) : c ∉ piece := by
  induction text generalizing piece with
  | nil =>
      rw [List.splitOn_nil, List.mem_singleton] at member
      rw [member]
      exact List.not_mem_nil
  | cons d text ih =>
      rw [List.splitOn_cons_eq_if_modifyHead] at member
      split at member
      · rcases List.mem_cons.mp member with rfl | later
        · exact List.not_mem_nil
        · exact ih later
      · rename_i other
        cases pieces : text.splitOn c with
        | nil => exact absurd pieces (List.splitOn_ne_nil c text)
        | cons first more =>
            rw [pieces, List.modifyHead_cons] at member
            rw [pieces] at ih
            rcases List.mem_cons.mp member with rfl | later
            · have free := ih List.mem_cons_self
              rw [List.mem_cons, not_or]
              exact ⟨fun same => other (by rw [same]; exact beq_self_eq_true d), free⟩
            · exact ih (List.mem_cons_of_mem first later)

/-- The user agent is not cut, and as much of it is saved as the file takes. It has fifteen fields,
in which the properties are read back by percent decoding, with a sign for each space, up to what
fits into the buffer of a property. The separators are where they should be if and only if the
serial number, which is not encoded, has none. -/
def Readable (abi : Abi) (stack : Stack) (device : Device) (storage : Storage) : Prop :=
  ∃ (kept : Property → List Char) (agent : List Char),
    (∀ property, KeptOf PROPERTY_VALUE_MAX (device.value property) (kept property) ∧
      percentDecode (written kept property) = some ((kept property).map hash)) ∧
    proc abi stack device storage =
      some (if storage.opens then some (agent.take storage.fwrite) else none) ∧
    agent = ['/'].intercalate
      (agentFields (written kept) device.izatDevId (device.chipsetsn.map hash)) ∧
    agent.length < USER_AGENT_MAX_LEN ∧
    (agent.splitOn '/' =
        agentFields (written kept) device.izatDevId (device.chipsetsn.map hash) ↔
      '/' ∉ device.chipsetsn)

/-- Whatever the properties and the id of a device are, and whatever is in its file, if the serial
number is read as it should, the user agent is readable. -/
theorem user_agent_readable (abi : Abi) (stack : Stack) {device : Device} (storage : Storage)
    (trimmable : Trimmable device.serialNumber CHIPSET_SERIAL_NUMBER_MAX_LEN defVal) :
    Readable abi stack device storage := by
  obtain ⟨kept, agent, kept_of, joined, short, inside, run⟩ := userAgent_eq abi stack trimmable
  refine ⟨kept, agent, fun property => ⟨kept_of property, percentDecode_flatMap _⟩, ?_, joined,
    short, ?_, ?_⟩
  · have some : agent ≠ [] := by
      rw [joined, agentFields, List.intercalate_cons_cons]
      exact List.cons_ne_nil _ _
    rw [proc, run, Option.bind_some, strlen_terminated inside, Option.map_some,
      saveUserAgentString_eq storage some]
  · intro split serial
    have piece : device.chipsetsn.map hash ∈
        agentFields (written kept) device.izatDevId (device.chipsetsn.map hash) := by
      simp [agentFields]
    rw [← split] at piece
    exact not_mem_of_mem_splitOn piece (mem_map_hash_slash.mpr serial)
  · intro serial
    rw [joined]
    refine List.splitOn_intercalate '/' ?_ (List.cons_ne_nil _ _)
    have digits : '/' ∉ 's' :: Nat.toDigits 10 device.izatDevId.toNat := by
      rw [List.mem_cons, not_or]
      exact ⟨by decide, fun mem => (toDigits_plain _ _ mem).2.1 rfl⟩
    have codes (property : Property) : '/' ∉ written kept property := by
      intro mem
      have clean : Char.ofNat 0 ∉ kept property :=
        fun terminator => (device.value_text property).1 ((kept_of property).1.subset terminator)
      exact (mem_flatMap_encoded (map_hash_ne (by decide) clean) mem).1 rfl
    have number : '/' ∉ device.chipsetsn.map hash := fun mem => serial (mem_map_hash_slash.mp mem)
    simp only [agentFields, List.forall_mem_cons]
    simp [codes, digits, number]

theorem unset_terminated : Char.ofNat 0 ∉ ([] : List Char) := List.not_mem_nil

def onePhone : Device where
  properties key :=
    if key = "ro.product.model" then ⟨"A5 50%/x".toList, by decide, by decide⟩
    else if key = "ro.product.board" then ⟨[], unset_terminated, by decide⟩
    else ⟨"v1".toList, by decide, by decide⟩
  serialNumber := some "12 3 \n".toList
  izatDevId := 7

def oldStack : Stack := ⟨fun _ _ => 'z', fun _ _ => 'z', fun _ => 'z'⟩

theorem user_agent_readable_phone :
    Readable .ilp32 oldStack onePhone ⟨.found, false, true, 99⟩ ∧
      proc .ilp32 oldStack onePhone ⟨.found, false, true, 99⟩ =
        some (some "A/v1/v1/A5#50%25%2Fx/-/-/QCX3/s7/-/12#3/-/v1/-/-/-".toList) :=
  ⟨user_agent_readable .ilp32 _ _ ⟨'1', by decide, by decide⟩, by decide +kernel⟩

end A5Common.Engine.UserAgent
