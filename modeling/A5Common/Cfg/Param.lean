import A5Common.Run.Budget
import Mathlib.Logic.Function.Basic

set_option autoImplicit false

namespace A5Common.Cfg

open A5Common.Run

def LOC_MAX_PARAM_NAME : Nat := 80

def LOC_MAX_PARAM_STRING : Nat := 80

def LOC_MAX_PARAM_LINE : Nat := LOC_MAX_PARAM_NAME + LOC_MAX_PARAM_STRING

/-- What depends on the platform: the width of `long`, and the values of type `double`. -/
structure Platform (F : Type) where
  LONG_MAX : Nat
  zero : F
  atof : List Char → F

/-- A `long` of 64 bits, and no value of type `double`. -/
def lp64 : Platform Unit :=
  { LONG_MAX := 9223372036854775807, zero := (), atof := fun _ => () }

def isspace (c : Char) : Bool :=
  c = ' ' || (9 ≤ c.toNat && c.toNat ≤ 13)

def tolower (c : Char) : Char :=
  if 65 ≤ c.toNat ∧ c.toNat ≤ 90 then Char.ofNat (c.toNat + 32) else c

def digit (base : Nat) (c : Char) : Option Nat :=
  let value :=
    if 48 ≤ c.toNat ∧ c.toNat ≤ 57 then c.toNat - 48
    else if 97 ≤ (tolower c).toNat ∧ (tolower c).toNat ≤ 122 then (tolower c).toNat - 87
    else base
  if value < base then some value else none

/-- The value of the digits that a text begins with. -/
def digits (base : Nat) : Nat → List Char → Nat
  | value, [] => value
  | value, c :: rest =>
      match digit base c with
      | some d => digits base (value * base + d) rest
      | none => value

/-- The prefix `0x` of a hexadecimal number, if a digit follows. -/
def skipPrefix : List Char → List Char
  | '0' :: x :: c :: rest =>
      if tolower x = 'x' ∧ (digit 16 c).isSome then c :: rest else '0' :: x :: c :: rest
  | text => text

/-- The value is limited to the range of `long`. -/
def strtol {F : Type} (platform : Platform F) (base : Nat) (text : List Char) : Int :=
  let text := text.dropWhile isspace
  let negative := text.head? = some '-'
  let text := if negative ∨ text.head? = some '+' then text.tail else text
  let value := digits base 0 (if base = 16 then skipPrefix text else text)
  if negative then max (-(platform.LONG_MAX + 1)) (-value) else min platform.LONG_MAX value

def atoi {F : Type} (platform : Platform F) (text : List Char) : BitVec 32 :=
  BitVec.ofInt 32 (strtol platform 10 text)

/-- A buffer up to its terminator. -/
def cString (buffer : List Char) : List Char :=
  buffer.takeWhile (fun c => c != Char.ofNat 0)

/-- The tokens that successive calls of `strtok_r` return. -/
def strtok (delim : Char) (text : List Char) : List (List Char) :=
  (text.splitOn delim).filter (fun token => !token.isEmpty)

structure TrimState where
  write : List Char
  first_nonspace : Bool
  last_nonspace : Option Nat

/-- One round of the loop of `loc_util_trim_space`. -/
def trimStep (t : TrimState) (c : Char) : TrimState :=
  let first_nonspace := t.first_nonspace || !isspace c
  if first_nonspace then
    { write := t.write ++ [c]
      first_nonspace := first_nonspace
      last_nonspace := if !isspace c then some (t.write.length + 1) else t.last_nonspace }
  else t

/-- A text without any character but spaces is left as it is. -/
def locUtilTrimSpace (org_string : List Char) : List Char :=
  let t := org_string.foldl trimStep ⟨[], false, none⟩
  match t.last_nonspace with
  | some last => t.write.take last
  | none => org_string

inductive Value (F : Type) where
  | string (text : List Char)
  | number (value : BitVec 32)
  | float (value : F)
deriving DecidableEq

structure LocParamV (F : Type) where
  param_name : List Char
  param_str_value : List Char
  param_int_value : BitVec 32
  param_double_value : F
deriving DecidableEq

/-- An entry of a parameter table. Its pointers are to variables and to flags. -/
structure LocParam (Var Flag : Type) where
  param_name : List Char
  param_ptr : Option Var
  param_set : Option Flag
  param_type : Char

/-- The variables and flags that a table points to. -/
structure Conf (F Var Flag : Type) where
  value : Var → Value F
  set : Flag → BitVec 8

section

variable {F Var Flag : Type} [DecidableEq Var] [DecidableEq Flag]

/-- What an entry of a type stores of a configuration value. -/
def stored (param_type : Char) (config_value : LocParamV F) : Option (Value F) :=
  if param_type = 's' then
    if config_value.param_str_value = "NULL".toList then some (.string [])
    else some (.string (config_value.param_str_value.take LOC_MAX_PARAM_STRING))
  else if param_type = 'n' then some (.number config_value.param_int_value)
  else if param_type = 'f' then some (.float config_value.param_double_value)
  else none

/-- `loc_set_config_entry`, which returns 0 if it sets the entry. -/
def locSetConfigEntry (config_entry : LocParam Var Flag) (config_value : LocParamV F)
    (conf : Conf F Var Flag) : Option (Conf F Var Flag) :=
  match config_entry.param_ptr with
  | some param_ptr =>
      if config_entry.param_name = config_value.param_name then
        (stored config_entry.param_type config_value).map (fun value =>
          { value := Function.update conf.value param_ptr value
            set :=
              match config_entry.param_set with
              | some param_set => Function.update conf.set param_set 1
              | none => conf.set })
      else none
  | none => none

/-- The name and value of a line, if it has both operands. -/
def configValue (platform : Platform F) (input_buf : List Char) : Option (LocParamV F) :=
  match strtok '=' input_buf with
  | param_name :: param_str_value :: _ =>
      let text := locUtilTrimSpace param_str_value
      if 3 ≤ text.length ∧ text[0]? = some '0' ∧ text[1]?.map tolower = some 'x' then
        some {
          param_name := locUtilTrimSpace param_name
          param_str_value := text
          param_int_value := BitVec.ofInt 32 (strtol platform 16 (text.drop 2))
          param_double_value := platform.zero }
      else
        some {
          param_name := locUtilTrimSpace param_name
          param_str_value := text
          param_int_value := atoi platform text
          param_double_value := platform.atof text }
  | _ => none

/-- The entries of a table that a value is for are set, and counted. -/
def setEntries (config_table : List (LocParam Var Flag)) (config_value : LocParamV F)
    (conf : Conf F Var Flag) : Nat × Conf F Var Flag :=
  config_table.foldl (fun (ret, conf) config_entry =>
    match locSetConfigEntry config_entry config_value conf with
    | some conf => (ret + 1, conf)
    | none => (ret, conf)) (0, conf)

/-- `loc_fill_conf_item` -/
def locFillConfItem (platform : Platform F) (config_table : List (LocParam Var Flag))
    (conf : Conf F Var Flag) (input_buf : List Char) : Nat × Conf F Var Flag :=
  match configValue platform input_buf with
  | some config_value => setEntries config_table config_value conf
  | none => (0, conf)

/-- The buffers that successive calls of `fgets` fill, each with room for as many
characters. -/
def fgets (room : Nat) : List Char → List Char → List (List Char)
  | [], line => if line.isEmpty then [] else [line]
  | c :: rest, line =>
      if c = '\n' ∨ room ≤ line.length + 1 then (line ++ [c]) :: fgets room rest []
      else fgets room rest (line ++ [c])

def clearSet (config_table : List (LocParam Var Flag)) (conf : Conf F Var Flag) :
    Conf F Var Flag :=
  { conf with
    set := config_table.foldl (fun set config_entry =>
      match config_entry.param_set with
      | some param_set => Function.update set param_set 0
      | none => set) conf.set }

/-- `loc_read_conf_r`, with the lines that it leaves in the file. -/
def locReadConfR (platform : Platform F) (conf_fp : Option (List Char))
    (config_table : List (LocParam Var Flag)) (conf : Conf F Var Flag) :
    Int × Conf F Var Flag × List (List Char) :=
  match conf_fp with
  | none => (-1, conf, [])
  | some content =>
      let num_params := BitVec.ofNat 32 config_table.length
      let lines := (fgets (LOC_MAX_PARAM_LINE - 1) content []).map cString
      (0, drain (locFillConfItem platform config_table) num_params lines
        (clearSet config_table conf))

/-- The parameters of the logger. -/
inductive LogParam where
  | DEBUG_LEVEL
  | TIMESTAMP
deriving DecidableEq

def locParamTable : List (LocParam LogParam Empty) :=
  [⟨"DEBUG_LEVEL".toList, some .DEBUG_LEVEL, none, 'n'⟩,
    ⟨"TIMESTAMP".toList, some .TIMESTAMP, none, 'n'⟩]

/-- `loc_read_conf`, which reads a file that it can open for a table and for the logger. -/
def locReadConf (platform : Platform F) (conf_fp : Option (List Char))
    (config_table : Option (List (LocParam Var Flag)))
    (conf : Conf F Var Flag × Conf F LogParam Empty) :
    Conf F Var Flag × Conf F LogParam Empty :=
  match conf_fp with
  | some content =>
      let filled :=
        match config_table with
        | some config_table =>
            if config_table.length ≠ 0 then
              (locReadConfR platform (some content) config_table conf.1).2.1
            else conf.1
        | none => conf.1
      (filled, (locReadConfR platform (some content) locParamTable conf.2).2.1)
  | none => conf

/-- `loc_update_conf`. Its result is the number of lines that it has looked at. -/
def locUpdateConf (platform : Platform F) (malloc : Bool) (conf_data : Option (List Char))
    (length : Nat) (config_table : List (LocParam Var Flag)) (conf : Conf F Var Flag) :
    Int × Conf F Var Flag :=
  match conf_data with
  | none => (-1, conf)
  | some conf_data =>
      if length ≠ 0 ∧ config_table.length ≠ 0 ∧ malloc = true then
        let num_params := BitVec.ofNat 32 config_table.length - 1
        let lines := strtok '\n' (cString (conf_data.take length))
        let done := drain (locFillConfItem platform config_table) num_params lines conf
        (lines.length - done.2.length, done.1)
      else (-1, conf)

end

/-- An entry with a variable and a type that can be set. -/
def LocParam.Settable {Var Flag : Type} (e : LocParam Var Flag) : Prop :=
  e.param_ptr.isSome = true ∧ (e.param_type = 's' ∨ e.param_type = 'n' ∨ e.param_type = 'f')

instance {Var Flag : Type} (e : LocParam Var Flag) : Decidable e.Settable :=
  inferInstanceAs (Decidable (_ ∧ _))

/-- A table whose length the code can hold, and whose parameters each have a variable
and a flag of their own. -/
structure ParamTable (Var Flag : Type) where
  entries : List (LocParam Var Flag)
  fits : entries.length < 4294967296
  ownVariable : ∀ e ∈ entries, ∀ e' ∈ entries, e.param_ptr.isSome = true →
    e.param_ptr = e'.param_ptr → e.param_name = e'.param_name ∧ e.param_type = e'.param_type
  ownFlag : ∀ e ∈ entries, ∀ e' ∈ entries, e.param_set.isSome = true →
    e.param_set = e'.param_set → e.param_name = e'.param_name ∧ (e.Settable ↔ e'.Settable)

/-- A table of two parameters, `A` and `B`, of which `B` has a flag. -/
def pairTable : ParamTable Bool Unit :=
  { entries := [⟨['A'], some false, none, 'n'⟩, ⟨['B'], some true, some (), 'n'⟩]
    fits := by decide
    ownVariable := by decide
    ownFlag := by decide }

end A5Common.Cfg
