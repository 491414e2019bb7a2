import A5Common.Cfg.Fill
import Mathlib.Data.List.Nodup

set_option autoImplicit false

namespace A5Common.Cfg

open A5Common.Run

variable {F Var Flag : Type}

/-- The part of a configuration string that an update is told to take. -/
def received (conf_data : Option (List Char)) (length : Nat) : List Char :=
  match conf_data with
  | some conf_data => cString (conf_data.take length)
  | none => []

/-- The names and values that the lines of a text give. -/
def nameValues (platform : Platform F) (text : List Char) : List (LocParamV F) :=
  (text.splitOn '\n').filterMap (configValue platform)

/-- Each parameter has the value of its last line, or else the one that it had. -/
def Applied (table : ParamTable Var Flag) (lines : List (LocParamV F))
    (before after : Conf F Var Flag) : Prop :=
  ∀ e ∈ table.entries, ∀ ptr, e.param_ptr = some ptr →
    after.value ptr = (e.lastTaken lines).getD (before.value ptr)

/-- How many entries the lines of an update may set. -/
def updateBudget (malloc : Bool) (table : ParamTable Var Flag) : Nat :=
  if malloc = true then table.entries.length - 1 else 0

/-- The lines that the budget leaves out would change no parameter. -/
def Covered (table : ParamTable Var Flag) (budget : Nat) (lines : List (LocParamV F))
    (before : Conf F Var Flag) : Prop :=
  ∀ e ∈ table.entries, ∀ value,
    e.lastTaken (unspent (fills table.entries) budget lines) = some value →
      ∀ ptr, e.param_ptr = some ptr →
        (e.lastTaken (spend (fills table.entries) budget lines)).getD (before.value ptr) = value

/-- Lines without a character, which `strtok_r` passes by, give no value. -/
theorem filterMap_strtok (platform : Platform F) (text : List Char) :
    (strtok '\n' text).filterMap (configValue platform) = nameValues platform text := by
  unfold strtok nameValues
  rw [List.filterMap_filter]
  congr 1
  funext line
  cases line with
  | nil => rfl
  | cons c rest => rfl

/-- With distinct names, a line is for one entry at most. -/
theorem fills_le_one {table : List (LocParam Var Flag)}
    (distinct : (table.map LocParam.param_name).Nodup) (v : LocParamV F) : fills table v ≤ 1 := by
  have named : fills table v ≤ table.countP (fun e => e.param_name == v.param_name) := by
    apply List.countP_mono_left
    intro e _ takes
    rw [beq_iff_eq]
    exact ((e.takes_iff v).mp takes).1
  have once := List.nodup_iff_count_le_one.mp distinct v.param_name
  rw [List.count_eq_countP, List.countP_map] at once
  exact Nat.le_trans named once

theorem lastTaken_append (e : LocParam Var Flag) (first second : List (LocParamV F)) :
    e.lastTaken (first ++ second) = (e.lastTaken second).or (e.lastTaken first) := by
  unfold LocParam.lastTaken
  rw [List.filterMap_append, List.getLast?_append]

/-- The counter that the loop of an update starts with. -/
theorem toNat_num_params {entries : Nat} (fits : entries < 4294967296) (some : entries ≠ 0) :
    (BitVec.ofNat 32 entries - 1).toNat = entries - 1 := by
  have size : (BitVec.ofNat 32 entries).toNat = entries := by
    rw [BitVec.toNat_ofNat]
    exact Nat.mod_eq_of_lt fits
  have charged : (BitVec.ofNat 32 entries - BitVec.ofNat 32 1).toNat =
      (BitVec.ofNat 32 entries).toNat - 1 :=
    toNat_charge (by omega)
  rw [size] at charged
  exact charged

variable [DecidableEq Var] [DecidableEq Flag]

/-- An update applies the lines that its budget allows. -/
theorem locUpdateConf_eq (platform : Platform F) (malloc : Bool) (conf_data : Option (List Char))
    (length : Nat) (table : ParamTable Var Flag)
    (distinct : (table.entries.map LocParam.param_name).Nodup) (conf : Conf F Var Flag) :
    (locUpdateConf platform malloc conf_data length table.entries conf).2 =
      setAll table.entries
        (spend (fills table.entries) (updateBudget malloc table)
          (nameValues platform (received conf_data length))) conf := by
  cases conf_data with
  | none => rfl
  | some conf_data =>
      simp only [locUpdateConf]
      split
      · rename_i valid
        obtain ⟨-, entries, copied⟩ := valid
        have within := spent_le_of_le_one (fills table.entries) (fills_le_one distinct)
          (BitVec.ofNat 32 table.entries.length - 1).toNat
          (nameValues platform (received (some conf_data) length))
        have drained := drain_locFillConfItem platform table.entries
          (filterMap_strtok platform (received (some conf_data) length)) within conf
        rw [toNat_num_params table.fits entries] at drained
        rw [copied]
        exact drained
      · rename_i invalid
        by_cases empty : length = 0
        · rw [empty]
          rfl
        · have none : updateBudget malloc table = 0 := by
            unfold updateBudget
            split
            · rename_i copied
              by_contra left
              exact invalid ⟨empty, by omega, copied⟩
            · rfl
          rw [none, spend_zero]
          rfl

/-- An update applies all lines exactly when those that its budget leaves out, which is
one short of the table, would change nothing. -/
theorem update_applied (platform : Platform F) (malloc : Bool) (conf_data : Option (List Char))
    (length : Nat) (table : ParamTable Var Flag)
    (distinct : (table.entries.map LocParam.param_name).Nodup) (conf : Conf F Var Flag) :
    Applied table (nameValues platform (received conf_data length)) conf
        (locUpdateConf platform malloc conf_data length table.entries conf).2 ↔
      Covered table (updateBudget malloc table)
        (nameValues platform (received conf_data length)) conf := by
  rw [locUpdateConf_eq platform malloc conf_data length table distinct conf]
  generalize nameValues platform (received conf_data length) = lines
  generalize updateBudget malloc table = budget
  have split : ∀ e : LocParam Var Flag, e.lastTaken lines =
      (e.lastTaken (unspent (fills table.entries) budget lines)).or
        (e.lastTaken (spend (fills table.entries) budget lines)) := by
    intro e
    rw [← lastTaken_append, spend_append_unspent]
  constructor
  · intro applied e mem value last ptr own
    have same := applied e mem ptr own
    rw [table.setAll_value mem own, split, last] at same
    exact same
  · intro covered e mem ptr own
    rw [table.setAll_value mem own, split]
    cases last : e.lastTaken (unspent (fills table.entries) budget lines) with
    | none => rfl
    | some value => exact covered e mem value last ptr own

theorem update_applied_once :
    Applied pairTable (nameValues lp64 (received (some "B=7\n".toList) 4))
      ⟨fun _ => .number 0, fun _ => 0⟩
      (locUpdateConf lp64 true (some "B=7\n".toList) 4 pairTable.entries
        ⟨fun _ => .number 0, fun _ => 0⟩).2 := by
  apply (update_applied lp64 true (some "B=7\n".toList) 4 pairTable (by decide) _).mpr
  intro e _ value last
  have read : unspent (fills pairTable.entries) (updateBudget true pairTable)
      (nameValues lp64 (received (some "B=7\n".toList) 4)) = [] := by decide
  rw [read] at last
  cases last

/-- The second of two parameters is lost. -/
theorem update_cut_short :
    (pairTable.entries.map LocParam.param_name).Nodup ∧
      ¬ Applied pairTable (nameValues lp64 (received (some "A=1\nB=2".toList) 7))
        ⟨fun _ => .number 0, fun _ => 0⟩
        (locUpdateConf lp64 true (some "A=1\nB=2".toList) 7 pairTable.entries
          ⟨fun _ => .number 0, fun _ => 0⟩).2 := by
  refine ⟨by decide, ?_⟩
  intro applied
  have lost := applied ⟨['B'], some true, some (), 'n'⟩ 
    (List.mem_cons_of_mem _ List.mem_cons_self) true rfl
  exact absurd lost (by decide)

end A5Common.Cfg
