import A5Common.Cfg.Update
import A5Common.Run.Cover

set_option autoImplicit false

namespace A5Common.Cfg

open A5Common.Run

variable {F Var Flag : Type}

/-- A table whose length the code can hold, of distinct names. -/
structure NamedTable (Var Flag : Type) where
  entries : List (LocParam Var Flag)
  fits : entries.length < 4294967296
  distinct : (entries.map LocParam.param_name).Nodup

/-- A line sets a record. -/
def sets (platform : Platform F) (line : List Char) (e : LocParam Var Flag) : Bool :=
  match configValue platform line with
  | some v => e.takes v
  | none => false

/-- The arguments of an update are valid, and its copy of the string is allocated. -/
def Valid (malloc : Bool) (conf_data : Option (List Char)) (length : Nat)
    (config_table : Option (List (LocParam Var Flag))) : Prop :=
  conf_data.isSome = true ∧ length ≠ 0 ∧ malloc = true ∧
    ∃ table, config_table = some table ∧ table.length ≠ 0

theorem lineFills_eq_countP (platform : Platform F) (table : List (LocParam Var Flag))
    (line : List Char) : lineFills platform table line = table.countP (sets platform line) := by
  unfold lineFills sets
  cases configValue platform line with
  | none => exact (List.countP_eq_zero.mpr (fun _ _ none => Bool.false_ne_true none)).symm
  | some v => rfl

theorem NamedTable.sets_le_one (table : NamedTable Var Flag) (platform : Platform F)
    (line : List Char) : table.entries.countP (sets platform line) ≤ 1 := by
  rw [← lineFills_eq_countP, lineFills]
  cases configValue platform line with
  | none => exact Nat.zero_le 1
  | some v => exact fills_le_one table.distinct v

variable [DecidableEq Var] [DecidableEq Flag]

/-- `loc_update_conf`, whose table may be `NULL`. -/
def updateConf (platform : Platform F) (malloc : Bool) (conf_data : Option (List Char))
    (length : Nat) (config_table : Option (List (LocParam Var Flag))) (conf : Conf F Var Flag) :
    Int × Conf F Var Flag :=
  match config_table with
  | some config_table => locUpdateConf platform malloc conf_data length config_table conf
  | none => (-1, conf)

/-- The lines that the loop of an update has gone through when it returns. -/
def updateLines (platform : Platform F) (conf_data : Option (List Char)) (length : Nat)
    (table : List (LocParam Var Flag)) (conf : Conf F Var Flag) : List (List Char) :=
  let lines := strtok '\n' (received conf_data length)
  let left := (drain (locFillConfItem platform table) (BitVec.ofNat 32 table.length - 1) lines
    conf).2
  lines.take (lines.length - left.length)

/-- The result of an update is the number of the records that its lines have set, and -1
exactly if it is not valid. -/
structure Counted (platform : Platform F) (malloc : Bool) (conf_data : Option (List Char))
    (length : Nat) (config_table : Option (List (LocParam Var Flag))) (conf : Conf F Var Flag) :
    Prop where
  failed : (updateConf platform malloc conf_data length config_table conf).1 = -1 ↔
    ¬ Valid malloc conf_data length config_table
  number : ∀ table, config_table = some table → Valid malloc conf_data length config_table →
    (updateConf platform malloc conf_data length config_table conf).1 =
      marked (sets platform) table (updateLines platform conf_data length table conf)

/-- The lines that an update can go through at most. -/
def firstLines (conf_data : Option (List Char)) (length : Nat)
    (table : List (LocParam Var Flag)) : List (List Char) :=
  (strtok '\n' (received conf_data length)).take (table.length - 1)

/-- The loop goes through what the budget allows of its lines. -/
theorem updateLines_eq (platform : Platform F) (conf_data : Option (List Char)) (length : Nat)
    (table : NamedTable Var Flag) (conf : Conf F Var Flag) (some : table.entries.length ≠ 0) :
    updateLines platform conf_data length table.entries conf =
      spend (lineFills platform table.entries) (table.entries.length - 1)
        (strtok '\n' (received conf_data length)) := by
  have budget := toNat_num_params table.fits some
  have cheap : ∀ line, lineFills platform table.entries line ≤ 1 := by
    intro line
    rw [lineFills_eq_countP]
    exact table.sets_le_one platform line
  have within := spent_le_of_le_one (lineFills platform table.entries) cheap
    (table.entries.length - 1) (strtok '\n' (received conf_data length))
  rw [← budget] at within
  unfold updateLines
  dsimp only
  rw [drain_eq (locFillConfItem_count platform table.entries) conf within, budget]
  exact take_eq_spent _ _ _

/-- The result of an update that is valid is the number of lines that it went through. -/
theorem updateConf_valid (platform : Platform F) {malloc : Bool} {conf_data : Option (List Char)}
    {length : Nat} {table : List (LocParam Var Flag)} (conf : Conf F Var Flag)
    (valid : Valid malloc conf_data length (some table)) :
    (updateConf platform malloc conf_data length (some table) conf).1 =
      (updateLines platform conf_data length table conf).length := by
  obtain ⟨given, long, copied, table', same, entries⟩ := valid
  cases same
  obtain ⟨data, rfl⟩ := Option.isSome_iff_exists.mp given
  have left := drain_left_le (locFillConfItem platform table)
    (BitVec.ofNat 32 table.length - 1) (strtok '\n' (received (some data) length)) conf
  simp only [updateConf, locUpdateConf, updateLines]
  rw [if_pos ⟨long, entries, copied⟩, List.length_take]
  simp only [received] at left ⊢
  omega

theorem updateConf_invalid (platform : Platform F) {malloc : Bool}
    {conf_data : Option (List Char)} {length : Nat}
    {config_table : Option (List (LocParam Var Flag))} (conf : Conf F Var Flag)
    (invalid : ¬ Valid malloc conf_data length config_table) :
    (updateConf platform malloc conf_data length config_table conf).1 = -1 := by
  cases config_table with
  | none => rfl
  | some table =>
      cases conf_data with
      | none => rfl
      | some data =>
          have refused : ¬ (length ≠ 0 ∧ table.length ≠ 0 ∧ malloc = true) := by
            rintro ⟨long, entries, copied⟩
            exact invalid ⟨rfl, long, copied, table, rfl, entries⟩
          simp only [updateConf, locUpdateConf]
          rw [if_neg refused]

theorem updateConf_failed_iff (platform : Platform F) (malloc : Bool)
    (conf_data : Option (List Char)) (length : Nat)
    (config_table : Option (List (LocParam Var Flag))) (conf : Conf F Var Flag) :
    (updateConf platform malloc conf_data length config_table conf).1 = -1 ↔
      ¬ Valid malloc conf_data length config_table := by
  constructor
  · intro failed valid
    obtain ⟨-, -, -, table, rfl, -⟩ := id valid
    rw [updateConf_valid platform conf valid] at failed
    omega
  · exact updateConf_invalid platform conf

/-- As many records are set as there are lines exactly when each of the first lines sets a
new one. -/
theorem marked_updateLines_iff (platform : Platform F) (conf_data : Option (List Char))
    (length : Nat) (table : NamedTable Var Flag) (conf : Conf F Var Flag)
    (some : table.entries.length ≠ 0) :
    marked (sets platform) table.entries
        (updateLines platform conf_data length table.entries conf) =
        (updateLines platform conf_data length table.entries conf).length ↔
      EachNew (sets platform) table.entries (firstLines conf_data length table.entries) := by
  have once := table.sets_le_one platform
  have one : ∀ lines, EachNew (sets platform) table.entries lines →
      ∀ line ∈ lines, lineFills platform table.entries line = 1 := by
    intro lines new line mem
    have some := List.countP_pos_iff.mpr (new.each line mem)
    have most := once line
    rw [lineFills_eq_countP]
    omega
  rw [marked_eq_iff once, updateLines_eq platform conf_data length table conf some]
  constructor
  · intro new
    rw [take_eq_spend _ (one _ new)] at new
    exact new
  · intro new
    rw [spend_eq_take _ (one _ new)]
    exact new

/-- The result of an update is right exactly if the update is not valid, or each of its
first lines, one less than the table has records, sets a record that none before it sets. -/
theorem update_counted_iff (platform : Platform F) (malloc : Bool)
    (conf_data : Option (List Char)) (length : Nat) (config_table : Option (NamedTable Var Flag))
    (conf : Conf F Var Flag) :
    Counted platform malloc conf_data length (config_table.map NamedTable.entries) conf ↔
      ∀ table, config_table = some table →
        Valid malloc conf_data length (some table.entries) →
          EachNew (sets platform) table.entries
            (firstLines conf_data length table.entries) := by
  constructor
  · rintro counted table rfl valid
    obtain ⟨-, -, -, entries, same, some⟩ := id valid
    cases same
    have number := counted.number table.entries rfl valid
    rw [Option.map_some, updateConf_valid platform conf valid] at number
    rw [← marked_updateLines_iff platform conf_data length table conf some]
    exact (Int.ofNat.inj number).symm
  · intro new
    refine ⟨updateConf_failed_iff platform malloc conf_data length _ conf, ?_⟩
    intro entries given valid
    obtain ⟨table, rfl, rfl⟩ := Option.map_eq_some_iff.mp given
    obtain ⟨-, -, -, entries, same, some⟩ := id valid
    cases same
    rw [Option.map_some] at valid ⊢
    rw [updateConf_valid platform conf valid,
      (marked_updateLines_iff platform conf_data length table conf some).mpr
        (new table rfl valid)]

/-- A line for no record is counted. -/
theorem update_miscounted :
    (pairTable.entries.map LocParam.param_name).Nodup ∧
      ¬ Counted lp64 true (some "X=1".toList) 3 (some pairTable.entries)
        ⟨fun _ => .number 0, fun _ => 0⟩ := by
  refine ⟨by decide, ?_⟩
  intro counted
  have number := counted.number pairTable.entries rfl
    ⟨rfl, by decide, rfl, pairTable.entries, rfl, by decide⟩
  exact absurd number (by decide)

end A5Common.Cfg
