import A5Common.Cfg.Param
import Mathlib.Data.List.Basic

set_option autoImplicit false

namespace A5Common.Cfg

open A5Common.Run

variable {F Var Flag : Type}

namespace LocParam

/-- What an entry is set to by a configuration value, if that is for the entry. -/
def taken (e : LocParam Var Flag) (v : LocParamV F) : Option (Value F) :=
  if e.param_name = v.param_name ∧ e.param_ptr.isSome = true then stored e.param_type v else none

def takes (e : LocParam Var Flag) (v : LocParamV F) : Bool :=
  (e.taken v).isSome

/-- What the last of some configuration values for the entry sets it to. -/
def lastTaken (e : LocParam Var Flag) (vs : List (LocParamV F)) : Option (Value F) :=
  (vs.filterMap e.taken).getLast?

end LocParam

/-- How many entries of a table a configuration value sets. -/
def fills (table : List (LocParam Var Flag)) (v : LocParamV F) : Nat :=
  table.countP (fun e => e.takes v)

theorem stored_isSome (param_type : Char) (v : LocParamV F) :
    (stored param_type v).isSome = true ↔
      param_type = 's' ∨ param_type = 'n' ∨ param_type = 'f' := by
  unfold stored
  by_cases s : param_type = 's'
  · simp only [s, if_true, true_or, iff_true]
    split <;> rfl
  · by_cases n : param_type = 'n'
    · simp only [n, if_true, true_or, or_true, iff_true]
      rfl
    · by_cases f : param_type = 'f'
      · simp only [f, if_true, or_true, iff_true]
        rfl
      · simp only [s, n, f, if_false, or_false, iff_false]
        exact Bool.false_ne_true

def Value.type : Value F → Char
  | .string _ => 's'
  | .number _ => 'n'
  | .float _ => 'f'

theorem stored_type {param_type : Char} {v : LocParamV F} {value : Value F}
    (set : stored param_type v = some value) : value.type = param_type := by
  unfold stored at set
  split at set
  · rename_i string
    split at set <;> cases set <;> exact string.symm
  · split at set
    · rename_i number
      cases set
      exact number.symm
    · split at set
      · rename_i float
        cases set
        exact float.symm
      · cases set

theorem LocParam.taken_type (e : LocParam Var Flag) {v : LocParamV F} {value : Value F}
    (taken : e.taken v = some value) : value.type = e.param_type := by
  unfold LocParam.taken at taken
  split at taken
  · exact stored_type taken
  · cases taken

theorem LocParam.takes_iff (e : LocParam Var Flag) (v : LocParamV F) :
    e.takes v = true ↔ e.param_name = v.param_name ∧ e.Settable := by
  unfold takes taken Settable
  by_cases both : e.param_name = v.param_name ∧ e.param_ptr.isSome = true
  · rw [if_pos both, stored_isSome, ← and_assoc, and_iff_right both]
  · rw [if_neg both, ← and_assoc]
    constructor
    · intro none
      cases none
    · intro all
      exact absurd all.1 both

theorem LocParam.lastTaken_cons (e : LocParam Var Flag) (v : LocParamV F)
    (vs : List (LocParamV F)) : e.lastTaken (v :: vs) = (e.lastTaken vs).or (e.taken v) := by
  unfold lastTaken
  cases taken : e.taken v with
  | none => rw [List.filterMap_cons_none taken, Option.or_none]
  | some value =>
      rw [List.filterMap_cons_some taken, List.getLast?_cons]
      cases (vs.filterMap e.taken).getLast? <;> rfl

theorem lastTaken_mem {e : LocParam Var Flag} {lines : List (LocParamV F)} {value : Value F}
    (last : e.lastTaken lines = some value) : ∃ v ∈ lines, e.taken v = some value :=
  List.mem_filterMap.mp (List.mem_of_getLast? last)

theorem lastTaken_none {e : LocParam Var Flag} {lines : List (LocParamV F)}
    (others : ∀ v ∈ lines, e.takes v = false) : e.lastTaken lines = none := by
  unfold LocParam.lastTaken
  rw [List.getLast?_eq_none_iff, List.filterMap_eq_nil_iff]
  intro v mem
  exact Option.not_isSome_iff_eq_none.mp (Bool.eq_false_iff.mp (others v mem))

theorem lastTaken_some {e : LocParam Var Flag} {lines : List (LocParamV F)} {v : LocParamV F}
    (mem : v ∈ lines) (takes : e.takes v = true) : ∃ value, e.lastTaken lines = some value := by
  cases last : e.lastTaken lines with
  | some value => exact ⟨value, rfl⟩
  | none =>
      unfold LocParam.lastTaken at last
      rw [List.getLast?_eq_none_iff, List.filterMap_eq_nil_iff] at last
      rw [LocParam.takes, last v mem] at takes
      cases takes

theorem LocParam.taken_none {e : LocParam Var Flag} (none : e.param_ptr = none)
    (v : LocParamV F) : e.taken v = .none := by
  unfold taken
  rw [none, if_neg]
  rintro ⟨-, some⟩
  cases some

theorem ParamTable.toNat_length (table : ParamTable Var Flag) :
    (BitVec.ofNat 32 table.entries.length).toNat = table.entries.length := by
  rw [BitVec.toNat_ofNat]
  exact Nat.mod_eq_of_lt table.fits

variable [DecidableEq Var] [DecidableEq Flag]

/-- An entry is set through its own variable and flag. -/
theorem locSetConfigEntry_eq (e : LocParam Var Flag) (v : LocParamV F) (conf : Conf F Var Flag) :
    locSetConfigEntry e v conf = (e.taken v).bind (fun value =>
      e.param_ptr.map (fun param_ptr =>
        { value := Function.update conf.value param_ptr value
          set :=
            match e.param_set with
            | some param_set => Function.update conf.set param_set 1
            | none => conf.set })) := by
  unfold locSetConfigEntry LocParam.taken
  cases ptr : e.param_ptr with
  | none =>
      simp only [Option.isSome_none, and_false, Bool.false_eq_true, if_false, Option.bind_none]
  | some param_ptr =>
      by_cases same : e.param_name = v.param_name
      · simp only [same, Option.isSome_some, and_self, if_true]
        cases stored e.param_type v <;> rfl
      · simp only [same, false_and, if_false, Option.bind_none]

/-- One entry's part in filling a table. -/
def fillEntry (v : LocParamV F) (done : Nat × Conf F Var Flag) (e : LocParam Var Flag) :
    Nat × Conf F Var Flag :=
  match locSetConfigEntry e v done.2 with
  | some conf => (done.1 + 1, conf)
  | none => done

theorem setEntries_eq (table : List (LocParam Var Flag)) (v : LocParamV F)
    (conf : Conf F Var Flag) : setEntries table v conf = table.foldl (fillEntry v) (0, conf) :=
  rfl

/-- An entry is left as it is, or is set and counted. -/
theorem fillEntry_cases (e : LocParam Var Flag) (v : LocParamV F) (done : Nat × Conf F Var Flag) :
    (e.taken v = none ∧ fillEntry v done e = done) ∨
      ∃ value ptr, e.taken v = some value ∧ e.param_ptr = some ptr ∧
        fillEntry v done e =
          (done.1 + 1,
            { value := Function.update done.2.value ptr value
              set :=
                match e.param_set with
                | some param_set => Function.update done.2.set param_set 1
                | none => done.2.set }) := by
  unfold fillEntry
  rw [locSetConfigEntry_eq]
  cases taken : e.taken v with
  | none => exact Or.inl ⟨rfl, rfl⟩
  | some value =>
      cases own : e.param_ptr with
      | none =>
          rw [LocParam.taken_none own] at taken
          cases taken
      | some ptr => exact Or.inr ⟨value, ptr, rfl, rfl, rfl⟩

theorem fillEntry_count (e : LocParam Var Flag) (v : LocParamV F) (done : Nat × Conf F Var Flag) :
    (fillEntry v done e).1 = done.1 + if e.takes v = true then 1 else 0 := by
  rcases fillEntry_cases e v done with ⟨other, kept⟩ | ⟨value, ptr, taken, own, filled⟩
  · rw [kept, LocParam.takes, other]
    rfl
  · rw [filled, LocParam.takes, taken]
    rfl

/-- An entry writes to its variable only. -/
theorem fillEntry_value (e : LocParam Var Flag) (v : LocParamV F) (done : Nat × Conf F Var Flag)
    (ptr : Var) :
    (fillEntry v done e).2.value ptr =
      if e.param_ptr = some ptr then (e.taken v).getD (done.2.value ptr)
      else done.2.value ptr := by
  rcases fillEntry_cases e v done with ⟨other, kept⟩ | ⟨value, p, taken, own, filled⟩
  · rw [kept, other]
    split <;> rfl
  · rw [filled, taken, own]
    by_cases same : p = ptr
    · rw [same, if_pos rfl]
      exact Function.update_self _ _ _
    · rw [if_neg (fun eq => same (Option.some.inj eq))]
      exact Function.update_of_ne (Ne.symm same) _ _

theorem fillEntry_set (e : LocParam Var Flag) (v : LocParamV F) (done : Nat × Conf F Var Flag)
    (flag : Flag) :
    (fillEntry v done e).2.set flag =
      if e.param_set = some flag ∧ e.takes v = true then 1 else done.2.set flag := by
  rcases fillEntry_cases e v done with ⟨other, kept⟩ | ⟨value, p, taken, own, filled⟩
  · rw [kept, LocParam.takes, other, if_neg]
    rintro ⟨-, some⟩
    cases some
  · rw [filled, LocParam.takes, taken]
    cases set : e.param_set with
    | none =>
        rw [if_neg]
        rintro ⟨eq, -⟩
        cases eq
    | some f =>
        by_cases same : f = flag
        · rw [same, if_pos ⟨rfl, rfl⟩]
          exact Function.update_self _ _ _
        · rw [if_neg (fun eq => same (Option.some.inj eq.1))]
          exact Function.update_of_ne (Ne.symm same) _ _

theorem foldl_fillEntry_count (table : List (LocParam Var Flag)) (v : LocParamV F)
    (done : Nat × Conf F Var Flag) :
    (table.foldl (fillEntry v) done).1 = done.1 + fills table v := by
  induction table generalizing done with
  | nil => rfl
  | cons e rest ih =>
      rw [List.foldl_cons, ih, fillEntry_count]
      simp only [fills, List.countP_cons]
      omega

/-- Entries that share a variable and agree about the value give it that value. -/
theorem foldl_fillEntry_value {table : List (LocParam Var Flag)} {v : LocParamV F} {ptr : Var}
    {value : Option (Value F)}
    (agree : ∀ e ∈ table, e.param_ptr = some ptr → e.taken v = value)
    (done : Nat × Conf F Var Flag) :
    (table.foldl (fillEntry v) done).2.value ptr =
      if ∃ e ∈ table, e.param_ptr = some ptr then value.getD (done.2.value ptr)
      else done.2.value ptr := by
  induction table generalizing done with
  | nil =>
      rw [if_neg]
      · rfl
      · rintro ⟨e, none, -⟩
        cases none
  | cons e rest ih =>
      rw [List.foldl_cons, ih (fun e' later => agree e' (List.mem_cons_of_mem e later)),
        fillEntry_value]
      by_cases own : e.param_ptr = some ptr
      · rw [if_pos own, agree e List.mem_cons_self own]
        have first : ∃ e' ∈ e :: rest, e'.param_ptr = some ptr := ⟨e, List.mem_cons_self, own⟩
        rw [if_pos first]
        split
        · cases value <;> rfl
        · rfl
      · rw [if_neg own]
        simp only [List.exists_mem_cons_iff, own, false_or]

theorem foldl_fillEntry_set (table : List (LocParam Var Flag)) (v : LocParamV F) (flag : Flag)
    (done : Nat × Conf F Var Flag) :
    (table.foldl (fillEntry v) done).2.set flag =
      if ∃ e ∈ table, e.param_set = some flag ∧ e.takes v = true then 1
      else done.2.set flag := by
  induction table generalizing done with
  | nil =>
      rw [if_neg]
      · rfl
      · rintro ⟨e, none, -⟩
        cases none
  | cons e rest ih =>
      rw [List.foldl_cons, ih, fillEntry_set]
      by_cases own : e.param_set = some flag ∧ e.takes v = true
      · rw [if_pos own, ite_self, if_pos ⟨e, List.mem_cons_self, own⟩]
      · rw [if_neg own]
        simp only [List.exists_mem_cons_iff, own, false_or]

namespace ParamTable

variable (table : ParamTable Var Flag) {e : LocParam Var Flag} (mem : e ∈ table.entries)

include mem

theorem setEntries_value {ptr : Var} (own : e.param_ptr = some ptr) (v : LocParamV F)
    (conf : Conf F Var Flag) :
    (setEntries table.entries v conf).2.value ptr = (e.taken v).getD (conf.value ptr) := by
  have agree : ∀ e' ∈ table.entries, e'.param_ptr = some ptr → e'.taken v = e.taken v := by
    intro e' mem' own'
    have same := table.ownVariable e mem e' mem' (by rw [own]; rfl) (by rw [own, own'])
    unfold LocParam.taken
    rw [same.1, same.2, own, own']
  rw [setEntries_eq, foldl_fillEntry_value agree, if_pos ⟨e, mem, own⟩]

theorem setEntries_set {flag : Flag} (own : e.param_set = some flag) (v : LocParamV F)
    (conf : Conf F Var Flag) :
    (setEntries table.entries v conf).2.set flag =
      if e.takes v = true then 1 else conf.set flag := by
  have only : (∃ e' ∈ table.entries, e'.param_set = some flag ∧ e'.takes v = true) ↔
      e.takes v = true := by
    constructor
    · rintro ⟨e', mem', own', takes⟩
      have same := table.ownFlag e mem e' mem' (by rw [own]; rfl) (by rw [own, own'])
      rw [e.takes_iff, same.1, same.2, ← e'.takes_iff]
      exact takes
    · intro takes
      exact ⟨e, mem, own, takes⟩
  rw [setEntries_eq, foldl_fillEntry_set]
  simp only [only]

end ParamTable

/-- All of some configuration values are applied to a table, in order. -/
def setAll (table : List (LocParam Var Flag)) (vs : List (LocParamV F)) (conf : Conf F Var Flag) :
    Conf F Var Flag :=
  vs.foldl (fun conf v => (setEntries table v conf).2) conf

namespace ParamTable

variable (table : ParamTable Var Flag) {e : LocParam Var Flag} (mem : e ∈ table.entries)

include mem

/-- The last value for an entry is the one that its variable keeps. -/
theorem setAll_value {ptr : Var} (own : e.param_ptr = some ptr) (vs : List (LocParamV F))
    (conf : Conf F Var Flag) :
    (setAll table.entries vs conf).value ptr = (e.lastTaken vs).getD (conf.value ptr) := by
  induction vs generalizing conf with
  | nil => rfl
  | cons v rest ih =>
      rw [setAll, List.foldl_cons, ← setAll, ih, table.setEntries_value mem own,
        LocParam.lastTaken_cons]
      cases e.lastTaken rest <;> rfl

theorem setAll_set {flag : Flag} (own : e.param_set = some flag) (vs : List (LocParamV F))
    (conf : Conf F Var Flag) :
    (setAll table.entries vs conf).set flag =
      if ∃ v ∈ vs, e.takes v = true then 1 else conf.set flag := by
  induction vs generalizing conf with
  | nil =>
      rw [if_neg]
      · rfl
      · rintro ⟨v, none, -⟩
        cases none
  | cons v rest ih =>
      rw [setAll, List.foldl_cons, ← setAll, ih, table.setEntries_set mem own]
      by_cases takes : e.takes v = true
      · rw [if_pos takes, ite_self, if_pos ⟨v, List.mem_cons_self, takes⟩]
      · rw [if_neg takes]
        simp only [List.exists_mem_cons_iff, takes, Bool.false_eq_true, false_or]

end ParamTable

variable (platform : Platform F) (table : List (LocParam Var Flag))

/-- How many entries of a table a line sets. -/
def lineFills (line : List Char) : Nat :=
  ((configValue platform line).map (fills table)).getD 0

theorem locFillConfItem_count (conf : Conf F Var Flag) (line : List Char) :
    (locFillConfItem platform table conf line).1 = lineFills platform table line := by
  unfold locFillConfItem lineFills
  cases configValue platform line with
  | none => rfl
  | some v =>
      show (setEntries table v conf).1 = fills table v
      rw [setEntries_eq, foldl_fillEntry_count]
      exact Nat.zero_add _

theorem foldl_locFillConfItem (lines : List (List Char)) (conf : Conf F Var Flag) :
    lines.foldl (fun conf line => (locFillConfItem platform table conf line).2) conf =
      setAll table (lines.filterMap (configValue platform)) conf := by
  induction lines generalizing conf with
  | nil => rfl
  | cons line rest ih =>
      rw [List.foldl_cons, ih]
      cases parsed : configValue platform line with
      | none =>
          rw [List.filterMap_cons_none parsed, locFillConfItem, parsed]
      | some v =>
          rw [List.filterMap_cons_some parsed, locFillConfItem, parsed]
          rfl

/-- The loop over the lines applies the values of those that the budget allows. -/
theorem drain_locFillConfItem {budget : BitVec 32} {lines : List (List Char)}
    {vs : List (LocParamV F)} (parsed : lines.filterMap (configValue platform) = vs)
    (within : spent (fills table) budget.toNat vs ≤ budget.toNat) (conf : Conf F Var Flag) :
    (drain (locFillConfItem platform table) budget lines conf).1 =
      setAll table (spend (fills table) budget.toNat vs) conf := by
  subst parsed
  have same : spent (lineFills platform table) budget.toNat lines =
      spent (fills table) budget.toNat (lines.filterMap (configValue platform)) :=
    spent_filterMap (fills table) (configValue platform) budget.toNat lines
  rw [drain_eq (locFillConfItem_count platform table) conf (by rw [same]; exact within)]
  show (spend (lineFills platform table) budget.toNat lines).foldl _ conf = _
  rw [foldl_locFillConfItem]
  exact congrArg (fun vs => setAll table vs conf) (spend_filterMap (fills table) _ _ _)

theorem underflows_locFillConfItem (budget : BitVec 32) (lines : List (List Char))
    (conf : Conf F Var Flag) :
    underflows (locFillConfItem platform table) budget lines conf = true ↔
      budget.toNat <
        spent (fills table) budget.toNat (lines.filterMap (configValue platform)) := by
  rw [underflows_iff (locFillConfItem_count platform table)]
  exact Iff.of_eq (congrArg (budget.toNat < ·) (spent_filterMap (fills table) _ _ _))

end A5Common.Cfg
