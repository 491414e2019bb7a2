import A5Common.Cfg.Fill

set_option autoImplicit false

namespace A5Common.Cfg

open A5Common.Run

variable {F Var Flag : Type}

/-- The lines of a file, each with the newline that ends it. -/
def fileLines : List Char → List (List Char)
  | [] => []
  | c :: rest =>
      if c = '\n' then [c] :: fileLines rest
      else
        match fileLines rest with
        | [] => [[c]]
        | line :: lines => (c :: line) :: lines

/-- The names and values that the lines of a file give. -/
def fileValues (platform : Platform F) (content : List Char) : List (LocParamV F) :=
  ((fileLines content).map cString).filterMap (configValue platform)

/-- The lines up to the one with which they have set as many entries as the table has. -/
def readLines (table : ParamTable Var Flag) (lines : List (LocParamV F)) : List (LocParamV F) :=
  spend (fills table.entries) table.entries.length lines

def leftLines (table : ParamTable Var Flag) (lines : List (LocParamV F)) : List (LocParamV F) :=
  unspent (fills table.entries) table.entries.length lines

/-- No line sets more entries than are to be set. -/
def Measured (table : ParamTable Var Flag) (lines : List (LocParamV F)) : Prop :=
  spent (fills table.entries) table.entries.length lines ≤ table.entries.length

/-- Each parameter with a line has a value from one of its lines and is flagged, and each
other one is unchanged and is not. -/
structure ReadApplied (table : ParamTable Var Flag) (lines : List (LocParamV F))
    (before after : Conf F Var Flag) : Prop where
  named : ∀ e ∈ table.entries, ∀ v ∈ lines, e.takes v = true →
    (∀ ptr, e.param_ptr = some ptr → ∃ v ∈ lines, e.taken v = some (after.value ptr)) ∧
      ∀ flag, e.param_set = some flag → after.set flag = 1
  others : ∀ e ∈ table.entries, (∀ v ∈ lines, e.takes v = false) →
    (∀ ptr, e.param_ptr = some ptr → after.value ptr = before.value ptr) ∧
      ∀ flag, e.param_set = some flag → after.set flag = 0

/-- A parameter without a line that is read has no flag, and a value from one of its
lines already. -/
def Unread (e : LocParam Var Flag) (lines : List (LocParamV F)) (before : Conf F Var Flag) :
    Prop :=
  e.param_set = none ∧
    ∀ ptr, e.param_ptr = some ptr → ∃ v ∈ lines, e.taken v = some (before.value ptr)

/-- No line sets more entries than are to be set, and no parameter needs a line that is
left. -/
structure Enough (table : ParamTable Var Flag) (lines : List (LocParamV F))
    (before : Conf F Var Flag) : Prop where
  measured : Measured table lines
  met : ∀ e ∈ table.entries,
    ∀ v ∈ leftLines table lines, e.takes v = true →
      (∃ v ∈ readLines table lines, e.takes v = true) ∨
        Unread e lines before

theorem readLines_append_leftLines (table : ParamTable Var Flag) (lines : List (LocParamV F)) :
    readLines table lines ++ leftLines table lines = lines :=
  spend_append_unspent _ _ _

theorem mem_of_readLines {table : ParamTable Var Flag} {lines : List (LocParamV F)}
    {v : LocParamV F} (mem : v ∈ readLines table lines) : v ∈ lines :=
  mem_of_spend _ mem

theorem mem_of_leftLines {table : ParamTable Var Flag} {lines : List (LocParamV F)}
    {v : LocParamV F} (mem : v ∈ leftLines table lines) : v ∈ lines :=
  mem_of_unspent _ mem

theorem fileLines_ne_nil {content line : List Char} (mem : line ∈ fileLines content) :
    line ≠ [] := by
  induction content generalizing line with
  | nil => cases mem
  | cons c rest ih =>
      unfold fileLines at mem
      split at mem
      · rcases List.mem_cons.mp mem with rfl | later
        · exact List.cons_ne_nil _ _
        · exact ih later
      · split at mem
        · rw [List.mem_singleton.mp mem]
          exact List.cons_ne_nil _ _
        · rename_i lines
          rcases List.mem_cons.mp mem with rfl | later
          · exact List.cons_ne_nil _ _
          · apply ih
            rw [lines]
            exact List.mem_cons_of_mem _ later

/-- A line that has been begun is continued by the first of some others. -/
def continued (begun : List Char) : List (List Char) → List (List Char)
  | [] => if begun.isEmpty then [] else [begun]
  | line :: lines => (begun ++ line) :: lines

theorem continued_nil (lines : List (List Char)) : continued [] lines = lines := by
  cases lines <;> rfl

/-- A buffer that no line exceeds is filled with one line at a time. -/
theorem fgets_continued {room : Nat} {content begun : List Char}
    (short : ∀ line ∈ continued begun (fileLines content), line.length ≤ room) :
    fgets room content begun = continued begun (fileLines content) := by
  induction content generalizing begun with
  | nil => rfl
  | cons c rest ih =>
      unfold fgets
      by_cases newline : c = '\n'
      · have lines : fileLines (c :: rest) = [c] :: fileLines rest := by
          rw [fileLines, if_pos newline]
        rw [lines] at short ⊢
        rw [if_pos (Or.inl newline), ih, continued_nil]
        · rfl
        · intro line later
          rw [continued_nil] at later
          exact short line (List.mem_cons_of_mem _ later)
      · cases lines : fileLines rest with
        | nil =>
            have last : fileLines (c :: rest) = [[c]] := by
              rw [fileLines, if_neg newline, lines]
            rw [last]
            split
            · rw [ih, lines]
              · rfl
              · intro line none
                rw [lines] at none
                cases none
            · rw [ih, lines]
              · cases begun <;> rfl
              · intro line one
                rw [last] at short
                apply short
                rw [lines] at one
                cases begun <;> exact one
        | cons line later =>
            have longer : fileLines (c :: rest) = (c :: line) :: later := by
              rw [fileLines, if_neg newline, lines]
            rw [longer] at short ⊢
            have fits := short (begun ++ c :: line) List.mem_cons_self
            have mem : line ∈ fileLines rest := by
              rw [lines]
              exact List.mem_cons_self
            have some := List.length_pos_iff.mpr (fileLines_ne_nil mem)
            rw [List.length_append, List.length_cons] at fits
            rw [if_neg, ih, lines]
            · simp only [continued, List.append_assoc, List.singleton_append]
            · rw [lines]
              intro l mem
              apply short
              simp only [continued, List.append_assoc, List.singleton_append] at mem
              exact mem
            · rintro (eq | full)
              · exact newline eq
              · omega

theorem fgets_fileLines {content : List Char}
    (short : ∀ line ∈ fileLines content, line.length < LOC_MAX_PARAM_LINE) :
    fgets (LOC_MAX_PARAM_LINE - 1) content [] = fileLines content := by
  rw [fgets_continued, continued_nil]
  intro line mem
  rw [continued_nil] at mem
  exact Nat.le_pred_of_lt (short line mem)

/-- Reading a file takes away the flags of a table. -/
theorem clearSet_set [DecidableEq Flag] (table : List (LocParam Var Flag))
    (conf : Conf F Var Flag) (flag : Flag) :
    (clearSet table conf).set flag =
      if ∃ e ∈ table, e.param_set = some flag then 0 else conf.set flag := by
  induction table generalizing conf with
  | nil =>
      rw [if_neg]
      · rfl
      · rintro ⟨e, none, -⟩
        cases none
  | cons first rest ih =>
      cases set : first.param_set with
      | none =>
          have step : clearSet (first :: rest) conf = clearSet rest conf := by
            simp only [clearSet, List.foldl_cons, set]
          rw [step, ih]
          simp only [List.exists_mem_cons_iff, set, reduceCtorEq, false_or]
      | some f =>
          have step : clearSet (first :: rest) conf =
              clearSet rest { conf with set := Function.update conf.set f 0 } := by
            simp only [clearSet, List.foldl_cons, set]
          rw [step, ih]
          by_cases same : flag = f
          · have here : ∃ e ∈ first :: rest, e.param_set = some flag := by
              rw [same]
              exact ⟨first, List.mem_cons_self, set⟩
            rw [if_pos here, same]
            simp only [Function.update_self, ite_self]
          · simp only [ne_eq, same, not_false_iff, Function.update_of_ne, List.exists_mem_cons_iff,
              set, Option.some.injEq, Ne.symm same, false_or]

variable [DecidableEq Var] [DecidableEq Flag]

section

/-- What a read whose lines are measured makes of the configuration. -/
def afterRead (table : ParamTable Var Flag) (lines : List (LocParamV F))
    (before : Conf F Var Flag) : Conf F Var Flag :=
  setAll table.entries (readLines table lines) (clearSet table.entries before)

/-- The parameters with a line that is read have a value from it and are flagged, and the
others are unchanged and are not. -/
theorem afterRead_applied (table : ParamTable Var Flag) (lines : List (LocParamV F))
    (before : Conf F Var Flag) :
    ReadApplied table (readLines table lines) before (afterRead table lines before) where
  named := by
    intro e mem v read takes
    constructor
    · intro ptr own
      obtain ⟨value, last⟩ := lastTaken_some read takes
      obtain ⟨line, among, taken⟩ := lastTaken_mem last
      refine ⟨line, among, ?_⟩
      rw [afterRead, table.setAll_value mem own, last, taken]
      rfl
    · intro flag own
      rw [afterRead, table.setAll_set mem own, if_pos ⟨v, read, takes⟩]
  others := by
    intro e mem others
    constructor
    · intro ptr own
      rw [afterRead, table.setAll_value mem own, lastTaken_none others]
      rfl
    · intro flag own
      rw [afterRead, table.setAll_set mem own, if_neg, clearSet_set, if_pos ⟨e, mem, own⟩]
      rintro ⟨v, read, takes⟩
      rw [others v read] at takes
      cases takes

variable {table : ParamTable Var Flag} {lines : List (LocParamV F)} {before : Conf F Var Flag}

theorem Enough.applied (enough : Enough table lines before) :
    ReadApplied table lines before (afterRead table lines before) where
  named := by
    intro e mem v line takes
    by_cases read : ∃ v ∈ readLines table lines, e.takes v = true
    · obtain ⟨v', early, takes'⟩ := read
      have named := (afterRead_applied table lines before).named e mem v' early takes'
      refine ⟨?_, named.2⟩
      intro ptr own
      obtain ⟨line, among, taken⟩ := named.1 ptr own
      exact ⟨line, mem_of_readLines among, taken⟩
    · have unread : ∀ v ∈ readLines table lines, e.takes v = false :=
        fun v mem => Bool.eq_false_iff.mpr (fun takes => read ⟨v, mem, takes⟩)
      have kept := (afterRead_applied table lines before).others e mem unread
      rw [← readLines_append_leftLines table lines] at line
      rcases List.mem_append.mp line with early | late
      · exact absurd ⟨v, early, takes⟩ read
      · rcases enough.met e mem v late takes with early | ⟨unflagged, already⟩
        · exact absurd early read
        · constructor
          · intro ptr own
            rw [kept.1 ptr own]
            exact already ptr own
          · intro flag own
            rw [unflagged] at own
            cases own
  others := by
    intro e mem others
    exact (afterRead_applied table lines before).others e mem
      (fun v read => others v (mem_of_readLines read))

theorem ReadApplied.met (applied : ReadApplied table lines before (afterRead table lines before))
    {e : LocParam Var Flag} (mem : e ∈ table.entries) {v : LocParamV F}
    (late : v ∈ leftLines table lines) (takes : e.takes v = true) :
    (∃ v ∈ readLines table lines, e.takes v = true) ∨ Unread e lines before := by
  by_cases read : ∃ v ∈ readLines table lines, e.takes v = true
  · exact Or.inl read
  · right
    have unread : ∀ v ∈ readLines table lines, e.takes v = false :=
      fun v mem => Bool.eq_false_iff.mpr (fun takes => read ⟨v, mem, takes⟩)
    have named := applied.named e mem v (mem_of_leftLines late) takes
    have kept := (afterRead_applied table lines before).others e mem unread
    constructor
    · cases own : e.param_set with
      | none => rfl
      | some flag =>
          have one := named.2 flag own
          rw [kept.2 flag own] at one
          exact absurd one (by decide)
    · intro ptr own
      rw [← kept.1 ptr own]
      exact named.1 ptr own

end

/-- The counter of a read wraps below zero. -/
def wraps (platform : Platform F) (content : List Char) (table : ParamTable Var Flag)
    (conf : Conf F Var Flag) : Bool :=
  underflows (locFillConfItem platform table.entries) (BitVec.ofNat 32 table.entries.length)
    ((fgets (LOC_MAX_PARAM_LINE - 1) content []).map cString) (clearSet table.entries conf)

section

variable (platform : Platform F) {content : List Char}
  (short : ∀ line ∈ fileLines content, line.length < LOC_MAX_PARAM_LINE)
  (table : ParamTable Var Flag) (conf : Conf F Var Flag)

include short

theorem wraps_iff :
    wraps platform content table conf = false ↔ Measured table (fileValues platform content) := by
  unfold wraps Measured
  rw [Bool.eq_false_iff, ne_eq, underflows_locFillConfItem, fgets_fileLines short,
    table.toNat_length, Nat.not_lt]
  rfl

theorem locReadConfR_eq (measured : Measured table (fileValues platform content)) :
    (locReadConfR platform (some content) table.entries conf).2.1 =
      afterRead table (fileValues platform content) conf := by
  have values : ((fgets (LOC_MAX_PARAM_LINE - 1) content []).map cString).filterMap
      (configValue platform) = fileValues platform content := by
    rw [fgets_fileLines short]
    rfl
  unfold Measured at measured
  rw [← table.toNat_length] at measured
  have drained := drain_locFillConfItem platform table.entries values measured
    (clearSet table.entries conf)
  rw [table.toNat_length] at drained
  exact drained

/-- A read applies all lines without wrapping its counter exactly when it has enough with
those that it reads. -/
theorem read_all_iff :
    (ReadApplied table (fileValues platform content) conf
        (locReadConfR platform (some content) table.entries conf).2.1 ∧
      wraps platform content table conf = false) ↔
        Enough table (fileValues platform content) conf := by
  rw [wraps_iff platform short table conf]
  constructor
  · rintro ⟨applied, measured⟩
    rw [locReadConfR_eq platform short table conf measured] at applied
    exact ⟨measured, fun e mem v late takes => applied.met mem late takes⟩
  · intro enough
    rw [locReadConfR_eq platform short table conf enough.measured]
    exact ⟨enough.applied, enough.measured⟩

/-- A read whose lines are measured applies those that it reads, until they have set as
many entries as the table has, and does not wrap its counter, which is to say that they are
measured. -/
theorem read_applied (measured : Measured table (fileValues platform content)) :
    ReadApplied table (readLines table (fileValues platform content)) conf
        (locReadConfR platform (some content) table.entries conf).2.1 ∧
      wraps platform content table conf = false := by
  refine ⟨?_, (wraps_iff platform short table conf).mpr measured⟩
  rw [locReadConfR_eq platform short table conf measured]
  exact afterRead_applied table (fileValues platform content) conf

end

/-- One line is for no parameter, and one is for the second. -/
theorem read_applied_second :
    ReadApplied pairTable (readLines pairTable (fileValues lp64 "X=5\nB=0x1F\n".toList))
        ⟨fun _ => .number 0, fun _ => 0⟩
        (locReadConfR lp64 (some "X=5\nB=0x1F\n".toList) pairTable.entries
          ⟨fun _ => .number 0, fun _ => 0⟩).2.1 ∧
      wraps lp64 "X=5\nB=0x1F\n".toList pairTable ⟨fun _ => .number 0, fun _ => 0⟩ = false :=
  read_applied lp64 (by decide) pairTable _ (by unfold Measured; decide)

/-- A second line for `A` leaves no budget for `B`. -/
theorem read_starved :
    (∀ line ∈ fileLines "A=1\nA=2\nB=3\n".toList, line.length < LOC_MAX_PARAM_LINE) ∧
      ¬ (ReadApplied pairTable (fileValues lp64 "A=1\nA=2\nB=3\n".toList)
            ⟨fun _ => .number 0, fun _ => 0⟩
            (locReadConfR lp64 (some "A=1\nA=2\nB=3\n".toList) pairTable.entries
              ⟨fun _ => .number 0, fun _ => 0⟩).2.1 ∧
          wraps lp64 "A=1\nA=2\nB=3\n".toList pairTable ⟨fun _ => .number 0, fun _ => 0⟩ =
            false) := by
  refine ⟨by decide, ?_⟩
  rintro ⟨applied, -⟩
  have named := applied.named ⟨['B'], some true, some (), 'n'⟩
    (List.mem_cons_of_mem _ List.mem_cons_self) ⟨['B'], ['3'], 3, ()⟩ (by decide) (by decide)
  exact absurd (named.2 () rfl) (by decide)

/-- A line for two entries takes the counter from 1 to below zero. -/
example :
    underflows (locFillConfItem lp64
        [⟨['A'], some 0, none, 'n'⟩, ⟨['B'], some 1, none, 'n'⟩, ⟨['B'], some 2, none, 'n'⟩])
      (3 : BitVec 32) ["A=1\n".toList, "A=1\n".toList, "B=2\n".toList]
      (⟨fun _ => .number 0, fun _ => 0⟩ : Conf Unit Nat Empty) = true := by
  decide

/-- The parameters of the logger, each with a variable of its own. -/
def logTable : ParamTable LogParam Empty :=
  { entries := locParamTable
    fits := by decide
    ownVariable := by decide
    ownFlag := by decide }

/-- A file that has enough for a table and for the logger is applied to both. -/
theorem locReadConf_applied (platform : Platform F) {content : List Char}
    (short : ∀ line ∈ fileLines content, line.length < LOC_MAX_PARAM_LINE)
    (table : ParamTable Var Flag) (conf : Conf F Var Flag × Conf F LogParam Empty)
    (enough : Enough table (fileValues platform content) conf.1)
    (logged : Enough logTable (fileValues platform content) conf.2) :
    ReadApplied table (fileValues platform content) conf.1
        (locReadConf platform (some content) (some table.entries) conf).1 ∧
      ReadApplied logTable (fileValues platform content) conf.2
        (locReadConf platform (some content) (some table.entries) conf).2 := by
  constructor
  · simp only [locReadConf]
    split
    · rw [locReadConfR_eq platform short table conf.1 enough.measured]
      exact enough.applied
    · rename_i empty
      have none : table.entries = [] := List.length_eq_zero_iff.mp (not_not.mp empty)
      constructor
      · intro e mem
        rw [none] at mem
        cases mem
      · intro e mem
        rw [none] at mem
        cases mem
  · have log := locReadConfR_eq platform short logTable conf.2 logged.measured
    show ReadApplied logTable _ conf.2
      (locReadConfR platform (some content) logTable.entries conf.2).2.1
    rw [log]
    exact logged.applied

end A5Common.Cfg
