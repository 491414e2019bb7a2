import A5Common.Cfg.Fill
import A5Common.Utils.TrimSpace

set_option autoImplicit false

namespace A5Common.Cfg

open A5Common.Utils

variable {F : Type}

theorem configValue_operands (platform : Platform F) {input_buf : List Char}
    {param_name param_str_value : List Char} {more : List (List Char)}
    (operands : strtok '=' input_buf = param_name :: param_str_value :: more) :
    ∃ v, configValue platform input_buf = some v ∧
      v.param_name = locUtilTrimSpace param_name ∧
      v.param_str_value = locUtilTrimSpace param_str_value := by
  unfold configValue
  rw [operands]
  dsimp only
  split
  · exact ⟨_, rfl, rfl, rfl⟩
  · exact ⟨_, rfl, rfl, rfl⟩

/-- The numbers that a value stands for. It is hexadecimal behind `0x`. -/
def numberOf (platform : Platform F) : List Char → BitVec 32 × F
  | '0' :: x :: c :: rest =>
      if tolower x = 'x' then (BitVec.ofInt 32 (strtol platform 16 (c :: rest)), platform.zero)
      else (atoi platform ('0' :: x :: c :: rest), platform.atof ('0' :: x :: c :: rest))
  | value => (atoi platform value, platform.atof value)

theorem numberOf_eq (platform : Platform F) (value : List Char) :
    numberOf platform value =
      if 3 ≤ value.length ∧ value[0]? = some '0' ∧ value[1]?.map tolower = some 'x' then
        (BitVec.ofInt 32 (strtol platform 16 (value.drop 2)), platform.zero)
      else (atoi platform value, platform.atof value) := by
  unfold numberOf
  split
  · rename_i x c rest
    by_cases hexadecimal : tolower x = 'x'
    · have long : 3 ≤ ('0' :: x :: c :: rest).length := Nat.le_add_left 3 rest.length
      rw [if_pos hexadecimal, if_pos ⟨long, rfl, congrArg some hexadecimal⟩]
      rfl
    · rw [if_neg hexadecimal, if_neg (fun all => hexadecimal (Option.some.inj all.2.2))]
  · rename_i other
    rw [if_neg]
    rintro ⟨long, zero, -⟩
    match value, long with
    | d :: x :: c :: rest, long =>
        cases zero
        exact other x c rest rfl

theorem configValue_numbers (platform : Platform F) {input_buf : List Char} {v : LocParamV F}
    (parsed : configValue platform input_buf = some v) :
    (v.param_int_value, v.param_double_value) = numberOf platform v.param_str_value := by
  rw [numberOf_eq]
  unfold configValue at parsed
  split at parsed
  · generalize locUtilTrimSpace _ = text at parsed
    dsimp only at parsed
    split at parsed
    · rename_i hexadecimal
      cases parsed
      rw [if_pos hexadecimal]
    · rename_i decimal
      cases parsed
      rw [if_neg decimal]
  · cases parsed

section

variable {Var Flag : Type} [DecidableEq Var] [DecidableEq Flag]

/-- What a line of a name and a value does to a table that it is filled into. It is for the
entries of the trimmed name, and what these store is of the trimmed value, a string itself
trimmed. -/
structure FillsTrimmed (platform : Platform F) (table : ParamTable Var Flag)
    (name value : List Char) (before : Conf F Var Flag) (after : Nat × Conf F Var Flag) :
    Prop where
  compared :
    after.1 = table.entries.countP (fun e => e.param_name = trimmed name ∧ e.Settable)
  others : ∀ e ∈ table.entries, ∀ ptr, e.param_ptr = some ptr → e.param_name ≠ trimmed name →
    after.2.value ptr = before.value ptr
  string : ∀ e ∈ table.entries, ∀ ptr, e.param_ptr = some ptr → e.param_name = trimmed name →
    e.param_type = 's' → ∃ text, after.2.value ptr = .string text ∧
      text = (if trimmed value = "NULL".toList then []
        else (trimmed value).take LOC_MAX_PARAM_STRING) ∧
      trimmed text = text
  number : ∀ e ∈ table.entries, ∀ ptr, e.param_ptr = some ptr → e.param_name = trimmed name →
    e.param_type = 'n' → after.2.value ptr = .number (numberOf platform (trimmed value)).1
  float : ∀ e ∈ table.entries, ∀ ptr, e.param_ptr = some ptr → e.param_name = trimmed name →
    e.param_type = 'f' → after.2.value ptr = .float (numberOf platform (trimmed value)).2

/-- A table of one string. -/
def stringTable (param_name : List Char) : ParamTable Unit Empty :=
  { entries := [⟨param_name, some (), none, 's'⟩]
    fits := by simp
    ownVariable := by simp
    ownFlag := by simp }

end

/-- Whatever the table, a line is compared and stored with its operands trimmed. -/
def LineTrimmed (platform : Platform F) (input_buf : List Char) : Prop :=
  ∀ (Var Flag : Type) [DecidableEq Var] [DecidableEq Flag] (table : ParamTable Var Flag)
    (before : Conf F Var Flag),
    match strtok '=' input_buf with
    | name :: value :: _ =>
        FillsTrimmed platform table name value before
          (locFillConfItem platform table.entries before input_buf)
    | _ => locFillConfItem platform table.entries before input_buf = (0, before)

/-- Each of the two operands of a line, if it has two, has a character that is no space, and
the value is not cut behind a space. -/
def Worded (input_buf : List Char) : Prop :=
  ∀ name value more, strtok '=' input_buf = name :: value :: more →
    (∃ c ∈ name, isspace c = false) ∧ (∃ c ∈ value, isspace c = false) ∧
      ∀ c, (trimmed value)[LOC_MAX_PARAM_STRING - 1]? = some c → isspace c = false

section

variable {Var Flag : Type} [DecidableEq Var] [DecidableEq Flag]

omit [DecidableEq Var] [DecidableEq Flag] in
theorem LocParam.taken_named {e : LocParam Var Flag} {ptr : Var} (own : e.param_ptr = some ptr)
    {v : LocParamV F} (named : e.param_name = v.param_name) :
    e.taken v = stored e.param_type v := by
  rw [taken, if_pos ⟨named, by rw [own]; rfl⟩]

theorem locFillConfItem_of_some {platform : Platform F} {input_buf : List Char} {v : LocParamV F}
    (parsed : configValue platform input_buf = some v) (table : List (LocParam Var Flag))
    (before : Conf F Var Flag) :
    locFillConfItem platform table before input_buf = setEntries table v before := by
  rw [locFillConfItem, parsed]

/-- A line with trimmed operands fills in those. -/
theorem fillsTrimmed_of_parsed {platform : Platform F} {input_buf name value : List Char}
    {v : LocParamV F} (parsed : configValue platform input_buf = some v)
    (ofName : v.param_name = trimmed name) (ofValue : v.param_str_value = trimmed value)
    (uncut : trimmed ((trimmed value).take LOC_MAX_PARAM_STRING) =
      (trimmed value).take LOC_MAX_PARAM_STRING)
    (table : ParamTable Var Flag) (before : Conf F Var Flag) :
    FillsTrimmed platform table name value before
      (locFillConfItem platform table.entries before input_buf) := by
  have numbers := configValue_numbers platform parsed
  have kept : ∀ e ∈ table.entries, ∀ ptr, e.param_ptr = some ptr → e.param_name = trimmed name →
      (setEntries table.entries v before).2.value ptr =
        (stored e.param_type v).getD (before.value ptr) := by
    intro e mem ptr own named
    rw [table.setEntries_value mem own, e.taken_named own (named.trans ofName.symm)]
  refine ⟨?_, ?_, ?_, ?_, ?_⟩
  · rw [locFillConfItem_count, lineFills, parsed, ← ofName]
    refine List.countP_congr (fun e _ => ?_)
    rw [e.takes_iff, decide_eq_true_iff]
  all_goals rw [locFillConfItem_of_some parsed]
  · intro e mem ptr own other
    have free : e.taken v = none := by
      rw [LocParam.taken, if_neg (fun both => other (both.1.trans ofName))]
    rw [table.setEntries_value mem own, free]
    rfl
  · intro e mem ptr own named type
    refine ⟨_, ?_, rfl, ?_⟩
    · rw [kept e mem ptr own named, type, stored, if_pos rfl, ofValue]
      split <;> rfl
    · split
      · rfl
      · exact uncut
  · intro e mem ptr own named type
    rw [kept e mem ptr own named, type, ← ofValue, ← numbers]
    rfl
  · intro e mem ptr own named type
    rw [kept e mem ptr own named, type, ← ofValue, ← numbers]
    rfl

end

/-- A table of one string takes a value that it has the name for. -/
theorem stringTable_count {platform : Platform F} {input_buf : List Char} {v : LocParamV F}
    (parsed : configValue platform input_buf = some v) (before : Conf F Unit Empty) :
    (locFillConfItem platform (stringTable v.param_name).entries before input_buf).1 = 1 := by
  have takes : (⟨v.param_name, some (), none, 's'⟩ : LocParam Unit Empty).takes v = true :=
    (LocParam.takes_iff _ v).mpr ⟨rfl, rfl, Or.inl rfl⟩
  rw [locFillConfItem_count, lineFills, parsed]
  show [_].countP _ = 1
  rw [List.countP_singleton, if_pos takes]

theorem stringTable_value {platform : Platform F} {input_buf : List Char} {v : LocParamV F}
    (parsed : configValue platform input_buf = some v) (before : Conf F Unit Empty) :
    (locFillConfItem platform (stringTable v.param_name).entries before input_buf).2.value () =
      .string (if v.param_str_value = "NULL".toList then []
        else v.param_str_value.take LOC_MAX_PARAM_STRING) := by
  rw [locFillConfItem_of_some parsed,
    (stringTable v.param_name).setEntries_value List.mem_cons_self rfl,
    LocParam.taken_named rfl rfl, stored, if_pos rfl]
  split <;> rfl

theorem strtok_ne_nil {delim : Char} {text token : List Char} (mem : token ∈ strtok delim text) :
    token ≠ [] := by
  intro none
  have kept := (List.mem_filter.mp mem).2
  rw [none] at kept
  cases kept

/-- A table of one string shows what becomes of the operands of a line: that it is compared
with the name, and that it is set to the value. -/
theorem worded_of_lineTrimmed {platform : Platform F} {input_buf : List Char}
    (trims : LineTrimmed platform input_buf) : Worded input_buf := by
  intro name value more operands
  obtain ⟨v, parsed, ofName, ofValue⟩ := configValue_operands platform operands
  have fullName : name ≠ [] := strtok_ne_nil (by rw [operands]; exact List.mem_cons_self)
  have fullValue : value ≠ [] :=
    strtok_ne_nil (by rw [operands]; exact List.mem_cons_of_mem _ List.mem_cons_self)
  let before : Conf F Unit Empty := ⟨fun _ => .string [], fun flag => flag.elim⟩
  have line := trims Unit Empty (stringTable v.param_name) before
  rw [operands] at line
  have someName : ∃ c ∈ name, isspace c = false := by
    by_contra none
    have all := all_isspace none
    have compared := line.compared
    rw [stringTable_count parsed, trimmed_eq_nil all] at compared
    obtain ⟨e, mem, named⟩ := List.countP_pos_iff.mp (compared ▸ Nat.one_pos)
    rw [List.mem_singleton.mp mem, ofName, locUtilTrimSpace_of_all all] at named
    exact fullName (of_decide_eq_true named).1
  have named : v.param_name = trimmed name := ofName.trans (locUtilTrimSpace_of_some someName)
  obtain ⟨text, set, ofText, whole⟩ := line.string _ List.mem_cons_self () rfl named rfl
  rw [stringTable_value parsed] at set
  have someValue : ∃ c ∈ value, isspace c = false := by
    by_contra none
    have all := all_isspace none
    have empty : text = [] := by
      rw [ofText, trimmed_eq_nil all]
      rfl
    rw [ofValue, locUtilTrimSpace_of_all all, empty] at set
    have left := Value.string.inj set
    split at left
    · rename_i null
      exact absurd (all 'N' (by rw [null]; decide)) (by decide)
    · exact fullValue ((List.take_eq_nil_iff.mp left).resolve_left (by decide))
  refine ⟨someName, someValue, fun c cut => ?_⟩
  split at ofText
  · rename_i null
    rw [null] at cut
    cases cut
  · rw [ofText] at whole
    exact (trimmed_take_iff (trimmed_trimmed value) _).mp whole c cut

/-- A string is trimmed exactly when it is empty or has a character that is no space. A line
is exactly when both of its operands have one, and its value is not cut behind a space. -/
theorem trims_iff (platform : Platform F) :
    (∀ org_string : StringMemory, Trims org_string ↔
      cString org_string.cells = [] ∨
        ∃ c ∈ cString org_string.cells, isspace c = false) ∧
      ∀ input_buf, LineTrimmed platform input_buf ↔ Worded input_buf := by
  refine ⟨trims_iff_text, fun input_buf => ⟨worded_of_lineTrimmed, fun worded => ?_⟩⟩
  intro Var Flag _ _ table before
  match operands : strtok '=' input_buf with
  | [] | [_] => rw [locFillConfItem, configValue, operands]
  | name :: value :: more =>
      obtain ⟨someName, someValue, uncut⟩ := worded name value more operands
      obtain ⟨v, parsed, ofName, ofValue⟩ := configValue_operands platform operands
      rw [locUtilTrimSpace_of_some someName] at ofName
      rw [locUtilTrimSpace_of_some someValue] at ofValue
      exact fillsTrimmed_of_parsed parsed ofName ofValue
        ((trimmed_take_iff (trimmed_trimmed value) _).mpr uncut) table before

/-- The space of an otherwise empty string stays, and so does the newline that is all of a
value. A value that is cut behind its 79th letter ends in the space that follows it. -/
theorem space_kept :
    ¬ Trims ⟨" \x00".toList, by decide⟩ ∧ ¬ LineTrimmed lp64 "A=\n".toList ∧
      ¬ LineTrimmed lp64 ("A=".toList ++ List.replicate 79 'a' ++ " b".toList) := by
  refine ⟨?_, ?_, ?_⟩
  · rintro ⟨after, done, -, text⟩
    have left : Utils.locUtilTrimSpace (some " \x00".toList) = some (some " \x00".toList) := by
      decide
    rw [left] at done
    cases done
    exact absurd text (by decide)
  · intro trims
    obtain ⟨c, newline, other⟩ :=
      (worded_of_lineTrimmed trims ['A'] ['\n'] [] (by decide)).2.1
    rw [List.mem_singleton.mp newline] at other
    cases other
  · intro trims
    have worded := worded_of_lineTrimmed trims "A".toList
      (List.replicate 79 'a' ++ " b".toList) [] (by decide +kernel)
    exact absurd (worded.2.2 ' ' (by decide +kernel)) (by decide)

end A5Common.Cfg
