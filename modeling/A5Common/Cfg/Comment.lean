import A5Common.Cfg.Operands

set_option autoImplicit false

namespace A5Common.Cfg

open A5Common.Run
open A5Common.Utils (locUtilTrimSpace_of_some trimmed_eq_cons)

variable {F Var Flag : Type}

/-- The buffers that a file is read in, each up to its terminator. -/
def pieces (content : List Char) : List (List Char) :=
  (fgets (LOC_MAX_PARAM_LINE - 1) content []).map cString

/-- A line that ends a buffer with its newline leaves nothing to the next line. -/
theorem fgets_append {room : Nat} {front begun : List Char}
    (ends : front.getLast? = some '\n' ∨ front = [] ∧ begun = []) (back : List Char) :
    fgets room (front ++ back) begun = fgets room front begun ++ fgets room back [] := by
  induction front generalizing begun with
  | nil =>
      rcases ends with last | ⟨-, fresh⟩
      · cases last
      · rw [fresh]
        rfl
  | cons c rest ih =>
      have last : (c :: rest).getLast? = some '\n' := by
        rcases ends with last | ⟨none, -⟩
        · exact last
        · cases none
      have later : rest = [] ∨ rest.getLast? = some '\n' := by
        cases rest with
        | nil => exact Or.inl rfl
        | cons d more =>
            rw [List.getLast?_cons_cons] at last
            exact Or.inr last
      rw [List.cons_append, fgets, fgets]
      by_cases full : c = '\n' ∨ room ≤ begun.length + 1
      · rw [if_pos full, if_pos full, List.cons_append]
        congr 1
        rcases later with rfl | last
        · exact ih (Or.inr ⟨rfl, rfl⟩)
        · exact ih (Or.inl last)
      · rw [if_neg full, if_neg full]
        rcases later with rfl | more
        · rw [List.getLast?_singleton] at last
          exact absurd (Or.inl (Option.some.inj last)) full
        · exact ih (Or.inl more)

/-- What has been read of a line begins its buffer. -/
theorem fgets_begun (room : Nat) (content : List Char) {begun : List Char} (some : begun ≠ []) :
    ∃ more later, fgets room content begun = (begun ++ more) :: later := by
  induction content generalizing begun with
  | nil =>
      refine ⟨[], [], ?_⟩
      rw [fgets, if_neg (by rw [List.isEmpty_iff]; exact some), List.append_nil]
  | cons c rest ih =>
      rw [fgets]
      split
      · exact ⟨[c], _, rfl⟩
      · have longer : begun ++ [c] ≠ [] := by simp
        obtain ⟨more, later, eq⟩ := ih longer
        refine ⟨c :: more, later, ?_⟩
        rw [eq, List.append_assoc]
        rfl

theorem pieces_append {front : List Char} (ends : front = [] ∨ front.getLast? = some '\n')
    (back : List Char) : pieces (front ++ back) = pieces front ++ pieces back := by
  have apart : front.getLast? = some '\n' ∨ front = [] ∧ ([] : List Char) = [] := by
    rcases ends with none | last
    · exact Or.inr ⟨none, rfl⟩
    · exact Or.inl last
  unfold pieces
  rw [fgets_append apart, List.map_append]

/-- The first character of a file, unless it ends its buffer, begins the first piece. -/
theorem pieces_cons {c : Char} (text : c ≠ Char.ofNat 0) (mid : c ≠ '\n') (rest : List Char) :
    ∃ more later, pieces (c :: rest) = (c :: more) :: later := by
  obtain ⟨more, later, eq⟩ :=
    fgets_begun (LOC_MAX_PARAM_LINE - 1) rest (List.cons_ne_nil c [])
  refine ⟨cString more, later.map cString, ?_⟩
  have continues : ¬ (c = '\n' ∨ LOC_MAX_PARAM_LINE - 1 ≤ ([] : List Char).length + 1) := by
    rintro (same | full)
    · exact mid same
    · exact absurd full (by decide)
  unfold pieces
  rw [fgets, if_neg continues]
  show (fgets (LOC_MAX_PARAM_LINE - 1) rest [c]).map cString = _
  rw [eq, List.map_cons]
  congr 1
  show cString (c :: more) = _
  exact List.takeWhile_cons_of_pos (bne_iff_ne.mpr text)

theorem strtok_cons {delim c : Char} (other : c ≠ delim) (rest : List Char) :
    ∃ more later, strtok delim (c :: rest) = (c :: more) :: later := by
  obtain ⟨first, tokens, split⟩ := List.exists_cons_of_ne_nil (List.splitOn_ne_nil delim rest)
  refine ⟨first, tokens.filter (fun token => !token.isEmpty), ?_⟩
  have outside : (c == delim) = false := beq_eq_false_iff_ne.mpr other
  unfold strtok
  rw [List.splitOn_cons_eq_if_modifyHead, outside, split]
  rfl

theorem locUtilTrimSpace_cons {c : Char} (first : isspace c = false) (rest : List Char) :
    ∃ more, locUtilTrimSpace (c :: rest) = c :: more := by
  have some : ∃ d ∈ c :: rest, isspace d = false := ⟨c, List.mem_cons_self, first⟩
  obtain ⟨d, more, -, front, trimmed⟩ := trimmed_eq_cons some
  rw [List.dropWhile_cons_of_neg (Bool.eq_false_iff.mp first)] at front
  cases front
  exact ⟨more, by rw [locUtilTrimSpace_of_some some, trimmed]⟩

/-- No entry of the table is for the line. -/
def Unmatched (platform : Platform F) (table : List (LocParam Var Flag)) (line : List Char) :
    Prop :=
  ∀ v, configValue platform line = some v →
    ∀ e ∈ table, ¬ (e.param_name = v.param_name ∧ e.Settable)

theorem lineFills_eq_zero_iff (platform : Platform F) (table : List (LocParam Var Flag))
    (line : List Char) :
    lineFills platform table line = 0 ↔ Unmatched platform table line := by
  unfold lineFills Unmatched
  cases configValue platform line with
  | none =>
      apply iff_of_true rfl
      intro v none
      cases none
  | some v =>
      show fills table v = 0 ↔ _
      unfold fills
      rw [List.countP_eq_zero]
      simp only [Option.some.injEq, forall_eq', LocParam.takes_iff]

/-- A line that begins with `#` is for no entry, if no name does. -/
theorem unmatched_comment (platform : Platform F) {table : List (LocParam Var Flag)}
    (named : ∀ e ∈ table, e.param_name.head? ≠ some '#') (text : List Char) :
    Unmatched platform table ('#' :: text) := by
  intro v parsed e mem meant
  obtain ⟨more, later, operands⟩ := strtok_cons (by decide : '#' ≠ '=') text
  cases later with
  | nil =>
      rw [configValue, operands] at parsed
      cases parsed
  | cons value rest =>
      obtain ⟨v', parsed', name, -⟩ := configValue_operands platform operands
      rw [parsed] at parsed'
      cases parsed'
      obtain ⟨kept, front⟩ := locUtilTrimSpace_cons (by decide : isspace '#' = false) more
      apply named e mem
      rw [meant.1, name, front]
      rfl

variable [DecidableEq Var] [DecidableEq Flag]

theorem locFillConfItem_idle (platform : Platform F) (table : List (LocParam Var Flag))
    {line : List Char} (free : lineFills platform table line = 0) (conf : Conf F Var Flag) :
    locFillConfItem platform table conf line = (0, conf) := by
  unfold locFillConfItem
  unfold lineFills at free
  cases parsed : configValue platform line with
  | none => rfl
  | some v =>
      rw [parsed] at free
      have others : ∀ e ∈ table, ¬ e.takes v = true := List.countP_eq_zero.mp free
      show setEntries table v conf = _
      rw [setEntries_eq]
      generalize 0 = ret
      induction table with
      | nil => rfl
      | cons e rest ih =>
          have kept : fillEntry v (ret, conf) e = (ret, conf) := by
            rcases fillEntry_cases e v (ret, conf) with ⟨-, kept⟩ | ⟨value, ptr, taken, -, -⟩
            · exact kept
            · have takes : e.takes v = true := by rw [LocParam.takes, taken]; rfl
              exact absurd takes (others e List.mem_cons_self)
          have free' : fills rest v = 0 :=
            List.countP_eq_zero.mpr (fun e' mem => others e' (List.mem_cons_of_mem e mem))
          rw [List.foldl_cons, kept]
          exact ih free' (fun e' mem => others e' (List.mem_cons_of_mem e mem))

/-- Two configurations have the same value in a variable. -/
def SameAt (ptr : Var) (conf conf' : Conf F Var Flag) : Prop :=
  conf.value ptr = conf'.value ptr

theorem foldl_fillEntry_sameAt (v : LocParamV F) (ptr : Var) (table : List (LocParam Var Flag))
    {done done' : Nat × Conf F Var Flag} (same : SameAt ptr done.2 done'.2) :
    SameAt ptr (table.foldl (fillEntry v) done).2 (table.foldl (fillEntry v) done').2 := by
  induction table generalizing done done' with
  | nil => exact same
  | cons e rest ih =>
      rw [List.foldl_cons, List.foldl_cons]
      apply ih
      unfold SameAt at same ⊢
      rw [fillEntry_value, fillEntry_value, same]

theorem locFillConfItem_sameAt (platform : Platform F) (table : List (LocParam Var Flag))
    (ptr : Var) (conf conf' : Conf F Var Flag) (line : List Char) (same : SameAt ptr conf conf') :
    SameAt ptr (locFillConfItem platform table conf line).2
      (locFillConfItem platform table conf' line).2 := by
  unfold locFillConfItem
  cases configValue platform line with
  | none => exact same
  | some v =>
      show SameAt ptr (setEntries table v conf).2 (setEntries table v conf').2
      rw [setEntries_eq, setEntries_eq]
      exact foldl_fillEntry_sameAt v ptr table same

/-- A line for an entry leaves its variable with a value that does not depend on the one
that it had. -/
theorem locFillConfItem_settles (platform : Platform F) (table : List (LocParam Var Flag))
    {line : List Char} (costs : lineFills platform table line ≠ 0) :
    ∃ ptr, (∃ e ∈ table, e.param_ptr = some ptr) ∧ ∀ conf conf',
      SameAt ptr (locFillConfItem platform table conf line).2
        (locFillConfItem platform table conf' line).2 := by
  unfold lineFills at costs
  unfold locFillConfItem
  cases parsed : configValue platform line with
  | none =>
      rw [parsed] at costs
      exact absurd rfl costs
  | some v =>
      rw [parsed] at costs
      have filled : 0 < fills table v := Nat.pos_of_ne_zero costs
      obtain ⟨e, mem, takes⟩ := List.countP_pos_iff.mp filled
      obtain ⟨ptr, own⟩ := Option.isSome_iff_exists.mp ((e.takes_iff v).mp takes).2.1
      obtain ⟨value, taken⟩ := Option.isSome_iff_exists.mp takes
      refine ⟨ptr, ⟨e, mem, own⟩, ?_⟩
      intro conf conf'
      obtain ⟨front, back, split⟩ := List.append_of_mem mem
      have set : ∀ done : Nat × Conf F Var Flag,
          (fillEntry v done e).2.value ptr = value := by
        intro done
        rw [fillEntry_value, if_pos own, taken]
        rfl
      show SameAt ptr (setEntries table v conf).2 (setEntries table v conf').2
      rw [setEntries_eq, setEntries_eq, split, List.foldl_append, List.foldl_append,
        List.foldl_cons, List.foldl_cons]
      apply foldl_fillEntry_sameAt
      rw [SameAt, set, set]

/-- Two runs end with the same parameters and flags of a table. -/
def SameOutcome (table : List (LocParam Var Flag))
    (result result' : Int × Conf F Var Flag × List (List Char)) : Prop :=
  result.1 = result'.1 ∧ ∀ e ∈ table,
    (∀ ptr, e.param_ptr = some ptr → result.2.1.value ptr = result'.2.1.value ptr) ∧
      ∀ flag, e.param_set = some flag → result.2.1.set flag = result'.2.1.set flag

/-- No file is read otherwise for a comment line between two of its lines. -/
def Inert (platform : Platform F) (table : List (LocParam Var Flag)) (comment : List Char) :
    Prop :=
  ∀ before after conf, (before = [] ∨ before.getLast? = some '\n') →
    SameOutcome table
      (locReadConfR platform (some (before ++ (comment ++ ['\n'] ++ after))) table conf)
      (locReadConfR platform (some (before ++ after)) table conf)

theorem locReadConfR_value (platform : Platform F) (table : List (LocParam Var Flag))
    (content : List Char) (conf : Conf F Var Flag) :
    (locReadConfR platform (some content) table conf).2.1 =
      (drain (locFillConfItem platform table) (BitVec.ofNat 32 table.length) (pieces content)
        (clearSet table conf)).1 :=
  rfl

theorem inert_of_unmatched (platform : Platform F) {table : List (LocParam Var Flag)}
    {comment : List Char}
    (free : ∀ piece ∈ pieces (comment ++ ['\n']), lineFills platform table piece = 0) :
    Inert platform table comment := by
  intro before after conf ends
  have same : (locReadConfR platform (some (before ++ (comment ++ ['\n'] ++ after))) table
      conf).2.1 = (locReadConfR platform (some (before ++ after)) table conf).2.1 := by
    rw [locReadConfR_value, locReadConfR_value, pieces_append ends, pieces_append ends,
      pieces_append (Or.inr List.getLast?_concat)]
    exact drain_idle (fun piece mem => locFillConfItem_idle platform table (free piece mem)) _ _ _ _
  refine ⟨rfl, ?_⟩
  intro e mem
  rw [same]
  exact ⟨fun ptr own => rfl, fun flag own => rfl⟩

/-- Of two configurations with different values everywhere, a line for an entry changes
one. -/
theorem unmatched_of_inert (platform : Platform F) {table : List (LocParam Var Flag)}
    (fits : table.length < 4294967296) {comment : List Char}
    (inert : Inert platform table comment) :
    ∀ piece ∈ pieces (comment ++ ['\n']), lineFills platform table piece = 0 := by
  by_contra costly
  push Not at costly
  have left : BitVec.ofNat 32 table.length ≠ 0 := by
    intro zero
    have none : table.length = 0 := by
      have size : (BitVec.ofNat 32 table.length).toNat = table.length := by
        rw [BitVec.toNat_ofNat]
        exact Nat.mod_eq_of_lt fits
      rw [← size, zero]
      rfl
    obtain ⟨piece, -, costs⟩ := costly
    apply costs
    rw [List.length_eq_zero_iff.mp none]
    unfold lineFills
    cases configValue platform piece <;> rfl
  obtain ⟨⟨ptr, e, mem, own⟩, settled⟩ :=
    drain_settles
      (fun ptr : { ptr : Var // ∃ e ∈ table, e.param_ptr = some ptr } => SameAt ptr.val)
      (locFillConfItem_count platform table)
      (fun ptr conf conf' line => locFillConfItem_sameAt platform table ptr.val conf conf' line)
      (fun line free conf => locFillConfItem_idle platform table free conf)
      (fun line costs => by
        obtain ⟨ptr, own, same⟩ := locFillConfItem_settles platform table costs
        exact ⟨⟨ptr, own⟩, same⟩)
      left costly
  have zero := (inert [] [] ⟨fun _ => .number 0, fun _ => 0⟩ (Or.inl rfl)).2 e mem
  have one := (inert [] [] ⟨fun _ => .number 1, fun _ => 0⟩ (Or.inl rfl)).2 e mem
  have value : (Value.number 0 : Value F) = .number 1 := by
    have first := zero.1 ptr own
    have second := one.1 ptr own
    simp only [List.nil_append, List.append_nil] at first second
    rw [locReadConfR_value] at first second
    calc (Value.number 0 : Value F)
        = _ := first.symm
      _ = _ := settled _ _
      _ = Value.number 1 := second
  cases value

theorem mem_pieces_comment (text : List Char) :
    ∃ more, pieces ('#' :: (text ++ ['\n'])) =
      ('#' :: more) :: (pieces ('#' :: (text ++ ['\n']))).tail := by
  obtain ⟨more, later, eq⟩ :=
    pieces_cons (by decide : '#' ≠ Char.ofNat 0) (by decide) (text ++ ['\n'])
  exact ⟨more, by rw [eq, List.tail_cons]⟩

/-- A comment line is inert exactly when no entry is for one of the pieces behind its
first. -/
theorem comment_inert_iff (platform : Platform F) {table : List (LocParam Var Flag)}
    (fits : table.length < 4294967296)
    (named : ∀ e ∈ table, e.param_name.head? ≠ some '#') (text : List Char) :
    Inert platform table ('#' :: text) ↔
      ∀ piece ∈ (pieces ('#' :: (text ++ ['\n']))).tail, Unmatched platform table piece := by
  obtain ⟨more, split⟩ := mem_pieces_comment text
  constructor
  · intro inert piece mem
    rw [← lineFills_eq_zero_iff]
    exact unmatched_of_inert platform fits inert piece (List.mem_of_mem_tail mem)
  · intro free
    apply inert_of_unmatched
    intro piece mem
    rw [lineFills_eq_zero_iff]
    rw [List.cons_append, split] at mem
    rcases List.mem_cons.mp mem with rfl | later
    · exact unmatched_comment platform named more
    · exact free piece later

/-- A comment with a piece for a parameter that the table does not have. -/
theorem comment_inert_unknown :
    Inert lp64 pairTable.entries ('#' :: (List.replicate 158 'x' ++ "C=1".toList)) := by
  apply (comment_inert_iff lp64 (by decide) (by decide) _).mpr
  intro piece mem
  have tail : (pieces ('#' :: (List.replicate 158 'x' ++ "C=1".toList ++ ['\n']))).tail =
      ["C=1\n".toList] := by decide
  rw [tail] at mem
  rw [List.mem_singleton.mp mem, ← lineFills_eq_zero_iff]
  decide

/-- The end of a long comment sets a parameter. -/
theorem comment_read :
    (∀ e ∈ pairTable.entries, e.param_name.head? ≠ some '#') ∧
      ¬ Inert lp64 pairTable.entries ('#' :: (List.replicate 158 'x' ++ "A=1".toList)) := by
  refine ⟨by decide, ?_⟩
  intro inert
  have free := unmatched_of_inert lp64 (by decide) inert "A=1\n".toList (by decide)
  exact absurd free (by decide)

end A5Common.Cfg
