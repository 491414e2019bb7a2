import A5Common.Utils.CString
import Mathlib.Data.List.DropRight

set_option autoImplicit false

namespace A5Common.Utils

open A5Common.Run
open A5Common.Cfg (isspace cString)

/-- The memory that holds a string, and the pointers of `loc_util_trim_space` to it. -/
structure TrimPtrs where
  org_string : List Char
  scan_ptr : Nat
  write_ptr : Nat
  first_nonspace : Option Nat
  last_nonspace : Option Nat

/-- One round of the loop of `loc_util_trim_space`, for the character that it scans. -/
def trimRound (t : TrimPtrs) (c : Char) : Option TrimPtrs :=
  let first_nonspace :=
    if isspace c = false ∧ t.first_nonspace = none then some t.scan_ptr else t.first_nonspace
  if first_nonspace = none then some { t with scan_ptr := t.scan_ptr + 1 }
  else
    (store t.org_string t.write_ptr c).map (fun org_string =>
      { org_string := org_string
        scan_ptr := t.scan_ptr + 1
        write_ptr := t.write_ptr + 1
        first_nonspace := first_nonspace
        last_nonspace := if isspace c = false then some (t.write_ptr + 1) else t.last_nonspace })

/-- The loop, for as many rounds as there are cells left. There is no result if it leaves
the memory. -/
def trimLoop : Nat → TrimPtrs → Option TrimPtrs
  | 0, _ => none
  | left + 1, t =>
      match t.org_string[t.scan_ptr]? with
      | some c => if c = Char.ofNat 0 then some t else (trimRound t c).bind (trimLoop left)
      | none => none

/-- `loc_util_trim_space` on the memory that `org_string` points to. -/
def locUtilTrimSpace (org_string : Option (List Char)) : Option (Option (List Char)) :=
  match org_string with
  | none => some none
  | some org_string =>
      match trimLoop org_string.length ⟨org_string, 0, 0, none, none⟩ with
      | none => none
      | some t =>
          match t.last_nonspace with
          | some last_nonspace => (store t.org_string last_nonspace (Char.ofNat 0)).map some
          | none => some (some t.org_string)

/-- A text without its leading and trailing spaces. -/
def trimmed (text : List Char) : List Char :=
  (text.dropWhile isspace).rdropWhile isspace

theorem mem_of_trimmed {text : List Char} {c : Char} (mem : c ∈ trimmed text) : c ∈ text :=
  (List.dropWhile_suffix isspace).subset ((List.rdropWhile_prefix isspace _).subset mem)

section

open A5Common.Cfg (TrimState trimStep)

theorem all_isspace {text : List Char} (none : ¬ ∃ c ∈ text, isspace c = false) :
    ∀ c ∈ text, isspace c = true := by
  intro c mem
  by_contra other
  exact none ⟨c, mem, Bool.eq_false_iff.mpr other⟩

/-- Leading spaces are passed by. -/
theorem foldl_trimStep_dropWhile (text : List Char) :
    text.foldl trimStep ⟨[], false, none⟩ =
      (text.dropWhile isspace).foldl trimStep ⟨[], false, none⟩ := by
  induction text with
  | nil => rfl
  | cons c rest ih =>
      by_cases space : isspace c = true
      · have passed : trimStep ⟨[], false, none⟩ c = ⟨[], false, none⟩ := by
          simp only [trimStep, space, Bool.not_true, Bool.or_false, Bool.false_eq_true, if_false]
        rw [List.dropWhile_cons_of_pos space, List.foldl_cons, passed, ih]
      · rw [List.dropWhile_cons_of_neg space]

/-- From the first character that is none on, all are kept, and the last one is known. -/
theorem foldl_trimStep_kept {c : Char} (first : isspace c = false) (rest : List Char) :
    (c :: rest).foldl trimStep ⟨[], false, none⟩ =
      ⟨c :: rest, true, some ((c :: rest).rdropWhile isspace).length⟩ := by
  induction rest using List.reverseRecOn with
  | nil =>
      have alone : [c].rdropWhile isspace = [c] := by
        rw [List.rdropWhile_singleton, first]
        rfl
      rw [alone]
      simp only [List.foldl_cons, List.foldl_nil, trimStep, first, Bool.not_false, Bool.or_true,
        if_true, List.nil_append, List.length_nil, List.length_singleton]
  | append_singleton rest d ih =>
      rw [← List.cons_append, List.foldl_append, ih]
      by_cases space : isspace d = true
      · rw [List.rdropWhile_concat_pos _ _ _ space]
        simp only [List.foldl_cons, List.foldl_nil, trimStep, Bool.true_or, if_true, space,
          Bool.not_true, Bool.false_eq_true, if_false]
      · rw [List.rdropWhile_concat_neg _ _ _ space, List.length_append, List.length_singleton]
        simp only [List.foldl_cons, List.foldl_nil, trimStep, Bool.true_or, if_true, space,
          Bool.not_false]

theorem dropWhile_eq_cons {text : List Char} (some : ∃ c ∈ text, isspace c = false) :
    ∃ c rest, isspace c = false ∧ text.dropWhile isspace = c :: rest := by
  cases kept : text.dropWhile isspace with
  | nil =>
      obtain ⟨c, mem, none⟩ := some
      rw [List.dropWhile_eq_nil_iff.mp kept c mem] at none
      cases none
  | cons c rest =>
      refine ⟨c, rest, ?_, rfl⟩
      have head := List.head_dropWhile_not isspace (l := text)
      simp only [kept, List.head_cons] at head
      exact Bool.eq_false_iff.mpr (by simpa using head)

theorem foldl_trimStep_of_some {text : List Char} (some : ∃ c ∈ text, isspace c = false) :
    text.foldl trimStep ⟨[], false, none⟩ =
      ⟨text.dropWhile isspace, true, .some (trimmed text).length⟩ := by
  obtain ⟨c, rest, first, kept⟩ := dropWhile_eq_cons some
  unfold trimmed
  rw [foldl_trimStep_dropWhile, kept, foldl_trimStep_kept first]

theorem foldl_trimStep_of_all {text : List Char} (all : ∀ c ∈ text, isspace c = true) :
    text.foldl trimStep ⟨[], false, none⟩ = ⟨[], false, none⟩ := by
  rw [foldl_trimStep_dropWhile, List.dropWhile_eq_nil_iff.mpr all]
  rfl

/-- A text is trimmed unless it consists of spaces, and then it is left. -/
theorem locUtilTrimSpace_of_some {text : List Char} (some : ∃ c ∈ text, isspace c = false) :
    Cfg.locUtilTrimSpace text = trimmed text := by
  unfold Cfg.locUtilTrimSpace
  rw [foldl_trimStep_of_some some]
  exact (List.prefix_iff_eq_take.mp (List.rdropWhile_prefix isspace _)).symm

theorem locUtilTrimSpace_of_all {text : List Char} (all : ∀ c ∈ text, isspace c = true) :
    Cfg.locUtilTrimSpace text = text := by
  unfold Cfg.locUtilTrimSpace
  rw [foldl_trimStep_of_all all]

/-- The state of the loop in its memory: what has been written, a gap, and what has not
been scanned. Nothing has been written before the first character that is kept. -/
structure Holds (before : List Char) (t : TrimState) (todo rest : List Char) (p : TrimPtrs) :
    Prop where
  unwritten : t.first_nonspace = false → p.org_string = before
  cells : ∃ gap, p.org_string = t.write ++ gap ++ (todo ++ Char.ofNat 0 :: rest) ∧
    p.scan_ptr = (t.write ++ gap).length
  write_ptr : p.write_ptr = t.write.length
  first_nonspace : p.first_nonspace.isSome = t.first_nonspace
  last_nonspace : p.last_nonspace = t.last_nonspace

theorem trimRound_holds {before : List Char} {c : Char} {todo rest : List Char} {t : TrimState}
    {p : TrimPtrs} (holds : Holds before t (c :: todo) rest p) :
    ∃ p', trimRound p c = some p' ∧ p'.org_string.length = p.org_string.length ∧
      Holds before (trimStep t c) todo rest p' := by
  obtain ⟨gap, cells, scan⟩ := holds.cells
  have begun := holds.first_nonspace
  by_cases writes : (t.first_nonspace || !isspace c) = true
  · have first : (if isspace c = false ∧ p.first_nonspace = none then some p.scan_ptr
        else p.first_nonspace).isSome = true := by
      cases space : isspace c with
      | false => cases p.first_nonspace <;> rfl
      | true =>
          rw [space, ← begun] at writes
          simpa using writes
    obtain ⟨gap', same, stored⟩ :=
      store_gap t.write gap (todo ++ Char.ofNat 0 :: rest) c holds.write_ptr
    have memory : p.org_string = t.write ++ gap ++ c :: (todo ++ Char.ofNat 0 :: rest) := cells
    rw [← memory] at stored
    have stepped : trimStep t c = ⟨t.write ++ [c], true,
        if isspace c = false then some (t.write.length + 1) else t.last_nonspace⟩ := by
      unfold trimStep
      rw [writes]
      cases isspace c <;> rfl
    have round : trimRound p c = some
        { org_string := t.write ++ [c] ++ gap' ++ (todo ++ Char.ofNat 0 :: rest)
          scan_ptr := p.scan_ptr + 1
          write_ptr := p.write_ptr + 1
          first_nonspace :=
            if isspace c = false ∧ p.first_nonspace = none then some p.scan_ptr
            else p.first_nonspace
          last_nonspace :=
            if isspace c = false then some (p.write_ptr + 1) else p.last_nonspace } := by
      unfold trimRound
      rw [if_neg (Option.ne_none_iff_isSome.mpr first), stored]
      rfl
    refine ⟨_, round, ?_, ?_⟩
    · rw [memory]
      simp only [List.length_append, List.length_cons, List.length_nil, same]
      omega
    · rw [stepped]
      constructor
      · intro unbegun
        cases unbegun
      · refine ⟨gap', rfl, ?_⟩
        rw [scan]
        simp only [List.length_append, List.length_cons, List.length_nil, same]
        omega
      · rw [holds.write_ptr, List.length_append, List.length_singleton]
      · exact first
      · rw [holds.write_ptr, holds.last_nonspace]
  · obtain ⟨unbegun, space⟩ : t.first_nonspace = false ∧ isspace c = true := by
      simpa using writes
    rw [unbegun, Option.isSome_eq_false_iff, Option.isNone_iff_eq_none] at begun
    have stepped : trimStep t c = t := by
      unfold trimStep
      rw [if_neg writes]
    refine ⟨{ p with scan_ptr := p.scan_ptr + 1 }, ?_, rfl, ?_⟩
    · unfold trimRound
      rw [begun, space]
      rfl
    · rw [stepped]
      refine ⟨holds.unwritten, ⟨gap ++ [c], ?_, ?_⟩, holds.write_ptr, holds.first_nonspace,
        holds.last_nonspace⟩
      · show p.org_string = _
        rw [cells]
        simp only [List.append_assoc, List.cons_append, List.nil_append]
      · show p.scan_ptr + 1 = _
        rw [scan, ← List.append_assoc, List.length_append, List.length_append, List.length_append,
          List.length_singleton]

theorem trimLoop_holds {before todo rest : List Char} (inside : Char.ofNat 0 ∉ todo)
    {t : TrimState} {p : TrimPtrs} (holds : Holds before t todo rest p) {left : Nat}
    (enough : todo.length < left) :
    ∃ p', trimLoop left p = some p' ∧ p'.org_string.length = p.org_string.length ∧
      Holds before (todo.foldl trimStep t) [] rest p' := by
  induction todo generalizing t p left with
  | nil =>
      obtain ⟨left, rfl⟩ : ∃ n, left = n + 1 := ⟨left - 1, by omega⟩
      obtain ⟨gap, cells, scan⟩ := holds.cells
      have ended : p.org_string[p.scan_ptr]? = some (Char.ofNat 0) := by
        rw [cells]
        exact load_at _ _ _ scan
      refine ⟨p, ?_, rfl, holds⟩
      simp only [trimLoop, ended, if_true]
  | cons c todo ih =>
      obtain ⟨left, rfl⟩ : ∃ n, left = n + 1 := ⟨left - 1, by omega⟩
      rw [List.length_cons] at enough
      obtain ⟨gap, cells, scan⟩ := holds.cells
      have found : p.org_string[p.scan_ptr]? = some c := by
        rw [cells]
        exact load_at _ _ _ scan
      have text : c ≠ Char.ofNat 0 := fun same => inside (same ▸ List.mem_cons_self)
      obtain ⟨p₁, round, kept, next⟩ := trimRound_holds holds
      obtain ⟨p₂, loop, still, done⟩ :=
        ih (fun mem => inside (List.mem_cons_of_mem c mem)) next (by omega : todo.length < left)
      refine ⟨p₂, ?_, still.trans kept, done⟩
      simp only [trimLoop, found, text, if_false, round, Option.bind_some, loop]

/-- The function does to its memory what it does to a text. -/
theorem locUtilTrimSpace_eq {buffer : List Char} (terminated : Char.ofNat 0 ∈ buffer) :
    ∃ after, locUtilTrimSpace (some buffer) = some (some after) ∧
      after.length = buffer.length ∧
      cString after = Cfg.locUtilTrimSpace (cString buffer) ∧
      after.drop ((cString buffer).length + 1) = buffer.drop ((cString buffer).length + 1) := by
  obtain ⟨text, rest, rfl, inside⟩ := List.eq_append_cons_of_mem terminated
  generalize memory : text ++ Char.ofNat 0 :: rest = buffer
  have begun : Holds buffer ⟨[], false, none⟩ text rest ⟨buffer, 0, 0, none, none⟩ :=
    ⟨fun _ => rfl, ⟨[], memory.symm, rfl⟩, rfl, rfl, rfl⟩
  have enough : text.length < buffer.length := by
    rw [← memory, List.length_append, List.length_cons]
    omega
  obtain ⟨p, loop, size, done⟩ := trimLoop_holds inside begun enough
  have string : cString buffer = text := by
    rw [← memory]
    exact cString_terminated inside rest
  rw [string]
  by_cases some : ∃ c ∈ text, isspace c = false
  · rw [foldl_trimStep_of_some some] at done
    obtain ⟨gap, cells, -⟩ := done.cells
    obtain ⟨more, kept⟩ := List.rdropWhile_prefix isspace (text.dropWhile isspace)
    rw [← trimmed] at kept
    rw [← kept, List.nil_append] at cells
    have placed : (trimmed text ++ more ++ gap).length = text.length := by
      rw [cells, ← memory] at size
      simp only [List.length_append, List.length_cons] at size ⊢
      omega
    obtain ⟨x, back, split⟩ : ∃ x back, more ++ gap ++ Char.ofNat 0 :: rest = x :: back :=
      List.exists_cons_of_ne_nil (by simp)
    have stored : store p.org_string (trimmed text).length (Char.ofNat 0) =
        .some (trimmed text ++ Char.ofNat 0 :: back) := by
      have cells' : p.org_string = trimmed text ++ x :: back := by
        rw [cells, ← split, List.append_assoc, List.append_assoc, List.append_assoc]
      rw [cells']
      exact store_at _ _ _ rfl _
    have within : (trimmed text).length < text.length + 1 := by
      simp only [List.length_append] at placed
      omega
    have clean : Char.ofNat 0 ∉ trimmed text := fun mem => inside (mem_of_trimmed mem)
    refine ⟨trimmed text ++ Char.ofNat 0 :: back, ?_, ?_, ?_, ?_⟩
    · simp only [locUtilTrimSpace, loop, done.last_nonspace, stored, Option.map_some]
    · rw [length_of_store stored, size]
    · rw [cString_terminated clean, locUtilTrimSpace_of_some some]
    · rw [drop_of_store stored within, cells, ← memory, drop_after, ← placed, drop_after]
  · have all := all_isspace some
    rw [foldl_trimStep_of_all all] at done
    have same : p.org_string = buffer := done.unwritten rfl
    refine ⟨buffer, ?_, rfl, ?_, rfl⟩
    · simp only [locUtilTrimSpace, loop, done.last_nonspace, same]
    · rw [string, locUtilTrimSpace_of_all all]

/-- Characters that have been shifted stay behind the terminator. -/
example : locUtilTrimSpace (some "  a b  \x00z".toList) = some (some "a b\x00   \x00z".toList) := by
  decide

end

/-- The function stays in its memory, and leaves the string without its leading and
trailing spaces. -/
def Trims (org_string : StringMemory) : Prop :=
  ∃ after, locUtilTrimSpace (some org_string.cells) = some (some after) ∧
    after.length = org_string.cells.length ∧
    cString after = trimmed (cString org_string.cells)

theorem trimmed_eq_nil {text : List Char} (all : ∀ c ∈ text, isspace c = true) :
    trimmed text = [] := by
  rw [trimmed, List.dropWhile_eq_nil_iff.mpr all, List.rdropWhile_nil]

/-- What is left of a text begins with the first of its characters that is no space. -/
theorem trimmed_eq_cons {text : List Char} (some : ∃ c ∈ text, isspace c = false) :
    ∃ c rest, isspace c = false ∧ (text.dropWhile isspace).head? = .some c ∧
      trimmed text = c :: rest := by
  obtain ⟨c, rest, first, kept⟩ := dropWhile_eq_cons some
  unfold trimmed
  rw [kept]
  rcases List.prefix_cons_iff.mp (List.rdropWhile_prefix isspace (c :: rest)) with
    none | ⟨more, front, -⟩
  · have space := List.rdropWhile_eq_nil_iff.mp none c List.mem_cons_self
    rw [first] at space
    cases space
  · exact ⟨c, more, first, rfl, front⟩

theorem trimmed_trimmed (text : List Char) : trimmed (trimmed text) = trimmed text := by
  by_cases some : ∃ c ∈ text, isspace c = false
  · obtain ⟨c, rest, first, -, front⟩ := trimmed_eq_cons some
    have begins : (trimmed text).dropWhile isspace = trimmed text := by
      rw [front, List.dropWhile_cons_of_neg (Bool.eq_false_iff.mp first)]
    rw [trimmed, begins]
    exact List.rdropWhile_idempotent isspace _
  · rw [trimmed_eq_nil (all_isspace some)]
    rfl

/-- A text that is trimmed to itself has a character that is no space, or none at all. -/
theorem locUtilTrimSpace_trimmed_iff (text : List Char) :
    Cfg.locUtilTrimSpace text = trimmed text ↔
      text = [] ∨ ∃ c ∈ text, isspace c = false := by
  by_cases some : ∃ c ∈ text, isspace c = false
  · exact iff_of_true (locUtilTrimSpace_of_some some) (Or.inr some)
  · have all := all_isspace some
    rw [locUtilTrimSpace_of_all all, trimmed_eq_nil all]
    exact ⟨Or.inl, fun only => only.resolve_right some⟩

theorem trims_iff_text (org_string : StringMemory) :
    Trims org_string ↔
      cString org_string.cells = [] ∨ ∃ c ∈ cString org_string.cells, isspace c = false := by
  rw [← locUtilTrimSpace_trimmed_iff]
  obtain ⟨after, done, size, text, -⟩ := locUtilTrimSpace_eq org_string.terminated
  constructor
  · rintro ⟨after', done', -, text'⟩
    rw [done] at done'
    cases done'
    rw [← text, text']
  · intro same
    exact ⟨after, done, size, text.trans same⟩

/-- A text is trimmed if it neither begins nor ends with a space. -/
theorem trimmed_eq_self_iff (text : List Char) :
    trimmed text = text ↔
      (∀ c, text.head? = some c → isspace c = false) ∧
        ∀ c, text.getLast? = some c → isspace c = false := by
  constructor
  · intro same
    constructor
    · intro c first
      by_cases some : ∃ c ∈ text, isspace c = false
      · obtain ⟨d, rest, kept, -, front⟩ := trimmed_eq_cons some
        rw [← same, front] at first
        cases first
        exact kept
      · rw [← same, trimmed_eq_nil (all_isspace some)] at first
        cases first
    · intro c last
      have behind : text.rdropWhile isspace = text := by
        rw [← same]
        exact List.rdropWhile_idempotent isspace _
      obtain ⟨front, rfl⟩ := List.getLast?_eq_some_iff.mp last
      have kept := List.rdropWhile_eq_self_iff.mp behind (by simp)
      rw [List.getLast_concat] at kept
      exact Bool.eq_false_iff.mpr kept
  · rintro ⟨first, last⟩
    have front : text.dropWhile isspace = text := by
      cases text with
      | nil => rfl
      | cons c rest => exact List.dropWhile_cons_of_neg (Bool.eq_false_iff.mp (first c rfl))
    rw [trimmed, front, List.rdropWhile_eq_self_iff]
    exact fun full => Bool.eq_false_iff.mp (last _ (List.getLast?_eq_some_getLast full))

/-- A trimmed text that is cut stays trimmed unless the cut is behind a space. -/
theorem trimmed_take_iff {text : List Char} (whole : trimmed text = text) (room : Nat) :
    trimmed (text.take (room + 1)) = text.take (room + 1) ↔
      ∀ c, text[room]? = some c → isspace c = false := by
  obtain ⟨first, last⟩ := (trimmed_eq_self_iff text).mp whole
  rw [trimmed_eq_self_iff, List.head?_take, List.getLast?_take, if_neg (Nat.succ_ne_zero room),
    if_neg (Nat.succ_ne_zero room), Nat.add_sub_cancel]
  constructor
  · rintro ⟨-, ends⟩ c cut
    exact ends c (by rw [cut, Option.some_or])
  · intro ends
    refine ⟨first, fun c end_ => ?_⟩
    cases cut : text[room]? with
    | none => exact last c (by rwa [cut, Option.none_or] at end_)
    | some d =>
        rw [cut, Option.some_or] at end_
        exact ends c (cut.trans end_)

end A5Common.Utils
