import A5Common.Run.Bytes
import A5Common.Utils.CString

set_option autoImplicit false

namespace A5Common.Utils

open A5Common.Run
open A5Common.Cfg (cString)

/-- The memory and the variables of `loc_util_split_string`. The pointers are places in
the string. -/
structure Split where
  raw_string : List Char
  split_strings_ptr : List Nat
  raw_string_index : Nat
  num_split_strings : Nat

/-- The loop of `loc_util_split_string`, which ends before `raw_string_length`, with as many
rounds left. There is no result if it leaves the memory. -/
def splitLoop (max_num_substrings : Int) (delimiter : Char) : Nat → Split → Option Split
  | 0, s => some s
  | left + 1, s =>
      match s.raw_string[s.raw_string_index]? with
      | none => none
      | some c =>
          let end_string := c = Char.ofNat 0
          if c = delimiter ∨ end_string then
            match store s.raw_string s.raw_string_index (Char.ofNat 0) with
            | none => none
            | some raw_string =>
                let num_split_strings := s.num_split_strings + 1
                if 0 < left ∧ num_split_strings < max_num_substrings then
                  match store s.split_strings_ptr num_split_strings (s.raw_string_index + 1) with
                  | none => none
                  | some split_strings_ptr =>
                      let next : Split :=
                        { raw_string := raw_string
                          split_strings_ptr := split_strings_ptr
                          raw_string_index := s.raw_string_index + 1
                          num_split_strings := num_split_strings }
                      if end_string then some next
                      else splitLoop max_num_substrings delimiter left next
                else
                  some { s with
                    raw_string := raw_string
                    num_split_strings := num_split_strings }
          else
            splitLoop max_num_substrings delimiter left
              { s with raw_string_index := s.raw_string_index + 1 }

/-- `loc_util_split_string`, with the memory of its arguments. -/
def locUtilSplitString (raw_string : Option (List Char)) (split_strings_ptr : Option (List Nat))
    (max_num_substrings : Int) (delimiter : Char) :
    Option (Int × Option (List Char) × Option (List Nat)) :=
  match raw_string, split_strings_ptr with
  | some raw, some ptrs =>
      match strlen raw, store ptrs 0 0 with
      | some length, some ptrs =>
          let raw_string_length := int32 (length + 1)
          (splitLoop max_num_substrings delimiter raw_string_length.toNat ⟨raw, ptrs, 0, 0⟩).map
            (fun s => (s.num_split_strings, some s.raw_string, some s.split_strings_ptr))
      | _, _ => none
  | raw_string, split_strings_ptr => some (-1, raw_string, split_strings_ptr)

/-- The loop, begun with field `k` behind a text, leaves the text and the pointers up to
that one, and has the pointers from it on designate some fields. -/
structure Designates (max k : Nat) (base : List Char) (ptrs : List Nat)
    (fields : List (List Char)) (s : Split) : Prop where
  number : s.num_split_strings = k + min (max - k) fields.length
  size : s.split_strings_ptr.length = ptrs.length
  kept : ∀ j ≤ k, s.split_strings_ptr[j]? = ptrs[j]?
  base : ∃ back, s.raw_string = base ++ back
  designates : ∀ i field, k + i < max → fields[i]? = some field →
    ∃ q, s.split_strings_ptr[k + i]? = some q ∧ cString (s.raw_string.drop q) = field

theorem store_inside {memory : List Nat} {address : Nat} (inside : address < memory.length)
    (cell : Nat) : store memory address cell = some (memory.set address cell) :=
  if_pos inside

variable {delimiter : Char} {max : Nat}

/-- A last field, up to a terminator that has been stored. -/
theorem designates_last {k : Nat} {base cur : List Char} {ptrs : List Nat} (room : k < max)
    (clean : Char.ofNat 0 ∉ cur) (begun : ptrs[k]? = some base.length) (back : List Char)
    {fields : List (List Char)} (first : fields.head? = some cur)
    (last : fields.length = 1 ∨ max = k + 1) (index : Nat) :
    Designates max k base ptrs fields
      ⟨base ++ (cur ++ Char.ofNat 0 :: back), ptrs, index, k + 1⟩ := by
  have some : 0 < fields.length := by
    cases fields with
    | nil => cases first
    | cons field rest => exact Nat.succ_pos _
  constructor
  · show k + 1 = _
    omega
  · rfl
  · intro j _
    rfl
  · exact ⟨_, rfl⟩
  · intro i field within found
    have inside := (List.getElem?_eq_some_iff.mp found).1
    have zero : i = 0 := by omega
    subst zero
    rw [List.head?_eq_getElem?, found] at first
    cases first
    refine ⟨base.length, begun, ?_⟩
    show cString ((base ++ (cur ++ Char.ofNat 0 :: back)).drop base.length) = cur
    rw [List.drop_left]
    exact cString_terminated clean back

theorem splitOn_cons_delimiter (cur todo : List Char) (plain : delimiter ∉ cur) :
    (cur ++ delimiter :: todo).splitOn delimiter = cur :: todo.splitOn delimiter := by
  have others : ∀ c ∈ cur, (c == delimiter) = false := by
    intro c mem
    rw [beq_eq_false_iff_ne]
    intro same
    exact plain (same ▸ mem)
  exact List.splitOnP_append_cons_of_forall_mem others delimiter (beq_self_eq_true delimiter) todo

theorem splitOn_plain {cur : List Char} (plain : delimiter ∉ cur) :
    cur.splitOn delimiter = [cur] := by
  apply List.splitOnP_eq_singleton
  intro c mem
  rw [beq_eq_false_iff_ne]
  intro same
  exact plain (same ▸ mem)

/-- The next field, of which the loop has found the start, and those behind it. -/
theorem designates_next {k : Nat} {base cur : List Char} {ptrs : List Nat} {s : Split}
    {fields : List (List Char)} (more : k + 1 < max) (clean : Char.ofNat 0 ∉ cur)
    (begun : ptrs[k]? = some base.length) {place : Nat}
    (later : Designates max (k + 1) (base ++ cur ++ [Char.ofNat 0]) (ptrs.set (k + 1) place)
      fields s) :
    Designates max k base ptrs (cur :: fields) s := by
  obtain ⟨back, memory⟩ := later.base
  have earlier : ∀ j ≤ k, s.split_strings_ptr[j]? = ptrs[j]? := by
    intro j le
    rw [later.kept j (by omega), List.getElem?_set_ne (by omega)]
  constructor
  · rw [later.number, List.length_cons]
    omega
  · rw [later.size, List.length_set]
  · exact earlier
  · refine ⟨cur ++ Char.ofNat 0 :: back, ?_⟩
    rw [memory]
    simp only [List.append_assoc, List.cons_append, List.nil_append]
  · intro i field within found
    cases i with
    | zero =>
        cases found
        refine ⟨base.length, (earlier k (Nat.le_refl k)).trans begun, ?_⟩
        rw [memory, List.append_assoc, List.append_assoc, List.drop_left]
        exact cString_terminated clean back
    | succ i =>
        rw [List.getElem?_cons_succ] at found
        obtain ⟨q, place, text⟩ := later.designates i field (by omega) found
        refine ⟨q, ?_, text⟩
        rw [← place]
        congr 1
        omega

/-- The rounds that are left reach the end of a text, or as many delimiters as there are
pointers left. -/
def Reaches (max k : Nat) (delimiter : Char) (todo : List Char) (left : Nat) : Prop :=
  left = todo.length + 1 ∨ left ≤ todo.length ∧ max ≤ k + (todo.take left).count delimiter

theorem Reaches.positive {k : Nat} {todo : List Char} {left : Nat} (room : k < max)
    (reaches : Reaches max k delimiter todo left) : 0 < left := by
  rcases reaches with whole | ⟨-, enough⟩
  · omega
  · cases left with
    | zero =>
        rw [List.take_zero, List.count_nil] at enough
        omega
    | succ left => exact Nat.succ_pos left

theorem Reaches.next {k : Nat} {c : Char} {todo : List Char} {left : Nat}
    (reaches : Reaches max k delimiter (c :: todo) (left + 1)) :
    Reaches max (if c = delimiter then k + 1 else k) delimiter todo left := by
  rcases reaches with whole | ⟨short, enough⟩
  · rw [List.length_cons] at whole
    exact Or.inl (by omega)
  · rw [List.length_cons] at short
    rw [List.take_succ_cons, List.count_cons] at enough
    refine Or.inr ⟨by omega, ?_⟩
    by_cases same : c = delimiter
    · rw [if_pos same]
      rw [if_pos (beq_iff_eq.mpr same)] at enough
      omega
    · rw [if_neg same]
      rw [if_neg (fun eq => same (beq_iff_eq.mp eq))] at enough
      omega

theorem length_next (front : List Char) (c : Char) :
    front.length + 1 = (front ++ [c]).length := by
  rw [List.length_append, List.length_singleton]

section Rounds

variable {front back : List Char} {c : Char} {ptrs : List Nat} {k left : Nat}

/-- A round for another character. -/
theorem splitLoop_other (visible : c ≠ Char.ofNat 0) (other : c ≠ delimiter) :
    splitLoop max delimiter (left + 1) ⟨front ++ c :: back, ptrs, front.length, k⟩ =
      splitLoop max delimiter left ⟨front ++ c :: back, ptrs, front.length + 1, k⟩ := by
  have found : (front ++ c :: back)[front.length]? = some c := load_at front c back rfl
  simp only [splitLoop, found, other, visible, or_self, if_false]

/-- A round for a field that is the last one. -/
theorem splitLoop_last (ends : c = delimiter ∨ c = Char.ofNat 0)
    (last : left = 0 ∨ max ≤ k + 1) :
    splitLoop max delimiter (left + 1) ⟨front ++ c :: back, ptrs, front.length, k⟩ =
      some ⟨front ++ Char.ofNat 0 :: back, ptrs, front.length, k + 1⟩ := by
  have found : (front ++ c :: back)[front.length]? = some c := load_at front c back rfl
  have stored : store (front ++ c :: back) front.length (Char.ofNat 0) = _ :=
    store_at front c back rfl (Char.ofNat 0)
  have full : ¬ (0 < left ∧ ((k + 1 : Nat) : Int) < max) := by omega
  simp only [splitLoop, found, ends, if_true, stored, full, if_false]

/-- A round for a delimiter, behind which another field is begun. -/
theorem splitLoop_next (visible : delimiter ≠ Char.ofNat 0) (some : 0 < left)
    (more : k + 1 < max) (size : ptrs.length = max) :
    splitLoop max delimiter (left + 1) ⟨front ++ delimiter :: back, ptrs, front.length, k⟩ =
      splitLoop max delimiter left
        ⟨front ++ Char.ofNat 0 :: back, ptrs.set (k + 1) (front.length + 1), front.length + 1,
          k + 1⟩ := by
  have found : (front ++ delimiter :: back)[front.length]? = .some delimiter :=
    load_at front delimiter back rfl
  have stored : store (front ++ delimiter :: back) front.length (Char.ofNat 0) = _ :=
    store_at front delimiter back rfl (Char.ofNat 0)
  have place := store_inside (show k + 1 < ptrs.length by omega) (front.length + 1)
  have room : 0 < left ∧ ((k + 1 : Nat) : Int) < max := by omega
  simp only [splitLoop, found, true_or, if_true, stored, room, place, visible, if_false, and_self]

end Rounds

theorem splitLoop_designates (visible : delimiter ≠ Char.ofNat 0) {todo : List Char}
    (inside : Char.ofNat 0 ∉ todo) (base cur : List Char) (clean : Char.ofNat 0 ∉ cur)
    (plain : delimiter ∉ cur) {ptrs : List Nat} {k : Nat} (room : k < max)
    (size : ptrs.length = max) (begun : ptrs[k]? = some base.length) {left : Nat}
    (reaches : Reaches max k delimiter todo left) :
    ∃ s, splitLoop max delimiter left
        ⟨base ++ cur ++ (todo ++ [Char.ofNat 0]), ptrs, (base ++ cur).length, k⟩ = some s ∧
      Designates max k base ptrs ((cur ++ todo).splitOn delimiter) s := by
  obtain ⟨left, rfl⟩ : ∃ n, left = n + 1 := ⟨left - 1, by have := reaches.positive room; omega⟩
  induction todo generalizing base cur ptrs k left with
  | nil =>
      have whole : left = 0 := by
        rcases reaches with whole | ⟨short, -⟩
        · exact Nat.succ.inj whole
        · exact absurd short (Nat.not_succ_le_zero left)
      subst whole
      refine ⟨_, splitLoop_last (Or.inr rfl) (Or.inl rfl), ?_⟩
      rw [List.append_nil, splitOn_plain plain, List.append_assoc]
      exact designates_last room clean begun [] rfl (Or.inl rfl) _
  | cons c todo ih =>
      have next := reaches.next
      have text : c ≠ Char.ofNat 0 := fun same => inside (same ▸ List.mem_cons_self)
      have inside' : Char.ofNat 0 ∉ todo := fun mem => inside (List.mem_cons_of_mem c mem)
      rw [List.cons_append]
      by_cases ends : c = delimiter
      · subst ends
        rw [if_pos rfl] at next
        rw [splitOn_cons_delimiter cur todo plain]
        by_cases more : k + 1 < max
        · obtain ⟨left, rfl⟩ : ∃ n, left = n + 1 := ⟨left - 1, by have := next.positive more; omega⟩
          rw [splitLoop_next visible (Nat.succ_pos left) more size]
          have start : (ptrs.set (k + 1) ((base ++ cur).length + 1))[k + 1]? =
              some (base ++ cur ++ [Char.ofNat 0]).length := by
            rw [List.getElem?_set_self (by omega), length_next _ (Char.ofNat 0)]
          obtain ⟨s, run, later⟩ := ih inside' _ [] List.not_mem_nil List.not_mem_nil more
            (by rw [List.length_set]; exact size) start left next
          refine ⟨s, ?_, designates_next more clean begun later⟩
          rw [← run]
          simp only [List.append_assoc, List.cons_append, List.nil_append, List.append_nil,
            List.length_append, List.length_singleton, Nat.add_assoc]
        · refine ⟨_, splitLoop_last (Or.inl rfl) (Or.inr (by omega)), ?_⟩
          rw [List.append_assoc]
          exact designates_last room clean begun _ rfl (Or.inr (by omega)) _
      · rw [if_neg ends] at next
        obtain ⟨left, rfl⟩ : ∃ n, left = n + 1 := ⟨left - 1, by have := next.positive room; omega⟩
        rw [splitLoop_other text ends]
        have clean' : Char.ofNat 0 ∉ cur ++ [c] := by
          rw [List.mem_append, List.mem_singleton]
          rintro (before | same)
          · exact clean before
          · exact text same.symm
        have plain' : delimiter ∉ cur ++ [c] := by
          rw [List.mem_append, List.mem_singleton]
          rintro (before | same)
          · exact plain before
          · exact ends same.symm
        obtain ⟨s, run, later⟩ := ih inside' base (cur ++ [c]) clean' plain' room size begun left next
        refine ⟨s, ?_, ?_⟩
        · rw [← run]
          simp only [List.append_assoc, List.cons_append, List.nil_append, List.length_append,
            List.length_singleton, Nat.add_assoc]
        · rw [← List.append_cons] at later
          exact later

/-- Rounds that do not reach the end of a text count no more fields than delimiters. -/
theorem splitLoop_number_le (visible : delimiter ≠ Char.ofNat 0) {todo : List Char}
    (inside : Char.ofNat 0 ∉ todo) (front : List Char) {ptrs : List Nat} {k left : Nat}
    (size : ptrs.length = max) (short : left ≤ todo.length) {s : Split}
    (run : splitLoop max delimiter left
      ⟨front ++ (todo ++ [Char.ofNat 0]), ptrs, front.length, k⟩ = some s) :
    s.num_split_strings ≤ k + (todo.take left).count delimiter := by
  induction todo generalizing front ptrs k left with
  | nil =>
      have none : left = 0 := Nat.le_zero.mp short
      subst none
      cases run
      exact Nat.le_refl _
  | cons c todo ih =>
      cases left with
      | zero =>
          cases run
          exact Nat.le_add_right _ _
      | succ left =>
          have text : c ≠ Char.ofNat 0 := fun same => inside (same ▸ List.mem_cons_self)
          have inside' : Char.ofNat 0 ∉ todo := fun mem => inside (List.mem_cons_of_mem c mem)
          have short' : left ≤ todo.length := Nat.le_of_succ_le_succ short
          rw [List.cons_append] at run
          rw [List.take_succ_cons, List.count_cons]
          by_cases ends : c = delimiter
          · subst ends
            rw [if_pos (beq_self_eq_true c)]
            by_cases more : 0 < left ∧ k + 1 < max
            · rw [splitLoop_next visible more.1 more.2 size] at run
              have long : front.length + 1 = (front ++ [Char.ofNat 0]).length :=
                length_next front _
              rw [List.append_cons, long] at run
              have counted := ih inside' _ (by rw [List.length_set]; exact size) short' run
              omega
            · rw [splitLoop_last (Or.inl rfl) (by omega)] at run
              cases run
              show k + 1 ≤ _
              omega
          · rw [splitLoop_other text ends] at run
            rw [if_neg (fun eq => ends (beq_iff_eq.mp eq))]
            have long : front.length + 1 = (front ++ [c]).length := length_next front _
            rw [List.append_cons, long] at run
            exact ih inside' _ size short' run

theorem length_splitOn (text : List Char) (delimiter : Char) :
    (text.splitOn delimiter).length = text.count delimiter + 1 := by
  induction text with
  | nil => rfl
  | cons c rest ih =>
      rw [List.splitOn_cons_eq_if_modifyHead, List.count_cons]
      split
      · rw [List.length_cons, ih]
      · rw [List.length_modifyHead, ih]

/-- A string is split at each delimiter, into as many fields as there are pointers, and
no memory but that of the string and of the pointers is used. -/
def Splits (max_num_substrings : Int) (delimiter : Char) (text : List Char)
    (split_strings_ptr : List Nat) : Prop :=
  ∃ ret raw ptrs,
    locUtilSplitString (some (text ++ [Char.ofNat 0])) (some split_strings_ptr)
        max_num_substrings delimiter = some (ret, some raw, some ptrs) ∧
      ret = min max_num_substrings (text.count delimiter + 1) ∧
      ∀ (i : Nat) (field : List Char), (i : Int) < ret → (text.splitOn delimiter)[i]? = some field →
        ∃ q, ptrs[i]? = some q ∧ cString (raw.drop q) = field

/-- The length of the string with its terminator is an `int`, or as much of it as the
`int` counts has enough delimiters. -/
def Measurable (max_num_substrings : Int) (delimiter : Char) (text : List Char) : Prop :=
  text.length + 1 < 2147483648 ∨
    max_num_substrings ≤ (text.take (int32 (text.length + 1)).toNat).count delimiter

theorem int32_toNat_le {n : Nat} (large : 2147483648 ≤ n) : (int32 n).toNat < n := by
  have bound := BitVec.toInt_lt (x := BitVec.ofNat 32 n)
  unfold int32
  omega

variable {text : List Char} {split_strings_ptr : List Nat}

theorem locUtilSplitString_eq (inside : Char.ofNat 0 ∉ text) (room : 0 < max)
    (size : split_strings_ptr.length = max) (delimiter : Char) :
    locUtilSplitString (some (text ++ [Char.ofNat 0])) (some split_strings_ptr) max delimiter =
      (splitLoop max delimiter (int32 (text.length + 1)).toNat
        ⟨text ++ [Char.ofNat 0], split_strings_ptr.set 0 0, 0, 0⟩).map
          (fun s => ((s.num_split_strings : Int), some s.raw_string, some s.split_strings_ptr)) := by
  have length := strlen_terminated inside []
  have place := store_inside (show 0 < split_strings_ptr.length by omega) 0
  simp only [locUtilSplitString, length, place]

theorem measurable_of_splits (room : 0 < max) (visible : delimiter ≠ Char.ofNat 0)
    (inside : Char.ofNat 0 ∉ text) (size : split_strings_ptr.length = max)
    (splits : Splits max delimiter text split_strings_ptr) : Measurable max delimiter text := by
  obtain ⟨ret, raw, ptrs, run, number, -⟩ := splits
  by_contra unmeasured
  unfold Measurable at unmeasured
  push Not at unmeasured
  obtain ⟨large, few⟩ := unmeasured
  have short : (int32 (text.length + 1)).toNat ≤ text.length :=
    Nat.le_of_lt_succ (int32_toNat_le (by omega))
  rw [locUtilSplitString_eq inside room size] at run
  obtain ⟨s, loop, result⟩ := Option.map_eq_some_iff.mp run
  cases result
  have size' : (split_strings_ptr.set 0 0).length = max := by
    rw [List.length_set]
    exact size
  have counted := splitLoop_number_le visible inside [] size' short loop
  have all : (text.take (int32 (text.length + 1)).toNat).count delimiter ≤ text.count delimiter :=
    (List.take_sublist _ _).count_le delimiter
  omega

theorem splits_of_measurable (room : 0 < max) (visible : delimiter ≠ Char.ofNat 0)
    (inside : Char.ofNat 0 ∉ text) (size : split_strings_ptr.length = max)
    (measurable : Measurable max delimiter text) :
    Splits max delimiter text split_strings_ptr := by
  have reaches : Reaches max 0 delimiter text (int32 (text.length + 1)).toNat := by
    by_cases fits : text.length + 1 < 2147483648
    · left
      rw [int32_of_lt fits]
      omega
    · have short := int32_toNat_le (Nat.not_lt.mp fits)
      have enough := measurable.resolve_left fits
      exact Or.inr ⟨by omega, by omega⟩
  have size' : (split_strings_ptr.set 0 0).length = max := by
    rw [List.length_set]
    exact size
  have begun : (split_strings_ptr.set 0 0)[0]? = some ([] : List Char).length := by
    rw [List.getElem?_set_self (by omega)]
    rfl
  obtain ⟨s, loop, done⟩ := splitLoop_designates visible inside [] [] List.not_mem_nil
    List.not_mem_nil room size' begun reaches
  have number := done.number
  refine ⟨s.num_split_strings, s.raw_string, s.split_strings_ptr, ?_, ?_, ?_⟩
  · rw [locUtilSplitString_eq inside room size]
    exact congrArg _ loop
  · rw [List.nil_append, length_splitOn] at number
    omega
  · intro i field within found
    obtain ⟨q, place, text⟩ := done.designates i field (by omega) found
    exact ⟨q, by rw [← place, Nat.zero_add], text⟩

/-- A string is split right exactly when its measured part has the delimiters that are
needed. -/
theorem splits_iff {max_num_substrings : Int} (room : 1 ≤ max_num_substrings)
    (visible : delimiter ≠ Char.ofNat 0) (inside : Char.ofNat 0 ∉ text)
    (size : split_strings_ptr.length = max_num_substrings.toNat) :
    Splits max_num_substrings delimiter text split_strings_ptr ↔
      Measurable max_num_substrings delimiter text := by
  obtain ⟨max, rfl⟩ := Int.eq_ofNat_of_zero_le (show 0 ≤ max_num_substrings by omega)
  rw [Int.toNat_natCast] at size
  have some : 0 < max := by omega
  exact ⟨measurable_of_splits some visible inside size, splits_of_measurable some visible inside size⟩

/-- Empty fields are kept, and the last pointer designates the third of four. -/
theorem splits_empty : Splits 3 ' ' "a  b ".toList [0, 0, 0] :=
  (splits_iff (by decide) (by decide) (by decide) (by decide)).mpr (Or.inl (by decide))

/-- The length of the longest strings is a negative `int`. -/
theorem splits_none :
    (1 : Int) ≤ 1 ∧ ' ' ≠ Char.ofNat 0 ∧ Char.ofNat 0 ∉ List.replicate 2147483647 'a' ∧
      ¬ Splits 1 ' ' (List.replicate 2147483647 'a') [0] := by
  have inside : Char.ofNat 0 ∉ List.replicate 2147483647 'a' := by
    intro mem
    exact absurd (List.eq_of_mem_replicate mem) (by decide)
  refine ⟨by decide, by decide, inside, ?_⟩
  intro splits
  have measurable := measurable_of_splits (by decide : 0 < 1) (by decide) inside rfl splits
  unfold Measurable at measurable
  rw [List.length_replicate] at measurable
  have negative : (int32 (2147483647 + 1)).toNat = 0 := by decide
  rw [negative, List.take_zero] at measurable
  exact absurd measurable (by decide)

end A5Common.Utils
