import A5Common.Cfg.Read
import A5Common.Cfg.Comment
import A5Common.Cfg.Strtol
import A5Common.Utils.TrimSpace
import Mathlib.Data.List.Pairwise

set_option autoImplicit false

namespace A5Common.Cfg

open A5Common.Run A5Common.Number
open A5Common.Utils (trimmed locUtilTrimSpace_of_some)

variable {F Var Flag : Type}

section Budget

variable (entries : List (LocParam Var Flag))

/-- No two of the values are for the same entry. -/
def Distinct (vs : List (LocParamV F)) : Prop :=
  vs.Pairwise (fun v v' => ∀ e ∈ entries, e.takes v = true → e.takes v' = false)

/-- How many entries some of the values are for. -/
def wanted (vs : List (LocParamV F)) : Nat :=
  entries.countP (fun e => vs.any (fun v => e.takes v))

theorem countP_or {α : Type} {p q : α → Bool} {list : List α}
    (apart : ∀ x ∈ list, p x = true → q x = false) :
    list.countP (fun x => p x || q x) = list.countP p + list.countP q := by
  induction list with
  | nil => rfl
  | cons x rest ih =>
      have tail := ih (fun y member => apart y (List.mem_cons_of_mem x member))
      have head := apart x List.mem_cons_self
      simp only [List.countP_cons, tail]
      cases one : p x with
      | true =>
          rw [head one]
          simp only [Bool.or_false, if_true, Bool.false_eq_true, if_false]
          omega
      | false =>
          rw [Bool.false_or]
          simp only [Bool.false_eq_true, if_false]
          omega

theorem wanted_cons {v : LocParamV F} {rest : List (LocParamV F)}
    (distinct : Distinct entries (v :: rest)) :
    wanted entries (v :: rest) = fills entries v + wanted entries rest := by
  have apart : ∀ e ∈ entries, e.takes v = true → rest.any (fun v => e.takes v) = false := by
    intro e member takes
    rw [List.any_eq_false]
    intro v' later
    exact Bool.eq_false_iff.mp ((List.pairwise_cons.mp distinct).1 v' later e member takes)
  unfold wanted fills
  rw [← countP_or apart]
  rfl

/-- A budget for all the entries that are wanted is never overdrawn. -/
theorem spent_le_wanted {vs : List (LocParamV F)} (distinct : Distinct entries vs) (budget : Nat) :
    spent (fills entries) budget vs ≤ wanted entries vs := by
  induction vs generalizing budget with
  | nil => exact Nat.zero_le _
  | cons v rest ih =>
      by_cases out : budget = 0
      · rw [out, spent_zero]
        exact Nat.zero_le _
      · rw [spent_cons _ out, wanted_cons entries distinct]
        exact Nat.add_le_add_left (ih (List.pairwise_cons.mp distinct).2 _) _

/-- It leaves no value that an entry takes. -/
theorem unspent_untaken {vs : List (LocParamV F)} (distinct : Distinct entries vs) {budget : Nat}
    (enough : wanted entries vs ≤ budget) :
    ∀ v ∈ unspent (fills entries) budget vs, ∀ e ∈ entries, e.takes v = false := by
  induction vs generalizing budget with
  | nil =>
      intro v none
      cases none
  | cons v rest ih =>
      unfold unspent
      split
      · rename_i out
        have nobody : wanted entries (v :: rest) = 0 := by omega
        intro v' member e listed
        have untaken := List.countP_eq_zero.mp nobody e listed
        rw [Bool.not_eq_true, List.any_eq_false] at untaken
        exact Bool.eq_false_iff.mpr (untaken v' member)
      · have less := wanted_cons entries distinct
        exact ih (List.pairwise_cons.mp distinct).2 (by omega)

end Budget

/-- If no two values are for one entry, the counter of a read stops none of them. -/
theorem Distinct.enough {table : ParamTable Var Flag} {vs : List (LocParamV F)}
    (distinct : Distinct table.entries vs) (before : Conf F Var Flag) :
    Enough table vs before := by
  have few : wanted table.entries vs ≤ table.entries.length := List.countP_le_length
  refine ⟨(spent_le_wanted _ distinct _).trans few, fun e member v left takes => ?_⟩
  have untaken := unspent_untaken table.entries distinct few v left e member
  rw [untaken] at takes
  cases takes

/-- A text that can stand on one side of a line, and that trimming leaves alone. -/
structure IsOperand (text : List Char) : Prop where
  first : text.head?.any (fun c => !isspace c) = true
  last : text.getLast?.any (fun c => !isspace c) = true
  plain : ∀ c ∈ text, c ≠ '=' ∧ c ≠ '\n' ∧ c ≠ Char.ofNat 0

/-- Spaces that do not end a line. -/
structure Blank where
  text : List Char
  spaces : ∀ c ∈ text, isspace c = true ∧ c ≠ '\n'

/-- What a line of a file says about a parameter. -/
inductive Setting where
  | number (n : Int)
  | hex (n : Nat)
  | string (text : List Char) (operand : IsOperand text)

namespace Setting

def print : Setting → List Char
  | .number n => decimal 0 n
  | .hex n => '0' :: 'x' :: Nat.toDigits 16 n
  | .string text _ => text

/-- The type of the entry that the setting is for. -/
def type : Setting → Char
  | .number _ | .hex _ => 'n'
  | .string _ _ => 's'

def value {F : Type} : Setting → Value F
  | .number n => .number (BitVec.ofInt 32 n)
  | .hex n => .number (BitVec.ofInt 32 n)
  | .string text _ => .string text

/-- The numbers that `long` can hold, and the texts that the variable can; `NULL` stands
for the empty one. -/
def Fits {F : Type} (platform : Platform F) : Setting → Prop
  | .number n => -(platform.LONG_MAX + 1 : Int) ≤ n ∧ n ≤ platform.LONG_MAX
  | .hex n => n ≤ platform.LONG_MAX
  | .string text _ => text ≠ "NULL".toList ∧ text.length ≤ LOC_MAX_PARAM_STRING

end Setting

/-- A line `name = value`, with spaces where they make no difference. -/
structure Assignment where
  name : List Char
  setting : Setting
  operand : IsOperand name
  beforeName : Blank
  afterName : Blank
  beforeValue : Blank
  afterValue : Blank

def Assignment.left (a : Assignment) : List Char :=
  a.beforeName.text ++ a.name ++ a.afterName.text

def Assignment.right (a : Assignment) : List Char :=
  a.beforeValue.text ++ a.setting.print ++ a.afterValue.text

/-- A comment, or a line of spaces. -/
structure Remark where
  text : List Char
  plain : '\n' ∉ text
  inert : text.head? = some '#' ∨ ∀ c ∈ text, isspace c = true

inductive ConfLine where
  | assignment (a : Assignment)
  | remark (r : Remark)

namespace ConfLine

/-- A line without its newline. -/
def body : ConfLine → List Char
  | .assignment a => a.left ++ '=' :: a.right
  | .remark r => r.text

def name? : ConfLine → Option (List Char)
  | .assignment a => some a.name
  | .remark _ => none

end ConfLine

def fileText (lines : List ConfLine) : List Char :=
  lines.flatMap (fun line => line.body ++ ['\n'])

theorem fileLines_append {body : List Char} (plain : '\n' ∉ body) (rest : List Char) :
    fileLines (body ++ '\n' :: rest) = (body ++ ['\n']) :: fileLines rest := by
  induction body with
  | nil => exact if_pos rfl
  | cons c body ih =>
      rw [List.mem_cons, not_or] at plain
      rw [List.cons_append, fileLines, if_neg (Ne.symm plain.1), ih plain.2]
      rfl

theorem isspace_plain {c : Char} (space : isspace c = true) : c ≠ '=' ∧ c ≠ Char.ofNat 0 := by
  constructor
  · rintro rfl
    exact absurd space (by decide)
  · rintro rfl
    exact absurd space (by decide)

theorem Blank.plain (blank : Blank) :
    ∀ c ∈ blank.text, c ≠ '=' ∧ c ≠ '\n' ∧ c ≠ Char.ofNat 0 := by
  intro c member
  obtain ⟨space, inside⟩ := blank.spaces c member
  obtain ⟨equals, ends⟩ := isspace_plain space
  exact ⟨equals, inside, ends⟩

/-- A printed number is an operand. -/
theorem isOperand_of_all {text : List Char} (full : text ≠ [])
    (all : ∀ c ∈ text, isspace c = false ∧ c ≠ '=' ∧ c ≠ Char.ofNat 0) : IsOperand text := by
  have edge : ∀ c ∈ text, (!isspace c) = true := by
    intro c member
    rw [(all c member).1]
    rfl
  refine ⟨?_, ?_, fun c member => ⟨(all c member).2.1, ?_, (all c member).2.2⟩⟩
  · rw [List.head?_eq_some_head full]
    exact edge _ (List.head_mem full)
  · rw [List.getLast?_eq_some_getLast full]
    exact edge _ (List.getLast_mem full)
  · rintro rfl
    exact absurd (all _ member).1 (by decide)

theorem isOperand_decimal (n : Int) : IsOperand (decimal 0 n) := by
  have digit : ∀ c ∈ Nat.toDigits 10 n.natAbs, isspace c = false ∧ c ≠ '=' ∧ c ≠ Char.ofNat 0 :=
    forall_toDigits (by decide) (by decide) _
  rw [decimal_zero]
  refine isOperand_of_all ?_ ?_
  · exact List.append_ne_nil_of_right_ne_nil _ Nat.toDigits_ne_nil
  · intro c member
    rcases List.mem_append.mp member with minus | later
    · unfold sign at minus
      split at minus
      · rw [List.mem_singleton.mp minus]
        decide
      · cases minus
    · exact digit c later

theorem isOperand_hex (n : Nat) : IsOperand ('0' :: 'x' :: Nat.toDigits 16 n) := by
  refine isOperand_of_all (List.cons_ne_nil _ _) ?_
  simp only [List.forall_mem_cons]
  exact ⟨by decide, by decide, forall_toDigits (by decide) (by decide) n⟩

theorem Setting.isOperand (setting : Setting) : IsOperand setting.print := by
  cases setting with
  | number n => exact isOperand_decimal n
  | hex n => exact isOperand_hex n
  | string text operand => exact operand

theorem rdropWhile_append_all {p : Char → Bool} (text : List Char) {after : List Char}
    (all : ∀ c ∈ after, p c = true) : (text ++ after).rdropWhile p = text.rdropWhile p := by
  induction after using List.reverseRecOn with
  | nil => rw [List.append_nil]
  | append_singleton front c ih =>
      rw [List.forall_mem_append] at all
      rw [← List.append_assoc, List.rdropWhile_concat_pos p _ c (all.2 c (List.mem_singleton_self c))]
      exact ih all.1

/-- Trimming takes away what stands around an operand. -/
theorem IsOperand.trimmed {text : List Char} (operand : IsOperand text) {before after : List Char}
    (front : ∀ c ∈ before, isspace c = true) (back : ∀ c ∈ after, isspace c = true) :
    locUtilTrimSpace (before ++ text ++ after) = text := by
  obtain ⟨first, head, start⟩ := (Option.any_eq_true _ _).mp operand.first
  obtain ⟨last, tail, stop⟩ := (Option.any_eq_true _ _).mp operand.last
  have start : isspace first = false := by simpa using start
  have stop : isspace last = false := by simpa using stop
  obtain ⟨rest, rfl⟩ := List.head?_eq_some_iff.mp head
  have some : ∃ c ∈ before ++ (first :: rest) ++ after, isspace c = false :=
    ⟨first, by simp, start⟩
  have dropped : (before ++ (first :: rest) ++ after).dropWhile isspace = first :: rest ++ after := by
    rw [List.append_assoc, List.dropWhile_append_of_pos front, List.cons_append,
      List.dropWhile_cons_of_neg (Bool.eq_false_iff.mp start)]
  rw [locUtilTrimSpace_of_some some]
  unfold Utils.trimmed
  rw [dropped, rdropWhile_append_all _ back, List.rdropWhile_eq_self_iff]
  intro full
  rw [List.getLast?_eq_some_getLast full, Option.some_inj] at tail
  rw [tail, stop]
  exact Bool.false_ne_true

/-- The two sides of a line are its operands. -/
theorem strtok_sides {left right : List Char} (leftPlain : '=' ∉ left) (rightPlain : '=' ∉ right)
    (leftFull : left ≠ []) (rightFull : right ≠ []) :
    strtok '=' (left ++ '=' :: right) = [left, right] := by
  unfold strtok
  rw [List.splitOn_append_cons_self_of_not_mem leftPlain, List.splitOn_eq_singleton rightPlain]
  have one : (!left.isEmpty) = true := by simpa using leftFull
  have other : (!right.isEmpty) = true := by simpa using rightFull
  simp only [List.filter_cons, one, other, if_true, List.filter_nil]

theorem skipPrefix_plain {text : List Char} (plain : ∀ c ∈ text, tolower c ≠ 'x') :
    skipPrefix text = text := by
  unfold skipPrefix
  split
  · rename_i x c rest
    exact if_neg (fun found => plain x (by simp) found.1)
  · rfl

namespace Assignment

variable (a : Assignment)

theorem left_plain : ∀ c ∈ a.left, c ≠ '=' ∧ c ≠ '\n' ∧ c ≠ Char.ofNat 0 := by
  unfold left
  rw [List.forall_mem_append, List.forall_mem_append]
  exact ⟨⟨a.beforeName.plain, a.operand.plain⟩, a.afterName.plain⟩

theorem right_plain : ∀ c ∈ a.right, c ≠ '=' ∧ c ≠ '\n' ∧ c ≠ Char.ofNat 0 := by
  unfold right
  rw [List.forall_mem_append, List.forall_mem_append]
  exact ⟨⟨a.beforeValue.plain, a.setting.isOperand.plain⟩, a.afterValue.plain⟩

theorem left_ne_nil : a.left ≠ [] := by
  intro none
  have first := a.operand.first
  unfold left at none
  rw [List.append_eq_nil_iff, List.append_eq_nil_iff] at none
  rw [none.1.2] at first
  cases first

end Assignment

section Numbers

variable (platform : Platform F)

theorem strtol_hex {n : Nat} (fits : n ≤ platform.LONG_MAX) :
    strtol platform 16 (Nat.toDigits 16 n) = n := by
  have plain : ∀ c ∈ Nat.toDigits 16 n, isspace c = false ∧ c ≠ '-' ∧ c ≠ '+' ∧ tolower c ≠ 'x' :=
    forall_toDigits (by decide) (by decide) n
  have value : digits 16 0 (Nat.toDigits 16 n) = n :=
    digits_toDigits (by decide) (by decide) n
  obtain ⟨c, rest, parts⟩ := List.exists_cons_of_ne_nil (@Nat.toDigits_ne_nil n 16)
  obtain ⟨space, minus, plus, -⟩ := plain c (parts ▸ List.mem_cons_self)
  have begins : (Nat.toDigits 16 n).dropWhile isspace = Nat.toDigits 16 n := by
    rw [parts, List.dropWhile_cons_of_neg (Bool.eq_false_iff.mp space)]
  have head : (Nat.toDigits 16 n).head? = some c := by
    rw [parts, List.head?_cons]
  have unsigned : ¬ (some c = some '-' ∨ some c = some '+') := by
    rw [Option.some_inj, Option.some_inj, not_or]
    exact ⟨minus, plus⟩
  unfold strtol
  simp only [begins, head, if_neg unsigned, if_true,
    skipPrefix_plain (fun c member => (plain c member).2.2.2), value]
  rw [if_neg (fun same => unsigned (Or.inl same))]
  omega

/-- Only a hexadecimal setting is taken for one. -/
theorem print_hex_iff (setting : Setting) (number : setting.type = 'n') :
    (3 ≤ setting.print.length ∧ setting.print[0]? = some '0' ∧
      setting.print[1]?.map tolower = some 'x') ↔ ∃ n, setting = .hex n := by
  cases setting with
  | string text operand => cases number
  | hex n =>
      have full := List.length_pos_of_ne_nil (@Nat.toDigits_ne_nil n 16)
      refine iff_of_true ⟨?_, rfl, congrArg some (by decide : tolower 'x' = 'x')⟩ ⟨n, rfl⟩
      show 3 ≤ ('0' :: 'x' :: Nat.toDigits 16 n).length
      rw [List.length_cons, List.length_cons]
      omega
  | number n =>
      refine iff_of_false ?_ (by rintro ⟨_, none⟩; cases none)
      rintro ⟨-, -, second⟩
      obtain ⟨c, there, letter⟩ := Option.map_eq_some_iff.mp second
      have plain : ∀ c ∈ decimal 0 n, tolower c ≠ 'x' := by
        rw [decimal_zero, List.forall_mem_append]
        refine ⟨?_, forall_toDigits (by decide) (by decide) _⟩
        unfold sign
        split
        · exact List.forall_mem_singleton.mpr (by decide)
        · exact List.forall_mem_nil _
      exact plain c (List.mem_of_getElem? there) letter

/-- What the line of an assignment gives is what it says. -/
theorem configValue_assignment (a : Assignment) (fits : a.setting.Fits platform) :
    ∃ v, configValue platform (cString (ConfLine.body (.assignment a) ++ ['\n'])) = some v ∧
      v.param_name = a.name ∧ stored a.setting.type v = some a.setting.value := by
  have printed := a.setting.isOperand
  have terminated : cString (ConfLine.body (.assignment a) ++ ['\n']) =
      a.left ++ '=' :: (a.right ++ ['\n']) := by
    unfold cString ConfLine.body
    rw [List.append_assoc, List.cons_append, List.takeWhile_eq_self_iff]
    intro c member
    rw [bne_iff_ne]
    rcases List.mem_append.mp member with left | later
    · exact (a.left_plain c left).2.2
    · rcases List.mem_cons.mp later with rfl | right
      · decide
      · rcases List.mem_append.mp right with inside | ending
        · exact (a.right_plain c inside).2.2
        · rw [List.mem_singleton.mp ending]
          decide
  have name : locUtilTrimSpace a.left = a.name :=
    a.operand.trimmed (fun c member => (a.beforeName.spaces c member).1)
      (fun c member => (a.afterName.spaces c member).1)
  have text : locUtilTrimSpace (a.right ++ ['\n']) = a.setting.print := by
    unfold Assignment.right
    rw [List.append_assoc]
    refine printed.trimmed (fun c member => (a.beforeValue.spaces c member).1) ?_
    rw [List.forall_mem_append]
    exact ⟨fun c member => (a.afterValue.spaces c member).1,
      List.forall_mem_singleton.mpr (by decide)⟩
  have sides : strtok '=' (a.left ++ '=' :: (a.right ++ ['\n'])) =
      [a.left, a.right ++ ['\n']] := by
    refine strtok_sides (fun member => (a.left_plain '=' member).1 rfl) ?_ a.left_ne_nil (by simp)
    rw [List.mem_append, not_or]
    exact ⟨fun member => (a.right_plain '=' member).1 rfl, by decide⟩
  have kept : ∀ (number : BitVec 32) (double : F), a.setting.type = 's' →
      stored a.setting.type ⟨a.name, a.setting.print, number, double⟩ =
        some a.setting.value := by
    intro number double string
    cases setting : a.setting with
    | number n | hex n => rw [setting] at string; cases string
    | string text operand =>
        rw [setting] at fits
        simp only [Setting.type, Setting.print, Setting.value, stored, if_true, if_neg fits.1,
          List.take_of_length_le fits.2]
  rw [terminated]
  unfold configValue
  simp only [sides, name, text]
  split
  · rename_i prefixed
    refine ⟨_, rfl, rfl, ?_⟩
    cases setting : a.setting with
    | string text operand =>
        rw [← setting]
        exact kept _ _ (by rw [setting]; rfl)
    | number n =>
        rw [setting] at prefixed
        obtain ⟨_, other⟩ := (print_hex_iff (.number n) rfl).mp prefixed
        cases other
    | hex n =>
        rw [setting] at fits
        show some (Value.number (BitVec.ofInt 32 (strtol platform 16 (Nat.toDigits 16 n)))) = _
        rw [strtol_hex platform fits]
        rfl
  · rename_i plain
    refine ⟨_, rfl, rfl, ?_⟩
    cases setting : a.setting with
    | string text operand =>
        rw [← setting]
        exact kept _ _ (by rw [setting]; rfl)
    | number n =>
        rw [setting] at fits
        show some (Value.number (BitVec.ofInt 32 (strtol platform 10 (decimal 0 n)))) = _
        rw [strtol_decimal platform fits.1 fits.2]
        rfl
    | hex n =>
        rw [setting] at plain
        exact absurd ((print_hex_iff (.hex n) rfl).mpr ⟨n, rfl⟩) plain

/-- The line of a remark gives no value that an entry takes. -/
theorem configValue_remark (r : Remark) {v : LocParamV F}
    (given : configValue platform (cString (r.text ++ ['\n'])) = some v)
    {e : LocParam Var Flag} (plain : e.param_name.head? ≠ some '#') : e.takes v = false := by
  rcases r.inert with comment | spaces
  · obtain ⟨rest, text⟩ := List.head?_eq_some_iff.mp comment
    have line : cString (r.text ++ ['\n']) = '#' :: cString (rest ++ ['\n']) := by
      rw [text]
      exact List.takeWhile_cons_of_pos (by decide)
    have named : ∀ other ∈ [e], other.param_name.head? ≠ some '#' := by
      rw [List.forall_mem_singleton]
      exact plain
    rw [line] at given
    have unmatched := unmatched_comment platform named (cString (rest ++ ['\n'])) v given e
      (List.mem_singleton_self e)
    rw [Bool.eq_false_iff]
    exact fun takes => unmatched ((e.takes_iff v).mp takes)
  · have all : ∀ c ∈ r.text ++ ['\n'], c ≠ '=' ∧ c ≠ Char.ofNat 0 := by
      rw [List.forall_mem_append]
      exact ⟨fun c member => isspace_plain (spaces c member),
        List.forall_mem_singleton.mpr (by decide)⟩
    have line : cString (r.text ++ ['\n']) = r.text ++ ['\n'] := by
      unfold cString
      rw [List.takeWhile_eq_self_iff]
      exact fun c member => bne_iff_ne.mpr (all c member).2
    have single : strtok '=' (r.text ++ ['\n']) = [r.text ++ ['\n']] := by
      unfold strtok
      rw [List.splitOn_eq_singleton (fun member => (all '=' member).1 rfl)]
      rw [List.filter_cons_of_pos (by simp), List.filter_nil]
    rw [line] at given
    unfold configValue at given
    rw [single] at given
    cases given

end Numbers

theorem fileValues_fileText (platform : Platform F) {lines : List ConfLine}
    (plain : ∀ line ∈ lines, '\n' ∉ line.body) :
    fileLines (fileText lines) = lines.map (fun line => line.body ++ ['\n']) ∧
      fileValues platform (fileText lines) =
        lines.filterMap (fun line => configValue platform (cString (line.body ++ ['\n']))) := by
  have split : fileLines (fileText lines) = lines.map (fun line => line.body ++ ['\n']) := by
    induction lines with
    | nil => rfl
    | cons line rest ih =>
        rw [List.forall_mem_cons] at plain
        unfold fileText at ih ⊢
        rw [List.flatMap_cons, List.append_assoc, List.singleton_append,
          fileLines_append plain.1, ih plain.2, List.map_cons]
  refine ⟨split, ?_⟩
  unfold fileValues
  rw [split, List.map_map, List.filterMap_map]
  rfl

theorem ConfLine.plain (line : ConfLine) : '\n' ∉ line.body := by
  cases line with
  | remark r => exact r.plain
  | assignment a =>
      intro member
      rcases List.mem_append.mp member with left | later
      · exact (a.left_plain _ left).2.1 rfl
      · rcases List.mem_cons.mp later with equals | right
        · cases equals
        · exact (a.right_plain _ right).2.1 rfl

/-- A file of assignments to different parameters, with remarks between them. -/
structure Settings (platform : Platform F) (table : ParamTable Var Flag)
    (lines : List ConfLine) : Prop where
  named : (lines.filterMap ConfLine.name?).Nodup
  short : ∀ line ∈ lines, line.body.length + 1 < LOC_MAX_PARAM_LINE
  fits : ∀ a, .assignment a ∈ lines → a.setting.Fits platform
  typed : ∀ a, .assignment a ∈ lines → ∀ e ∈ table.entries, e.param_name = a.name →
    e.param_type = a.setting.type
  plain : ∀ e ∈ table.entries, e.param_name.head? ≠ some '#'

namespace Settings

variable {platform : Platform F} {table : ParamTable Var Flag} {lines : List ConfLine}
  (settings : Settings platform table lines)

include settings

theorem distinct : Distinct table.entries (fileValues platform (fileText lines)) := by
  rw [(fileValues_fileText platform (fun line _ => line.plain)).2]
  have apart := settings.named
  unfold List.Nodup at apart
  rw [List.pairwise_filterMap] at apart
  unfold Distinct
  rw [List.pairwise_filterMap]
  refine apart.imp_of_mem ?_
  intro line line' member member' differ v given v' given' e listed takes
  cases line with
  | remark r =>
      rw [configValue_remark platform r given (settings.plain e listed)] at takes
      cases takes
  | assignment a =>
      cases line' with
      | remark r => exact configValue_remark platform r given' (settings.plain e listed)
      | assignment a' =>
          obtain ⟨w, read, name, -⟩ := configValue_assignment platform a (settings.fits a member)
          obtain ⟨w', read', name', -⟩ :=
            configValue_assignment platform a' (settings.fits a' member')
          cases read.symm.trans given
          cases read'.symm.trans given'
          rw [Bool.eq_false_iff]
          intro takes'
          have same := ((e.takes_iff v).mp takes).1
          have same' := ((e.takes_iff v').mp takes').1
          exact differ a.name rfl a'.name rfl (name.symm.trans (same.symm.trans (same'.trans name')))

theorem applied [DecidableEq Var] [DecidableEq Flag] (conf : Conf F Var Flag) :
    ReadApplied table (fileValues platform (fileText lines)) conf
      (locReadConfR platform (some (fileText lines)) table.entries conf).2.1 := by
  have short : ∀ line ∈ fileLines (fileText lines), line.length < LOC_MAX_PARAM_LINE := by
    rw [(fileValues_fileText platform (fun line _ => line.plain)).1, List.forall_mem_map]
    intro line member
    rw [List.length_append, List.length_singleton]
    exact settings.short line member
  exact ((read_all_iff platform short table conf).mpr (settings.distinct.enough conf)).1

/-- The value of an assignment is the only one for its entry. -/
theorem value_of_taken {a : Assignment} (member : .assignment a ∈ lines)
    {e : LocParam Var Flag} (listed : e ∈ table.entries) (same : e.param_name = a.name)
    {ptr : Var} (own : e.param_ptr = some ptr) :
    ∃ v ∈ fileValues platform (fileText lines), e.taken v = some a.setting.value := by
  obtain ⟨v, read, name, value⟩ := configValue_assignment platform a (settings.fits a member)
  refine ⟨v, ?_, ?_⟩
  · rw [(fileValues_fileText platform (fun line _ => line.plain)).2, List.mem_filterMap]
    exact ⟨_, member, read⟩
  · unfold LocParam.taken
    rw [if_pos ⟨same.trans name.symm, by rw [own]; rfl⟩, settings.typed a member e listed same]
    exact value

/-- A value of the file that an entry takes is that of its assignment. -/
theorem taken_eq {a : Assignment} (member : .assignment a ∈ lines) {e : LocParam Var Flag}
    (listed : e ∈ table.entries) (same : e.param_name = a.name) {ptr : Var}
    (own : e.param_ptr = some ptr) {v : LocParamV F} {value : Value F}
    (given : v ∈ fileValues platform (fileText lines)) (taken : e.taken v = some value) :
    value = a.setting.value := by
  obtain ⟨w, read, written⟩ := settings.value_of_taken member listed same own
  by_cases one : v = w
  · rw [one, written] at taken
    exact (Option.some.inj taken).symm
  · let Apart := fun v v' : LocParamV F =>
      ∀ e ∈ table.entries, e.takes v = true → e.takes v' = false
    have symm : Std.Symm Apart := ⟨fun v v' apart e listed takes' => by
      by_contra takes
      rw [apart e listed (Bool.not_eq_false _ ▸ takes)] at takes'
      cases takes'⟩
    have apart : Apart v w := List.Pairwise.forall settings.distinct given read one
    have untaken := apart e listed (by rw [LocParam.takes, taken]; rfl)
    rw [LocParam.takes, written] at untaken
    cases untaken

/-- A value of the file that an entry takes comes from an assignment to it. -/
theorem assigned_of_takes {e : LocParam Var Flag} (listed : e ∈ table.entries)
    {v : LocParamV F} (given : v ∈ fileValues platform (fileText lines))
    (takes : e.takes v = true) : ∃ a, .assignment a ∈ lines ∧ a.name = e.param_name := by
  rw [(fileValues_fileText platform (fun line _ => line.plain)).2] at given
  obtain ⟨line, member, read⟩ := List.mem_filterMap.mp given
  cases line with
  | remark r =>
      rw [configValue_remark platform r read (settings.plain e listed)] at takes
      cases takes
  | assignment a =>
      obtain ⟨w, written, name, -⟩ := configValue_assignment platform a (settings.fits a member)
      cases written.symm.trans read
      exact ⟨a, member, name.symm.trans ((e.takes_iff v).mp takes).1.symm⟩

end Settings

/-- What is written to a file is read back: after `loc_read_conf_r` each parameter with an
assignment has the value that was assigned, and is flagged, and each other one is unchanged
and is not. -/
theorem written_read [DecidableEq Var] [DecidableEq Flag] {platform : Platform F}
    {table : ParamTable Var Flag} {lines : List ConfLine}
    (settings : Settings platform table lines) (conf : Conf F Var Flag) {e : LocParam Var Flag}
    (listed : e ∈ table.entries) :
    let after := (locReadConfR platform (some (fileText lines)) table.entries conf).2.1
    (∀ a, .assignment a ∈ lines → a.name = e.param_name → ∀ ptr, e.param_ptr = some ptr →
      after.value ptr = a.setting.value ∧ ∀ flag, e.param_set = some flag → after.set flag = 1) ∧
    ((∀ a, .assignment a ∈ lines → a.name ≠ e.param_name) →
      (∀ ptr, e.param_ptr = some ptr → after.value ptr = conf.value ptr) ∧
        ∀ flag, e.param_set = some flag → after.set flag = 0) := by
  intro after
  have applied := settings.applied conf
  constructor
  · intro a member name ptr own
    obtain ⟨v, given, taken⟩ := settings.value_of_taken member listed name.symm own
    have named := applied.named e listed v given (by rw [LocParam.takes, taken]; rfl)
    obtain ⟨w, read, stored⟩ := named.1 ptr own
    exact ⟨settings.taken_eq member listed name.symm own read stored, named.2⟩
  · intro others
    refine applied.others e listed (fun v given => ?_)
    rw [Bool.eq_false_iff]
    intro takes
    obtain ⟨a, member, name⟩ := settings.assigned_of_takes listed given takes
    exact others a member name

/-- A comment, and a hexadecimal number for the second of two parameters. -/
theorem written_read_pair :
    let none : Blank := ⟨[], List.forall_mem_nil _⟩
    let lines : List ConfLine :=
      [.remark ⟨"# A = 2".toList, by decide +kernel, Or.inl rfl⟩,
        .assignment ⟨['B'], .hex 31, ⟨rfl, rfl, List.forall_mem_singleton.mpr (by decide)⟩,
          none, ⟨[' '], List.forall_mem_singleton.mpr (by decide)⟩, none, none⟩]
    let after := (locReadConfR lp64 (some (fileText lines)) pairTable.entries
      ⟨fun _ => .number 0, fun _ => 0⟩).2.1
    fileText lines = "# A = 2\nB =0x1f\n".toList ∧ after.value true = .number 31 ∧
      after.set () = 1 ∧ after.value false = .number 0 := by
  intro none lines after
  have settings : Settings lp64 pairTable lines := by
    refine ⟨by decide, by decide, ?_, ?_, by decide⟩
    · intro a member
      rcases List.mem_cons.mp member with other | member
      · cases other
      · cases List.mem_singleton.mp member
        exact (by decide : 31 ≤ 9223372036854775807)
    · intro a member e listed _
      have numbers : ∀ e ∈ pairTable.entries, e.param_type = 'n' := by decide
      rcases List.mem_cons.mp member with other | member
      · cases other
      · cases List.mem_singleton.mp member
        exact numbers e listed
  have second := (written_read settings ⟨fun _ => .number 0, fun _ => 0⟩
    (e := ⟨['B'], some true, some (), 'n'⟩) (by simp [pairTable])).1 _
    (List.mem_cons_of_mem _ (List.mem_singleton_self _)) rfl true rfl
  have first := (written_read settings ⟨fun _ => .number 0, fun _ => 0⟩
    (e := ⟨['A'], some false, .none, 'n'⟩) (by simp [pairTable])).2 ?_
  · exact ⟨by decide, second.1, second.2 () rfl, first.1 false rfl⟩
  · intro a member
    rcases List.mem_cons.mp member with other | member
    · cases other
    · cases List.mem_singleton.mp member
      decide

end A5Common.Cfg
