import A5Common.Daemon.Glue
import A5Common.Utils.CString
import Mathlib.Data.List.DropRight

set_option autoImplicit false

namespace A5Common.Engine.UserAgent

open A5Common.Run
open A5Common.Cfg (isspace cString)
open A5Common.Daemon (Abi sizeSub_eq sizeSub_wraps)
open A5Common.Utils

/-- The loop that removes trailing spaces. Its test of the unsigned `len` is always true. -/
def removeTrailing (abi : Abi) : Nat → Nat → List Char → Option (List Char)
  | 0, _, _ => none
  | rounds + 1, len, buf =>
      let len := abi.sizeSub len 1
      match buf[len]? with
      | none => none
      | some c =>
          if isspace c = true then
            (store buf len (Char.ofNat 0)).bind (removeTrailing abi rounds len)
          else some buf

/-- `getChipsetSerialNo`, with the content of the file if it can be opened. -/
def getChipsetSerialNo (abi : Abi) (file : Option (List Char)) (buf : List Char) (buflen : Nat)
    (dflt : List Char) : Option (List Char) :=
  match file with
  | none => strlcpy buf dflt buflen
  | some content =>
      let read := content.take (buflen - 1)
      let size := read.length
      let filled :=
        if size = 0 then strlcpy buf dflt buflen
        else (storeAll buf read).bind (fun buf => store buf size (Char.ofNat 0))
      filled.bind (fun buf =>
        (strlen buf).bind (fun len => removeTrailing abi (len + 1) len buf))

/-- The beginning of the file up to a terminator, or else of the default. -/
def serialText (file : Option (List Char)) (buflen : Nat) (dflt : List Char) : List Char :=
  match file with
  | none => (cString dflt).take (buflen - 1)
  | some content =>
      if content = [] then (cString dflt).take (buflen - 1)
      else cString (content.take (buflen - 1))

/-- The default, or what is read of the file, is left in the buffer without trailing
spaces, and no memory but that of the buffer is used. -/
def SerialRead (abi : Abi) (file : Option (List Char)) (buf : List Char) (buflen : Nat)
    (dflt : List Char) : Prop :=
  ∃ after, getChipsetSerialNo abi file buf buflen dflt = some after ∧
    after.length = buf.length ∧
    cString after = (serialText file buflen dflt).rdropWhile isspace

/-- The default does not end in a space if the file cannot be opened, and otherwise what is
read has a character that is no space. -/
def Trimmable (file : Option (List Char)) (buflen : Nat) (dflt : List Char) : Prop :=
  match file with
  | none => ∀ c ∈ (serialText file buflen dflt).getLast?, isspace c = false
  | some _ => ∃ c ∈ serialText file buflen dflt, isspace c = false

theorem sizeModulus_le (abi : Abi) : 4294967296 ≤ abi.sizeModulus := by
  cases abi <;> decide

section

variable (abi : Abi) {text rest : List Char}

/-- A round looks at the last character. -/
theorem removeTrailing_round {d : Char}
    (small : (text ++ [d] ++ Char.ofNat 0 :: rest).length < 4294967296) (rounds : Nat) :
    removeTrailing abi (rounds + 1) (text ++ [d]).length (text ++ [d] ++ Char.ofNat 0 :: rest) =
      if isspace d = true then
        removeTrailing abi rounds text.length (text ++ Char.ofNat 0 :: Char.ofNat 0 :: rest)
      else some (text ++ [d] ++ Char.ofNat 0 :: rest) := by
  have wide := sizeModulus_le abi
  have length : (text ++ [d]).length = text.length + 1 := by
    rw [List.length_append, List.length_singleton]
  rw [List.length_append] at small
  have back : abi.sizeSub (text ++ [d]).length 1 = text.length := by
    rw [sizeSub_eq _ (by omega) (by omega)]
    omega
  have memory : text ++ [d] ++ Char.ofNat 0 :: rest = text ++ d :: Char.ofNat 0 :: rest := by
    rw [List.append_assoc]
    rfl
  rw [memory]
  have found : (text ++ d :: Char.ofNat 0 :: rest)[text.length]? = some d := load_at text d _ rfl
  have stored : store (text ++ d :: Char.ofNat 0 :: rest) text.length (Char.ofNat 0) = _ :=
    store_at text d (Char.ofNat 0 :: rest) rfl (Char.ofNat 0)
  simp only [removeTrailing, back, found, stored, Option.bind_some]

/-- Without a character, the unsigned place in front of the first one is outside. -/
theorem removeTrailing_wraps {buf : List Char} (small : buf.length < 4294967296) (rounds : Nat) :
    removeTrailing abi rounds 0 buf = none := by
  have wide := sizeModulus_le abi
  cases rounds with
  | zero => rfl
  | succ rounds =>
      have wrapped : abi.sizeSub 0 1 = abi.sizeModulus - 1 + 0 :=
        sizeSub_wraps _ Nat.zero_lt_one (by omega)
      have outside : buf[abi.sizeSub 0 1]? = none := by
        rw [wrapped, List.getElem?_eq_none_iff]
        omega
      simp only [removeTrailing, outside]

/-- The loop goes back over the spaces to the last other character, if there is one. -/
theorem removeTrailing_of_some (small : (text ++ Char.ofNat 0 :: rest).length < 4294967296)
    (some : ∃ c ∈ text, isspace c = false) :
    ∃ rest', removeTrailing abi (text.length + 1) text.length (text ++ Char.ofNat 0 :: rest) =
        .some (text.rdropWhile isspace ++ Char.ofNat 0 :: rest') ∧
      (text.rdropWhile isspace ++ Char.ofNat 0 :: rest').length =
        (text ++ Char.ofNat 0 :: rest).length := by
  induction text using List.reverseRecOn generalizing rest with
  | nil =>
      obtain ⟨c, none, -⟩ := some
      cases none
  | append_singleton text d ih =>
      rw [removeTrailing_round abi small]
      by_cases space : isspace d = true
      · have before : ∃ c ∈ text, isspace c = false := by
          obtain ⟨c, mem, other⟩ := some
          rcases List.mem_append.mp mem with before | last
          · exact ⟨c, before, other⟩
          · rw [List.mem_singleton.mp last, space] at other
            cases other
        have same : (text ++ Char.ofNat 0 :: Char.ofNat 0 :: rest).length =
            (text ++ [d] ++ Char.ofNat 0 :: rest).length := by
          simp only [List.length_append, List.length_cons, List.length_nil]
          omega
        obtain ⟨rest', run, length⟩ := ih (same ▸ small) before
        rw [if_pos space, List.rdropWhile_concat_pos _ _ _ space, List.length_append]
        exact ⟨rest', run, length.trans same⟩
      · rw [if_neg space, List.rdropWhile_concat_neg _ _ _ space]
        exact ⟨rest, rfl, rfl⟩

theorem removeTrailing_of_all (small : (text ++ Char.ofNat 0 :: rest).length < 4294967296)
    (all : ∀ c ∈ text, isspace c = true) :
    removeTrailing abi (text.length + 1) text.length (text ++ Char.ofNat 0 :: rest) = none := by
  induction text using List.reverseRecOn generalizing rest with
  | nil => exact removeTrailing_wraps abi small _
  | append_singleton text d ih =>
      have space : isspace d = true := all d (by simp)
      have same : (text ++ Char.ofNat 0 :: Char.ofNat 0 :: rest).length =
          (text ++ [d] ++ Char.ofNat 0 :: rest).length := by
        simp only [List.length_append, List.length_cons, List.length_nil]
        omega
      rw [removeTrailing_round abi small, if_pos space, List.length_append]
      exact ih (same ▸ small) (fun c mem => all c (List.mem_append_left _ mem))

end

/-- What is read of a file, and the terminator behind it. -/
theorem read_terminated {buf read : List Char} (room : read.length < buf.length) :
    ∃ rest, (storeAll buf read).bind (fun buf => store buf read.length (Char.ofNat 0)) =
        some (read ++ Char.ofNat 0 :: rest) ∧
      (read ++ Char.ofNat 0 :: rest).length = buf.length := by
  have stored : storeAll buf read = some (read ++ buf.drop read.length) := if_pos room.le
  rw [stored, Option.bind_some, List.drop_eq_getElem_cons room]
  refine ⟨buf.drop (read.length + 1), store_at read _ _ rfl _, ?_⟩
  rw [List.length_append, List.length_cons, List.length_drop]
  omega

/-- The loop is begun with a buffer that holds the text of the file or of the default. -/
theorem getChipsetSerialNo_some (abi : Abi) (content : List Char) {buf : List Char} {buflen : Nat}
    (array : buf.length = buflen) (large : 2 ≤ buflen) (dflt : List Char) :
    ∃ rest, (serialText (some content) buflen dflt ++ Char.ofNat 0 :: rest).length = buflen ∧
      getChipsetSerialNo abi (some content) buf buflen dflt =
        removeTrailing abi ((serialText (some content) buflen dflt).length + 1)
          (serialText (some content) buflen dflt).length
          (serialText (some content) buflen dflt ++ Char.ofNat 0 :: rest) := by
  have filled : ∃ memory, Char.ofNat 0 ∈ memory ∧ memory.length = buflen ∧
      cString memory = serialText (some content) buflen dflt ∧
      getChipsetSerialNo abi (some content) buf buflen dflt =
        (strlen memory).bind (fun len => removeTrailing abi (len + 1) len memory) := by
    by_cases empty : content = []
    · obtain ⟨rest, copied, length⟩ := strlcpy_eq array (by omega) dflt
      refine ⟨_, List.mem_append_right _ List.mem_cons_self, length, ?_, ?_⟩
      · have clean : Char.ofNat 0 ∉ (cString dflt).take (buflen - 1) :=
          fun mem => cString_clean dflt (List.mem_of_mem_take mem)
        rw [cString_terminated clean, serialText, if_pos empty]
      · rw [empty]
        simp only [getChipsetSerialNo, List.take_nil, List.length_nil, if_true, copied,
          Option.bind_some]
    · have short : (content.take (buflen - 1)).length ≤ buflen - 1 := List.length_take_le _ _
      have some : (content.take (buflen - 1)).length ≠ 0 := by
        have full := List.length_pos_iff.mpr empty
        rw [List.length_take]
        omega
      obtain ⟨rest, read, length⟩ := read_terminated
        (show (content.take (buflen - 1)).length < buf.length by omega)
      refine ⟨_, List.mem_append_right _ List.mem_cons_self, length.trans array, ?_, ?_⟩
      · rw [cString_append, serialText, if_neg empty]
      · simp only [getChipsetSerialNo, some, if_false, read, Option.bind_some]
  obtain ⟨memory, terminated, length, text, run⟩ := filled
  obtain ⟨rest, split⟩ := eq_cString_append terminated
  rw [text] at split
  refine ⟨rest, by rw [← split]; exact length, ?_⟩
  rw [run, strlen, if_pos terminated, text, Option.bind_some, ← split]

theorem serialText_clean (file : Option (List Char)) (buflen : Nat) (dflt : List Char) :
    Char.ofNat 0 ∉ serialText file buflen dflt := by
  have default : Char.ofNat 0 ∉ (cString dflt).take (buflen - 1) :=
    fun mem => cString_clean dflt (List.mem_of_mem_take mem)
  unfold serialText
  split
  · exact default
  · split
    · exact default
    · exact cString_clean _

theorem serialRead_missing (abi : Abi) {buf : List Char} {buflen : Nat}
    (array : buf.length = buflen) (large : 2 ≤ buflen) (dflt : List Char) :
    SerialRead abi none buf buflen dflt ↔ Trimmable none buflen dflt := by
  obtain ⟨rest, copied, length⟩ := strlcpy_eq array (by omega) dflt
  have text := cString_terminated (serialText_clean none buflen dflt) rest
  have ends : Trimmable none buflen dflt ↔
      (serialText none buflen dflt).rdropWhile isspace = serialText none buflen dflt := by
    rw [List.rdropWhile_eq_self_iff]
    unfold Trimmable
    constructor
    · intro last some
      exact Bool.eq_false_iff.mp (last _ (List.getLast_mem_getLast? some))
    · intro last c mem
      obtain ⟨some, eq⟩ := List.mem_getLast?_eq_getLast mem
      rw [eq]
      exact Bool.eq_false_iff.mpr (last some)
  rw [ends]
  constructor
  · rintro ⟨after, run, -, result⟩
    rw [getChipsetSerialNo, copied] at run
    cases run
    exact result.symm.trans text
  · intro same
    exact ⟨_, copied, length.trans array.symm, text.trans same.symm⟩

theorem serialRead_present (abi : Abi) (content : List Char) {buf : List Char} {buflen : Nat}
    (array : buf.length = buflen) (large : 2 ≤ buflen) (int : buflen < 2147483648)
    (dflt : List Char) :
    SerialRead abi (some content) buf buflen dflt ↔ Trimmable (some content) buflen dflt := by
  obtain ⟨rest, length, run⟩ := getChipsetSerialNo_some abi content array large dflt
  have small : (serialText (some content) buflen dflt ++ Char.ofNat 0 :: rest).length <
      4294967296 := by omega
  constructor
  · rintro ⟨after, result, -⟩
    by_contra blank
    have all : ∀ c ∈ serialText (some content) buflen dflt, isspace c = true := by
      intro c mem
      by_contra other
      exact blank ⟨c, mem, Bool.eq_false_iff.mpr other⟩
    rw [run, removeTrailing_of_all abi small all] at result
    cases result
  · intro some
    obtain ⟨rest', done, size⟩ := removeTrailing_of_some abi small some
    have clean : Char.ofNat 0 ∉ (serialText (.some content) buflen dflt).rdropWhile isspace :=
      fun mem => serialText_clean _ buflen dflt ((List.rdropWhile_prefix isspace _).subset mem)
    exact ⟨_, run.trans done, size.trans (length.trans array.symm), cString_terminated clean rest'⟩

/-- The serial number is read as it should exactly when there is a character at which the
loop ends, or when the file cannot be opened and there is nothing to remove. -/
theorem serialRead_iff (abi : Abi) (file : Option (List Char)) {buf : List Char} {buflen : Nat}
    (array : buf.length = buflen) (large : 2 ≤ buflen) (int : buflen < 2147483648)
    (dflt : List Char) :
    SerialRead abi file buf buflen dflt ↔ Trimmable file buflen dflt := by
  cases file with
  | none => exact serialRead_missing abi array large dflt
  | some content => exact serialRead_present abi content array large int dflt

theorem serialRead_newline :
    SerialRead .ilp32 (some "12 3 \n".toList) (List.replicate 16 'z') 16 "-\x00".toList :=
  (serialRead_iff .ilp32 (some "12 3 \n".toList) (by decide) (by decide) (by decide) _).mpr
    ⟨'1', by decide, by decide⟩

/-- Of a file without anything but a newline, the loop leaves the buffer. -/
theorem serialRead_blank :
    ¬ SerialRead .ilp32 (some "\n".toList) (List.replicate 16 'z') 16 "-\x00".toList := by
  rintro ⟨after, run, -⟩
  have left : getChipsetSerialNo .ilp32 (some "\n".toList) (List.replicate 16 'z') 16
      "-\x00".toList = none := by decide
  rw [left] at run
  cases run

end A5Common.Engine.UserAgent
