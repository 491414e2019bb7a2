import A5Common.Utils.CString

set_option autoImplicit false

namespace A5Common.Engine.UserAgent

open A5Common.Run
open A5Common.Cfg (cString digit)
open A5Common.Utils

structure ENCODE where
  ch : Char
  code : List Char
deriving DecidableEq

def encodings : List ENCODE :=
  [⟨'/', "%2F".toList⟩, ⟨'+', "%2B".toList⟩, ⟨'|', "%7C".toList⟩, ⟨'%', "%25".toList⟩]

def NUM_CHARS_IN_CODE : Nat := 3

/-- The buffer of `encodeInPlace` and its two places. -/
structure Encoding where
  buffer : List Char
  inpos : Nat
  outpos : Nat

/-- The loop that copies a code. -/
def copyCode (size : Nat) : List Char → Encoding → Option Encoding
  | [], e => some e
  | c :: code, e =>
      if e.outpos < size - 1 then
        (store e.buffer e.outpos c).bind (fun buffer =>
          copyCode size code { e with buffer := buffer, outpos := e.outpos + 1 })
      else some e

/-- The first loop of `encodeInPlace`, for as many rounds as there are cells left. There is
no result if it leaves its memory. -/
def encodeLoop (value : List Char) (size : Nat) : Nat → Encoding → Option Encoding
  | 0, _ => none
  | left + 1, e =>
      match value[e.inpos]? with
      | none => none
      | some c =>
          if c ≠ Char.ofNat 0 ∧ e.outpos < size - 1 then
            match encodings.find? (fun encoding => encoding.ch = c) with
            | none =>
                (store e.buffer e.outpos c).bind (fun buffer =>
                  encodeLoop value size left ⟨buffer, e.inpos + 1, e.outpos + 1⟩)
            | some encoding =>
                if size ≤ e.outpos + NUM_CHARS_IN_CODE then some e
                else
                  (copyCode size encoding.code e).bind (fun e =>
                    encodeLoop value size left { e with inpos := e.inpos + 1 })
          else some e

/-- The loop that copies the buffer to the output, from its end. -/
def copyBack (buffer : List Char) : Nat → List Char → Option (List Char)
  | 0, value => some value
  | outpos + 1, value =>
      match buffer[outpos]? with
      | none => none
      | some c => (store value outpos c).bind (copyBack buffer outpos)

/-- `encodeInPlace`, with what is on the stack where it has its buffer. -/
def encodeInPlace (stack : Nat → Char) (value : List Char) (size : Nat) : Option (List Char) :=
  match encodeLoop value size value.length ⟨(List.range size).map stack, 0, 0⟩ with
  | none => none
  | some e => (store value e.outpos (Char.ofNat 0)).bind (copyBack e.buffer e.outpos)

/-- The code of a character, or the character. -/
def encoded (c : Char) : List Char :=
  match encodings.find? (fun encoding => encoding.ch = c) with
  | none => [c]
  | some encoding => encoding.code

/-- Percent decoding, which fails on an escape that is incomplete. -/
def percentDecode : List Char → Option (List Char)
  | [] => some []
  | '%' :: high :: low :: rest =>
      match digit 16 high, digit 16 low with
      | some high, some low =>
          (percentDecode rest).map (fun text => Char.ofNat (16 * high + low) :: text)
      | _, _ => none
  | c :: rest => if c = '%' then none else (percentDecode rest).map (fun text => c :: text)

/-- A character without a code is none of those with one, and is kept. -/
theorem encoded_cases (c : Char) :
    (encodings.find? (fun encoding => encoding.ch = c) = none ∧ encoded c = [c] ∧
      ∀ e ∈ encodings, e.ch ≠ c) ∨
      ∃ e ∈ encodings, encodings.find? (fun encoding => encoding.ch = c) = some e ∧
        e.ch = c ∧ encoded c = e.code := by
  unfold encoded
  cases found : encodings.find? (fun encoding => encoding.ch = c) with
  | none =>
      left
      refine ⟨rfl, rfl, ?_⟩
      intro e mem same
      exact List.find?_eq_none.mp found e mem (decide_eq_true same)
  | some e =>
      right
      have same := List.find?_some found
      simp only [decide_eq_true_eq] at same
      exact ⟨e, List.mem_of_find?_eq_some found, rfl, same, rfl⟩

theorem length_code : ∀ e ∈ encodings, e.code.length = NUM_CHARS_IN_CODE := by decide

theorem percentDecode_plain {c : Char} (plain : c ≠ '%') (rest : List Char) :
    percentDecode (c :: rest) = (percentDecode rest).map (fun text => c :: text) := by
  rw [percentDecode, if_neg plain]
  intro high low more escape
  exact absurd escape plain

theorem percentDecode_code :
    ∀ e ∈ encodings, ∀ rest,
      percentDecode (e.code ++ rest) = (percentDecode rest).map (fun text => e.ch :: text) := by
  intro e mem rest
  simp only [encodings, List.mem_cons, List.not_mem_nil, or_false] at mem
  rcases mem with rfl | rfl | rfl | rfl <;> rfl

/-- An encoded character is decoded to itself. -/
theorem percentDecode_encoded (c : Char) (rest : List Char) :
    percentDecode (encoded c ++ rest) = (percentDecode rest).map (fun text => c :: text) := by
  rcases encoded_cases c with ⟨-, kept, others⟩ | ⟨e, mem, -, rfl, code⟩
  · rw [kept]
    exact percentDecode_plain (fun same => others ⟨'%', "%25".toList⟩ (by decide) same.symm) rest
  · rw [code]
    exact percentDecode_code e mem rest

theorem percentDecode_flatMap (text : List Char) :
    percentDecode (text.flatMap encoded) = some text := by
  induction text with
  | nil => rfl
  | cons c rest ih =>
      rw [List.flatMap_cons, percentDecode_encoded, ih]
      rfl

/-- Neither a separator nor a terminator is written. -/
theorem mem_encoded {c d : Char} (text : c ≠ Char.ofNat 0) (mem : d ∈ encoded c) :
    d ≠ '/' ∧ d ≠ '+' ∧ d ≠ '|' ∧ d ≠ Char.ofNat 0 := by
  rcases encoded_cases c with ⟨-, kept, others⟩ | ⟨e, inside, -, -, code⟩
  · rw [kept, List.mem_singleton] at mem
    subst mem
    exact ⟨fun same => others ⟨'/', "%2F".toList⟩ (by decide) same.symm,
      fun same => others ⟨'+', "%2B".toList⟩ (by decide) same.symm,
      fun same => others ⟨'|', "%7C".toList⟩ (by decide) same.symm, text⟩
  · have clean : encodings.all (fun e => e.code.all (fun d =>
        d ≠ '/' ∧ d ≠ '+' ∧ d ≠ '|' ∧ d ≠ Char.ofNat 0)) = true := by rfl
    rw [code] at mem
    exact of_decide_eq_true (List.all_eq_true.mp (List.all_eq_true.mp clean e inside) d mem)

/-- What has been written to the buffer, which has room for a terminator. -/
structure Written (size : Nat) (out : List Char) (e : Encoding) : Prop where
  cells : ∃ junk, e.buffer = out ++ junk
  length : e.buffer.length = size
  outpos : e.outpos = out.length
  room : out.length < size

section

variable {size : Nat} {out : List Char} {e : Encoding} (written : Written size out e)

include written

theorem Written.store (c : Char) (room : out.length + 1 < size) :
    ∃ buffer, store e.buffer e.outpos c = some buffer ∧
      ∀ inpos, Written size (out ++ [c]) ⟨buffer, inpos, e.outpos + 1⟩ := by
  obtain ⟨junk, cells⟩ := written.cells
  have total := written.length
  cases junk with
  | nil =>
      rw [cells, List.append_nil] at total
      omega
  | cons old junk =>
      have stored : Run.store e.buffer e.outpos c = some (out ++ c :: junk) := by
        rw [cells]
        exact store_at out old junk written.outpos c
      refine ⟨_, stored, ?_⟩
      intro inpos
      constructor
      · exact ⟨junk, List.append_cons out c junk⟩
      · exact (length_of_store stored).trans total
      · rw [List.length_append, ← written.outpos]
        rfl
      · rw [List.length_append]
        exact room

theorem copyCode_written {code : List Char} (room : out.length + code.length < size) :
    ∃ e', copyCode size code e = some e' ∧ e'.inpos = e.inpos ∧
      Written size (out ++ code) e' := by
  induction code generalizing out e with
  | nil => exact ⟨e, rfl, rfl, by rw [List.append_nil]; exact written⟩
  | cons c code ih =>
      rw [List.length_cons] at room
      obtain ⟨buffer, stored, next⟩ := written.store c (by omega)
      have inside : e.outpos < size - 1 := by
        rw [written.outpos]
        omega
      obtain ⟨e', copied, kept, done⟩ := ih (next e.inpos) (by
        rw [List.length_append, List.length_singleton]
        omega)
      refine ⟨e', ?_, kept, ?_⟩
      · rw [copyCode, if_pos inside, stored]
        exact copied
      · rw [List.append_cons]
        exact done

end

theorem length_encoded_pos (c : Char) : 0 < (encoded c).length := by
  rcases encoded_cases c with ⟨-, kept, -⟩ | ⟨e, mem, -, -, code⟩
  · rw [kept]
    exact Nat.zero_lt_one
  · rw [code, length_code e mem]
    decide

/-- A round encodes a character, or ends the loop for want of room. -/
theorem encodeLoop_round {size : Nat} {value out : List Char} {e : Encoding}
    (written : Written size out e) {c : Char} (found : value[e.inpos]? = some c)
    (text : c ≠ Char.ofNat 0) (left : Nat) :
    (encodeLoop value size (left + 1) e = some e ∧ size ≤ out.length + (encoded c).length) ∨
      ∃ e', encodeLoop value size (left + 1) e = encodeLoop value size left e' ∧
        e'.inpos = e.inpos + 1 ∧ Written size (out ++ encoded c) e' := by
  have some := length_encoded_pos c
  have place := written.outpos
  by_cases room : e.outpos < size - 1
  · have goes : c ≠ Char.ofNat 0 ∧ e.outpos < size - 1 := ⟨text, room⟩
    rcases encoded_cases c with ⟨none, kept, -⟩ | ⟨encoding, mem, coded, -, code⟩
    · right
      obtain ⟨buffer, stored, next⟩ := written.store c (by omega)
      refine ⟨⟨buffer, e.inpos + 1, e.outpos + 1⟩, ?_, rfl, ?_⟩
      · simp only [encodeLoop, found, goes, if_true, none, stored, Option.bind_some, ne_eq,
          not_false_eq_true, and_self]
      · rw [kept]
        exact next _
    · have three := length_code encoding mem
      rw [code]
      by_cases full : size ≤ e.outpos + NUM_CHARS_IN_CODE
      · left
        refine ⟨?_, by omega⟩
        simp only [encodeLoop, found, goes, if_true, coded, full, ne_eq, not_false_eq_true,
          and_self]
      · right
        obtain ⟨e', copied, kept, next⟩ :=
          copyCode_written written (show out.length + encoding.code.length < size by omega)
        refine ⟨{ e' with inpos := e'.inpos + 1 }, ?_, by rw [kept], ?_⟩
        · simp only [encodeLoop, found, goes, if_true, coded, full, if_false, copied,
            Option.bind_some, ne_eq, not_false_eq_true, and_self]
        · exact ⟨next.cells, next.length, next.outpos, next.room⟩
  · left
    refine ⟨?_, by omega⟩
    have stops : ¬ (c ≠ Char.ofNat 0 ∧ e.outpos < size - 1) := fun both => room both.2
    simp only [encodeLoop, found, stops, if_false]

/-- The loop encodes as much of a text as there is room for. -/
theorem encodeLoop_written {size : Nat} {todo : List Char} (inside : Char.ofNat 0 ∉ todo)
    (rest front : List Char) {out : List Char} {e : Encoding}
    (written : Written size out e) (scanned : e.inpos = front.length) {left : Nat}
    (enough : todo.length < left) :
    ∃ e' done, encodeLoop (front ++ (todo ++ Char.ofNat 0 :: rest)) size left e = some e' ∧
      done <+: todo ∧ Written size (out ++ done.flatMap encoded) e' ∧
      (out.length + (todo.flatMap encoded).length < size → done = todo) := by
  obtain ⟨left, rfl⟩ : ∃ n, left = n + 1 := ⟨left - 1, by omega⟩
  induction todo generalizing front out e left with
  | nil =>
      have found : (front ++ ([] ++ Char.ofNat 0 :: rest))[e.inpos]? = some (Char.ofNat 0) :=
        load_at front _ _ scanned
      refine ⟨e, [], ?_, List.prefix_rfl, ?_, fun _ => rfl⟩
      · simp only [encodeLoop, found, ne_eq, not_true_eq_false, false_and, if_false]
      · rw [List.flatMap_nil, List.append_nil]
        exact written
  | cons c todo ih =>
      have found : (front ++ (c :: todo ++ Char.ofNat 0 :: rest))[e.inpos]? = some c :=
        load_at front _ _ scanned
      have text : c ≠ Char.ofNat 0 := fun same => inside (same ▸ List.mem_cons_self)
      have inside' : Char.ofNat 0 ∉ todo := fun mem => inside (List.mem_cons_of_mem c mem)
      rw [List.length_cons] at enough
      rcases encodeLoop_round written found text left with ⟨stops, full⟩ | ⟨e₁, goes, next, begun⟩
      · refine ⟨e, [], stops, List.nil_prefix, ?_, ?_⟩
        · rw [List.flatMap_nil, List.append_nil]
          exact written
        · intro room
          rw [List.flatMap_cons, List.length_append] at room
          omega
      · obtain ⟨left, rfl⟩ : ∃ n, left = n + 1 := ⟨left - 1, by omega⟩
        have scanned' : e₁.inpos = (front ++ [c]).length := by
          rw [next, scanned, List.length_append, List.length_singleton]
        obtain ⟨e₂, done, run, front', final, whole⟩ :=
          ih inside' (front ++ [c]) begun scanned' left (by omega)
        refine ⟨e₂, c :: done, ?_, ?_, ?_, ?_⟩
        · rw [goes, List.cons_append, List.append_cons]
          exact run
        · exact List.cons_prefix_cons.mpr ⟨rfl, front'⟩
        · rw [List.flatMap_cons, ← List.append_assoc]
          exact final
        · intro room
          rw [whole]
          rw [List.flatMap_cons, List.length_append] at room
          rw [List.length_append]
          omega

theorem copyBack_eq {buffer : List Char} {n : Nat} (filled : n ≤ buffer.length)
    {value : List Char} (room : n ≤ value.length) :
    copyBack buffer n value = some (buffer.take n ++ value.drop n) := by
  induction n generalizing value with
  | zero => rfl
  | succ n ih =>
      have found : buffer[n]? = some buffer[n] := List.getElem?_eq_getElem (by omega)
      obtain ⟨after, stored, size, behind⟩ := store_drop (show n < value.length by omega) buffer[n]
      simp only [copyBack, found, stored, Option.bind_some]
      rw [ih (by omega) (by omega), behind, List.take_succ_eq_append_getElem
        (show n < buffer.length by omega), List.append_assoc]
      rfl

/-- What was written to the buffer is copied in front of a terminator. -/
theorem copied_written {size : Nat} {out value : List Char} {e : Encoding}
    (written : Written size out e) (inside : out.length < value.length) :
    (store value e.outpos (Char.ofNat 0)).bind (copyBack e.buffer e.outpos) =
      some (out ++ Char.ofNat 0 :: value.drop (out.length + 1)) := by
  obtain ⟨marked, stored, length, behind⟩ := store_drop inside (Char.ofNat 0)
  obtain ⟨junk, cells⟩ := written.cells
  have filled : out.length ≤ e.buffer.length := by
    rw [written.length]
    exact Nat.le_of_lt written.room
  have taken : e.buffer.take out.length = out := by
    rw [cells, List.take_left]
  rw [written.outpos, stored, Option.bind_some, copyBack_eq filled (by omega), taken, behind]

theorem written_nil (stack : Nat → Char) {size : Nat} (room : 0 < size) :
    Written size [] ⟨(List.range size).map stack, 0, 0⟩ := by
  refine ⟨⟨_, rfl⟩, ?_, rfl, room⟩
  rw [List.length_map, List.length_range]

theorem mem_flatMap_encoded {text : List Char} (inside : Char.ofNat 0 ∉ text) {d : Char}
    (mem : d ∈ text.flatMap encoded) : d ≠ '/' ∧ d ≠ '+' ∧ d ≠ '|' ∧ d ≠ Char.ofNat 0 := by
  obtain ⟨c, scanned, coded⟩ := List.mem_flatMap.mp mem
  have text : c ≠ Char.ofNat 0 := fun same => inside (same ▸ scanned)
  exact mem_encoded text coded

/-- The string fits, has no separator and no incomplete escape, and is decoded to the
beginning of a text, or to all of it if all fits. -/
structure Reversible (size : Nat) (text out : List Char) : Prop where
  fits : out.length ≤ size - 1
  separators : '/' ∉ out ∧ '+' ∉ out ∧ '|' ∉ out
  decoded : ∃ front, percentDecode out = some front ∧ front <+: text ∧
    ((text.flatMap encoded).length ≤ size - 1 → front = text)

/-- A value that is shorter than its size is encoded reversibly. -/
theorem encodeInPlace_reversible (stack : Nat → Char) (value : StringMemory) {size : Nat}
    (array : size ≤ value.cells.length) (short : (cString value.cells).length < size) :
    ∃ after, encodeInPlace stack value.cells size = some after ∧
      after.length = value.cells.length ∧
      Reversible size (cString value.cells) (cString after) := by
  obtain ⟨cells, terminated⟩ := value
  obtain ⟨text, rest, rfl, inside⟩ := List.eq_append_cons_of_mem terminated
  dsimp only at array short ⊢
  rw [cString_terminated inside] at short ⊢
  obtain ⟨e, done, loop, front, written, whole⟩ :=
    encodeLoop_written inside rest [] (written_nil stack (Nat.zero_lt_of_lt short)) rfl
      (show text.length < (text ++ Char.ofNat 0 :: rest).length by
        rw [List.length_append, List.length_cons]
        omega)
  rw [List.nil_append] at loop written
  have room := written.room
  have clean : ∀ d ∈ done.flatMap encoded, d ≠ '/' ∧ d ≠ '+' ∧ d ≠ '|' ∧ d ≠ Char.ofNat 0 :=
    fun d mem => mem_flatMap_encoded (fun terminator => inside (front.subset terminator)) mem
  have run : encodeInPlace stack (text ++ Char.ofNat 0 :: rest) size =
      some (done.flatMap encoded ++ Char.ofNat 0 ::
        (text ++ Char.ofNat 0 :: rest).drop ((done.flatMap encoded).length + 1)) := by
    simp only [encodeInPlace, loop]
    exact copied_written written (Nat.lt_of_lt_of_le room array)
  refine ⟨_, run, ?_, ?_⟩
  · rw [List.length_append, List.length_cons, List.length_drop]
    omega
  · rw [cString_terminated (fun mem => (clean _ mem).2.2.2 rfl)]
    refine ⟨by omega, ⟨fun mem => (clean _ mem).1 rfl, fun mem => (clean _ mem).2.1 rfl,
      fun mem => (clean _ mem).2.2.1 rfl⟩, done, percentDecode_flatMap done, front, ?_⟩
    intro fits
    apply whole
    rw [List.length_nil]
    omega

/-- One escape and the characters around it fit, and the next escape does not. -/
theorem encodeInPlace_reversible_cut :
    ∃ after, encodeInPlace (fun _ => 'z') "a/b%c\x00zzzz".toList 8 = some after ∧
      after.length = "a/b%c\x00zzzz".toList.length ∧
      Reversible 8 (cString "a/b%c\x00zzzz".toList) (cString after) :=
  encodeInPlace_reversible (fun _ => 'z') ⟨"a/b%c\x00zzzz".toList, by decide⟩ (by decide) (by decide)

end A5Common.Engine.UserAgent
