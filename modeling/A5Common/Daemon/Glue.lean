import A5Common.Run.Bytes

set_option autoImplicit false

namespace A5Common.Daemon

open A5Common.Run

/-- What the layout of `struct ctrl_msgbuf` depends on: the width of `size_t` and of
`unsigned long`. -/
inductive Abi where
  | ilp32
  | lp64
deriving DecidableEq

namespace Abi

def sizeofSizeT : Abi → Nat
  | .ilp32 => 4
  | .lp64 => 8

/-- The number of values of type `size_t`. -/
def sizeModulus (abi : Abi) : Nat :=
  256 ^ abi.sizeofSizeT

/-- A difference in `size_t`. -/
def sizeSub (abi : Abi) (a b : Nat) : Nat :=
  (a + (abi.sizeModulus - b)) % abi.sizeModulus

end Abi

/-- What a system call comes to: it fails, or moves at most some number of bytes. -/
inductive Transfer where
  | fails
  | moves (limit : Nat)
deriving DecidableEq

/-- A read that was asked for, and its result. -/
structure ReadCall where
  offset : Nat
  sz : Nat
  result : Int
deriving DecidableEq

/-- `loc_eng_dmn_conn_glue_piperead`: its result, the bytes read, and the rest of the pipe. -/
def piperead (transfer : Transfer) (sz : Nat) (pipe : List UInt8) :
    Int × List UInt8 × List UInt8 :=
  match transfer with
  | .fails => (-1, [], pipe)
  | .moves limit =>
      let len := min limit (min sz pipe.length)
      (int32 len, pipe.take len, pipe.drop len)

/-- `loc_eng_dmn_conn_glue_pipewrite`: its result, and the pipe. -/
def pipewrite (transfer : Transfer) (buf : List UInt8) (pipe : List UInt8) : Int × List UInt8 :=
  match transfer with
  | .fails => (-1, pipe)
  | .moves limit =>
      let len := min limit buf.length
      (int32 len, pipe ++ buf.take len)

variable (abi : Abi)

/-- The bytes of a message once its `msgsz` has been set. -/
def stamped (msgp : List UInt8) : List UInt8 :=
  overwrite 0 (leBytes abi.sizeofSizeT msgp.length) msgp

/-- `loc_eng_dmn_conn_glue_msgsnd` of all of a buffer. -/
def msgsnd (transfer : Transfer) (msgp : List UInt8) (pipe : List UInt8) : Int × List UInt8 :=
  let (result, pipe) := pipewrite transfer (stamped abi msgp) pipe
  if result ≠ int32 msgp.length then (-1, pipe) else (result, pipe)

/-- What `loc_eng_dmn_conn_glue_msgrcv` leaves. The list is a record of its reads. -/
structure Received where
  result : Int
  msgp : List UInt8
  pipe : List UInt8
  reads : List ReadCall
deriving DecidableEq

/-- The `msgsz` field of a message. -/
def msgszOf (msgp : List UInt8) : Nat :=
  leValue (msgp.take abi.sizeofSizeT)

/-- `loc_eng_dmn_conn_glue_msgrcv`, with what its two reads come to. -/
def msgrcv (header body : Transfer) (msgbufsz : Nat) (msgp pipe : List UInt8) : Received :=
  let (result, bytes, pipe) := piperead header abi.sizeofSizeT pipe
  let msgp := overwrite 0 bytes msgp
  let read : ReadCall := ⟨0, abi.sizeofSizeT, result⟩
  if result ≠ abi.sizeofSizeT then ⟨-1, msgp, pipe, [read]⟩
  else
    let msgsz := msgszOf abi msgp
    if msgbufsz < msgsz then ⟨-1, msgp, pipe, [read]⟩
    else
      let sz := abi.sizeSub msgsz abi.sizeofSizeT
      let (result, bytes, pipe) := piperead body sz pipe
      let msgp := overwrite abi.sizeofSizeT bytes msgp
      let reads := [read, ⟨abi.sizeofSizeT, sz, result⟩]
      if result ≠ int32 sz then ⟨-1, msgp, pipe, reads⟩
      else ⟨int32 msgsz, msgp, pipe, reads⟩

/-- The size in the header that comes first in a pipe, if it is read completely. -/
def headerSize (header : Transfer) (pipe : List UInt8) : Option Nat :=
  match header with
  | .fails => none
  | .moves limit =>
      if abi.sizeofSizeT ≤ limit ∧ abi.sizeofSizeT ≤ pipe.length then
        some (leValue (pipe.take abi.sizeofSizeT))
      else none

theorem sizeSub_eq {a b : Nat} (below : b ≤ a) (fits : a < abi.sizeModulus) :
    abi.sizeSub a b = a - b := by
  have cut : a + (abi.sizeModulus - b) = a - b + abi.sizeModulus := by omega
  unfold Abi.sizeSub
  rw [cut, Nat.add_mod_right, Nat.mod_eq_of_lt (by omega)]

theorem sizeSub_wraps {a b : Nat} (above : a < b) (fits : b < abi.sizeModulus) :
    abi.sizeSub a b = abi.sizeModulus - b + a := by
  unfold Abi.sizeSub
  rw [Nat.mod_eq_of_lt (by omega)]
  omega

theorem sizeofSizeT_lt : abi.sizeofSizeT < 9 := by
  cases abi <;> decide

theorem sizeofSizeT_lt_modulus : abi.sizeofSizeT < abi.sizeModulus := by
  cases abi <;> decide

/-- A header that is not read completely. -/
theorem msgrcv_short {header : Transfer} {pipe : List UInt8}
    (short : headerSize abi header pipe = none) (body : Transfer) (msgbufsz : Nat)
    (msgp : List UInt8) :
    (msgrcv abi header body msgbufsz msgp pipe).result = -1 ∧
      ∃ result, (msgrcv abi header body msgbufsz msgp pipe).reads =
        [⟨0, abi.sizeofSizeT, result⟩] := by
  have incomplete : (piperead header abi.sizeofSizeT pipe).1 ≠ abi.sizeofSizeT := by
    unfold piperead
    cases header with
    | fails =>
        dsimp only
        omega
    | moves limit =>
        have small := sizeofSizeT_lt abi
        dsimp only
        rw [int32_of_lt (by omega)]
        intro whole
        have none_read : ¬ (abi.sizeofSizeT ≤ limit ∧ abi.sizeofSizeT ≤ pipe.length) := by
          intro enough
          simp only [headerSize, enough, and_self, if_true, reduceCtorEq] at short
        omega
  unfold msgrcv
  dsimp only
  rw [if_pos incomplete]
  exact ⟨rfl, _, rfl⟩

/-- What is left of the pipe and of the buffer by a header that is read completely. -/
theorem piperead_header {header : Transfer} {pipe : List UInt8} {msgsz : Nat}
    (whole : headerSize abi header pipe = some msgsz) :
    piperead header abi.sizeofSizeT pipe =
        ((abi.sizeofSizeT : Int), pipe.take abi.sizeofSizeT, pipe.drop abi.sizeofSizeT) ∧
      msgsz = leValue (pipe.take abi.sizeofSizeT) ∧ abi.sizeofSizeT ≤ pipe.length := by
  unfold headerSize at whole
  cases header with
  | fails => cases whole
  | moves limit =>
      dsimp only at whole
      split at whole
      · rename_i enough
        have small := sizeofSizeT_lt abi
        have all : min limit (min abi.sizeofSizeT pipe.length) = abi.sizeofSizeT := by omega
        cases whole
        unfold piperead
        dsimp only
        rw [all, int32_of_lt (by omega)]
        exact ⟨rfl, rfl, enough.2⟩
      · cases whole

/-- A message with a header that is read completely. -/
theorem msgrcv_whole {header : Transfer} {pipe : List UInt8} {msgsz : Nat}
    (whole : headerSize abi header pipe = some msgsz) (body : Transfer) (msgbufsz : Nat)
    (msgp : List UInt8) :
    msgrcv abi header body msgbufsz msgp pipe =
      let msgp := overwrite 0 (pipe.take abi.sizeofSizeT) msgp
      let pipe := pipe.drop abi.sizeofSizeT
      let read : ReadCall := ⟨0, abi.sizeofSizeT, abi.sizeofSizeT⟩
      if msgbufsz < msgsz then ⟨-1, msgp, pipe, [read]⟩
      else
        let sz := abi.sizeSub msgsz abi.sizeofSizeT
        let (result, bytes, pipe) := piperead body sz pipe
        let msgp := overwrite abi.sizeofSizeT bytes msgp
        let reads := [read, ⟨abi.sizeofSizeT, sz, result⟩]
        if result ≠ int32 sz then ⟨-1, msgp, pipe, reads⟩
        else ⟨int32 msgsz, msgp, pipe, reads⟩ := by
  obtain ⟨read, rfl, enough⟩ := piperead_header abi whole
  have length : (pipe.take abi.sizeofSizeT).length = abi.sizeofSizeT := by
    rw [List.length_take, Nat.min_eq_left enough]
  have size : msgszOf abi (overwrite 0 (pipe.take abi.sizeofSizeT) msgp) =
      leValue (pipe.take abi.sizeofSizeT) := by
    unfold msgszOf
    rw [overwrite_zero, List.take_left' length]
  unfold msgrcv
  rw [read]
  dsimp only
  rw [if_neg (fun differs => differs rfl), size]

end A5Common.Daemon
