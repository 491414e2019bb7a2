import A5Common.Daemon.Glue

set_option autoImplicit false

namespace A5Common.Daemon

open A5Common.Run

variable (abi : Abi)

/-- Every read fits in the part of the buffer that it reads into, and a message that is
received has a size between that of its header and that of the buffer. -/
structure InBounds (msgbufsz : Nat) (received : Received) : Prop where
  reads : ∀ read ∈ received.reads, read.offset + read.sz ≤ msgbufsz
  size : 0 ≤ received.result →
    abi.sizeofSizeT ≤ received.result ∧ received.result ≤ msgbufsz

/-- A header of a size for the buffer has at least its own. The rest is about sizes that do
not fit in `int`: cut to it, they are no smaller, or the body is not read completely. -/
def HeaderFits (header body : Transfer) (msgbufsz : Nat) (pipe : List UInt8) : Prop :=
  ∀ msgsz, headerSize abi header pipe = some msgsz → msgsz ≤ msgbufsz →
    abi.sizeofSizeT ≤ msgsz ∧
      (0 ≤ int32 msgsz → int32 msgsz < abi.sizeofSizeT →
        (piperead body (msgsz - abi.sizeofSizeT) (pipe.drop abi.sizeofSizeT)).1 ≠
          int32 (msgsz - abi.sizeofSizeT))

/-- The part of a receive that reads the body of a message. -/
theorem msgrcv_body_iff {msgbufsz : Nat}
    (representable : msgbufsz < abi.sizeModulus) {header body : Transfer} {pipe : List UInt8}
    {msgsz : Nat} (whole : headerSize abi header pipe = some msgsz) (fits : msgsz ≤ msgbufsz)
    (msgp : List UInt8) (read : ReadCall) (inside : read.offset + read.sz ≤ msgbufsz) :
    InBounds abi msgbufsz
        (let sz := abi.sizeSub msgsz abi.sizeofSizeT
        let (result, bytes, pipe) := piperead body sz (pipe.drop abi.sizeofSizeT)
        let msgp := overwrite abi.sizeofSizeT bytes msgp
        let reads := [read, ⟨abi.sizeofSizeT, sz, result⟩]
        if result ≠ int32 sz then ⟨-1, msgp, pipe, reads⟩
        else ⟨int32 msgsz, msgp, pipe, reads⟩) ↔
      HeaderFits abi header body msgbufsz pipe := by
  have header_fits : HeaderFits abi header body msgbufsz pipe ↔
      abi.sizeofSizeT ≤ msgsz ∧
        (0 ≤ int32 msgsz → int32 msgsz < abi.sizeofSizeT →
          (piperead body (msgsz - abi.sizeofSizeT) (pipe.drop abi.sizeofSizeT)).1 ≠
            int32 (msgsz - abi.sizeofSizeT)) := by
    unfold HeaderFits
    simp only [whole, Option.some.injEq, forall_eq', fits, true_implies]
  rw [header_fits]
  dsimp only
  by_cases long : abi.sizeofSizeT ≤ msgsz
  · have sz := sizeSub_eq abi long (Nat.lt_of_le_of_lt fits representable)
    rw [sz]
    have bounded : ∀ result : Int, ∀ asked ∈ [read, ⟨abi.sizeofSizeT, msgsz - abi.sizeofSizeT,
        result⟩], asked.offset + asked.sz ≤ msgbufsz := by
      intro result asked member
      rcases List.mem_cons.mp member with rfl | member
      · exact inside
      · rw [List.mem_singleton.mp member]
        dsimp only
        omega
    have cut := int32_le msgsz
    split
    · rename_i short
      refine ⟨fun _ => ⟨long, fun _ _ => short⟩, fun _ => ⟨bounded _, fun received => ?_⟩⟩
      dsimp only at received
      omega
    · rename_i complete
      constructor
      · intro safe
        refine ⟨long, fun received small => ?_⟩
        have least := (safe.size received).1
        dsimp only at least
        omega
      · rintro ⟨_, exceeds⟩
        refine ⟨bounded _, fun received => ⟨?_, ?_⟩⟩
        · apply Int.not_lt.mp
          intro small
          exact exceeds received small (Decidable.not_not.mp complete)
        · dsimp only
          omega
  · -- the difference wraps, and no buffer has room for it
    have modulus := sizeofSizeT_lt_modulus abi
    have sz := sizeSub_wraps abi (Nat.lt_of_not_le long) modulus
    constructor
    · intro safe
      have asked := safe.reads ⟨abi.sizeofSizeT, abi.sizeSub msgsz abi.sizeofSizeT,
        (piperead body (abi.sizeSub msgsz abi.sizeofSizeT) (pipe.drop abi.sizeofSizeT)).1⟩
        (by split <;> exact List.mem_cons_of_mem _ List.mem_cons_self)
      dsimp only at asked
      omega
    · intro both
      exact absurd both.1 long

/-- A receive that fails after a read within the buffer. -/
theorem inBounds_failed {msgbufsz : Nat} {received : Received} {read : ReadCall}
    (reads : received.reads = [read]) (inside : read.offset + read.sz ≤ msgbufsz)
    (failed : received.result = -1) : InBounds abi msgbufsz received where
  reads := by
    rw [reads]
    intro asked member
    rw [List.mem_singleton.mp member]
    exact inside
  size := by
    intro succeeded
    omega

/-- For every byte stream, reads that do what they may, and buffer size, a receive stays in
its buffer exactly if the header fits. -/
theorem msgrcv_inBounds_iff {msgbufsz : Nat} (enough : abi.sizeofSizeT ≤ msgbufsz)
    (representable : msgbufsz < abi.sizeModulus) (header body : Transfer)
    (msgp pipe : List UInt8) :
    InBounds abi msgbufsz (msgrcv abi header body msgbufsz msgp pipe) ↔
      HeaderFits abi header body msgbufsz pipe := by
  cases whole : headerSize abi header pipe with
  | none =>
      obtain ⟨failed, result, reads⟩ := msgrcv_short abi whole body msgbufsz msgp
      constructor
      · intro _ msgsz read
        rw [whole] at read
        cases read
      · intro _
        exact inBounds_failed abi reads (by dsimp only; omega) failed
  | some msgsz =>
      rw [msgrcv_whole abi whole]
      dsimp only
      by_cases large : msgbufsz < msgsz
      · rw [if_pos large]
        constructor
        · intro _ size read fits
          rw [whole, Option.some.injEq] at read
          omega
        · intro _
          exact inBounds_failed abi rfl (by dsimp only; omega) rfl
      · rw [if_neg large]
        exact msgrcv_body_iff abi representable whole (Nat.le_of_not_lt large)
          (overwrite 0 (pipe.take abi.sizeofSizeT) msgp) ⟨0, abi.sizeofSizeT, abi.sizeofSizeT⟩
          (by dsimp only; omega)

theorem msgrcv_inBounds_unblock :
    InBounds .ilp32 368 (msgrcv .ilp32 (.moves 4) (.moves 14) 368 (List.replicate 368 0)
        (leBytes 4 16 ++ List.replicate 12 0)) ↔
      HeaderFits .ilp32 (.moves 4) (.moves 14) 368 (leBytes 4 16 ++ List.replicate 12 0) :=
  msgrcv_inBounds_iff .ilp32 (by decide) (by decide) _ _ _ _

/-- A header with a size of 3 makes the receive read almost 4 GiB into its buffer. -/
theorem msgrcv_overrun :
    ¬ ∀ (msgbufsz : Nat), Abi.ilp32.sizeofSizeT ≤ msgbufsz → msgbufsz < Abi.ilp32.sizeModulus →
      ∀ header body msgp pipe,
        InBounds .ilp32 msgbufsz (msgrcv .ilp32 header body msgbufsz msgp pipe) := by
  intro safe
  have bounds := (safe 368 (by decide) (by decide) (.moves 4) (.moves 0)
    (List.replicate 368 0) [3, 0, 0, 0]).reads ⟨4, 4294967295, 0⟩ (by decide +kernel)
  exact absurd bounds (by decide)

end A5Common.Daemon
