import A5Common.Daemon.Glue
import A5Common.Run.DoWhile

set_option autoImplicit false

namespace A5Common.Daemon

open A5Common.Run

/-- What a read comes to, and what is in the pipe then. -/
structure PipeRead where
  transfer : Transfer
  pipe : List UInt8

/-- `loc_eng_dmn_conn_glue_msgflush` between two reads: how many it has made, the result of
the last one, and a record of all bytes that it has taken out of the pipe. -/
structure Flush where
  reads : Nat
  length : Int
  flushed : List UInt8
deriving DecidableEq

/-- The size of the buffer of `loc_eng_dmn_conn_glue_msgflush`. -/
def FLUSH_BUF_SIZE : Nat := 128

namespace Flush

def start : Flush where
  reads := 0
  length := 0
  flushed := []

variable (results : Nat → PipeRead)

/-- The body of the loop. -/
def readOnce (σ : Flush) : Flush :=
  let read := results σ.reads
  let (length, bytes, _) := piperead read.transfer FLUSH_BUF_SIZE read.pipe
  { reads := σ.reads + 1, length := length, flushed := σ.flushed ++ bytes }

def again (σ : Flush) : Bool :=
  σ.length ≠ 0

end Flush

variable (results : Nat → PipeRead)

/-- `loc_eng_dmn_conn_glue_msgflush` for at most so many rounds: the result, and the bytes
that are taken out. -/
def msgflush (fuel : Nat) : Option (Int × List UInt8) :=
  (doWhile (Flush.readOnce results) Flush.again fuel .start).map
    (fun σ => (σ.length, σ.flushed))

/-- The flush ends, and returns how many bytes it has flushed out. -/
def FlushesAll : Prop :=
  ∃ fuel flushed, msgflush results fuel = some ((flushed.length : Int), flushed)

namespace PipeRead

variable (read : PipeRead)

/-- The result of a read into the buffer. -/
def length : Int :=
  (piperead read.transfer FLUSH_BUF_SIZE read.pipe).1

def bytes : List UInt8 :=
  (piperead read.transfer FLUSH_BUF_SIZE read.pipe).2.1

/-- A read fails, or its result is the number of bytes that it moves. -/
theorem length_cases :
    (read.transfer = .fails ∧ read.length = -1 ∧ read.bytes = []) ∨
      (read.transfer ≠ .fails ∧ read.length = read.bytes.length) := by
  unfold length bytes piperead
  cases transfer : read.transfer with
  | fails => exact Or.inl ⟨rfl, rfl, rfl⟩
  | moves limit =>
      have size : FLUSH_BUF_SIZE = 128 := rfl
      right
      refine ⟨fun same => Transfer.noConfusion same, ?_⟩
      dsimp only
      rw [int32_of_lt (by omega), List.length_take]
      omega

end PipeRead

namespace Flush

variable {results}

@[simp] theorem readOnce_reads (σ : Flush) : (σ.readOnce results).reads = σ.reads + 1 :=
  rfl

@[simp] theorem readOnce_length (σ : Flush) :
    (σ.readOnce results).length = (results σ.reads).length :=
  rfl

@[simp] theorem readOnce_flushed (σ : Flush) :
    (σ.readOnce results).flushed = σ.flushed ++ (results σ.reads).bytes :=
  rfl

theorem iterate_reads (rounds : Nat) : ((readOnce results)^[rounds] start).reads = rounds := by
  induction rounds with
  | zero => rfl
  | succ rounds ih => rw [Function.iterate_succ_apply', readOnce_reads, ih]

theorem iterate_length (rounds : Nat) :
    ((readOnce results)^[rounds + 1] start).length = (results rounds).length := by
  rw [Function.iterate_succ_apply', readOnce_length, iterate_reads]

theorem iterate_flushed (rounds : Nat) :
    ((readOnce results)^[rounds] start).flushed =
      (List.range rounds).flatMap (fun i => (results i).bytes) := by
  induction rounds with
  | zero => rfl
  | succ rounds ih =>
      rw [Function.iterate_succ_apply', readOnce_flushed, iterate_reads, ih, List.range_succ,
        List.flatMap_append, List.flatMap_singleton]

end Flush

/-- With enough rounds the flush ends behind the first read that moves nothing and does not
fail, and returns that. -/
theorem msgflush_eq_some_iff {result : Int} {flushed : List UInt8} :
    (∃ fuel, msgflush results fuel = some (result, flushed)) ↔
      ∃ rounds, result = 0 ∧ (results rounds).length = 0 ∧
        (∀ earlier, earlier < rounds → (results earlier).length ≠ 0) ∧
        flushed = (List.range (rounds + 1)).flatMap (fun i => (results i).bytes) := by
  have ends : (∃ fuel, msgflush results fuel = some (result, flushed)) ↔
      ∃ final, Ends (Flush.readOnce results) Flush.again .start final ∧
        final.length = result ∧ final.flushed = flushed := by
    unfold msgflush Ends
    simp only [Option.map_eq_some_iff, Prod.mk.injEq]
    constructor
    · rintro ⟨fuel, final, ended, returned⟩
      exact ⟨final, ⟨fuel, ended⟩, returned⟩
    · rintro ⟨final, ⟨fuel, ended⟩, returned⟩
      exact ⟨fuel, final, ended, returned⟩
  rw [ends]
  constructor
  · rintro ⟨final, ended, rfl, rfl⟩
    obtain ⟨rounds, rfl, stops, before⟩ := ends_iff.mp ended
    have stops : ((Flush.readOnce results)^[rounds + 1] .start).length = 0 :=
      not_not.mp (of_decide_eq_false stops)
    refine ⟨rounds, stops, ?_, ?_, Flush.iterate_flushed (rounds + 1)⟩
    · rw [← Flush.iterate_length, stops]
    · intro earlier less
      rw [← Flush.iterate_length]
      exact of_decide_eq_true (before earlier less)
  · rintro ⟨rounds, rfl, empty, before, rfl⟩
    refine ⟨_, ends_iff.mpr ⟨rounds, rfl, ?_, ?_⟩, ?_, Flush.iterate_flushed (rounds + 1)⟩
    · apply decide_eq_false
      rw [Flush.iterate_length]
      exact not_not.mpr empty
    · intro earlier less
      apply decide_eq_true
      rw [Flush.iterate_length]
      exact before earlier less
    · rw [Flush.iterate_length, empty]

namespace PipeRead

variable {read : PipeRead}

theorem bytes_of_fails (failed : read.length = -1) : read.bytes = [] := by
  rcases read.length_cases with ⟨-, -, none⟩ | ⟨-, moved⟩
  · exact none
  · omega

theorem bytes_of_end (ended : read.length = 0) : read.bytes = [] := by
  rcases read.length_cases with ⟨-, -, none⟩ | ⟨-, moved⟩
  · exact none
  · apply List.length_eq_zero_iff.mp
    omega

theorem fails_of_bytes (none : read.bytes = []) (going : read.length ≠ 0) : read.length = -1 := by
  rcases read.length_cases with ⟨-, failed, -⟩ | ⟨-, moved⟩
  · exact failed
  · rw [none] at moved
    exact absurd moved going

end PipeRead

/-- The flush returns what it has flushed out exactly if the first read that does not fail
finds the end of the file. -/
theorem msgflush_flushesAll_iff :
    FlushesAll results ↔
      ∃ rounds, (results rounds).length = 0 ∧
        ∀ earlier, earlier < rounds → (results earlier).length = -1 := by
  constructor
  · intro ⟨fuel, flushed, returned⟩
    obtain ⟨rounds, total, empty, before, taken⟩ :=
      (msgflush_eq_some_iff results).mp ⟨fuel, returned⟩
    refine ⟨rounds, empty, ?_⟩
    intro earlier less
    -- nothing has been flushed out, so that no read before the end has moved anything
    have none_flushed : flushed = [] := by
      apply List.length_eq_zero_iff.mp
      omega
    have moved : (results earlier).bytes = [] := by
      rw [none_flushed] at taken
      exact List.flatMap_eq_nil_iff.mp taken.symm earlier (List.mem_range.mpr (by omega))
    exact PipeRead.fails_of_bytes moved (before earlier less)
  · rintro ⟨rounds, empty, before⟩
    have none_moved : ∀ i ∈ List.range (rounds + 1), (results i).bytes = [] := by
      intro i inside
      rcases Nat.lt_succ_iff_lt_or_eq.mp (List.mem_range.mp inside) with less | rfl
      · exact PipeRead.bytes_of_fails (before i less)
      · exact PipeRead.bytes_of_end empty
    have going : ∀ earlier, earlier < rounds → (results earlier).length ≠ 0 := by
      intro earlier less
      rw [before earlier less]
      decide
    obtain ⟨fuel, returned⟩ :=
      (msgflush_eq_some_iff results).mpr ⟨rounds, rfl, empty, going, rfl⟩
    rw [List.flatMap_eq_nil_iff.mpr none_moved] at returned
    exact ⟨fuel, [], returned⟩

/-- Of a pipe with one byte and then its end the flush returns 0, and on a descriptor that
is closed it never returns. -/
theorem msgflush_miscounts :
    ¬ FlushesAll (fun i => ⟨.moves 128, if i = 0 then [7] else []⟩) ∧
      ∀ fuel, msgflush (fun _ => ⟨.fails, []⟩) fuel = none := by
  constructor
  · intro ⟨fuel, flushed, returned⟩
    obtain ⟨rounds, total, -, -, taken⟩ := (msgflush_eq_some_iff _).mp ⟨fuel, returned⟩
    rw [List.range_succ_eq_map, List.flatMap_cons] at taken
    have some_flushed := congrArg List.length taken
    rw [List.length_append] at some_flushed
    have first : (PipeRead.bytes ⟨.moves 128, [7]⟩).length = 1 := by decide
    simp only [if_true] at some_flushed
    omega
  · intro fuel
    cases returned : msgflush (fun _ => ⟨.fails, []⟩) fuel with
    | none => rfl
    | some final =>
        obtain ⟨rounds, -, empty, -⟩ := (msgflush_eq_some_iff _).mp ⟨fuel, returned⟩
        exact absurd empty (by decide)

end A5Common.Daemon
