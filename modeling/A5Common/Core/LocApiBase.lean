import A5Common.Run.System
import Mathlib.Data.List.Perm.Basic

set_option autoImplicit false

namespace A5Common.Core

open A5Common.Run

abbrev MAX_ADAPTERS : Nat := 10

/-- `LOC_API_ADAPTER_EVENT_MASK_T` -/
abbrev EventMask := BitVec 32

/-- What an operation makes happen: a message to open with a mask, or a close. -/
inductive ApiCall where
  | sendOpen (mMask : EventMask)
  | close
deriving DecidableEq

abbrev Adapters (Adapter : Type) := Vector (Option Adapter) MAX_ADAPTERS

/-- The adapters of a `LocApiBase`, where `none` is NULL. The list is a record. -/
structure LocApiBase (Adapter : Type) where
  mLocAdapters : Adapters Adapter
  mExcludedMask : EventMask
  calls : List ApiCall

variable {Adapter : Type}

namespace Adapters

/-- The adapters that `TO_ALL_ADAPTERS` comes to from an index on. -/
def toAllFrom (adapters : Adapters Adapter) (i : Nat) : List Adapter :=
  if bound : i < MAX_ADAPTERS then
    match adapters[i] with
    | none => []
    | some adapter => adapter :: toAllFrom adapters (i + 1)
  else []
termination_by MAX_ADAPTERS - i

def toAll (adapters : Adapters Adapter) : List Adapter :=
  adapters.toAllFrom 0

/-- The first index from one on that is at NULL or past the end. -/
def firstNull (adapters : Adapters Adapter) (i : Nat) : Nat :=
  if bound : i < MAX_ADAPTERS then
    match adapters[i] with
    | none => i
    | some _ => firstNull adapters (i + 1)
  else i
termination_by MAX_ADAPTERS - i

theorem le_firstNull (adapters : Adapters Adapter) (i : Nat) : i ≤ adapters.firstNull i := by
  fun_induction firstNull adapters i with
  | case1 => exact Nat.le_refl _
  | case2 i bound adapter found ih => exact Nat.le_of_succ_le ih
  | case3 => exact Nat.le_refl _

theorem firstNull_le (adapters : Adapters Adapter) {i : Nat} (inside : i ≤ MAX_ADAPTERS) :
    adapters.firstNull i ≤ MAX_ADAPTERS := by
  fun_induction firstNull adapters i with
  | case1 => exact inside
  | case2 i bound adapter found ih => exact ih bound
  | case3 => exact inside

end Adapters

namespace LocApiBase

def new (mExcludedMask : EventMask) : LocApiBase Adapter where
  mLocAdapters := .replicate MAX_ADAPTERS none
  mExcludedMask := mExcludedMask
  calls := []

/-- `LocApiBase::getEvtMask`, with the masks that the adapters have then. -/
def getEvtMask (mEvtMask : Adapter → EventMask) (σ : LocApiBase Adapter) : EventMask :=
  σ.mLocAdapters.toAll.foldl (fun mask adapter => mask ||| mEvtMask adapter) 0 &&&
    ~~~ σ.mExcludedMask

def sendMsg (mMask : EventMask) (σ : LocApiBase Adapter) : LocApiBase Adapter :=
  { σ with calls := σ.calls ++ [.sendOpen mMask] }

def close (σ : LocApiBase Adapter) : LocApiBase Adapter :=
  { σ with calls := σ.calls ++ [.close] }

/-- What `LocApiBase::removeAdapter` does at an adapter: the index where its loop is then,
and the adapters. -/
def removeAt (i : Nat) (bound : i < MAX_ADAPTERS) (mLocAdapters : Adapters Adapter) :
    Nat × Adapters Adapter :=
  let mLocAdapters : Adapters Adapter := mLocAdapters.set i none
  let last := mLocAdapters.firstNull (i + 1) - 1
  have inside : last < MAX_ADAPTERS := by
    have above := mLocAdapters.le_firstNull (i + 1)
    have below : mLocAdapters.firstNull (i + 1) ≤ MAX_ADAPTERS := mLocAdapters.firstNull_le bound
    omega
  let mLocAdapters : Adapters Adapter := mLocAdapters.set i mLocAdapters[last]
  (last, mLocAdapters.set last none)

theorem le_removeAt (i : Nat) (bound : i < MAX_ADAPTERS) (mLocAdapters : Adapters Adapter) :
    i ≤ (removeAt i bound mLocAdapters).1 := by
  have above := Adapters.le_firstNull (mLocAdapters.set i none) (i + 1)
  exact Nat.le_sub_one_of_lt above

section

variable [DecidableEq Adapter] (mEvtMask : Adapter → EventMask) (adapter : Adapter)

/-- The loop of `LocApiBase::addAdapter` from an index on. -/
def addFrom (i : Nat) (σ : LocApiBase Adapter) : LocApiBase Adapter :=
  if bound : i < MAX_ADAPTERS then
    if σ.mLocAdapters[i] = some adapter then σ
    else if σ.mLocAdapters[i] = none then
      sendMsg (mEvtMask adapter)
        { σ with mLocAdapters := σ.mLocAdapters.set i (some adapter) }
    else addFrom (i + 1) σ
  else σ
termination_by MAX_ADAPTERS - i

def addAdapter (σ : LocApiBase Adapter) : LocApiBase Adapter :=
  σ.addFrom mEvtMask adapter 0

/-- The loop of `LocApiBase::removeAdapter` from an index on. -/
def removeFrom (i : Nat) (σ : LocApiBase Adapter) : LocApiBase Adapter :=
  if bound : i < MAX_ADAPTERS then
    match σ.mLocAdapters[i] with
    | none => σ
    | some found =>
        if found = adapter then
          let removed := removeAt i bound σ.mLocAdapters
          let rest := { σ with mLocAdapters := removed.2 }
          removeFrom (removed.1 + 1)
            (if removed.1 = 0 then rest.close else rest.sendMsg (rest.getEvtMask mEvtMask))
        else removeFrom (i + 1) σ
  else σ
termination_by MAX_ADAPTERS - i
decreasing_by
  · have further := le_removeAt i bound σ.mLocAdapters
    omega
  · omega

def removeAdapter (σ : LocApiBase Adapter) : LocApiBase Adapter :=
  σ.removeFrom mEvtMask adapter 0

theorem addFrom_excluded (i : Nat) (σ : LocApiBase Adapter) :
    (σ.addFrom mEvtMask adapter i).mExcludedMask = σ.mExcludedMask := by
  fun_induction addFrom mEvtMask adapter i σ with
  | case1 => rfl
  | case2 => rfl
  | case3 i bound other some ih => exact ih
  | case4 => rfl

theorem removeFrom_excluded (i : Nat) (σ : LocApiBase Adapter) :
    (σ.removeFrom mEvtMask adapter i).mExcludedMask = σ.mExcludedMask := by
  fun_induction removeFrom mEvtMask adapter i σ with
  | case1 => rfl
  | case2 i σ bound removed rest found ih =>
      apply ih.trans
      split <;> rfl
  | case3 i σ bound other found differs ih => exact ih
  | case4 => rfl

end

end LocApiBase

end A5Common.Core
