import A5Common.Core.Registered
import Mathlib.Logic.Function.Basic

set_option autoImplicit false

namespace A5Common.Core

open A5Common.Run

/-- The messages of a `LocApiBase` to its message thread. -/
inductive LocApiMsg where
  | locOpenMsg (mMask : EventMask)
  | locSsrMsg
deriving DecidableEq

/-- The adapters of a `LocApiBase` with their masks, and the messages that are queued.
`opened` has the events it was opened with since it was last closed. -/
structure Registration (Adapter : Type) where
  registry : Registry Adapter
  mEvtMask : Adapter → EventMask
  queue : List LocApiMsg
  opened : EventMask

variable {Adapter : Type} [DecidableEq Adapter]

namespace Registration

def getEvtMask (σ : Registration Adapter) : EventMask :=
  σ.registry.api.getEvtMask σ.mEvtMask

/-- `LocApiBase::open` -/
def openApi (mask : EventMask) (σ : Registration Adapter) : Registration Adapter :=
  { σ with opened := σ.opened ||| mask }

/-- `LocApiBase::close` -/
def closeApi (σ : Registration Adapter) : Registration Adapter := { σ with opened := 0 }

def sendMsg (msg : LocApiMsg) (σ : Registration Adapter) : Registration Adapter :=
  { σ with queue := σ.queue ++ [msg] }

def made (σ : Registration Adapter) : ApiCall → Registration Adapter
  | .sendOpen mMask => σ.sendMsg (.locOpenMsg mMask)
  | .close => σ.closeApi

/-- A call on the `LocApiBase`, with what it makes happen. -/
def call (next : Registry.Call Adapter) (σ : Registration Adapter) : Registration Adapter :=
  let called := σ.registry.call next
  (called.api.calls.drop σ.registry.api.calls.length).foldl made { σ with registry := called }

/-- The constructor of `LocAdapterBase`. -/
def construct (adapter : Adapter) (mask : EventMask) (σ : Registration Adapter) :
    Registration Adapter :=
  let mEvtMask := Function.update σ.mEvtMask adapter mask
  call (.addAdapter mEvtMask adapter) { σ with mEvtMask }

/-- The destructor of `LocAdapterBase`. -/
def destruct (adapter : Adapter) (σ : Registration Adapter) : Registration Adapter :=
  call (.removeAdapter σ.mEvtMask adapter) σ

/-- `LocAdapterBase::updateEvtMask`, which ends in `LocApiBase::updateEvtMask`. -/
def updateEvtMask (adapter : Adapter) (event : EventMask) (isEnabled : Bool)
    (σ : Registration Adapter) : Registration Adapter :=
  let mask := if isEnabled then σ.mEvtMask adapter ||| event else σ.mEvtMask adapter &&& ~~~ event
  let σ := { σ with mEvtMask := Function.update σ.mEvtMask adapter mask }
  σ.sendMsg (.locOpenMsg σ.getEvtMask)

/-- What a message does when its turn comes. -/
def proc (σ : Registration Adapter) : LocApiMsg → Registration Adapter
  | .locOpenMsg mMask => σ.openApi mMask
  | .locSsrMsg => σ.closeApi.openApi σ.getEvtMask

inductive Label (Adapter : Type) where
  | construct (adapter : Adapter) (mask : EventMask)
  | destruct (adapter : Adapter)
  | updateEvtMask (adapter : Adapter) (event : EventMask) (isEnabled : Bool)
  | handleEngineUpEvent
  | proc

/-- There is a slot for an adapter that is constructed. -/
def room (σ : Registration Adapter) : Label Adapter → Bool
  | .construct _ _ => σ.registry.registered.length < MAX_ADAPTERS
  | _ => true

end Registration

/-- The adapters of a `LocApiBase`, the engine's restarts and the message thread, in any order.
Each constructor, destructor and update of a mask and each message that is handled is one step
that is not divided, whichever thread it is in. -/
def registration (mExcludedMask : EventMask) :
    System (Registration Adapter) (Registration.Label Adapter) where
  initial σ := ∃ mEvtMask, σ = ⟨⟨.new mExcludedMask, []⟩, mEvtMask, [], 0⟩
  step σ
    | .construct adapter mask =>
        if adapter ∈ σ.registry.registered then none else some (σ.construct adapter mask)
    | .destruct adapter => some (σ.destruct adapter)
    | .updateEvtMask adapter event isEnabled =>
        if adapter ∈ σ.registry.registered then some (σ.updateEvtMask adapter event isEnabled)
        else none
    | .handleEngineUpEvent => some (σ.sendMsg .locSsrMsg)
    | .proc =>
        match σ.queue with
        | [] => none
        | msg :: queue => some (({ σ with queue } : Registration Adapter).proc msg)

namespace Registration

/-- A registered adapter wants the event, and it is not excluded. -/
def Wanted (σ : Registration Adapter) (bit : Nat) : Prop :=
  σ.getEvtMask.getLsbD bit = true

/-- The message opens the event, at the latest when its turn comes. -/
def Brings (bit : Nat) : LocApiMsg → Prop
  | .locOpenMsg mMask => mMask.getLsbD bit = true
  | .locSsrMsg => True

/-- The slots hold what is registered, and a wanted event that is not open is on its way. -/
structure Sound (σ : Registration Adapter) : Prop where
  registry : σ.registry.Sound
  covered : ∀ bit, σ.Wanted bit →
    σ.opened.getLsbD bit = true ∨ ∃ msg ∈ σ.queue, Brings bit msg

omit [DecidableEq Adapter] in
theorem wanted_iff {σ : Registration Adapter} (sound : σ.registry.Sound) (bit : Nat) :
    σ.Wanted bit ↔ (∃ adapter ∈ σ.registry.registered, (σ.mEvtMask adapter).getLsbD bit = true) ∧
      σ.registry.api.mExcludedMask.getLsbD bit = false := by
  obtain ⟨adapters, holds, same⟩ := sound
  unfold Wanted getEvtMask
  by_cases inside : bit < 32
  · rw [LocApiBase.getEvtMask_bit holds σ.mEvtMask bit inside, same.any_eq, Bool.and_eq_true,
      List.any_eq_true, Bool.not_eq_true']
  · have outside : ∀ mask : EventMask, mask.getLsbD bit = false :=
      fun mask => BitVec.getLsbD_of_ge mask bit (Nat.le_of_not_lt inside)
    simp [outside]

section Made

variable (made : List ApiCall) (σ : Registration Adapter)

theorem call_eq {next : Registry.Call Adapter}
    (calls : (σ.registry.call next).api.calls = σ.registry.api.calls ++ made) :
    σ.call next = made.foldl Registration.made { σ with registry := σ.registry.call next } := by
  unfold call
  simp only [calls, List.drop_left]

omit [DecidableEq Adapter] in
theorem foldl_made_adapters :
    (made.foldl Registration.made σ).registry = σ.registry ∧
      (made.foldl Registration.made σ).mEvtMask = σ.mEvtMask := by
  induction made generalizing σ with
  | nil => exact ⟨rfl, rfl⟩
  | cons call rest ih =>
      cases call with
      | sendOpen mMask => exact ih _
      | close => exact ih _

omit [DecidableEq Adapter] in
/-- Without a close nothing that was open, or on its way, is lost. -/
theorem foldl_made_kept (kept : made.count .close = 0) :
    (made.foldl Registration.made σ).opened = σ.opened ∧
      ∀ msg ∈ σ.queue, msg ∈ (made.foldl Registration.made σ).queue := by
  induction made generalizing σ with
  | nil => exact ⟨rfl, fun _ member => member⟩
  | cons call rest ih =>
      cases call with
      | sendOpen mMask =>
          rw [List.count_cons_of_ne (by simp)] at kept
          obtain ⟨opened, queue⟩ := ih (σ.sendMsg (.locOpenMsg mMask)) kept
          exact ⟨opened, fun msg member => queue msg (List.mem_append_left _ member)⟩
      | close =>
          rw [List.count_cons_self] at kept
          omega

end Made

theorem call_excluded (next : Registry.Call Adapter) (σ : Registration Adapter) :
    (σ.call next).registry.api.mExcludedMask = σ.registry.api.mExcludedMask := by
  unfold call
  dsimp only
  rw [(foldl_made_adapters _ _).1]
  exact σ.registry.call_excluded next

/-- An adapter brings its own events, and changes no other's mask. -/
theorem Sound.construct {σ : Registration Adapter} (sound : σ.Sound) {adapter : Adapter}
    (absent : adapter ∉ σ.registry.registered)
    (few : σ.registry.registered.length < MAX_ADAPTERS) (mask : EventMask) :
    (σ.construct adapter mask).Sound := by
  let mEvtMask := Function.update σ.mEvtMask adapter mask
  let next : Registry.Call Adapter := .addAdapter mEvtMask adapter
  have registered : (σ.registry.call next).registered = adapter :: σ.registry.registered :=
    if_neg absent
  have enough : Registry.FewEnough σ.registry next := by
    show (σ.registry.call next).registered.length ≤ MAX_ADAPTERS
    rw [registered]
    exact few
  have stored := sound.registry.addAdapter enough
  have calls : (σ.registry.call next).api.calls = σ.registry.api.calls ++ [.sendOpen mask] := by
    obtain ⟨adapters, holds, same⟩ := sound.registry
    have added := LocApiBase.addFrom_new mEvtMask holds (i := 0)
      (fun member => absent (same.mem_iff.mp member)) (Nat.zero_le _)
      (by rw [same.length_eq]; exact few)
    show (σ.registry.api.addFrom mEvtMask adapter 0).calls = _
    rw [added]
    simp only [LocApiBase.sendMsg, mEvtMask, Function.update_self]
  have after : σ.construct adapter mask =
      { registry := σ.registry.call next, mEvtMask,
        queue := σ.queue ++ [.locOpenMsg mask], opened := σ.opened } :=
    call_eq [.sendOpen mask] { σ with mEvtMask } calls
  rw [after]
  refine ⟨stored, fun bit wanted => ?_⟩
  rw [wanted_iff stored] at wanted
  obtain ⟨⟨other, member, bitSet⟩, included⟩ := wanted
  rw [σ.registry.call_excluded] at included
  simp only [registered, List.mem_cons] at member
  by_cases own : other = adapter
  · subst own
    simp only [mEvtMask, Function.update_self] at bitSet
    exact .inr ⟨.locOpenMsg mask, by simp, bitSet⟩
  · simp only [mEvtMask, Function.update_of_ne own] at bitSet
    have before : σ.Wanted bit := (wanted_iff sound.registry bit).mpr
      ⟨⟨other, member.resolve_left own, bitSet⟩, included⟩
    rcases sound.covered bit before with opened | ⟨msg, queued, brings⟩
    · exact .inl opened
    · exact .inr ⟨msg, List.mem_append_left _ queued, brings⟩

/-- The api is closed only when the last adapter goes. -/
theorem Sound.destruct {σ : Registration Adapter} (sound : σ.Sound) (adapter : Adapter) :
    (σ.destruct adapter).Sound := by
  let next : Registry.Call Adapter := .removeAdapter σ.mEvtMask adapter
  obtain ⟨stored, made, calls, closes⟩ := sound.registry.removeAdapter σ.mEvtMask adapter
  have after : σ.destruct adapter =
      made.foldl Registration.made { σ with registry := σ.registry.call next } :=
    call_eq made σ calls
  obtain ⟨registry, masks⟩ :=
    foldl_made_adapters made { σ with registry := σ.registry.call next }
  rw [after]
  refine ⟨by rw [registry]; exact stored, fun bit wanted => ?_⟩
  rw [wanted_iff (by rw [registry]; exact stored), registry, masks] at wanted
  obtain ⟨⟨other, member, bitSet⟩, included⟩ := wanted
  rw [σ.registry.call_excluded] at included
  have member : other ∈ σ.registry.registered.erase adapter := member
  have last : σ.registry.registered ≠ [adapter] := by
    intro only
    rw [only, List.erase_cons_head] at member
    cases member
  rw [if_neg last] at closes
  obtain ⟨opened, queue⟩ :=
    foldl_made_kept made { σ with registry := σ.registry.call next } closes
  have before : σ.Wanted bit := (wanted_iff sound.registry bit).mpr
    ⟨⟨other, List.mem_of_mem_erase member, bitSet⟩, included⟩
  rw [opened]
  rcases sound.covered bit before with opened | ⟨msg, queued, brings⟩
  · exact .inl opened
  · exact .inr ⟨msg, queue msg queued, brings⟩

omit [DecidableEq Adapter] in
theorem Sound.proc {σ : Registration Adapter} (sound : σ.Sound) {msg : LocApiMsg}
    {queue : List LocApiMsg} (head : σ.queue = msg :: queue) :
    (({ σ with queue } : Registration Adapter).proc msg).Sound := by
  cases msg with
  | locOpenMsg mMask =>
      refine ⟨sound.registry, fun bit wanted => ?_⟩
      simp only [Registration.proc, openApi, BitVec.getLsbD_or, Bool.or_eq_true]
      rcases sound.covered bit wanted with opened | ⟨msg, queued, brings⟩
      · exact .inl (.inl opened)
      · rw [head] at queued
        rcases List.mem_cons.mp queued with rfl | later
        · exact .inl (.inr brings)
        · exact .inr ⟨msg, later, brings⟩
  | locSsrMsg =>
      refine ⟨sound.registry, fun bit wanted => .inl ?_⟩
      simp only [Registration.proc, openApi, closeApi, BitVec.getLsbD_or, Bool.or_eq_true]
      exact .inr wanted

/-- The runs in which every adapter that is constructed finds a slot. -/
abbrev Ran (mExcludedMask : EventMask) (σ : Registration Adapter) : Prop :=
  (registration mExcludedMask).ReachableUnder (fun σ label => σ.room label = true) σ

theorem Ran.sound {mExcludedMask : EventMask} {σ : Registration Adapter}
    (run : Ran mExcludedMask σ) :
    σ.Sound ∧ σ.registry.api.mExcludedMask = mExcludedMask := by
  refine System.ReachableUnder.invariant
    (fun σ => σ.Sound ∧ σ.registry.api.mExcludedMask = mExcludedMask) ?_ ?_ run
  · rintro σ ⟨mEvtMask, rfl⟩
    have empty : Registry.Sound ⟨LocApiBase.new mExcludedMask, ([] : List Adapter)⟩ :=
      ⟨[], ⟨List.nodup_nil, Nat.zero_le _, fun i bound => Vector.getElem_replicate bound⟩, .refl _⟩
    refine ⟨⟨empty, fun bit wanted => ?_⟩, rfl⟩
    obtain ⟨⟨_, member, -⟩, -⟩ := (wanted_iff empty bit).mp wanted
    cases member
  · rintro before label after - ⟨sound, excluded⟩ room taken
    cases label with
    | construct adapter mask =>
        simp only [registration] at taken
        split at taken
        · cases taken
        · rename_i absent
          cases taken
          have few : before.registry.registered.length < MAX_ADAPTERS := by
            simpa [Registration.room] using room
          exact ⟨sound.construct absent few mask, (call_excluded _ _).trans excluded⟩
    | destruct adapter =>
        cases taken
        exact ⟨sound.destruct adapter, (call_excluded _ _).trans excluded⟩
    | updateEvtMask adapter event isEnabled =>
        simp only [registration] at taken
        split at taken
        · cases taken
          exact ⟨⟨sound.registry, fun bit wanted => .inr ⟨_, List.mem_append_right _
            (List.mem_singleton_self _), wanted⟩⟩, excluded⟩
        · cases taken
    | handleEngineUpEvent =>
        cases taken
        exact ⟨⟨sound.registry, fun bit _ => .inr ⟨.locSsrMsg, List.mem_append_right _
          (List.mem_singleton_self _), trivial⟩⟩, excluded⟩
    | proc =>
        simp only [registration] at taken
        split at taken
        · cases taken
        · rename_i msg queue head
          cases taken
          refine ⟨sound.proc head, ?_⟩
          cases msg <;> exact excluded

/-- The message thread handles what is queued, and nothing else. -/
theorem Ran.exec_drain {mExcludedMask : EventMask} {σ : Registration Adapter}
    (run : σ.Ran mExcludedMask) :
    ∃ idle, (registration mExcludedMask).exec σ
        (List.replicate σ.queue.length .proc) = some idle ∧ idle.Ran mExcludedMask ∧
      idle.queue = [] ∧ idle.registry = σ.registry ∧ idle.mEvtMask = σ.mEvtMask := by
  generalize queued : σ.queue = queue
  induction queue generalizing σ with
  | nil => exact ⟨σ, rfl, run, queued, rfl, rfl⟩
  | cons msg rest ih =>
      let next : Registration Adapter := ({ σ with queue := rest } : Registration Adapter).proc msg
      have taken : (registration mExcludedMask).step σ .proc = some next := by
        simp only [registration, queued, next]
      have later : next.queue = rest := by
        cases msg <;> rfl
      obtain ⟨idle, ran, after, empty, registry, masks⟩ := ih (.next run rfl taken) later
      refine ⟨idle, ?_, after, empty, registry.trans ?_, masks.trans ?_⟩
      · unfold System.exec at ran ⊢
        rw [List.length_cons, List.replicate_succ, System.execUnder, if_pos trivial, taken,
          Option.bind_some, ran]
      · cases msg <;> rfl
      · cases msg <;> rfl

end Registration

/-- No event that a registered adapter wants is lost: whatever the order of
constructions, destructions, mask updates, engine restarts and handled messages, once
the messages that are queued have been handled the api is open with it, unless it is
excluded. -/
theorem registered_events_open {mExcludedMask : EventMask} {σ : Registration Adapter}
    (run : σ.Ran mExcludedMask) {adapter : Adapter}
    (member : adapter ∈ σ.registry.registered) {bit : Nat}
    (wants : (σ.mEvtMask adapter).getLsbD bit = true)
    (included : mExcludedMask.getLsbD bit = false) :
    ∃ idle, (registration mExcludedMask).exec σ
        (List.replicate σ.queue.length .proc) = some idle ∧
      idle.queue = [] ∧ idle.opened.getLsbD bit = true := by
  obtain ⟨idle, ran, after, empty, registry, masks⟩ := run.exec_drain
  obtain ⟨sound, excluded⟩ := after.sound
  have wanted : idle.Wanted bit := by
    rw [Registration.wanted_iff sound.registry, registry, masks]
    rw [registry] at excluded
    exact ⟨⟨adapter, member, wants⟩, by rw [excluded]; exact included⟩
  refine ⟨idle, ran, empty, ?_⟩
  rcases sound.covered bit wanted with opened | ⟨msg, queued, -⟩
  · exact opened
  · rw [empty] at queued
    cases queued

/-- Two adapters, the first of which gives up an event while the engine restarts. -/
theorem registered_events_open_restart :
    ∃ σ : Registration (Fin 3), (registration 4).execUnder (fun σ label => σ.room label = true)
        ⟨⟨.new 4, []⟩, fun _ => 0, [], 0⟩
        [.construct 1 3, .proc, .construct 2 12, .handleEngineUpEvent, .updateEvtMask 1 1 false,
          .proc, .proc] = some σ ∧
      (2 ∈ σ.registry.registered ∧ (σ.mEvtMask 2).getLsbD 3 = true) ∧
      ∃ idle, (registration 4).exec σ (List.replicate σ.queue.length .proc) = some idle ∧
        idle.queue = [] ∧ idle.opened.getLsbD 3 = true := by
  have first : (registration 4).initial
      (⟨⟨.new 4, []⟩, fun _ => 0, [], 0⟩ : Registration (Fin 3)) := ⟨_, rfl⟩
  exact System.execUnder_then first
    (fun σ run seen => registered_events_open run seen.1 seen.2 (by decide)) (by decide +kernel)

end A5Common.Core
