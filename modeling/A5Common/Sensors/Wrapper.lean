import A5Common.Run.Blocks
import A5Common.Run.System

set_option autoImplicit false

namespace A5Common.Sensors

open A5Common.Run

def ENOMEM : Int := 12

def ENODEV : Int := 19

/-- The vendor devices are the blocks of this heap, all else are addresses. -/
abbrev Ptr := Pointer Nat

/-- The globals. The session that is open is recorded by its vendor device, and so is an
open that failed for no other reason than the wrapper. -/
structure Wrapper where
  gVendorModule : Bool
  samsung_hw_dev : Option Ptr
  heap : Blocks Nat
  session : Option Nat
  refused : Bool
  crashed : Bool

/-- What the calls of an open come to: `hw_get_module_by_class`, the vendor's `open` with
what it leaves in `samsung_hw_dev` if it fails, and `malloc`. What is in the local variable
`dev` at the beginning is not known. -/
structure Attempt where
  module : Int
  vendor : Int
  left : Option Ptr
  malloc : Option Nat
  dev : Option Ptr

inductive Label where
  | open (attempt : Attempt)
  | close (device : Option Nat) (vendorClose : Option Nat → Int)

namespace Wrapper

def checkVendorModule (σ : Wrapper) (found : Int) : Int × Wrapper :=
  if σ.gVendorModule = true then (0, σ)
  else (found, { σ with gVendorModule := decide (found = 0) })

/-- The label at which all failures end. To free the null pointer does nothing. -/
def fail (σ : Wrapper) (dev : Option Ptr) : Wrapper :=
  { σ with
    samsung_hw_dev := none
    heap := (σ.heap.free σ.samsung_hw_dev).free dev }

/-- The result, what is in `*device`, and the globals. `dev` is set only on the way out. -/
def sensorsModuleOpen (σ : Wrapper) (attempt : Attempt) : Int × Option Nat × Wrapper :=
  if σ.samsung_hw_dev.isSome = true then (-ENODEV, none, σ.fail attempt.dev)
  else
    let (ret, σ) := σ.checkVendorModule attempt.module
    if ret ≠ 0 then (ret, none, σ.fail attempt.dev)
    else if attempt.vendor ≠ 0 then
      (attempt.vendor, none, { σ with samsung_hw_dev := attempt.left }.fail attempt.dev)
    else
      let σ := { σ with samsung_hw_dev := some (.block σ.heap.next), heap := σ.heap.alloc }
      match attempt.malloc with
      | none => (-ENOMEM, none, σ.fail attempt.dev)
      | some device => (0, some device, σ)

/-- That there is no device is an error, but nothing is returned for it, and what the vendor
says of it is the result. The vendor's function cannot be found without its device. -/
def wrapperSensorsModuleClose (σ : Wrapper) (device : Option Nat)
    (vendorClose : Option Nat → Int) : Option (Int × Wrapper) :=
  match σ.samsung_hw_dev with
  | none => none
  | some vendor => some (vendorClose device, { σ with heap := σ.heap.free (some vendor) })

/-- There is a vendor module, or it can be found. -/
def Finds (σ : Wrapper) (attempt : Attempt) : Prop :=
  σ.gVendorModule = true ∨ attempt.module = 0

instance (σ : Wrapper) (attempt : Attempt) : Decidable (σ.Finds attempt) :=
  inferInstanceAs (Decidable (_ ∨ _))

/-- All that the open calls comes out well. -/
def Good (σ : Wrapper) (attempt : Attempt) : Prop :=
  σ.Finds attempt ∧ attempt.vendor = 0 ∧ attempt.malloc.isSome = true

instance (σ : Wrapper) (attempt : Attempt) : Decidable (σ.Good attempt) :=
  inferInstanceAs (Decidable (_ ∧ _))

def opens (σ : Wrapper) (attempt : Attempt) : Wrapper :=
  let (ret, _, after) := σ.sensorsModuleOpen attempt
  if ret = 0 then { after with session := some σ.heap.next }
  else { after with refused := σ.refused || decide (σ.session = none ∧ σ.Good attempt) }

def closes (σ : Wrapper) (device : Option Nat) (vendorClose : Option Nat → Int) : Wrapper :=
  match σ.wrapperSensorsModuleClose device vendorClose with
  | none => { σ with crashed := true }
  | some (_, after) => { after with session := none }

def step (σ : Wrapper) : Label → Option Wrapper
  | .open attempt => if σ.crashed = true then none else some (σ.opens attempt)
  | .close device vendorClose =>
      if σ.crashed = true then none else some (σ.closes device vendorClose)

end Wrapper

def Wrapper.new : Wrapper where
  gVendorModule := false
  samsung_hw_dev := none
  heap := .fresh
  session := none
  refused := false
  crashed := false

def sensors : System Wrapper Label where
  initial σ := σ = .new
  step := Wrapper.step

namespace Wrapper

/-- The device of a session that is open is there and is the one that the wrapped functions
call. Nothing but vendor devices has been freed, and each of them once, but for the one of
the session. No open failed without a session or another reason. -/
structure Disciplined (σ : Wrapper) : Prop where
  alive : σ.crashed = false
  intact : ∀ vendor ∈ σ.session,
    σ.samsung_hw_dev = some (.block vendor) ∧ Pointer.block vendor ∉ σ.heap.freed
  accounted : σ.heap.Accounted σ.session
  reopened : σ.refused = false

/-- An open finds no pointer to a device, and if it fails it finds none in its local
variable either, and the vendor has left none. Only a session that is open is closed. -/
def careful (σ : Wrapper) : Label → Prop
  | .open attempt =>
      σ.samsung_hw_dev = none ∧
        (σ.Good attempt ∨
          attempt.dev = none ∧ (σ.Finds attempt → attempt.vendor ≠ 0 → attempt.left = none))
  | .close _ _ => σ.session.isSome = true

instance (σ : Wrapper) (label : Label) : Decidable (σ.careful label) :=
  match label with
  | .open _ => inferInstanceAs (Decidable (_ ∧ _))
  | .close _ _ => inferInstanceAs (Decidable (_ = _))

/-- The ways that an open can go. -/
inductive Opens (σ : Wrapper) (attempt : Attempt) : Wrapper → Prop where
  | already (vendor : Ptr) (there : σ.samsung_hw_dev = some vendor) :
      Opens σ attempt { σ with
        samsung_hw_dev := none
        heap := (σ.heap.free (some vendor)).free attempt.dev
        refused := σ.refused || decide (σ.session = none ∧ σ.Good attempt) }
  | unfound (closed : σ.samsung_hw_dev = none) (unfound : ¬ σ.Finds attempt) :
      Opens σ attempt { σ with samsung_hw_dev := none, heap := σ.heap.free attempt.dev }
  | unopened (closed : σ.samsung_hw_dev = none) (found : σ.Finds attempt)
      (failed : attempt.vendor ≠ 0) :
      Opens σ attempt { σ with
        gVendorModule := true
        samsung_hw_dev := none
        heap := (σ.heap.free attempt.left).free attempt.dev }
  | noMemory (closed : σ.samsung_hw_dev = none) (found : σ.Finds attempt)
      (opened : attempt.vendor = 0) (none_left : attempt.malloc = none) :
      Opens σ attempt { σ with
        gVendorModule := true
        samsung_hw_dev := none
        heap := (σ.heap.alloc.free (some (.block σ.heap.next))).free attempt.dev }
  | opened (closed : σ.samsung_hw_dev = none) (good : σ.Good attempt) :
      Opens σ attempt { σ with
        gVendorModule := true
        samsung_hw_dev := some (.block σ.heap.next)
        heap := σ.heap.alloc
        session := some σ.heap.next }

theorem checkVendorModule_found {σ : Wrapper} {attempt : Attempt} (found : σ.Finds attempt) :
    σ.checkVendorModule attempt.module = (0, { σ with gVendorModule := true }) := by
  unfold checkVendorModule
  by_cases had : σ.gVendorModule = true
  · rw [if_pos had, ← had]
  · have now := found.resolve_left had
    rw [if_neg had, now]
    rfl

theorem checkVendorModule_unfound {σ : Wrapper} {attempt : Attempt}
    (unfound : ¬ σ.Finds attempt) :
    attempt.module ≠ 0 ∧ σ.checkVendorModule attempt.module = (attempt.module, σ) := by
  have had : ¬ σ.gVendorModule = true := fun had => unfound (Or.inl had)
  have now : ¬ attempt.module = 0 := fun now => unfound (Or.inr now)
  refine ⟨now, ?_⟩
  unfold checkVendorModule
  rw [if_neg had, decide_eq_false now, ← eq_false_of_ne_true had]

/-- An open that fails, and would have anyway, only leaves what it has done to the globals. -/
theorem opens_failed {σ after : Wrapper} {attempt : Attempt} {ret : Int} {device : Option Nat}
    (run : σ.sensorsModuleOpen attempt = (ret, device, after)) (failed : ret ≠ 0)
    (bad : ¬ σ.Good attempt) : σ.opens attempt = { after with refused := σ.refused } := by
  have reason : ¬ (σ.session = none ∧ σ.Good attempt) := fun both => bad both.2
  unfold opens
  rw [run]
  dsimp only
  rw [if_neg failed, decide_eq_false reason, Bool.or_false]

/-- What is left of an open that has its vendor module. -/
theorem sensorsModuleOpen_found {σ : Wrapper} {attempt : Attempt}
    (closed : σ.samsung_hw_dev = none) (found : σ.Finds attempt) :
    σ.sensorsModuleOpen attempt =
      if attempt.vendor ≠ 0 then
        (attempt.vendor, none,
          { σ with gVendorModule := true, samsung_hw_dev := attempt.left }.fail attempt.dev)
      else
        let opened : Wrapper := { σ with
          gVendorModule := true
          samsung_hw_dev := some (.block σ.heap.next)
          heap := σ.heap.alloc }
        match attempt.malloc with
        | none => (-ENOMEM, none, opened.fail attempt.dev)
        | some device => (0, some device, opened) := by
  unfold sensorsModuleOpen
  rw [if_neg (by rw [closed]; exact Bool.false_ne_true), checkVendorModule_found found]
  exact if_neg (not_not.mpr rfl)

theorem opens_cases (σ : Wrapper) (attempt : Attempt) : σ.Opens attempt (σ.opens attempt) := by
  cases there : σ.samsung_hw_dev with
  | some vendor =>
      have run : σ.sensorsModuleOpen attempt = (-ENODEV, none, σ.fail attempt.dev) := by
        unfold sensorsModuleOpen
        rw [there]
        rfl
      unfold opens
      rw [run]
      dsimp only
      rw [if_neg (by decide), fail, there]
      exact .already vendor there
  | none =>
      by_cases found : σ.Finds attempt
      · have run := sensorsModuleOpen_found there found
        by_cases opened : attempt.vendor = 0
        · rw [if_neg (not_not.mpr opened)] at run
          cases malloc : attempt.malloc with
          | none =>
              rw [malloc] at run
              have bad : ¬ σ.Good attempt := by
                intro good
                rw [Good, malloc] at good
                cases good.2.2
              rw [opens_failed run (by decide) bad]
              exact .noMemory there found opened malloc
          | some device =>
              rw [malloc] at run
              unfold opens
              rw [run]
              exact .opened there ⟨found, opened, by rw [malloc]; rfl⟩
        · rw [if_pos opened] at run
          rw [opens_failed run opened (fun good => opened good.2.1)]
          exact .unopened there found opened
      · obtain ⟨nonzero, check⟩ := checkVendorModule_unfound found
        have run : σ.sensorsModuleOpen attempt =
            (attempt.module, none, σ.fail attempt.dev) := by
          unfold sensorsModuleOpen
          rw [if_neg (by rw [there]; exact Bool.false_ne_true), check]
          exact if_pos nonzero
        rw [opens_failed run nonzero (fun good => found good.1), fail, there]
        exact .unfound there found

theorem closes_there {σ : Wrapper} {vendor : Ptr} (there : σ.samsung_hw_dev = some vendor)
    (device : Option Nat) (vendorClose : Option Nat → Int) :
    σ.closes device vendorClose =
      { σ with heap := σ.heap.free (some vendor), session := none } := by
  unfold closes wrapperSensorsModuleClose
  rw [there]

theorem closes_gone {σ : Wrapper} (gone : σ.samsung_hw_dev = none) (device : Option Nat)
    (vendorClose : Option Nat → Int) :
    σ.closes device vendorClose = { σ with crashed := true } := by
  unfold closes wrapperSensorsModuleClose
  rw [gone]

/-- A pointer that is kept is one to a device that the vendor has handed out. -/
structure Invariant (σ : Wrapper) : Prop where
  disciplined : σ.Disciplined
  handed : ∀ vendor ∈ σ.samsung_hw_dev,
    ∃ number, number < σ.heap.next ∧ vendor = .block number

theorem Disciplined.no_session {σ : Wrapper} (disciplined : σ.Disciplined)
    (closed : σ.samsung_hw_dev = none) : σ.session = none := by
  cases session : σ.session with
  | none => rfl
  | some vendor =>
      have there := (disciplined.intact vendor session).1
      rw [closed] at there
      cases there

/-- Without a session and a pointer only what has been freed matters. -/
theorem invariant_closed {σ : Wrapper} (alive : σ.crashed = false)
    (closed : σ.samsung_hw_dev = none) (no_session : σ.session = none)
    (accounted : σ.heap.Accounted none) (reopened : σ.refused = false) : σ.Invariant where
  disciplined := by
    refine ⟨alive, ?_, ?_, reopened⟩
    · intro vendor session
      rw [no_session] at session
      cases session
    · rw [no_session]
      exact accounted
  handed := by
    intro vendor there
    rw [closed] at there
    cases there

theorem Invariant.opens {σ τ : Wrapper} (invariant : σ.Invariant) {attempt : Attempt}
    (opens : σ.Opens attempt τ) (met : σ.careful (.open attempt)) : τ.Invariant := by
  obtain ⟨closed, met⟩ := met
  obtain ⟨alive, -, accounted, reopened⟩ := invariant.disciplined
  have no_session := invariant.disciplined.no_session closed
  rw [no_session] at accounted
  cases opens with
  | already vendor there =>
      rw [closed] at there
      cases there
  | unfound _ unfound =>
      obtain ⟨dev, -⟩ := met.resolve_left (fun good => unfound good.1)
      rw [dev]
      exact invariant_closed alive rfl no_session accounted reopened
  | unopened _ found failed =>
      obtain ⟨dev, left⟩ := met.resolve_left (fun good => failed good.2.1)
      rw [dev, left found failed]
      exact invariant_closed alive rfl no_session accounted reopened
  | noMemory _ found opened none_left =>
      have bad : ¬ σ.Good attempt := by
        intro good
        rw [Good, none_left] at good
        cases good.2.2
      obtain ⟨dev, -⟩ := met.resolve_left bad
      rw [dev]
      have released := accounted.alloc.free (Nat.lt_succ_self _)
      exact invariant_closed alive rfl no_session released reopened
  | opened =>
      refine ⟨⟨alive, ?_, accounted.alloc, reopened⟩, ?_⟩
      · intro vendor session
        cases session
        exact ⟨rfl, List.count_eq_zero.mp accounted.count_next⟩
      · intro vendor there
        cases there
        exact ⟨σ.heap.next, Nat.lt_succ_self _, rfl⟩

/-- An open that does not meet the condition breaks the law at once. -/
theorem Invariant.misopens {σ τ : Wrapper} (invariant : σ.Invariant) {attempt : Attempt}
    (opens : σ.Opens attempt τ) (unmet : ¬ σ.careful (.open attempt)) : ¬ τ.Disciplined := by
  obtain ⟨-, -, accounted, -⟩ := invariant.disciplined
  have closed_unmet (closed : σ.samsung_hw_dev = none) :
      attempt.dev = none → ¬ (σ.Finds attempt → attempt.vendor ≠ 0 → attempt.left = none) :=
    fun dev left => unmet ⟨closed, Or.inr ⟨dev, left⟩⟩
  have closed_accounted (closed : σ.samsung_hw_dev = none) : σ.heap.Accounted none := by
    rw [← invariant.disciplined.no_session closed]
    exact accounted
  intro after
  cases opens with
  | already vendor there =>
      cases session : σ.session with
      | some open_one =>
          -- the session keeps its device, and the pointer to it is gone
          have kept := (after.intact open_one session).1
          cases kept
      | none =>
          rw [session] at accounted
          obtain ⟨null, -⟩ := accounted.nothing_freed after.accounted
          cases null
  | unfound closed unfound =>
      have freed : ((σ.heap.free none).free attempt.dev).Accounted _ := after.accounted
      obtain ⟨-, dev⟩ := (closed_accounted closed).nothing_freed freed
      exact closed_unmet closed dev (fun found => absurd found unfound)
  | unopened closed found failed =>
      obtain ⟨left, dev⟩ := (closed_accounted closed).nothing_freed after.accounted
      exact closed_unmet closed dev (fun _ _ => left)
  | noMemory closed found opened none_left =>
      have released := (closed_accounted closed).alloc.free (Nat.lt_succ_self _)
      have freed : (((σ.heap.alloc.free (some (.block σ.heap.next))).free none).free
          attempt.dev).Accounted _ := after.accounted
      obtain ⟨-, dev⟩ := released.nothing_freed freed
      exact closed_unmet closed dev (fun _ failed => absurd opened failed)
  | opened closed good => exact unmet ⟨closed, Or.inl good⟩

theorem Invariant.closes {σ : Wrapper} (invariant : σ.Invariant) {device : Option Nat}
    {vendorClose : Option Nat → Int} (met : σ.careful (.close device vendorClose)) :
    (σ.closes device vendorClose).Invariant := by
  obtain ⟨vendor, session⟩ := Option.isSome_iff_exists.mp met
  obtain ⟨alive, intact, accounted, reopened⟩ := invariant.disciplined
  have there := (intact vendor session).1
  obtain ⟨number, out, same⟩ := invariant.handed _ there
  cases same
  rw [session] at accounted
  rw [closes_there there]
  refine ⟨⟨alive, ?_, accounted.free out, reopened⟩, invariant.handed⟩
  intro vendor none
  cases none

/-- Without a session there is no device to call, or one that has been freed before. -/
theorem Invariant.miscloses {σ : Wrapper} (invariant : σ.Invariant) {device : Option Nat}
    {vendorClose : Option Nat → Int} (unmet : ¬ σ.careful (.close device vendorClose)) :
    ¬ (σ.closes device vendorClose).Disciplined := by
  have session : σ.session = none := Option.not_isSome_iff_eq_none.mp unmet
  have accounted := invariant.disciplined.accounted
  rw [session] at accounted
  intro after
  cases there : σ.samsung_hw_dev with
  | none =>
      rw [closes_gone there] at after
      cases after.alive
  | some vendor =>
      rw [closes_there there] at after
      have freed : ((σ.heap.free (some vendor)).free none).Accounted _ := after.accounted
      obtain ⟨null, -⟩ := accounted.nothing_freed freed
      cases null

theorem step_cases {σ τ : Wrapper} {label : Label} (taken : σ.step label = some τ) :
    (∃ attempt, label = .open attempt ∧ τ = σ.opens attempt) ∨
      ∃ device vendorClose, label = .close device vendorClose ∧
        τ = σ.closes device vendorClose := by
  cases label with
  | «open» attempt =>
      simp only [Wrapper.step] at taken
      split at taken
      · cases taken
      · exact Or.inl ⟨attempt, rfl, (Option.some.inj taken).symm⟩
  | close device vendorClose =>
      simp only [Wrapper.step] at taken
      split at taken
      · cases taken
      · exact Or.inr ⟨device, vendorClose, rfl, (Option.some.inj taken).symm⟩

theorem Invariant.step {σ τ : Wrapper} (invariant : σ.Invariant) {label : Label}
    (met : σ.careful label) (taken : σ.step label = some τ) : τ.Invariant := by
  rcases step_cases taken with ⟨attempt, rfl, rfl⟩ | ⟨device, vendorClose, rfl, rfl⟩
  · exact invariant.opens (opens_cases σ attempt) met
  · exact invariant.closes met

theorem Invariant.misstep {σ τ : Wrapper} (invariant : σ.Invariant) {label : Label}
    (unmet : ¬ σ.careful label) (taken : σ.step label = some τ) : ¬ τ.Disciplined := by
  rcases step_cases taken with ⟨attempt, rfl, rfl⟩ | ⟨device, vendorClose, rfl, rfl⟩
  · exact invariant.misopens (opens_cases σ attempt) unmet
  · exact invariant.miscloses unmet

end Wrapper

theorem sensors_invariant {σ : Wrapper} (run : sensors.ReachableUnder Wrapper.careful σ) :
    σ.Invariant := by
  apply run.invariant Wrapper.Invariant
  · rintro σ rfl
    exact Wrapper.invariant_closed rfl rfl rfl Blocks.accounted_fresh rfl
  · intro before label after _ invariant met taken
    exact invariant.step met taken

/-- The discipline is kept in runs that meet the condition, and the first step that does
not meet it breaks it. -/
theorem open_close_disciplined {σ : Wrapper}
    (run : sensors.ReachableUnder Wrapper.careful σ) :
    σ.Disciplined ∧
      ∀ label after, sensors.step σ label = some after →
        (after.Disciplined ↔ σ.careful label) := by
  have invariant := sensors_invariant run
  refine ⟨invariant.disciplined, ?_⟩
  intro label after taken
  constructor
  · intro kept
    by_contra unmet
    exact invariant.misstep unmet taken kept
  · exact fun met => (invariant.step met taken).disciplined

/-- An open of which all comes out well. -/
def Attempt.well (dev : Option Ptr) : Attempt where
  module := 0
  vendor := 0
  left := none
  malloc := some 4096
  dev := dev

/-- An open without memory for the device, one that comes out well with something in its
local variable, and a close. -/
theorem open_close_disciplined_once :
    ∃ σ, sensors.execUnder Wrapper.careful .new
        [.open { Attempt.well none with malloc := none }, .open (.well (some (.wild 64))),
          .close (some 4096) (fun _ => 0)] = some σ ∧
      (σ.session = none ∧ σ.heap = ⟨2, [.block 0, .block 1]⟩) ∧
      σ.Disciplined ∧
        ∀ label after, sensors.step σ label = some after →
          (after.Disciplined ↔ σ.careful label) :=
  System.execUnder_then rfl (fun σ run _ => open_close_disciplined run) (by decide)

/-- An open while a session is open frees its device, and one after a close frees the device
of the last session again and is refused. -/
theorem open_close_undisciplined :
    (∃ σ, sensors.Reachable σ ∧ σ.session = some 0 ∧ σ.samsung_hw_dev = none ∧
        Pointer.block 0 ∈ σ.heap.freed) ∧
      ∃ σ, sensors.Reachable σ ∧ σ.heap.freed.count (.block 0) = 2 ∧ σ.refused = true := by
  have first : sensors.initial .new := rfl
  constructor
  · obtain ⟨σ, run, test⟩ := System.reachable_of_exec first
      [.open (.well none), .open (.well none)]
      (fun σ => decide (σ.session = some 0 ∧ σ.samsung_hw_dev = none ∧
        Pointer.block 0 ∈ σ.heap.freed)) (by decide)
    exact ⟨σ, run, of_decide_eq_true test⟩
  · obtain ⟨σ, run, test⟩ := System.reachable_of_exec first
      [.open (.well none), .close (some 4096) (fun _ => 0), .open (.well none)]
      (fun σ => decide (σ.heap.freed.count (.block 0) = 2 ∧ σ.refused = true)) (by decide)
    exact ⟨σ, run, of_decide_eq_true test⟩

end A5Common.Sensors
