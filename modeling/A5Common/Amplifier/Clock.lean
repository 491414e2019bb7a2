import A5Common.Run.Condition
import A5Common.Run.System

set_option autoImplicit false

namespace A5Common.Amplifier.Tfa

open A5Common.Run

def EBUSY : Int := 16

def ENODEV : Int := 19

def ENOTTY : Int := 25

/-- What there is of the mixer and its control: no mixer, no control, one of another type
than `MIXER_CTL_TYPE_BOOL`, or one that is set. -/
inductive Mixer where
  | unopened
  | noCtl
  | otherType
  | bool
deriving DecidableEq

def i2sInterfaceEn : Mixer → Int
  | .unopened => -1
  | .noCtl => -ENODEV
  | .otherType => -ENOTTY
  | .bool => 0

/-- What the calls of the writer come to: `i2s_interface_en`, `pcm_open` with `pcm_is_ready`
and `errno`, `calloc` and `pcm_write`. A step of it looks only at the call that it makes. -/
structure Outcome where
  mixer : Mixer
  pcm : Bool
  ready : Bool
  errno : Int
  buffer : Bool
  written : Int
deriving DecidableEq

/-- A writer that finds all it needs, and writes. -/
def Outcome.good : Outcome where
  mixer := .bool
  pcm := true
  ready := true
  errno := 0
  buffer := true
  written := 0

/-- Where `write_dummy_data` is. Where its local variable `signaled` is not known from that,
it is the argument. -/
inductive Writer where
  | enabling
  | opening
  | allocating
  | writing (signaled : Bool)
  | signalling
  | testing
  | stopping
  | errClosePcm (signaled : Bool)
  | errDisableI2s (signaled : Bool)
  | reporting
  | exited
deriving DecidableEq

/-- Where `tfa_power` is. Only one thread at a time holds `tfa_lock`. In `testing` it has
made the writer and not yet looked at the flag, in `waiting` it waits for the condition. -/
inductive Caller where
  | idle
  | clockOn
  | testing
  | waiting
  | enabling (on : Bool)
  | clockOff
  | joining
deriving DecidableEq

/-- The device, the thread that has it and its writer. Of the writer of this cycle it is
recorded whether it has written a buffer, whether it has reported that it failed, and whether
it has set the flag; of each call `tfa_enable(handle, 1)`, whether the writer had written or
reported. -/
structure TfaDevice where
  a1 : Int
  initializing : Bool
  clock_enabled : Bool
  writing : Bool
  write_thread : Option Writer
  cond : Condition Unit
  caller : Caller
  rc : Int
  wrote : Bool
  failed : Bool
  told : Bool
  powered : List Bool

inductive Label where
  | power (on : Bool)
  | clockOn
  | test
  | wake
  | resume
  | enable (rc a1 : Int)
  | clockOff
  | join
  | writer (outcome : Outcome)
deriving DecidableEq

namespace TfaDevice

def goto (σ : TfaDevice) (writer : Writer) : TfaDevice :=
  { σ with write_thread := some writer }

/-- The flag is set and signalled under the mutex, in both places. -/
def report (σ : TfaDevice) : TfaDevice :=
  { σ with writing := true, told := true, cond := σ.cond.signal 0 }

/-- A step of the writer. A write that fails is only logged. -/
def writeDummyData (σ : TfaDevice) (outcome : Outcome) : Writer → Option TfaDevice
  | .enabling => some (σ.goto (if i2sInterfaceEn outcome.mixer ≠ 0 then .exited else .opening))
  | .opening =>
      some (σ.goto (
        if outcome.pcm = false ∨ outcome.ready = false then
          if outcome.pcm = true ∧ outcome.errno ≠ EBUSY then .errClosePcm false
          else .errDisableI2s false
        else .allocating))
  | .allocating =>
      some (σ.goto (if outcome.buffer = true then .writing false else .errClosePcm false))
  | .writing signaled =>
      some ({ σ with wrote := σ.wrote || outcome.written = 0 }.goto
        (if signaled = true then .testing else .signalling))
  | .signalling => some (σ.report.goto .testing)
  | .testing => some (σ.goto (if σ.initializing = true then .writing true else .stopping))
  | .stopping => some ({ σ with writing := false }.goto (.errClosePcm true))
  | .errClosePcm signaled => some (σ.goto (.errDisableI2s signaled))
  | .errDisableI2s signaled => some (σ.goto (if signaled = true then .exited else .reporting))
  | .reporting => some ({ σ.report with failed := true }.goto .exited)
  | .exited => none

/-- The clocks are not on, and a writer is made. -/
def create (σ : TfaDevice) : TfaDevice :=
  { σ with
    initializing := true
    write_thread := some .enabling
    caller := .testing
    wrote := false
    failed := false
    told := false }

/-- The loop condition of `tfa_clock_on`, under the mutex. -/
def test (σ : TfaDevice) : TfaDevice :=
  if σ.writing = true then { σ with clock_enabled := true, caller := .enabling true }
  else { σ with cond := σ.cond.wait (), caller := .waiting }

def step (σ : TfaDevice) : Label → Option TfaDevice
  | .power on =>
      if σ.caller = .idle then
        some { σ with
          a1 := if on = true ∧ σ.a1 ≠ 0 then 0 else σ.a1
          rc := 0
          caller := if on = true then .clockOn else .enabling false }
      else none
  | .clockOn =>
      if σ.caller = .clockOn then
        -- that the clocks are on already is an error that `tfa_power` does not look at
        some (if σ.clock_enabled = true then { σ with caller := .enabling true } else σ.create)
      else none
  | .test => if σ.caller = .testing then some σ.test else none
  | .wake =>
      if σ.caller = .waiting then (σ.cond.spurious ()).map (fun cond => { σ with cond := cond })
      else none
  | .resume =>
      if σ.caller = .waiting then
        (σ.cond.resume ()).map (fun cond => { σ with cond := cond }.test)
      else none
  | .enable rc a1 =>
      match σ.caller with
      | .enabling on =>
          some { σ with
            a1 := a1
            rc := rc
            caller := .clockOff
            powered := if on = true then σ.powered ++ [σ.wrote || σ.failed] else σ.powered }
      | _ => none
  | .clockOff =>
      if σ.caller = .clockOff then
        some (if σ.clock_enabled = true then { σ with initializing := false, caller := .joining }
          else { σ with caller := .idle })
      else none
  | .join =>
      if σ.caller = .joining ∧ σ.write_thread = some .exited then
        some { σ with write_thread := none, clock_enabled := false, caller := .idle }
      else none
  | .writer outcome => σ.write_thread.bind (σ.writeDummyData outcome)

end TfaDevice

/-- The device before the first power cycle of `tfa_device_open`, which does not set all. -/
def TfaDevice.opened (a1 : Int) (initializing : Bool) : TfaDevice where
  a1 := a1
  initializing := initializing
  clock_enabled := false
  writing := false
  write_thread := none
  cond := .idle
  caller := .idle
  rc := 0
  wrote := false
  failed := false
  told := false
  powered := []

def tfa : System TfaDevice Label where
  initial σ := ∃ a1 initializing, σ = .opened a1 initializing
  step := TfaDevice.step

/-- The thread is in `tfa_clock_on`, after it has made the writer. -/
def Caller.waits : Caller → Bool
  | .testing | .waiting => true
  | .idle | .clockOn | .enabling _ | .clockOff | .joining => false

namespace Writer

/-- A writer that has got here has set the flag, if there was an interface. -/
def told : Writer → Bool
  | .writing signaled | .errClosePcm signaled | .errDisableI2s signaled => signaled
  | .testing | .stopping | .exited => true
  | .enabling | .opening | .allocating | .signalling | .reporting => false

/-- A writer that has seen that it is no longer needed. -/
def stopped : Writer → Bool
  | .stopping => true
  | .errClosePcm signaled | .errDisableI2s signaled => signaled
  | .enabling | .opening | .allocating | .writing _ | .signalling | .testing | .reporting
  | .exited => false

/-- A writer that is yet to write its first buffer. -/
def unwritten : Writer → Bool
  | .enabling | .opening | .allocating => true
  | .writing signaled => !signaled
  | .signalling | .testing | .stopping | .errClosePcm _ | .errDisableI2s _ | .reporting
  | .exited => false

end Writer

namespace TfaDevice

/-- The thread waits for a writer that is no more, and the flag is not set. -/
def Stuck (σ : TfaDevice) : Prop :=
  σ.write_thread = some .exited ∧ σ.caller.waits = true ∧ σ.writing = false

instance (σ : TfaDevice) : Decidable σ.Stuck :=
  inferInstanceAs (Decidable (_ ∧ _))

/-- The amplifier was enabled only when the writer had written a buffer or reported that it
failed, and the thread has an answer from the writer. -/
structure ClockHandled (σ : TfaDevice) : Prop where
  enabled : ∀ handled ∈ σ.powered, handled = true
  answered : ¬ σ.Stuck

/-- No flag is left from an earlier cycle when a writer is made, the writer finds the
interface, and its first buffer is written. -/
def sound (σ : TfaDevice) : Label → Prop
  | .clockOn => σ.writing = false
  | .writer outcome =>
      (σ.write_thread = some .enabling → i2sInterfaceEn outcome.mixer = 0) ∧
        (σ.write_thread = some (.writing false) → outcome.written = 0)
  | _ => True

instance (σ : TfaDevice) (label : Label) : Decidable (σ.sound label) :=
  match label with
  | .clockOn => inferInstanceAs (Decidable (_ = _))
  | .writer _ => inferInstanceAs (Decidable ((_ → _) ∧ (_ → _)))
  | .power _ | .test | .wake | .resume | .enable _ _ | .clockOff | .join =>
      inferInstanceAs (Decidable True)

/-- What the thread knows of the writer and the flag. While it waits, the flag is that of
the writer of this cycle. -/
def CallerFacts (σ : TfaDevice) : Prop :=
  match σ.caller with
  | .idle | .clockOn | .enabling false => σ.write_thread = none ∧ σ.clock_enabled = false
  | .testing | .waiting =>
      σ.write_thread.isSome = true ∧ σ.clock_enabled = false ∧ σ.initializing = true ∧
        σ.writing = σ.told
  | .enabling true => σ.write_thread.isSome = true ∧ σ.clock_enabled = true ∧ σ.told = true
  | .clockOff =>
      σ.write_thread.isSome = σ.clock_enabled ∧ (σ.clock_enabled = true → σ.told = true)
  | .joining => σ.write_thread.isSome = true ∧ σ.told = true

/-- What is known of a device with a writer that has got here. -/
structure WriterAt (σ : TfaDevice) (writer : Writer) : Prop where
  told : σ.told = writer.told
  stopped : writer.stopped = true → σ.initializing = false
  unwritten : writer.unwritten = true → σ.wrote = false ∧ σ.failed = false
  signalling : writer = .signalling → σ.wrote = true

def WriterFacts (σ : TfaDevice) : Prop :=
  ∀ writer ∈ σ.write_thread, σ.WriterAt writer

structure Invariant (σ : TfaDevice) : Prop where
  caller : σ.CallerFacts
  writer : σ.WriterFacts
  answered : σ.told = true → (σ.wrote || σ.failed) = true
  waiting : σ.caller = .waiting → σ.cond.asleep ≠ [] ∨ σ.cond.woken ≠ []
  enabled : ∀ handled ∈ σ.powered, handled = true

theorem writerFacts_goto {σ : TfaDevice} {writer : Writer} (facts : σ.WriterAt writer) :
    (σ.goto writer).WriterFacts := by
  intro now same
  cases same
  exact ⟨facts.told, facts.stopped, facts.unwritten, facts.signalling⟩

/-- A writer of which only the flag is known. -/
theorem WriterAt.of_told {σ : TfaDevice} {writer : Writer} (told : σ.told = writer.told)
    (stopped : writer.stopped = true → σ.initializing = false)
    (written : writer.unwritten = false) (signalled : writer ≠ .signalling) :
    σ.WriterAt writer where
  told := told
  stopped := stopped
  unwritten := by
    intro unwritten
    rw [written] at unwritten
    cases unwritten
  signalling := fun same => absurd same signalled

theorem WriterFacts.of_same {σ τ : TfaDevice} (facts : σ.WriterFacts)
    (same : τ.write_thread = σ.write_thread) (told : τ.told = σ.told)
    (initializing : τ.initializing = σ.initializing) (wrote : τ.wrote = σ.wrote)
    (failed : τ.failed = σ.failed) : τ.WriterFacts := by
  intro writer here
  rw [same] at here
  have before := facts writer here
  refine ⟨told.trans before.told, ?_, ?_, ?_⟩
  · rw [initializing]
    exact before.stopped
  · rw [wrote, failed]
    exact before.unwritten
  · rw [wrote]
    exact before.signalling

/-- Between the creation of the writer and the answer only the report changes the flag. -/
theorem callerFacts_goto {σ : TfaDevice} (facts : σ.CallerFacts)
    (alive : σ.write_thread.isSome = true) (writer : Writer) : (σ.goto writer).CallerFacts := by
  unfold CallerFacts goto at *
  revert facts
  cases σ.caller with
  | idle | clockOn =>
      intro facts
      rw [facts.1] at alive
      cases alive
  | enabling on =>
      intro facts
      cases on with
      | false =>
          rw [facts.1] at alive
          cases alive
      | true => exact ⟨rfl, facts.2⟩
  | testing | waiting =>
      intro facts
      exact ⟨rfl, facts.2⟩
  | clockOff =>
      intro facts
      rw [alive] at facts
      exact ⟨facts.1, facts.2⟩
  | joining =>
      intro facts
      exact ⟨rfl, facts.2⟩

theorem callerFacts_report {σ : TfaDevice} (facts : σ.CallerFacts) : σ.report.CallerFacts := by
  unfold CallerFacts report at *
  revert facts
  cases σ.caller with
  | idle | clockOn => exact id
  | enabling on =>
      cases on with
      | false => exact id
      | true => exact fun facts => ⟨facts.1, facts.2.1, rfl⟩
  | testing | waiting => exact fun facts => ⟨facts.1, facts.2.1, facts.2.2.1, rfl⟩
  | clockOff => exact fun facts => ⟨facts.1, fun _ => rfl⟩
  | joining => exact fun facts => ⟨facts.1, rfl⟩

/-- The thread does not wait any more when the writer takes the flag back. -/
theorem callerFacts_lower {σ : TfaDevice} (facts : σ.CallerFacts)
    (stopped : σ.initializing = false) : ({ σ with writing := false } : TfaDevice).CallerFacts := by
  unfold CallerFacts at *
  revert facts
  cases σ.caller with
  | idle | clockOn | clockOff | joining => exact id
  | enabling on => cases on <;> exact id
  | testing | waiting =>
      intro facts
      rw [stopped] at facts
      cases facts.2.2.1

theorem Invariant.goto {σ : TfaDevice} (invariant : σ.Invariant)
    (alive : σ.write_thread.isSome = true) {writer : Writer} (facts : σ.WriterAt writer) :
    (σ.goto writer).Invariant where
  caller := callerFacts_goto invariant.caller alive writer
  writer := writerFacts_goto facts
  answered := invariant.answered
  waiting := invariant.waiting
  enabled := invariant.enabled

/-- The flag is set for a buffer that is written, or for a failure. -/
theorem Invariant.report_goto {σ : TfaDevice} (invariant : σ.Invariant)
    (alive : σ.write_thread.isSome = true) {failed : Bool} (answers : (σ.wrote || failed) = true)
    {writer : Writer} (facts : ({ σ.report with failed := failed } : TfaDevice).WriterAt writer) :
    (TfaDevice.goto { σ.report with failed := failed } writer).Invariant where
  caller := by
    have reported : σ.report.CallerFacts := callerFacts_report invariant.caller
    exact callerFacts_goto (show CallerFacts { σ.report with failed := failed } from reported)
      alive writer
  writer := writerFacts_goto facts
  answered := fun _ => answers
  waiting := fun here => .inr (Condition.signal_woken (invariant.waiting here) 0)
  enabled := invariant.enabled

/-- Each step of the writer keeps what is known, if it finds the interface and writes its
first buffer. -/
theorem Invariant.writes {σ τ : TfaDevice} (invariant : σ.Invariant) {outcome : Outcome}
    {writer : Writer} (here : σ.write_thread = some writer)
    (found : writer = .enabling → i2sInterfaceEn outcome.mixer = 0)
    (written : writer = .writing false → outcome.written = 0)
    (taken : σ.writeDummyData outcome writer = some τ) : τ.Invariant := by
  have facts := invariant.writer writer here
  obtain ⟨told, stopped, unwritten, signalling⟩ := facts
  have alive : σ.write_thread.isSome = true := by rw [here]; rfl
  cases writer with
  | enabling =>
      cases taken
      rw [if_neg (not_not.mpr (found rfl))]
      exact invariant.goto alive ⟨told, nofun, fun _ => unwritten rfl, nofun⟩
  | opening =>
      cases taken
      split
      · split
        · exact invariant.goto alive (.of_told told nofun rfl nofun)
        · exact invariant.goto alive (.of_told told nofun rfl nofun)
      · exact invariant.goto alive ⟨told, nofun, fun _ => unwritten rfl, nofun⟩
  | allocating =>
      cases taken
      split
      · exact invariant.goto alive ⟨told, nofun, fun _ => unwritten rfl, nofun⟩
      · exact invariant.goto alive (.of_told told nofun rfl nofun)
  | writing signaled =>
      cases taken
      have answered : σ.told = true → ((σ.wrote || outcome.written = 0) || σ.failed) = true := by
        intro told
        have before := invariant.answered told
        rw [Bool.or_eq_true] at before
        rcases before with wrote | failed
        · rw [wrote]
          rfl
        · rw [failed, Bool.or_true]
      refine ⟨callerFacts_goto invariant.caller alive _, writerFacts_goto ?_, answered,
        invariant.waiting, invariant.enabled⟩
      cases signaled with
      | true => exact .of_told told nofun rfl nofun
      | false =>
          refine ⟨told, nofun, nofun, fun _ => ?_⟩
          rw [written rfl]
          exact Bool.or_true _
  | signalling =>
      cases taken
      have answers : (σ.wrote || σ.failed) = true := by
        rw [signalling rfl]
        rfl
      exact invariant.report_goto alive answers (.of_told rfl nofun rfl nofun)
  | testing =>
      cases taken
      split
      · exact invariant.goto alive (.of_told told nofun rfl nofun)
      · rename_i ended
        exact invariant.goto alive
          (.of_told told (fun _ => eq_false_of_ne_true ended) rfl nofun)
  | stopping =>
      cases taken
      have ended := stopped rfl
      have lowered : ({ σ with writing := false } : TfaDevice).Invariant :=
        ⟨callerFacts_lower invariant.caller ended, invariant.writer.of_same rfl rfl rfl rfl rfl,
          invariant.answered, invariant.waiting, invariant.enabled⟩
      exact lowered.goto alive (.of_told told (fun _ => ended) rfl nofun)
  | errClosePcm signaled =>
      cases taken
      exact invariant.goto alive (.of_told told stopped rfl nofun)
  | errDisableI2s signaled =>
      cases taken
      cases signaled with
      | true => exact invariant.goto alive (.of_told told nofun rfl nofun)
      | false => exact invariant.goto alive (.of_told told nofun rfl nofun)
  | reporting =>
      cases taken
      exact invariant.report_goto alive (Bool.or_true _) (.of_told rfl nofun rfl nofun)
  | exited => cases taken

/-- What the thread knows when it looks at the flag. -/
theorem callerFacts_waits {σ : TfaDevice} (facts : σ.CallerFacts) (waits : σ.caller.waits = true) :
    σ.write_thread.isSome = true ∧ σ.clock_enabled = false ∧ σ.initializing = true ∧
      σ.writing = σ.told := by
  unfold CallerFacts at facts
  revert facts waits
  cases σ.caller with
  | testing | waiting => exact fun facts _ => facts
  | idle | clockOn | enabling _ | clockOff | joining =>
      intro _ waits
      cases waits

/-- The thread goes on only with a flag of this cycle, whatever has become of the condition
variable. -/
theorem Invariant.test {σ : TfaDevice} (invariant : σ.Invariant) (waits : σ.caller.waits = true)
    (cond : Condition Unit) : (TfaDevice.test { σ with cond := cond }).Invariant := by
  obtain ⟨alive, off, going, flag⟩ := callerFacts_waits invariant.caller waits
  unfold TfaDevice.test
  by_cases raised : σ.writing = true
  · rw [if_pos raised]
    rw [raised] at flag
    exact ⟨⟨alive, rfl, flag.symm⟩, invariant.writer.of_same rfl rfl rfl rfl rfl,
      invariant.answered, nofun, invariant.enabled⟩
  · rw [if_neg raised]
    exact ⟨⟨alive, off, going, flag⟩, invariant.writer.of_same rfl rfl rfl rfl rfl,
      invariant.answered, fun _ => .inl (List.cons_ne_nil _ _), invariant.enabled⟩

theorem Invariant.step {σ τ : TfaDevice} (invariant : σ.Invariant) {label : Label}
    (met : σ.sound label) (taken : σ.step label = some τ) : τ.Invariant := by
  have caller := invariant.caller
  unfold CallerFacts at caller
  cases label with
  | power on =>
      simp only [TfaDevice.step] at taken
      split at taken
      · rename_i idle
        cases taken
        rw [idle] at caller
        have writer := invariant.writer
        cases on with
        | true =>
            exact ⟨caller, writer.of_same rfl rfl rfl rfl rfl, invariant.answered, nofun,
              invariant.enabled⟩
        | false =>
            exact ⟨caller, writer.of_same rfl rfl rfl rfl rfl, invariant.answered, nofun,
              invariant.enabled⟩
      · cases taken
  | clockOn =>
      simp only [TfaDevice.step] at taken
      split at taken
      · rename_i here
        cases taken
        rw [here] at caller
        rw [if_neg (by rw [caller.2]; exact Bool.false_ne_true)]
        refine ⟨⟨rfl, caller.2, rfl, met⟩, ?_, nofun, nofun, invariant.enabled⟩
        intro writer made
        cases made
        exact ⟨rfl, nofun, fun _ => ⟨rfl, rfl⟩, nofun⟩
      · cases taken
  | test =>
      simp only [TfaDevice.step] at taken
      split at taken
      · rename_i here
        cases taken
        exact invariant.test (by rw [here]; rfl) σ.cond
      · cases taken
  | wake =>
      simp only [TfaDevice.step] at taken
      split at taken
      · obtain ⟨cond, woke, rfl⟩ := Option.map_eq_some_iff.mp taken
        exact ⟨invariant.caller, invariant.writer.of_same rfl rfl rfl rfl rfl,
          invariant.answered, fun _ => .inr (Condition.spurious_woken woke), invariant.enabled⟩
      · cases taken
  | resume =>
      simp only [TfaDevice.step] at taken
      split at taken
      · rename_i here
        obtain ⟨cond, -, rfl⟩ := Option.map_eq_some_iff.mp taken
        exact invariant.test (by rw [here]; rfl) cond
      · cases taken
  | enable rc a1 =>
      simp only [TfaDevice.step] at taken
      split at taken
      · rename_i on here
        cases taken
        rw [here] at caller
        have writer := invariant.writer
        cases on with
        | false =>
            refine ⟨⟨?_, ?_⟩, writer.of_same rfl rfl rfl rfl rfl, invariant.answered, nofun,
              invariant.enabled⟩
            · rw [caller.1, caller.2]
              rfl
            · intro enabled
              rw [caller.2] at enabled
              cases enabled
        | true =>
            refine ⟨⟨?_, ?_⟩, writer.of_same rfl rfl rfl rfl rfl, invariant.answered, nofun, ?_⟩
            · rw [caller.1, caller.2.1]
            · exact fun _ => caller.2.2
            · intro handled mem
              rcases List.mem_append.mp mem with earlier | now
              · exact invariant.enabled handled earlier
              · rw [List.mem_singleton.mp now, invariant.answered caller.2.2]
      · cases taken
  | clockOff =>
      simp only [TfaDevice.step] at taken
      split at taken
      · rename_i here
        cases taken
        rw [here] at caller
        split
        · rename_i enabled
          refine ⟨⟨?_, caller.2 enabled⟩, ?_, invariant.answered, nofun, invariant.enabled⟩
          · exact caller.1.trans enabled
          · intro writer mem
            have before := invariant.writer writer mem
            exact ⟨before.told, fun _ => rfl, before.unwritten, before.signalling⟩
        · rename_i disabled
          refine ⟨⟨?_, ?_⟩, invariant.writer.of_same rfl rfl rfl rfl rfl, invariant.answered,
            nofun, invariant.enabled⟩
          · apply Option.not_isSome_iff_eq_none.mp
            rw [caller.1]
            exact disabled
          · exact eq_false_of_ne_true disabled
      · cases taken
  | join =>
      simp only [TfaDevice.step] at taken
      split at taken
      · cases taken
        exact ⟨⟨rfl, rfl⟩, nofun, invariant.answered, nofun, invariant.enabled⟩
      · cases taken
  | writer outcome =>
      obtain ⟨writer, here, taken⟩ := Option.bind_eq_some_iff.mp taken
      obtain ⟨found, written⟩ := met
      refine invariant.writes here ?_ ?_ taken
      · intro start
        rw [start] at here
        exact found here
      · intro first
        rw [first] at here
        exact written here

/-- A writer that has exited has set the flag of its cycle. -/
theorem Invariant.handled {σ : TfaDevice} (invariant : σ.Invariant) : σ.ClockHandled where
  enabled := invariant.enabled
  answered := by
    intro ⟨exited, waits, lowered⟩
    obtain ⟨-, -, -, flag⟩ := callerFacts_waits invariant.caller waits
    rw [lowered, (invariant.writer .exited exited).told] at flag
    cases flag

/-- With a flag left from an earlier cycle the amplifier can be enabled at once. -/
theorem create_early {σ : TfaDevice} (left : σ.writing = true) :
    ∃ bad, (tfa.startingAt σ.create).Reachable bad ∧ ¬ bad.ClockHandled := by
  have start : (tfa.startingAt σ.create).Reachable σ.create := .start rfl
  have tested : (tfa.startingAt σ.create).step σ.create .test =
      some { σ.create with clock_enabled := true, caller := .enabling true } := by
    show some σ.create.test = _
    rw [TfaDevice.test, if_pos (show σ.create.writing = true from left)]
  have enabled : (tfa.startingAt σ.create).step
      { σ.create with clock_enabled := true, caller := .enabling true } (.enable 0 0) =
      some { σ.create with
        a1 := 0
        clock_enabled := true
        caller := .clockOff
        rc := 0
        powered := σ.powered ++ [false] } := rfl
  refine ⟨_, (start.step tested).step enabled, ?_⟩
  intro handled
  have early := handled.enabled false (List.mem_append_right _ (List.mem_singleton.mpr rfl))
  cases early

/-- A writer without the interface exits at once, and the thread waits for it. -/
theorem Invariant.unfound {σ : TfaDevice} (invariant : σ.Invariant)
    (start : σ.write_thread = some .enabling) : (σ.goto .exited).Stuck := by
  have untold : σ.told = false := (invariant.writer .enabling start).told
  have caller := invariant.caller
  unfold CallerFacts at caller
  refine ⟨rfl, ?_⟩
  show σ.caller.waits = true ∧ σ.writing = false
  revert caller
  rw [start, untold]
  cases σ.caller with
  | testing | waiting => exact fun facts => ⟨rfl, facts.2.2.2⟩
  | idle | clockOn =>
      intro facts
      cases facts.1
  | enabling on =>
      intro facts
      cases on with
      | false => cases facts.1
      | true => cases facts.2.2
  | clockOff =>
      intro facts
      cases facts.2 facts.1.symm
  | joining =>
      intro facts
      cases facts.2

/-- The thread waits for a writer that has not set the flag yet. -/
theorem Invariant.waits {σ : TfaDevice} (invariant : σ.Invariant)
    (alive : σ.write_thread.isSome = true) (untold : σ.told = false) :
    σ.caller = .testing ∨ σ.caller = .waiting := by
  have caller := invariant.caller
  unfold CallerFacts at caller
  revert caller
  cases σ.caller with
  | testing => exact fun _ => .inl rfl
  | waiting => exact fun _ => .inr rfl
  | idle | clockOn =>
      intro facts
      rw [facts.1] at alive
      cases alive
  | enabling on =>
      intro facts
      cases on with
      | false =>
          rw [facts.1] at alive
          cases alive
      | true =>
          rw [untold] at facts
          cases facts.2.2
  | clockOff =>
      intro facts
      rw [alive, untold] at facts
      cases facts.2 facts.1.symm
  | joining =>
      intro facts
      rw [untold] at facts
      cases facts.2

/-- A thread that sees the flag enables the amplifier. -/
theorem test_enables {σ τ : TfaDevice} (raised : σ.writing = true) {label : Label}
    (seen : σ.step label = some τ.test) (same : τ.writing = σ.writing)
    (unhandled : (τ.wrote || τ.failed) = false) :
    ∃ bad, (tfa.startingAt σ).Reachable bad ∧ ¬ bad.ClockHandled := by
  rw [TfaDevice.test, if_pos (same.trans raised)] at seen
  have enabled : (tfa.startingAt σ).step
      { τ with clock_enabled := true, caller := .enabling true } (.enable 0 0) =
      some { τ with
        a1 := 0
        clock_enabled := true
        caller := .clockOff
        rc := 0
        powered := τ.powered ++ [τ.wrote || τ.failed] } := rfl
  have start : (tfa.startingAt σ).Reachable σ := .start rfl
  have tested : (tfa.startingAt σ).step σ label = some _ := seen
  refine ⟨_, (start.step tested).step enabled, fun handled => ?_⟩
  have early := handled.enabled _ (List.mem_append_right _ (List.mem_singleton.mpr rfl))
  rw [unhandled] at early
  cases early

/-- A writer whose first buffer is not written sets the flag all the same. -/
theorem Invariant.unwritten {σ : TfaDevice} (invariant : σ.Invariant)
    (first : σ.write_thread = some (.writing false)) :
    ∃ bad, (tfa.startingAt (σ.goto .signalling)).Reachable bad ∧ ¬ bad.ClockHandled := by
  have facts := invariant.writer _ first
  obtain ⟨wrote, failed⟩ := facts.unwritten rfl
  have unhandled : (σ.wrote || σ.failed) = false := by
    rw [wrote, failed]
    rfl
  have alive : σ.write_thread.isSome = true := by
    rw [first]
    rfl
  have start : (tfa.startingAt (σ.goto .signalling)).Reachable (σ.goto .signalling) := .start rfl
  have signals : (tfa.startingAt (σ.goto .signalling)).step (σ.goto .signalling)
      (.writer .good) = some ((σ.goto .signalling).report.goto .testing) := rfl
  have enables : ∃ bad, (tfa.startingAt ((σ.goto .signalling).report.goto .testing)).Reachable
      bad ∧ ¬ bad.ClockHandled := by
    rcases invariant.waits alive facts.told with testing | waiting
    · have tests : ((σ.goto .signalling).report.goto .testing).step .test =
          some (TfaDevice.test ((σ.goto .signalling).report.goto .testing)) :=
        if_pos (show ((σ.goto .signalling).report.goto .testing).caller = .testing from testing)
      exact test_enables rfl tests rfl unhandled
    · have woken := Condition.signal_woken (invariant.waiting waiting) 0
      obtain ⟨cond, resumed⟩ := Condition.exists_resume woken
      have resumes : ((σ.goto .signalling).report.goto .testing).step .resume =
          some (TfaDevice.test
            { (σ.goto .signalling).report.goto .testing with cond := cond }) := by
        have still : ((σ.goto .signalling).report.goto .testing).caller = .waiting := waiting
        simp only [TfaDevice.step]
        rw [if_pos still]
        exact congrArg (Option.map _) resumed
      exact test_enables rfl resumes rfl unhandled
  obtain ⟨bad, later, unhandled⟩ := enables
  exact ⟨bad, (start.step signals).trans later, unhandled⟩

end TfaDevice

theorem tfa_invariant {σ : TfaDevice} (run : tfa.ReachableUnder TfaDevice.sound σ) :
    σ.Invariant := by
  apply run.invariant TfaDevice.Invariant
  · rintro σ ⟨a1, initializing, rfl⟩
    exact ⟨⟨rfl, rfl⟩, nofun, nofun, nofun, nofun⟩
  · intro before label after _ invariant met taken
    exact invariant.step met taken

/-- The clock is handled as long as no flag is left from an earlier cycle and every writer
finds the interface and writes its first buffer. From the first step where that is not so,
some interleaving goes wrong. -/
theorem clock_handled {σ : TfaDevice} (run : tfa.ReachableUnder TfaDevice.sound σ) :
    σ.ClockHandled ∧
      ∀ label after, tfa.step σ label = some after → ¬ σ.sound label →
        ∃ bad, (tfa.startingAt after).Reachable bad ∧ ¬ bad.ClockHandled := by
  have invariant := tfa_invariant run
  refine ⟨invariant.handled, ?_⟩
  intro label after taken unsound
  cases label with
  | clockOn =>
      have left : σ.writing = true := eq_true_of_ne_false unsound
      have caller := invariant.caller
      simp only [tfa, TfaDevice.step] at taken
      split at taken
      · rename_i here
        cases taken
        unfold TfaDevice.CallerFacts at caller
        rw [here] at caller
        rw [if_neg (by rw [caller.2]; exact Bool.false_ne_true)]
        exact TfaDevice.create_early left
      · cases taken
  | writer outcome =>
      obtain ⟨writer, here, taken⟩ := Option.bind_eq_some_iff.mp taken
      rcases not_and_or.mp unsound with lost | failed
      · obtain ⟨start, unfound⟩ := Classical.not_imp.mp lost
        rw [start] at here
        cases here
        cases taken
        rw [if_pos unfound]
        exact ⟨_, .start rfl, fun handled => handled.answered (invariant.unfound start)⟩
      · obtain ⟨first, unwritten⟩ := Classical.not_imp.mp failed
        rw [first] at here
        cases here
        cases taken
        rw [decide_eq_false unwritten, Bool.or_false]
        exact invariant.unwritten first
  | power | test | wake | resume | enable | clockOff | join => exact absurd trivial unsound

/-- A cycle whose writer writes, with a spurious wake-up, and one whose writer cannot open
the sound device. -/
theorem clock_handled_twice :
    ∃ σ, tfa.execUnder TfaDevice.sound (.opened 7 false)
        [.power false, .enable 0 0, .clockOff,
          .power true, .clockOn, .test, .wake, .resume, .writer .good, .writer .good,
          .writer .good, .writer .good, .writer .good, .resume, .enable 0 7, .clockOff,
          .writer .good, .writer .good, .writer .good, .writer .good, .join,
          .power true, .clockOn, .writer .good, .writer { Outcome.good with ready := false },
          .writer .good, .writer .good, .writer .good, .test, .enable 0 7] = some σ ∧
      (σ.powered = [true, true] ∧ σ.writing = true) ∧
      σ.ClockHandled ∧
        ∀ label after, tfa.step σ label = some after → ¬ σ.sound label →
          ∃ bad, (tfa.startingAt after).Reachable bad ∧ ¬ bad.ClockHandled := by
  have first : tfa.initial (.opened 7 false) := ⟨7, false, rfl⟩
  exact System.execUnder_then first (fun σ run _ => clock_handled run) (by decide)

/-- The cycle after one whose writer failed enables the amplifier before its writer has
started, a writer whose first buffer is lost has it enabled all the same, and a writer without
the interface leaves its cycle waiting. -/
theorem clock_unhandled :
    (∃ σ, tfa.Reachable σ ∧ σ.write_thread = some .enabling ∧ false ∈ σ.powered) ∧
      (∃ σ, tfa.Reachable σ ∧ σ.write_thread = some .testing ∧ σ.powered = [false]) ∧
      ∃ σ, tfa.Reachable σ ∧ σ.Stuck := by
  have first : tfa.initial (.opened 0 false) := ⟨0, false, rfl⟩
  refine ⟨?_, ?_, ?_⟩
  · obtain ⟨σ, run, early⟩ := System.reachable_of_exec first
      [.power true, .clockOn, .writer .good, .writer { Outcome.good with pcm := false },
        .writer .good, .writer .good, .test, .enable 0 0, .clockOff, .join,
        .power true, .clockOn, .test, .enable 0 0]
      (fun σ => decide (σ.write_thread = some .enabling ∧ false ∈ σ.powered)) (by decide)
    exact ⟨σ, run, of_decide_eq_true early⟩
  · obtain ⟨σ, run, lost⟩ := System.reachable_of_exec first
      [.power true, .clockOn, .writer .good, .writer .good, .writer .good,
        .writer { Outcome.good with written := -1 }, .writer .good, .test, .enable 0 0]
      (fun σ => decide (σ.write_thread = some .testing ∧ σ.powered = [false])) (by decide)
    exact ⟨σ, run, of_decide_eq_true lost⟩
  · obtain ⟨σ, run, stuck⟩ := System.reachable_of_exec first
      [.power true, .clockOn, .test, .writer { Outcome.good with mixer := .unopened }]
      (fun σ => decide σ.Stuck) (by decide)
    exact ⟨σ, run, of_decide_eq_true stuck⟩

end A5Common.Amplifier.Tfa
