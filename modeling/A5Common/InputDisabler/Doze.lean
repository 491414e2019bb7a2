import A5Common.InputDisabler.ScreenStateReceiver

set_option autoImplicit false

namespace A5Common.InputDisabler

open A5Common.Run

namespace ScreenStateReceiver

variable {paths : Paths} {σ after : ScreenStateReceiver}

/-- For `DOZING_TIME` after a pulse the device dozes with its touch screen enabled, unless
an event ends that before, and every runnable that has ended a doze was its own pulse's. -/
structure FullPulses (σ : ScreenStateReceiver) : Prop where
  awake : ∀ p ∈ σ.dozing, σ.now < p.time + DOZING_TIME →
    σ.mScreenState = .STATE_DOZE ∧ σ.device.touch = true
  own : ∀ e ∈ σ.ended, e.1 = e.2

/-- A pulse finds a touch screen that is enabled or can be, and a runnable no doze of another
pulse. -/
def Spared (paths : Paths) (σ : ScreenStateReceiver) : Label → Prop
  | .onReceive _ .ACTION_DOZE_PULSE_STARTING =>
      paths.TS_PATH = true ∨ σ.device.touch = true
  | .run => ∀ runnable ∈ σ.posted.head?, ∀ p ∈ σ.dozing, runnable.pulse.number = p.number
  | _ => True

instance (paths : Paths) (σ : ScreenStateReceiver) :
    ∀ label, Decidable (σ.Spared paths label)
  | .onReceive _ .ACTION_DOZE_PULSE_STARTING => inferInstanceAs (Decidable (_ ∨ _))
  | .onReceive _ .ACTION_SCREEN_ON => .isTrue trivial
  | .onReceive _ .ACTION_SCREEN_OFF => .isTrue trivial
  | .onReceive _ (.ACTION_PHONE_STATE_CHANGED _) => .isTrue trivial
  | .onSensorChanged _ => .isTrue trivial
  | .run =>
      inferInstanceAs (Decidable (∀ runnable ∈ σ.posted.head?, ∀ p ∈ σ.dozing,
        runnable.pulse.number = p.number))
  | .elapse _ => .isTrue trivial
  | .forceDisable _ => .isTrue trivial

/-- The runnable of the last pulse is the last one posted, until it has run. -/
structure Dozes (σ : ScreenStateReceiver) : Prop where
  awake : ∀ p ∈ σ.dozing,
    (σ.mScreenState = .STATE_DOZE ∧ σ.device.touch = true ∧
      ∃ runnable, σ.posted.getLast? = some runnable ∧ runnable.pulse = p) ∨
    (p.time + DOZING_TIME ≤ σ.now ∧ σ.posted = [])
  dozing : σ.mScreenState = .STATE_DOZE → σ.dozing.isSome = true
  ordered : σ.posted.Pairwise (fun first second => first.pulse.number < second.pulse.number)
  numbered : ∀ runnable ∈ σ.posted, runnable.pulse.number < σ.pulses
  own : ∀ e ∈ σ.ended, e.1 = e.2

theorem Dozes.fullPulses (dozes : σ.Dozes) : σ.FullPulses where
  awake := by
    intro p last early
    obtain ⟨state, touch, _⟩ | ⟨late, _⟩ := dozes.awake p last
    · exact ⟨state, touch⟩
    · exact absurd early (Nat.not_lt.mpr late)
  own := dozes.own

theorem new_dozes (device : Device) : (new device).Dozes where
  awake := fun _ last => by cases last
  dozing := fun state => by cases state
  ordered := .nil
  numbered := fun _ posted => by cases posted
  own := fun _ ended => by cases ended

/-- An event that ends a doze. -/
theorem Dozes.stop (dozes : σ.Dozes) (state : after.mScreenState ≠ .STATE_DOZE)
    (dozing : after.dozing = none) (posted : after.posted = σ.posted)
    (pulses : after.pulses = σ.pulses) (ended : after.ended = σ.ended) : after.Dozes where
  awake := by
    intro p last
    rw [dozing] at last
    cases last
  dozing := fun here => absurd here state
  ordered := by
    rw [posted]
    exact dozes.ordered
  numbered := by
    rw [posted, pulses]
    exact dozes.numbered
  own := by
    rw [ended]
    exact dozes.own

/-- A pulse keeps the property exactly if it leaves the touch screen enabled. -/
theorem Dozes.pulse_iff (dozes : σ.Dozes) (isDoubleTapEnabled : Int) :
    (σ.onReceive paths isDoubleTapEnabled .ACTION_DOZE_PULSE_STARTING).FullPulses ↔
      paths.TS_PATH = true ∨ σ.device.touch = true := by
  have enabled := σ.device.handleScreenOn_touch paths false
  rw [← Bool.or_eq_true, ← enabled]
  constructor
  · intro full
    have positive : 0 < DOZING_TIME := by decide
    exact (full.awake σ.pulse rfl (Nat.lt_add_of_pos_right positive)).2
  · intro touch
    exact ⟨fun _ _ _ => ⟨rfl, touch⟩, dozes.own⟩

theorem Dozes.pulse (dozes : σ.Dozes) (isDoubleTapEnabled : Int)
    (touch : paths.TS_PATH = true ∨ σ.device.touch = true) :
    (σ.onReceive paths isDoubleTapEnabled .ACTION_DOZE_PULSE_STARTING).Dozes where
  awake := by
    intro p last
    cases last
    refine .inl ⟨rfl, ?_, _, List.getLast?_concat .., rfl⟩
    rw [← Bool.or_eq_true, ← σ.device.handleScreenOn_touch paths false] at touch
    exact touch
  dozing := fun _ => rfl
  ordered := by
    refine List.pairwise_append.mpr ⟨dozes.ordered, List.pairwise_singleton .., ?_⟩
    intro first posted second new
    cases List.mem_singleton.mp new
    exact dozes.numbered first posted
  numbered := by
    intro runnable posted
    obtain earlier | new := List.mem_append.mp posted
    · exact Nat.lt_succ_of_lt (dozes.numbered runnable earlier)
    · cases List.mem_singleton.mp new
      exact Nat.lt_succ_self _
  own := dozes.own

theorem Dozes.onReceive (dozes : σ.Dozes) {isDoubleTapEnabled : Int} {intent : Intent}
    (spared : σ.Spared paths (.onReceive isDoubleTapEnabled intent)) :
    (σ.onReceive paths isDoubleTapEnabled intent).Dozes := by
  cases intent with
  | ACTION_SCREEN_ON => exact dozes.stop ScreenState.noConfusion rfl rfl rfl rfl
  | ACTION_SCREEN_OFF => exact dozes.stop ScreenState.noConfusion rfl rfl rfl rfl
  | ACTION_DOZE_PULSE_STARTING => exact dozes.pulse isDoubleTapEnabled spared
  | ACTION_PHONE_STATE_CHANGED callState =>
      cases callState with
      | CALL_STATE_IDLE =>
          simp only [ScreenStateReceiver.onReceive]
          split
          · exact dozes.stop ScreenState.noConfusion rfl rfl rfl rfl
          · rename_i on
            have on := Classical.not_not.mp on
            refine dozes.stop ?_ rfl rfl rfl rfl
            show σ.mScreenState ≠ _
            rw [on]
            exact ScreenState.noConfusion
      | CALL_STATE_RINGING => exact dozes
      | CALL_STATE_OFFHOOK => exact dozes

theorem Dozes.onSensorChanged (dozes : σ.Dozes) (zero : Bool) :
    (σ.onSensorChanged paths zero).Dozes := by
  cases zero with
  | false => exact dozes.stop ScreenState.noConfusion rfl rfl rfl rfl
  | true => exact dozes.stop ScreenState.noConfusion rfl rfl rfl rfl

theorem Dozes.elapse (dozes : σ.Dozes) (ms : Nat) : ({ σ with now := σ.now + ms }).Dozes :=
  { dozes with
    awake := fun p last => (dozes.awake p last).imp_right
      (fun ⟨late, none_posted⟩ => ⟨Nat.le_add_right_of_le late, none_posted⟩) }

theorem Dozes.forceDisable (dozes : σ.Dozes) (value : Int) :
    ({ σ with device := { σ.device with force_disable := value } }).Dozes :=
  { dozes with }

theorem run_of_doze (state : σ.mScreenState = .STATE_DOZE) (runnable : DozeDisable)
    (posted : List DozeDisable) :
    { σ with posted := posted }.run paths runnable =
      { σ with
        mScreenState := .STATE_OFF
        posted := posted
        device := σ.device.disable paths runnable.isDoubleTapEnabled
        ended := σ.ended ++ (σ.dozing.map (fun p => (runnable.pulse.number, p.number))).toList } := by
  unfold run
  dsimp only
  rw [state]

theorem run_of_not_doze (state : σ.mScreenState ≠ .STATE_DOZE) (runnable : DozeDisable)
    (posted : List DozeDisable) :
    { σ with posted := posted }.run paths runnable = { σ with posted := posted } := by
  unfold run
  split
  · rename_i doze
    exact absurd doze state
  · rfl
  · rfl

/-- While a runnable is posted, the last pulse's has not run. -/
theorem Dozes.last_posted (dozes : σ.Dozes) {runnable : DozeDisable} {posted : List DozeDisable}
    (queue : σ.posted = runnable :: posted) {p : Pulse} (last : p ∈ σ.dozing) :
    σ.mScreenState = .STATE_DOZE ∧
      ∃ final, (runnable :: posted).getLast? = some final ∧ final.pulse = p := by
  obtain ⟨state, _, final⟩ | ⟨_, none_posted⟩ := dozes.awake p last
  · rw [queue] at final
    exact ⟨state, final⟩
  · rw [queue] at none_posted
    cases none_posted

/-- The runnable with the last pulse's number is the last one. -/
theorem Dozes.own_last (dozes : σ.Dozes) {runnable : DozeDisable} {posted : List DozeDisable}
    (queue : σ.posted = runnable :: posted) {p : Pulse} (last : p ∈ σ.dozing)
    (own : runnable.pulse.number = p.number) : posted = [] ∧ runnable.pulse = p := by
  obtain ⟨_, final, ends, same⟩ := dozes.last_posted queue last
  have ordered := dozes.ordered
  rw [queue, List.pairwise_cons] at ordered
  cases posted with
  | nil =>
      cases ends
      exact ⟨rfl, same⟩
  | cons second rest =>
      rw [List.getLast?_cons_cons] at ends
      have later := ordered.1 final (List.mem_of_getLast? ends)
      rw [same, own] at later
      exact absurd later (Nat.lt_irrefl _)

theorem Dozes.run (dozes : σ.Dozes) {runnable : DozeDisable} {posted : List DozeDisable}
    (queue : σ.posted = runnable :: posted)
    (due : σ.now = runnable.pulse.time + DOZING_TIME)
    (own : ∀ p ∈ σ.dozing, runnable.pulse.number = p.number) :
    ({ σ with posted := posted }.run paths runnable).Dozes := by
  have ordered := dozes.ordered
  have numbered := dozes.numbered
  rw [queue] at ordered numbered
  by_cases state : σ.mScreenState = .STATE_DOZE
  · obtain ⟨p, last⟩ := Option.isSome_iff_exists.mp (dozes.dozing state)
    obtain ⟨none_left, pulse⟩ := dozes.own_last queue last (own p last)
    rw [run_of_doze state]
    refine ⟨?_, ScreenState.noConfusion, ordered.of_cons,
      fun other left => numbered other (.tail _ left), ?_⟩
    · intro q now_last
      cases last.symm.trans now_last
      refine .inr ⟨?_, none_left⟩
      rw [← pulse]
      exact Nat.le_of_eq due.symm
    · intro e ended
      obtain before | now_ended := List.mem_append.mp ended
      · exact dozes.own e before
      · rw [last, Option.map_some, Option.toList_some] at now_ended
        cases List.mem_singleton.mp now_ended
        exact own p last
  · rw [run_of_not_doze state]
    refine ⟨?_, fun doze => absurd doze state, ordered.of_cons,
      fun other left => numbered other (.tail _ left), dozes.own⟩
    intro p last
    exact absurd (dozes.last_posted queue last).1 state

/-- A runnable that ends a doze keeps the property exactly if the doze is its pulse's. -/
theorem Dozes.run_iff (dozes : σ.Dozes) {runnable : DozeDisable} {posted : List DozeDisable}
    (queue : σ.posted = runnable :: posted)
    (due : σ.now = runnable.pulse.time + DOZING_TIME) :
    ({ σ with posted := posted }.run paths runnable).FullPulses ↔
      ∀ p ∈ σ.dozing, runnable.pulse.number = p.number := by
  constructor
  · intro full p last
    have state := (dozes.last_posted queue last).1
    have own := full.own
    rw [run_of_doze state] at own
    apply own (runnable.pulse.number, p.number)
    apply List.mem_append_right
    rw [Option.mem_def.mp last]
    exact List.mem_singleton_self _
  · intro own
    exact (dozes.run queue due own).fullPulses

/-- The runnable that is run is the first one posted, and it is due. -/
theorem step_run (taken : σ.step paths .run = some after) :
    ∃ runnable posted, σ.posted = runnable :: posted ∧
      σ.now = runnable.pulse.time + DOZING_TIME ∧
      after = { σ with posted := posted }.run paths runnable := by
  simp only [step] at taken
  split at taken
  · cases taken
  · rename_i runnable posted queue
    split at taken
    · rename_i due
      cases taken
      exact ⟨runnable, posted, queue, due, rfl⟩
    · cases taken

theorem Dozes.step (dozes : σ.Dozes) {label : Label} (spared : σ.Spared paths label)
    (taken : σ.step paths label = some after) : after.Dozes := by
  cases label with
  | onReceive isDoubleTapEnabled intent =>
      cases taken
      exact dozes.onReceive spared
  | onSensorChanged zero =>
      cases taken
      exact dozes.onSensorChanged zero
  | run =>
      obtain ⟨runnable, posted, queue, due, rfl⟩ := step_run taken
      refine dozes.run queue due (spared runnable ?_)
      rw [queue]
      rfl
  | elapse ms =>
      simp only [ScreenStateReceiver.step] at taken
      split at taken
      · cases taken
        exact dozes.elapse ms
      · cases taken
  | forceDisable value =>
      cases taken
      exact dozes.forceDisable value

/-- What a step that keeps the property finds. -/
theorem Dozes.spared (dozes : σ.Dozes) {label : Label}
    (taken : σ.step paths label = some after) (full : after.FullPulses) :
    σ.Spared paths label := by
  cases label with
  | onReceive isDoubleTapEnabled intent =>
      cases taken
      cases intent with
      | ACTION_DOZE_PULSE_STARTING => exact (dozes.pulse_iff isDoubleTapEnabled).mp full
      | ACTION_SCREEN_ON => trivial
      | ACTION_SCREEN_OFF => trivial
      | ACTION_PHONE_STATE_CHANGED callState => trivial
  | onSensorChanged zero => trivial
  | run =>
      obtain ⟨runnable, posted, queue, due, rfl⟩ := step_run taken
      intro first head
      rw [queue] at head
      cases head
      exact (dozes.run_iff queue due).mp full
  | elapse ms => trivial
  | forceDisable value => trivial

end ScreenStateReceiver

/-- As long as no runnable is run while another pulse dozes, every pulse gets its time, and
the first one that is ends a doze that is not its own. -/
theorem doze_pulse_full_time {paths : Paths} {σ : ScreenStateReceiver}
    (run : (screenStateReceiver paths).ReachableUnder (ScreenStateReceiver.Spared paths) σ) :
    σ.FullPulses ∧
      ∀ label after, (screenStateReceiver paths).step σ label = some after →
        (after.FullPulses ↔ σ.Spared paths label) := by
  have dozes : σ.Dozes := by
    apply run.invariant ScreenStateReceiver.Dozes
    · rintro σ ⟨device, rfl⟩
      exact ScreenStateReceiver.new_dozes device
    · intro before label after _ dozes spared taken
      exact dozes.step spared taken
  refine ⟨dozes.fullPulses, fun label after taken => ⟨dozes.spared taken, fun spared => ?_⟩⟩
  exact (dozes.step spared taken).fullPulses

/-- The first of three pulses has its time, the second is ended by a call, and the third is
in its last millisecond. -/
theorem doze_pulse_full_time_three :
    ∃ σ, (screenStateReceiver ⟨true, true⟩).execUnder (ScreenStateReceiver.Spared ⟨true, true⟩)
        (.new ⟨true, true, 0⟩)
        [.onReceive 0 .ACTION_DOZE_PULSE_STARTING, .elapse 5000, .run,
          .onReceive 0 .ACTION_DOZE_PULSE_STARTING, .elapse 4000,
          .onReceive 0 (.ACTION_PHONE_STATE_CHANGED .CALL_STATE_IDLE), .elapse 1000, .run,
          .onReceive 1 .ACTION_DOZE_PULSE_STARTING, .elapse 4999] = some σ ∧
      (σ.dozing = some ⟨2, 10000⟩ ∧ σ.now = 14999 ∧ σ.ended = [(0, 0)]) ∧
      σ.FullPulses ∧
      ∀ label after, (screenStateReceiver ⟨true, true⟩).step σ label = some after →
        (after.FullPulses ↔ σ.Spared ⟨true, true⟩ label) := by
  have first : (screenStateReceiver ⟨true, true⟩).initial (.new ⟨true, true, 0⟩) := ⟨_, rfl⟩
  apply System.execUnder_then first
  · intro σ run _
    exact doze_pulse_full_time run
  · decide +kernel

/-- Three seconds after a pulse comes another one, which the runnable of the first ends after
two. -/
theorem doze_pulse_cut_short :
    ¬ ∀ paths σ, (screenStateReceiver paths).Reachable σ → σ.FullPulses := by
  intro every
  have first : (screenStateReceiver ⟨true, true⟩).initial (.new ⟨true, true, 0⟩) := ⟨_, rfl⟩
  obtain ⟨σ, run, seen⟩ := System.reachable_of_exec first
    [.onReceive 0 .ACTION_DOZE_PULSE_STARTING, .elapse 3000,
      .onReceive 0 .ACTION_DOZE_PULSE_STARTING, .elapse 2000, .run]
    (fun σ => decide (σ.dozing = some ⟨1, 3000⟩ ∧ σ.now = 5000 ∧ σ.mScreenState = .STATE_OFF))
    (by decide +kernel)
  obtain ⟨dozing, now, off⟩ := of_decide_eq_true seen
  have awake := (every _ σ run).awake _ dozing
  rw [now, off] at awake
  exact ScreenState.noConfusion (awake (by decide)).1

end A5Common.InputDisabler
