set_option autoImplicit false

namespace A5Common.Run

universe u v w x

/-- A labelled system. A label carries everything the environment chooses in a
step, so that a step is a function; `none` is a label that is not enabled. -/
structure System (State : Type u) (Label : Type v) where
  initial : State → Prop
  step : State → Label → Option State

namespace System

variable {State : Type u} {Label : Type v} (sys : System State Label)

/-- The states of the runs in which every step meets the guard, a condition on
the state before the step and on its label. -/
inductive ReachableUnder (guard : State → Label → Prop) : State → Prop
  | start {state : State} (first : sys.initial state) : ReachableUnder guard state
  | next {before after : State} {label : Label} (run : ReachableUnder guard before)
      (met : guard before label) (taken : sys.step before label = some after) :
      ReachableUnder guard after

/-- The states of all runs. -/
abbrev Reachable (state : State) : Prop :=
  sys.ReachableUnder (fun _ _ => True) state

/-- The run of a list of labels, when every step is enabled and meets the guard. -/
def execUnder (guard : State → Label → Prop) [∀ state label, Decidable (guard state label)]
    (state : State) : List Label → Option State
  | [] => some state
  | label :: rest =>
      if guard state label then
        (sys.step state label).bind (fun next => execUnder guard next rest)
      else none

abbrev exec (state : State) (labels : List Label) : Option State :=
  sys.execUnder (fun _ _ => True) state labels

/-- The runs that go on from a state. -/
def startingAt (state : State) : System State Label where
  initial first := first = state
  step := sys.step

variable {sys}

/-- A property of the initial states that every guarded step keeps, given that
its source is itself reachable, holds of every reachable state. -/
theorem ReachableUnder.invariant {guard : State → Label → Prop} (holds : State → Prop)
    (base : ∀ state, sys.initial state → holds state)
    (keep : ∀ before label after, sys.ReachableUnder guard before → holds before →
      guard before label → sys.step before label = some after → holds after)
    {state : State} (run : sys.ReachableUnder guard state) : holds state := by
  induction run with
  | start first => exact base _ first
  | next run met taken ih => exact keep _ _ _ run ih met taken

theorem Reachable.step {before after : State} {label : Label}
    (run : sys.Reachable before) (taken : sys.step before label = some after) :
    sys.Reachable after :=
  .next run trivial taken

/-- A run goes on with a run of the state that it has come to. -/
theorem Reachable.trans {start before after : State}
    (run : (sys.startingAt start).Reachable before)
    (later : (sys.startingAt before).Reachable after) :
    (sys.startingAt start).Reachable after := by
  apply later.invariant (fun after => (sys.startingAt start).Reachable after)
  · rintro after rfl
    exact run
  · intro before label after _ reached _ taken
    exact Reachable.step reached taken

theorem ReachableUnder.unguarded {guard : State → Label → Prop} {state : State}
    (run : sys.ReachableUnder guard state) : sys.Reachable state := by
  induction run with
  | start first => exact .start first
  | next _ _ taken ih => exact ih.step taken

theorem ReachableUnder.exec {guard : State → Label → Prop}
    [∀ state label, Decidable (guard state label)] {before after : State}
    (run : sys.ReachableUnder guard before) (labels : List Label)
    (ran : sys.execUnder guard before labels = some after) : sys.ReachableUnder guard after := by
  induction labels generalizing before with
  | nil =>
      cases ran
      exact run
  | cons label rest ih =>
      unfold execUnder at ran
      split at ran
      · rename_i met
        obtain ⟨middle, taken, ran⟩ := Option.bind_eq_some_iff.mp ran
        exact ih (.next run met taken) ran
      · cases ran

/-- A trace that evaluates to a state with a decidable property is a run to
such a state. -/
theorem reachableUnder_of_exec (guard : State → Label → Prop)
    [∀ state label, Decidable (guard state label)] {start : State} (first : sys.initial start)
    (labels : List Label) (test : State → Bool)
    (ran : (sys.execUnder guard start labels).map test = some true) :
    ∃ state, sys.ReachableUnder guard state ∧ test state = true := by
  obtain ⟨state, arrived, passed⟩ := Option.map_eq_some_iff.mp ran
  exact ⟨state, ReachableUnder.exec (.start first) labels arrived, passed⟩

/-- A trace that evaluates to a state with a decidable property is a run that ends with
what holds after every such run. -/
theorem execUnder_then {guard : State → Label → Prop}
    [∀ state label, Decidable (guard state label)] {start : State} (first : sys.initial start)
    {labels : List Label} {seen holds : State → Prop} [DecidablePred seen]
    (sound : ∀ state, sys.ReachableUnder guard state → seen state → holds state)
    (ran : (sys.execUnder guard start labels).any (fun state => decide (seen state)) = true) :
    ∃ state, sys.execUnder guard start labels = some state ∧ seen state ∧ holds state := by
  obtain ⟨state, arrived, passed⟩ := (Option.any_eq_true _ _).mp ran
  have here := of_decide_eq_true passed
  exact ⟨state, arrived, here, sound state (.exec (.start first) labels arrived) here⟩

theorem reachable_of_exec {start : State} (first : sys.initial start) (labels : List Label)
    (test : State → Bool) (ran : (sys.exec start labels).map test = some true) :
    ∃ state, sys.Reachable state ∧ test state = true :=
  reachableUnder_of_exec _ first labels test ran

/-- A projection that sends every guarded step to a run of another system, or
leaves the projected state as it was, sends reachable states to reachable ones. -/
theorem ReachableUnder.project {State' : Type w} {Label' : Type x} {other : System State' Label'}
    {guard : State → Label → Prop} (view : State → State')
    (base : ∀ state, sys.initial state → other.initial (view state))
    (follow : ∀ before label after, guard before label → sys.step before label = some after →
      view after = view before ∨ ∃ label', other.step (view before) label' = some (view after))
    {state : State} (run : sys.ReachableUnder guard state) : other.Reachable (view state) := by
  induction run with
  | start first => exact .start (base _ first)
  | next _ met taken ih =>
      rcases follow _ _ _ met taken with same | ⟨label', moved⟩
      · rw [same]
        exact ih
      · exact ih.step moved

end System

end A5Common.Run
