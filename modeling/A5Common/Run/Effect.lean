import Mathlib.Logic.Basic

set_option autoImplicit false

namespace A5Common.Run

universe u

/-- What can become of a setting: it stays, it is written or taken away, or it gets a default
if it is blank. -/
inductive Effect (Value : Type u) where
  | keep
  | write (setting : Option Value)
  | default (value : Value)

namespace Effect

section

variable {Value : Type u} (blank : Option Value → Bool)

def run (setting : Option Value) : Effect Value → Option Value
  | keep => setting
  | write written => written
  | default value => if blank setting = true then some value else setting

/-- An effect after another. -/
def andThen (first : Effect Value) : Effect Value → Effect Value
  | keep => first
  | write written => write written
  | default value =>
      match first with
      | keep => default value
      | write written => write (if blank written = true then some value else written)
      | default value => default value

/-- A default is not blank itself. -/
def Sensible : Effect Value → Prop
  | default value => blank (some value) = false
  | _ => True

variable {blank}

@[simp] theorem keep_andThen (effect : Effect Value) : keep.andThen blank effect = effect := by
  cases effect <;> rfl

@[simp] theorem andThen_keep (effect : Effect Value) : effect.andThen blank keep = effect := rfl

@[simp] theorem andThen_write (effect : Effect Value) (written : Option Value) :
    effect.andThen blank (write written) = write written := rfl

@[simp] theorem default_andThen_default (value later : Value) :
    (default value).andThen blank (default later) = default value := rfl

theorem run_andThen {first : Effect Value} (sensible : first.Sensible blank)
    (second : Effect Value) (setting : Option Value) :
    run blank setting (first.andThen blank second) =
      run blank (run blank setting first) second := by
  cases second with
  | keep => rfl
  | write written => rfl
  | default value =>
      cases first with
      | keep => rfl
      | write written => rfl
      | default before =>
          have filled : blank (some before) = false := sensible
          unfold andThen run
          simp only
          by_cases empty : blank setting = true
          · rw [if_pos empty, if_neg (ne_true_of_eq_false filled)]
          · rw [if_neg empty, if_neg empty]

theorem sensible_andThen {first second : Effect Value} (before : first.Sensible blank)
    (after : second.Sensible blank) : (first.andThen blank second).Sensible blank := by
  cases second with
  | keep => exact before
  | write written => trivial
  | default value =>
      cases first with
      | keep => exact after
      | write written => trivial
      | default value => exact before

/-- An effect that takes place twice takes place once. -/
theorem run_run {effect : Effect Value} (sensible : effect.Sensible blank)
    (setting : Option Value) :
    run blank (run blank setting effect) effect = run blank setting effect := by
  rw [← run_andThen sensible]
  cases effect with
  | keep => rfl
  | write written => rfl
  | default value => rfl

end

end Effect

end A5Common.Run
