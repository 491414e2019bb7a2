import Mathlib.Logic.Function.Iterate

set_option autoImplicit false

namespace A5Common.Run

universe u

section

variable {State : Type u} (body : State → State) (again : State → Bool)

/-- A loop that tests its condition behind its body, for at most so many rounds. -/
def doWhile : Nat → State → Option State
  | 0, _ => none
  | fuel + 1, state =>
      if again (body state) = true then doWhile fuel (body state) else some (body state)

/-- The loop ends in a state, with enough rounds. -/
def Ends (state final : State) : Prop :=
  ∃ fuel, doWhile body again fuel state = some final

variable {body again} {state final : State}

/-- The state in which the loop ends is the first one behind the body without the condition. -/
theorem doWhile_eq_some {fuel : Nat} (ended : doWhile body again fuel state = some final) :
    ∃ rounds, final = body^[rounds + 1] state ∧ again final = false ∧
      ∀ earlier, earlier < rounds → again (body^[earlier + 1] state) = true := by
  induction fuel generalizing state with
  | zero => cases ended
  | succ fuel ih =>
      unfold doWhile at ended
      split at ended
      · rename_i goes_on
        obtain ⟨rounds, same, stops, before⟩ := ih ended
        refine ⟨rounds + 1, same, stops, ?_⟩
        intro earlier less
        cases earlier with
        | zero => exact goes_on
        | succ earlier => exact before earlier (Nat.lt_of_succ_lt_succ less)
      · rename_i stops
        cases ended
        exact ⟨0, rfl, eq_false_of_ne_true stops, fun _ less => absurd less (Nat.not_lt_zero _)⟩

theorem doWhile_of_rounds {rounds : Nat} (stops : again (body^[rounds + 1] state) = false)
    (before : ∀ earlier, earlier < rounds → again (body^[earlier + 1] state) = true) :
    doWhile body again (rounds + 1) state = some (body^[rounds + 1] state) := by
  induction rounds generalizing state with
  | zero =>
      have stops : again (body state) = false := stops
      rw [doWhile, if_neg (ne_true_of_eq_false stops)]
      rfl
  | succ rounds ih =>
      have goes_on : again (body state) = true := before 0 (Nat.succ_pos rounds)
      rw [doWhile, if_pos goes_on]
      exact ih stops (fun earlier less => before (earlier + 1) (Nat.succ_lt_succ less))

theorem ends_iff :
    Ends body again state final ↔
      ∃ rounds, final = body^[rounds + 1] state ∧ again final = false ∧
        ∀ earlier, earlier < rounds → again (body^[earlier + 1] state) = true := by
  constructor
  · intro ⟨fuel, ended⟩
    exact doWhile_eq_some ended
  · rintro ⟨rounds, rfl, stops, before⟩
    exact ⟨rounds + 1, doWhile_of_rounds stops before⟩

end

end A5Common.Run
