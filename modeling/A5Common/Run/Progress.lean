import A5Common.Run.System

set_option autoImplicit false

namespace A5Common.Run.System

universe u v w

variable {State : Type u} {Label : Type v} {Choice : Type w} {sys : System State Label}

/-- If each step of a party that waits for a goal reaches it or comes closer, the party reaches
it alone, whatever is chosen in its steps. -/
theorem exec_reaches {label : Choice → Label} {waits goal : State → Prop} {distance : State → Nat}
    (closer : ∀ state choice, waits state → ∃ after, sys.step state (label choice) = some after ∧
      (goal after ∨ waits after ∧ distance after < distance state))
    {state : State} (start : waits state) {choices : List Choice}
    (enough : distance state < choices.length) :
    ∃ count after, sys.exec state ((choices.take count).map label) = some after ∧ goal after := by
  induction choices generalizing state with
  | nil => cases enough
  | cons choice rest ih =>
      obtain ⟨next, taken, reached | ⟨waiting, less⟩⟩ := closer state choice start
      · refine ⟨1, next, ?_, reached⟩
        unfold exec
        rw [List.take_succ_cons, List.take_zero, List.map_singleton, execUnder, if_pos trivial,
          taken]
        rfl
      · rw [List.length_cons] at enough
        obtain ⟨count, after, ran, reached⟩ := ih waiting (by omega)
        refine ⟨count + 1, after, ?_, reached⟩
        unfold exec at ran ⊢
        rw [List.take_succ_cons, List.map_cons, execUnder, if_pos trivial, taken, Option.bind_some,
          ran]

end A5Common.Run.System
