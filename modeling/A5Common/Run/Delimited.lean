import Mathlib.Data.List.TakeWhile

set_option autoImplicit false

namespace A5Common.Run.Delimited

universe u

section

variable {α : Type u} [DecidableEq α]

/-- What stands in front of the first separator. -/
def before (sep : α) (text : List α) : List α :=
  text.takeWhile (· ≠ sep)

/-- What follows the first separator, if there is one. -/
def after (sep : α) : List α → Option (List α)
  | [] => none
  | c :: rest => if c = sep then some rest else after sep rest

theorem before_cons_ne {sep c : α} (other : c ≠ sep) (rest : List α) :
    before sep (c :: rest) = c :: before sep rest :=
  List.takeWhile_cons_of_pos (decide_eq_true other)

theorem not_mem_before (sep : α) (text : List α) : sep ∉ before sep text := by
  intro member
  have kept := List.mem_takeWhile_imp member
  rw [decide_eq_true_eq] at kept
  exact kept rfl

theorem after_eq_none {sep : α} {text : List α} : after sep text = none ↔ sep ∉ text := by
  induction text with
  | nil => exact iff_of_true rfl List.not_mem_nil
  | cons c rest ih =>
      unfold after
      rw [List.mem_cons, not_or]
      by_cases here : c = sep
      · rw [if_pos here]
        exact iff_of_false (Option.some_ne_none _) (fun absent => absent.1 here.symm)
      · rw [if_neg here, ih]
        exact ⟨fun absent => ⟨Ne.symm here, absent⟩, And.right⟩

/-- The first separator splits the text. -/
theorem after_eq_some {sep : α} {text rest : List α} :
    after sep text = some rest ↔ text = before sep text ++ sep :: rest := by
  induction text with
  | nil => exact iff_of_false (Option.some_ne_none _).symm (List.cons_ne_nil _ _).symm
  | cons c text ih =>
      unfold after
      by_cases here : c = sep
      · rw [if_pos here, before, List.takeWhile_cons_of_neg (by simpa using here), here]
        simp
      · rw [if_neg here, ih, before_cons_ne here, List.cons_append, List.cons_inj_right]

theorem length_after {sep : α} {text rest : List α} (found : after sep text = some rest) :
    rest.length < text.length := by
  rw [after_eq_some.mp found, List.length_append, List.length_cons]
  omega

theorem before_append {sep : α} {front : List α} (free : sep ∉ front) (rest : List α) :
    before sep (front ++ sep :: rest) = front := by
  induction front with
  | nil => exact List.takeWhile_cons_of_neg (by simp)
  | cons c front ih =>
      rw [List.mem_cons, not_or] at free
      rw [List.cons_append, before_cons_ne (Ne.symm free.1), ih free.2]

theorem after_append {sep : α} {front : List α} (free : sep ∉ front) (rest : List α) :
    after sep (front ++ sep :: rest) = some rest := by
  rw [after_eq_some, before_append free]

/-- The bindings of a text `key = value; key = value`, with these two signs: a key ends at
the first sign of the one kind, its value at the next one of the other. A key at the end
that has no value is passed over. -/
def pairs (equals semicolon : α) (text : List α) : List (List α × List α) :=
  match found : after equals text with
  | none => []
  | some value =>
      have shorter : value.length < text.length := length_after found
      match more : after semicolon value with
      | none => [(before equals text, value)]
      | some rest =>
          have _shorter : rest.length < text.length := lt_trans (length_after more) shorter
          (before equals text, before semicolon value) :: pairs equals semicolon rest
termination_by text.length

/-- The text of bindings, with a sign between each and the next. -/
def joined (equals semicolon : α) : List (List α × List α) → List α
  | [] => []
  | [binding] => binding.1 ++ equals :: binding.2
  | binding :: next :: rest =>
      binding.1 ++ equals :: binding.2 ++ semicolon :: joined equals semicolon (next :: rest)

/-- A binding whose key and value do not have the signs that end them. -/
def Separable (equals semicolon : α) (binding : List α × List α) : Prop :=
  equals ∉ binding.1 ∧ semicolon ∉ binding.2

instance (equals semicolon : α) : DecidablePred (Separable equals semicolon) := fun binding =>
  inferInstanceAs (Decidable (equals ∉ binding.1 ∧ semicolon ∉ binding.2))

variable {equals semicolon : α}

theorem pairs_none {text : List α} (missing : after equals text = none) :
    pairs equals semicolon text = [] := by
  unfold pairs
  split
  · rfl
  · rename_i found
    rw [missing] at found
    cases found

theorem pairs_last {text value : List α} (found : after equals text = some value)
    (last : after semicolon value = none) :
    pairs equals semicolon text = [(before equals text, value)] := by
  unfold pairs
  split
  · rename_i missing
    rw [missing] at found
    cases found
  · rename_i other_value other
    rw [other] at found
    cases found
    split
    · rfl
    · rename_i more
      rw [last] at more
      cases more

theorem pairs_more {text value rest : List α} (found : after equals text = some value)
    (more : after semicolon value = some rest) :
    pairs equals semicolon text =
      (before equals text, before semicolon value) :: pairs equals semicolon rest := by
  rw [pairs]
  split
  · rename_i missing
    rw [missing] at found
    cases found
  · rename_i other_value other
    rw [other] at found
    cases found
    split
    · rename_i last
      rw [last] at more
      cases more
    · rename_i other_rest same
      rw [same] at more
      cases more
      rfl

/-- What is read can be written without a loss. -/
theorem pairs_separable (text : List α) :
    ∀ binding ∈ pairs equals semicolon text, Separable equals semicolon binding := by
  induction text using pairs.induct equals semicolon with
  | case1 text missing =>
      rw [pairs_none missing]
      exact List.forall_mem_nil _
  | case2 text value found shorter last =>
      rw [pairs_last found last, List.forall_mem_singleton]
      exact ⟨not_mem_before equals text, after_eq_none.mp last⟩
  | case3 text value found shorter rest more shorter' ih =>
      rw [pairs_more found more, List.forall_mem_cons]
      exact ⟨⟨not_mem_before equals text, not_mem_before semicolon value⟩, ih⟩

/-- Bindings that can be written are read again as they were. -/
theorem pairs_joined {bindings : List (List α × List α)}
    (separable : ∀ binding ∈ bindings, Separable equals semicolon binding) :
    pairs equals semicolon (joined equals semicolon bindings) = bindings := by
  induction bindings with
  | nil => exact pairs_none rfl
  | cons binding rest ih =>
      rw [List.forall_mem_cons] at separable
      have ⟨⟨key_free, value_free⟩, others⟩ := separable
      cases rest with
      | nil =>
          rw [joined, pairs_last (after_append key_free _) (after_eq_none.mpr value_free),
            before_append key_free]
      | cons next rest =>
          rw [joined, List.append_assoc, List.cons_append,
            pairs_more (after_append key_free _) (after_append value_free _),
            before_append key_free, before_append value_free, ih others]

end

end A5Common.Run.Delimited
