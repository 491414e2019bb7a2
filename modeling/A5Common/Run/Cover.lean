import Mathlib.Data.List.Count
import Mathlib.Data.List.Basic

set_option autoImplicit false

namespace A5Common.Run

universe u v

variable {Item : Type u} {Place : Type v} (marks : Item → Place → Bool)

/-- How many places some items mark. -/
def marked (places : List Place) (items : List Item) : Nat :=
  places.countP (fun place => items.any (fun item => marks item place))

/-- Each item marks a place, and no two the same one. -/
structure EachNew (places : List Place) (items : List Item) : Prop where
  each : ∀ item ∈ items, ∃ place ∈ places, marks item place = true
  new : items.Pairwise (fun first second =>
    ∀ place ∈ places, marks first place = true → marks second place = false)

variable {marks} {places : List Place}

/-- An item adds the places that it marks and the others do not. -/
theorem marked_cons (item : Item) (items : List Item) :
    marked marks places (item :: items) = marked marks places items +
      places.countP (fun place => marks item place && !items.any (fun other => marks other place)) := by
  unfold marked
  induction places with
  | nil => rfl
  | cons place rest ih =>
      simp only [List.countP_cons, List.any_cons] at ih ⊢
      rw [ih]
      cases marks item place <;> cases items.any (fun other => marks other place) <;>
        simp only [Bool.false_or, Bool.true_or, Bool.false_and, Bool.true_and, Bool.not_true,
          Bool.not_false, Bool.false_eq_true, if_true, if_false] <;> omega

/-- What an item marks is new, if all of it counts. -/
theorem unmarked_of_count {item : Item} {items : List Item}
    (all : places.countP (marks item) ≤ places.countP
      (fun place => marks item place && !items.any (fun other => marks other place)))
    {place : Place} (mem : place ∈ places) (mark : marks item place = true) :
    ∀ other ∈ items, marks other place = false := by
  have split := List.countP_eq_countP_filter_add places (marks item)
    (fun place => !items.any (fun other => marks other place))
  rw [List.countP_filter, List.countP_filter] at split
  have none : places.countP (fun place =>
      marks item place && !!items.any (fun other => marks other place)) = 0 := by omega
  intro other inside
  by_contra old
  apply List.countP_eq_zero.mp none place mem
  have marked : items.any (fun other => marks other place) = true :=
    List.any_eq_true.mpr ⟨other, inside, by simpa using old⟩
  rw [mark, marked]
  rfl

variable (once : ∀ item, places.countP (marks item) ≤ 1)

include once

theorem added_le_one (item : Item) (items : List Item) :
    places.countP (fun place => marks item place && !items.any (fun other => marks other place)) ≤
      1 := by
  apply Nat.le_trans _ (once item)
  apply List.countP_mono_left
  intro place _ both
  exact (Bool.and_eq_true_iff.mp both).1

theorem marked_le (items : List Item) : marked marks places items ≤ items.length := by
  induction items with
  | nil =>
      apply Nat.le_of_eq
      exact List.countP_eq_zero.mpr (fun _ _ none => Bool.false_ne_true none)
  | cons item rest ih =>
      have one := added_le_one once item rest
      rw [marked_cons, List.length_cons]
      omega

/-- As many places are marked as there are items exactly when each item marks a new one. -/
theorem marked_eq_iff (items : List Item) :
    marked marks places items = items.length ↔ EachNew marks places items := by
  induction items with
  | nil =>
      constructor
      · intro _
        exact ⟨fun item none => absurd none List.not_mem_nil, List.Pairwise.nil⟩
      · intro _
        exact List.countP_eq_zero.mpr (fun _ _ none => Bool.false_ne_true none)
  | cons item rest ih =>
      have one := added_le_one once item rest
      have most := marked_le once rest
      rw [marked_cons, List.length_cons]
      constructor
      · intro all
        have new := ih.mp (by omega)
        have some : 0 < places.countP (fun place =>
            marks item place && !rest.any (fun other => marks other place)) := by omega
        obtain ⟨place, mem, both⟩ := List.countP_pos_iff.mp some
        have first := once item
        refine ⟨?_, List.pairwise_cons.mpr ⟨?_, new.new⟩⟩
        · intro other mem'
          rcases List.mem_cons.mp mem' with rfl | later
          · exact ⟨place, mem, (Bool.and_eq_true_iff.mp both).1⟩
          · exact new.each other later
        · intro other later place' mem' mark
          exact unmarked_of_count (by omega) mem' mark other later
      · intro all
        have new := ih.mpr ⟨fun other mem => all.each other (List.mem_cons_of_mem item mem),
          (List.pairwise_cons.mp all.new).2⟩
        obtain ⟨place, mem, mark⟩ := all.each item List.mem_cons_self
        have some : 0 < places.countP (fun place =>
            marks item place && !rest.any (fun other => marks other place)) := by
          apply List.countP_pos_iff.mpr
          refine ⟨place, mem, ?_⟩
          have unmarked : rest.any (fun other => marks other place) = false := by
            rw [List.any_eq_false]
            intro other later
            rw [(List.pairwise_cons.mp all.new).1 other later place mem mark]
            exact Bool.false_ne_true
          rw [mark, unmarked]
          rfl
        omega

end A5Common.Run
