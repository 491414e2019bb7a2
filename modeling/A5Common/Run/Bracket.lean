set_option autoImplicit false

namespace A5Common.Run

universe u

/-- The items of a history that open a session, that end it, and that may only
stand inside one. An item may end a session and need one. -/
structure Bracket (Item : Type u) where
  opens : Item → Bool
  closes : Item → Bool
  needs : Item → Bool

namespace Bracket

variable {Item : Type u} (bracket : Bracket Item)

/-- Is a session open after an item. -/
def next (now : Bool) (item : Item) : Bool :=
  if bracket.opens item then true else if bracket.closes item then false else now

/-- Is a session open after a history. -/
def after (now : Bool) : List Item → Bool
  | [] => now
  | item :: rest => after (bracket.next now item) rest

/-- Sessions open outside a session only, and what needs one stands inside. -/
def legal (now : Bool) : List Item → Bool
  | [] => true
  | item :: rest =>
      (!bracket.opens item || !now) && (!bracket.needs item || now) &&
        legal (bracket.next now item) rest

@[simp] theorem after_append (now : Bool) (front back : List Item) :
    bracket.after now (front ++ back) = bracket.after (bracket.after now front) back := by
  induction front generalizing now with
  | nil => rfl
  | cons item rest ih => exact ih _

theorem legal_append (now : Bool) (front back : List Item) :
    bracket.legal now (front ++ back) =
      (bracket.legal now front && bracket.legal (bracket.after now front) back) := by
  induction front generalizing now with
  | nil => simp [legal, after]
  | cons item rest ih => simp only [List.cons_append, legal, after, ih, Bool.and_assoc]

variable {bracket} {now : Bool} {front middle back : List Item} {item first second : Item}

theorem outside_of_opens (legal : bracket.legal now (front ++ item :: back) = true)
    (opens : bracket.opens item = true) : bracket.after now front = false := by
  rw [legal_append] at legal
  simp only [Bracket.legal, opens, Bool.and_eq_true] at legal
  simpa using legal.2.1.1

theorem inside_of_needs (legal : bracket.legal now (front ++ item :: back) = true)
    (needs : bracket.needs item = true) : bracket.after now front = true := by
  rw [legal_append] at legal
  simp only [Bracket.legal, needs, Bool.and_eq_true] at legal
  simpa using legal.2.1.2

/-- A session that is over was closed. -/
theorem exists_closes (ended : bracket.after true middle = false) :
    ∃ item ∈ middle, bracket.closes item = true := by
  induction middle with
  | nil => cases ended
  | cons item rest ih =>
      cases closed : bracket.closes item with
      | true => exact ⟨item, by simp, closed⟩
      | false =>
          have still : bracket.next true item = true := by simp [next, closed]
          rw [after, still] at ended
          obtain ⟨other, member, closes⟩ := ih ended
          exact ⟨other, List.mem_cons_of_mem item member, closes⟩

/-- A session that is open was opened. -/
theorem exists_opens (inside : bracket.after false middle = true) :
    ∃ item ∈ middle, bracket.opens item = true := by
  induction middle with
  | nil => cases inside
  | cons item rest ih =>
      cases opened : bracket.opens item with
      | true => exact ⟨item, by simp, opened⟩
      | false =>
          have still : bracket.next false item = false := by simp [next, opened]
          rw [after, still] at inside
          obtain ⟨other, member, opens⟩ := ih inside
          exact ⟨other, List.mem_cons_of_mem item member, opens⟩

theorem closes_after_opens (opens : bracket.opens first = true)
    (ended : bracket.after now (front ++ first :: middle) = false) :
    ∃ item ∈ middle, bracket.closes item = true := by
  rw [after_append, after, next, if_pos opens] at ended
  exact exists_closes ended

/-- Between two openings there is an end. -/
theorem closes_between
    (legal : bracket.legal now (front ++ first :: middle ++ second :: back) = true)
    (opens : bracket.opens first = true) (again : bracket.opens second = true) :
    ∃ item ∈ middle, bracket.closes item = true :=
  closes_after_opens opens (outside_of_opens legal again)

/-- Between two ends that need a session there is an opening. -/
theorem opens_between
    (legal : bracket.legal now (front ++ first :: middle ++ second :: back) = true)
    (closes : bracket.closes first = true) (shuts : bracket.opens first = false)
    (needs : bracket.needs second = true) : ∃ item ∈ middle, bracket.opens item = true := by
  have inside := inside_of_needs legal needs
  rw [after_append, after, next, if_neg (by simp [shuts]), if_pos closes] at inside
  exact exists_opens inside

end Bracket

end A5Common.Run
