import Mathlib.Data.Finmap

set_option autoImplicit false

namespace A5Common.Run

/-- A cell of a doubly linked chain. -/
structure Cell (Addr Content : Type) where
  next : Option Addr
  prev : Option Addr
  content : Content
deriving DecidableEq

/-- The cells that are allocated, by their addresses. -/
abbrev Cells (Addr Content : Type) :=
  Finmap (fun _ : Addr => Cell Addr Content)

/-- The address of the first item, or the one that comes after them. -/
def firstOf {Addr Content : Type} (after : Option Addr) : List (Addr × Content) → Option Addr
  | [] => after
  | (addr, _) :: _ => some addr

/-- The address of the last item, or the one that comes before them. -/
def lastOf {Addr Content : Type} (before : Option Addr) : List (Addr × Content) → Option Addr
  | [] => before
  | (addr, _) :: rest => lastOf (some addr) rest

/-- Follows a link from cell to cell, up to NULL. -/
inductive Walk {Addr : Type} (step : Addr → Option (Option Addr)) : Option Addr → List Addr → Prop
  | null : Walk step none []
  | cell {addr : Addr} {next : Option Addr} {rest : List Addr} (link : step addr = some next)
      (further : Walk step next rest) : Walk step (some addr) (addr :: rest)

variable {Addr Content : Type}

theorem firstOf_append (after : Option Addr) (front back : List (Addr × Content)) :
    firstOf after (front ++ back) = firstOf (firstOf after back) front := by
  cases front with
  | nil => rfl
  | cons item rest => rfl

theorem lastOf_append (before : Option Addr) (front back : List (Addr × Content)) :
    lastOf before (front ++ back) = lastOf (lastOf before front) back := by
  induction front generalizing before with
  | nil => rfl
  | cons item rest ih => exact ih (some item.1)

theorem firstOf_eq_none {items : List (Addr × Content)} :
    firstOf none items = none ↔ items = [] := by
  cases items with
  | nil => exact ⟨fun _ => rfl, fun _ => rfl⟩
  | cons item rest => exact ⟨nofun, nofun⟩

theorem lastOf_eq_none {items : List (Addr × Content)} :
    lastOf none items = none ↔ items = [] := by
  rcases List.eq_nil_or_concat' items with rfl | ⟨rest, last, rfl⟩
  · exact ⟨fun _ => rfl, fun _ => rfl⟩
  · rw [lastOf_append]
    exact ⟨nofun, fun empty => absurd empty (List.concat_ne_nil last rest)⟩

/-- The head after an item is unlinked: it changes if nothing stands before the item. -/
theorem firstOf_unlink (front back : List (Addr × Content)) (item : Addr × Content) :
    (lastOf none front).elim (firstOf none back) (fun _ => firstOf none (front ++ item :: back)) =
      firstOf none (front ++ back) := by
  cases front with
  | nil => rfl
  | cons first rest =>
      obtain ⟨last, found⟩ :=
        Option.ne_none_iff_exists'.mp (fun empty => List.cons_ne_nil first rest (lastOf_eq_none.mp empty))
      rw [found]
      rfl

/-- The tail after an item is unlinked: it changes if nothing stands after the item. -/
theorem lastOf_unlink (front back : List (Addr × Content)) (item : Addr × Content) :
    (firstOf none back).elim (lastOf none front) (fun _ => lastOf none (front ++ item :: back)) =
      lastOf none (front ++ back) := by
  rw [lastOf_append, lastOf_append]
  cases back with
  | nil => rfl
  | cons last rest => rfl

namespace Cells

variable [DecidableEq Addr]

/-- A change to a cell, which has to be allocated. -/
def store (addr : Addr) (change : Cell Addr Content → Cell Addr Content)
    (cells : Cells Addr Content) : Option (Cells Addr Content) :=
  (cells.lookup addr).map (fun cell => cells.insert addr (change cell))

/-- A cell is given back, which has to be allocated. -/
def free (addr : Addr) (cells : Cells Addr Content) : Option (Cells Addr Content) :=
  (cells.lookup addr).map (fun _ => cells.erase addr)

/-- The cell that is linked, if there is one, gets another predecessor. -/
def relinkPrev (addr prev : Option Addr) (cells : Cells Addr Content) :
    Option (Cells Addr Content) :=
  match addr with
  | none => some cells
  | some addr => cells.store addr (fun cell => { cell with prev := prev })

/-- The cell that is linked, if there is one, gets another successor. -/
def relinkNext (addr next : Option Addr) (cells : Cells Addr Content) :
    Option (Cells Addr Content) :=
  match addr with
  | none => some cells
  | some addr => cells.store addr (fun cell => { cell with next := next })

/-- The items stand one after the other in cells, between two links. -/
def Stretch (cells : Cells Addr Content) (before after : Option Addr) :
    List (Addr × Content) → Prop
  | [] => True
  | (addr, content) :: rest =>
      cells.lookup addr = some ⟨firstOf after rest, before, content⟩ ∧
        Stretch cells (some addr) after rest

variable {cells : Cells Addr Content} {before after : Option Addr}

theorem stretch_append (front back : List (Addr × Content)) :
    cells.Stretch before after (front ++ back) ↔
      cells.Stretch before (firstOf after back) front ∧
        cells.Stretch (lastOf before front) after back := by
  induction front generalizing before with
  | nil => exact (true_and _).symm ▸ Iff.rfl
  | cons item rest ih =>
      obtain ⟨addr, content⟩ := item
      rw [List.cons_append, Stretch, Stretch, ih, firstOf_append, and_assoc]
      rfl

/-- A stretch depends on its own cells only. -/
theorem Stretch.frame {items : List (Addr × Content)} (stretch : cells.Stretch before after items)
    {others : Cells Addr Content}
    (same : ∀ addr ∈ items.map Prod.fst, others.lookup addr = cells.lookup addr) :
    others.Stretch before after items := by
  induction items generalizing before with
  | nil => trivial
  | cons item rest ih =>
      rw [List.map_cons, List.forall_mem_cons] at same
      exact ⟨same.1.trans stretch.1, ih stretch.2 same.2⟩

theorem Stretch.walk_next {items : List (Addr × Content)}
    (stretch : cells.Stretch before after items) {rest : List Addr}
    (further : Walk (fun addr => (cells.lookup addr).map Cell.next) after rest) :
    Walk (fun addr => (cells.lookup addr).map Cell.next) (firstOf after items)
      (items.map Prod.fst ++ rest) := by
  induction items generalizing before with
  | nil => exact further
  | cons item others ih =>
      apply Walk.cell _ (ih stretch.2)
      rw [stretch.1]
      rfl

theorem Stretch.walk_prev {items : List (Addr × Content)}
    (stretch : cells.Stretch before after items) {rest : List Addr}
    (further : Walk (fun addr => (cells.lookup addr).map Cell.prev) before rest) :
    Walk (fun addr => (cells.lookup addr).map Cell.prev) (lastOf before items)
      ((items.map Prod.fst).reverse ++ rest) := by
  induction items generalizing before rest with
  | nil => exact further
  | cons item others ih =>
      rw [List.map_cons, List.reverse_cons, List.append_assoc]
      apply ih stretch.2
      apply Walk.cell _ further
      rw [stretch.1]
      rfl

theorem Stretch.contents {items : List (Addr × Content)}
    (stretch : cells.Stretch before after items) :
    (items.map Prod.fst).map (fun addr => (cells.lookup addr).map Cell.content) =
      (items.map Prod.snd).map some := by
  induction items generalizing before with
  | nil => rfl
  | cons item rest ih =>
      rw [List.map_cons, List.map_cons, ih stretch.2, stretch.1]
      rfl

theorem lookup_store {addr : Addr} {cell : Cell Addr Content}
    (found : cells.lookup addr = some cell) (change : Cell Addr Content → Cell Addr Content) :
    cells.store addr change = some (cells.insert addr (change cell)) := by
  unfold store
  rw [found]
  rfl

theorem mem_of_lookup {addr : Addr} {cell : Cell Addr Content}
    (found : cells.lookup addr = some cell) : addr ∈ cells := by
  rw [← Finmap.lookup_isSome, found]
  rfl

/-- A cell outside a stretch changes. -/
theorem Stretch.insert {items : List (Addr × Content)}
    (stretch : cells.Stretch before after items) {addr : Addr}
    (outside : addr ∉ items.map Prod.fst) (cell : Cell Addr Content) :
    Stretch (cells.insert addr cell) before after items := by
  apply stretch.frame
  intro other inside
  exact Finmap.lookup_insert_of_ne cells (fun same => outside (same ▸ inside))

/-- A cell outside a stretch is given back. -/
theorem Stretch.erase {items : List (Addr × Content)}
    (stretch : cells.Stretch before after items) {addr : Addr}
    (outside : addr ∉ items.map Prod.fst) :
    Stretch (cells.erase addr) before after items := by
  apply stretch.frame
  intro other inside
  exact Finmap.lookup_erase_ne (fun same => outside (same ▸ inside))

/-- A stretch gets another link before it, and no other cell changes. -/
theorem Stretch.relinkPrev {items : List (Addr × Content)}
    (stretch : cells.Stretch before after items) (nodup : (items.map Prod.fst).Nodup)
    (prev : Option Addr) :
    ∃ others, cells.relinkPrev (firstOf none items) prev = some others ∧
      others.Stretch prev after items ∧
      (∀ addr ∉ items.map Prod.fst, others.lookup addr = cells.lookup addr) ∧
      ∀ addr, addr ∈ others ↔ addr ∈ cells := by
  cases items with
  | nil => exact ⟨cells, rfl, trivial, fun _ _ => rfl, fun _ => Iff.rfl⟩
  | cons item rest =>
      obtain ⟨first, content⟩ := item
      obtain ⟨found, stretch⟩ := stretch
      rw [List.map_cons, List.nodup_cons] at nodup
      refine ⟨_, lookup_store found _, ⟨Finmap.lookup_insert cells, stretch.insert nodup.1 _⟩,
        ?_, ?_⟩
      · intro addr outside
        rw [List.map_cons, List.mem_cons, not_or] at outside
        exact Finmap.lookup_insert_of_ne cells outside.1
      · intro addr
        rw [Finmap.mem_insert, or_iff_right_of_imp]
        rintro rfl
        exact mem_of_lookup found

/-- A stretch gets another link after it, and no other cell changes. -/
theorem Stretch.relinkNext {items : List (Addr × Content)}
    (stretch : cells.Stretch before after items) (nodup : (items.map Prod.fst).Nodup)
    (next : Option Addr) :
    ∃ others, cells.relinkNext (lastOf none items) next = some others ∧
      others.Stretch before next items ∧
      (∀ addr ∉ items.map Prod.fst, others.lookup addr = cells.lookup addr) ∧
      ∀ addr, addr ∈ others ↔ addr ∈ cells := by
  rcases List.eq_nil_or_concat' items with rfl | ⟨front, ⟨last, content⟩, rfl⟩
  · exact ⟨cells, rfl, trivial, fun _ _ => rfl, fun _ => Iff.rfl⟩
  · rw [stretch_append] at stretch
    obtain ⟨stretch, found, -⟩ := stretch
    rw [List.map_append, List.nodup_append'] at nodup
    have outside : last ∉ front.map Prod.fst :=
      fun inside => nodup.2.2 inside List.mem_cons_self
    rw [lastOf_append]
    refine ⟨_, lookup_store found _, ?_, ?_, ?_⟩
    · rw [stretch_append]
      exact ⟨stretch.insert outside _, Finmap.lookup_insert cells, trivial⟩
    · intro addr outside
      rw [List.map_append, List.mem_append, not_or] at outside
      exact Finmap.lookup_insert_of_ne cells (fun same => outside.2 (same ▸ List.mem_cons_self))
    · intro addr
      rw [Finmap.mem_insert, or_iff_right_of_imp]
      rintro rfl
      exact mem_of_lookup found

/-- A whole chain: its items stand one after the other from NULL to NULL, at
different addresses, and nothing else is allocated. -/
structure Chain (cells : Cells Addr Content) (items : List (Addr × Content)) : Prop where
  stretch : cells.Stretch none none items
  nodup : (items.map Prod.fst).Nodup
  owned : ∀ addr, addr ∈ cells ↔ addr ∈ items.map Prod.fst

theorem chain_empty : Chain (∅ : Cells Addr Content) [] where
  stretch := trivial
  nodup := List.nodup_nil
  owned _ := ⟨fun found => absurd found Finmap.notMem_empty, nofun⟩

theorem Chain.card_keys {items : List (Addr × Content)} (chain : cells.Chain items) :
    cells.keys.card = items.length := by
  have same : cells.keys = (items.map Prod.fst).toFinset := by
    ext addr
    rw [Finmap.mem_keys, chain.owned, List.mem_toFinset]
  rw [same, List.toFinset_card_of_nodup chain.nodup, List.length_map]

/-- Every cell of a chain is linked to both sides. -/
theorem Chain.lookup {front back : List (Addr × Content)} {addr : Addr} {content : Content}
    (chain : cells.Chain (front ++ (addr, content) :: back)) :
    cells.lookup addr = some ⟨firstOf none back, lastOf none front, content⟩ :=
  ((stretch_append _ _).mp chain.stretch).2.1

/-- A new cell is linked before the first one. -/
theorem Chain.push {items : List (Addr × Content)} (chain : cells.Chain items) {addr : Addr}
    (fresh : addr ∉ cells) (content : Content) :
    ∃ others,
      relinkPrev (firstOf none items) (some addr)
        (cells.insert addr ⟨firstOf none items, none, content⟩) = some others ∧
      others.Chain ((addr, content) :: items) := by
  have outside : addr ∉ items.map Prod.fst := fun inside => fresh ((chain.owned addr).mpr inside)
  obtain ⟨others, relinked, stretch, same, owned⟩ :=
    (chain.stretch.insert outside ⟨firstOf none items, none, content⟩).relinkPrev chain.nodup
      (some addr)
  refine ⟨others, relinked, ⟨?_, stretch⟩, List.nodup_cons.mpr ⟨outside, chain.nodup⟩, ?_⟩
  · exact (same addr outside).trans (Finmap.lookup_insert cells)
  · intro other
    rw [owned, Finmap.mem_insert, chain.owned, List.map_cons, List.mem_cons]

/-- The neighbours of a cell are linked to each other, and it is given back. -/
theorem Chain.unlink {front back : List (Addr × Content)} {addr : Addr} {content : Content}
    (chain : cells.Chain (front ++ (addr, content) :: back)) :
    ∃ middle others,
      cells.relinkNext (lastOf none front) (firstOf none back) = some middle ∧
      middle.lookup addr = cells.lookup addr ∧
      middle.relinkPrev (firstOf none back) (lastOf none front) = some others ∧
      others.lookup addr = cells.lookup addr ∧
      Chain (others.erase addr) (front ++ back) := by
  have nodup := chain.nodup
  rw [List.map_append, List.map_cons, List.nodup_middle, List.nodup_cons, List.mem_append,
    not_or, List.nodup_append'] at nodup
  obtain ⟨⟨notFront, notBack⟩, front_nodup, back_nodup, apart⟩ := nodup
  obtain ⟨front_stretch, -, back_stretch⟩ := (stretch_append _ _).mp chain.stretch
  obtain ⟨middle, relinked_next, front_middle, same_middle, owned_middle⟩ :=
    front_stretch.relinkNext front_nodup (firstOf none back)
  obtain ⟨others, relinked_prev, back_others, same_others, owned_others⟩ :=
    (back_stretch.frame (fun other inside =>
      same_middle other (fun both => apart both inside))).relinkPrev back_nodup
      (lastOf none front)
  have front_others := front_middle.frame (fun other inside =>
    same_others other (fun both => apart inside both))
  refine ⟨middle, others, relinked_next, same_middle addr notFront, relinked_prev,
    (same_others addr notBack).trans (same_middle addr notFront), ?_, ?_, ?_⟩
  · rw [stretch_append]
    exact ⟨front_others.erase notFront, back_others.erase notBack⟩
  · rw [List.map_append, List.nodup_append']
    exact ⟨front_nodup, back_nodup, apart⟩
  · intro other
    rw [Finmap.mem_erase, owned_others, owned_middle, chain.owned, List.map_append, List.map_cons,
      List.map_append, List.mem_append, List.mem_cons, List.mem_append]
    constructor
    · rintro ⟨differs, inFront | same | inBack⟩
      · exact Or.inl inFront
      · exact absurd same differs
      · exact Or.inr inBack
    · rintro (inFront | inBack)
      · exact ⟨fun same => notFront (same ▸ inFront), Or.inl inFront⟩
      · exact ⟨fun same => notBack (same ▸ inBack), Or.inr (Or.inr inBack)⟩

/-- A cell may be written once more before it is given back. -/
theorem free_store {addr : Addr} {cell : Cell Addr Content}
    (found : cells.lookup addr = some cell) (change : Cell Addr Content → Cell Addr Content) :
    (cells.store addr change).bind (free addr) = some (cells.erase addr) := by
  rw [lookup_store found, Option.bind_some, free, Finmap.lookup_insert, Option.map_some]
  congr 1
  apply Finmap.ext_lookup
  intro other
  by_cases same : other = addr
  · rw [same, Finmap.lookup_erase, Finmap.lookup_erase]
  · rw [Finmap.lookup_erase_ne same, Finmap.lookup_erase_ne same,
      Finmap.lookup_insert_of_ne cells same]

theorem free_eq {addr : Addr} {cell : Cell Addr Content}
    (found : cells.lookup addr = some cell) : cells.free addr = some (cells.erase addr) := by
  rw [free, found, Option.map_some]

end Cells

end A5Common.Run
