import A5Common.Agps.Nifs

set_option autoImplicit false

namespace A5Common.Agps

open A5Common.Run

/-- An ATL or DS subscriber with this connection handle. -/
def Subscriber.named (s : Subscriber) (id : BitVec 32) : Bool :=
  (s.kind == .atl || s.kind == .ds) && s.ID == id

/-- The rest of a list. -/
def others (id : BitVec 32) (list : List Subscriber) : List Subscriber :=
  list.filter (!·.named id)

def Action.atlClose? : Action → Option (BitVec 32 × Bool)
  | .atlCloseStatus handle is_succ => some (handle, is_succ)
  | _ => none

def atlCloses (actions : List Action) : List (BitVec 32 × Bool) :=
  actions.filterMap Action.atlClose?

/-- One close status for the handle, nobody else gone or inactive, and no BIT
or WIFI subscriber told anything. -/
structure Exact (id : BitVec 32) (before after : List (List Subscriber)) (out : List Action) :
    Prop where
  close : ∃ is_succ, atlCloses out = [(id, is_succ)]
  kept : before.map (others id) = after.map (others id)
  quiet : ∀ s status, .notified s status ∈ out → s.kind ≠ .bit ∧ s.kind ≠ .wifi

theorem filter_modify {α : Type} {list : List α} {position : Nat} {f : α → α} {p : α → Bool}
    (drop : ∀ x, list[position]? = some x → p x = false ∧ p (f x) = false) :
    (list.modify position f).filter p = list.filter p := by
  induction list generalizing position with
  | nil => simp
  | cons x rest ih =>
      cases position with
      | zero =>
          obtain ⟨was, now⟩ := drop x rfl
          simp [List.modify_zero_cons, was, now]
      | succ position =>
          have tail : (rest.modify position f).filter p = rest.filter p :=
            ih (fun y found => drop y (by simpa using found))
          simp only [List.modify_succ_cons, List.filter_cons, tail]

/-- An entry that compares handles is the only one that equals it. -/
theorem Distinct.eq_of_equals {list : List Subscriber} (distinct : Distinct list) {s e : Subscriber}
    (sListed : s ∈ list) (eListed : e ∈ list) (kind : e.kind ≠ .bit)
    (same : s.equals e = true) : s = e := by
  by_contra apart
  have sides : s.equals e = false ∨ e.equals s = false := by
    clear same kind
    induction list with
    | nil => cases sListed
    | cons first rest ih =>
        obtain ⟨head, tail⟩ := List.pairwise_cons.mp distinct
        rcases List.mem_cons.mp sListed with rfl | sTail
        · rcases List.mem_cons.mp eListed with rfl | eTail
          · exact absurd rfl apart
          · exact .inr (head e eTail)
        · rcases List.mem_cons.mp eListed with rfl | eTail
          · exact .inl (head s sTail)
          · exact ih tail sTail eTail
  rcases sides with differ | differ
  · rw [differ] at same
    cases same
  · rw [Subscriber.equals_of_not_bit kind, ← Subscriber.ID_of_equals same] at differ
    simp at differ

section Unsubscribe

variable {send : SendRsrcRequest} (frames : send.Frames)
include frames

theorem told_releaseIfUnused (stay : AgpsState) (m : AgpsStateMachine) :
    told (releaseIfUnused send stay m).1.out = told m.out := by
  unfold releaseIfUnused
  split
  · exact frames.told _ _
  · split
    · exact frames.told _ _
    · rfl

/-- The list and the told part of an unsubscription outside the released state. -/
theorem unsubscribe_held {m : AgpsStateMachine} (held : m.mStatePtr ≠ .released)
    (position : Nat) :
    (m.onStateEvent send (.unsubscribe position)).mSubscribers =
        (unsubscribeEntry position m).mSubscribers ∧
    told (m.onStateEvent send (.unsubscribe position)).out =
        told (unsubscribeEntry position m).out := by
  unfold AgpsStateMachine.onStateEvent
  cases state : m.mStatePtr with
  | released => exact absurd state held
  | pending | acquired =>
      exact ⟨releaseIfUnused_mSubscribers frames _ _, told_releaseIfUnused frames _ _⟩
  | releasing =>
      simp only [releasingOnRsrcEvent]
      split <;> exact ⟨rfl, rfl⟩

omit frames in
theorem unsubscribe_released (send : SendRsrcRequest) {m : AgpsStateMachine}
    (released : m.mStatePtr = .released)
    (clear : m.out = []) {position : Nat} {e : Subscriber}
    (listed : m.mSubscribers[position]? = some e) :
    (m.onStateEvent send (.unsubscribe position)).mSubscribers = m.mSubscribers ∧
    (m.onStateEvent send (.unsubscribe position)).out = m.reports e .unsubscribe := by
  simp only [AgpsStateMachine.onStateEvent, released, releasedOnRsrcEvent, listed,
    AgpsStateMachine.notifyRsrcStatus, Subscriber.forMe_unicast, Subscriber.equals_self]
  have informed := m.inform_out e .unsubscribe
  rw [clear, List.nil_append] at informed
  exact ⟨m.inform_mSubscribers e .unsubscribe, informed⟩

end Unsubscribe

theorem atlCloses_told (actions : List Action) :
    atlCloses (told actions) = atlCloses actions := by
  simp only [atlCloses, told, List.filterMap_filterMap]
  congr 1
  funext a
  cases a <;> rfl

theorem mem_told_notified {actions : List Action} {s : Subscriber} {status : AgpsRsrcStatus} :
    .notified s status ∈ told actions ↔ .notified s status ∈ actions := by
  simp only [told, List.mem_filterMap]
  constructor
  · rintro ⟨a, member, tells⟩
    cases a <;> simp_all [Action.told?]
  · intro member
    exact ⟨_, member, rfl⟩

/-- What the two kinds of entries that have a handle say to an unsubscription. -/
theorem reports_unsubscribe_named (m : AgpsStateMachine) {e : Subscriber} {id : BitVec 32}
    (named : e.named id = true) :
    m.reports e .unsubscribe = [.notified e .unsubscribe, .atlCloseStatus id true] := by
  cases e with
  | bit | wifi => simp [Subscriber.named, Subscriber.kind] at named
  | atl | ds =>
      simp only [Subscriber.named, Subscriber.ID, Bool.and_eq_true, beq_iff_eq] at named
      rw [← named.2]
      rfl

theorem Distinct.filter_equals {list : List Subscriber} (distinct : Distinct list)
    {e : Subscriber} (listed : e ∈ list) (kind : e.kind ≠ .bit) :
    list.filter (·.equals e) = [e] := by
  have alone : ∀ s ∈ list.filter (·.equals e), s = e := by
    intro s member
    obtain ⟨member, same⟩ := List.mem_filter.mp member
    exact distinct.eq_of_equals member listed kind same
  have there : e ∈ list.filter (·.equals e) := List.mem_filter.mpr ⟨listed, by simp⟩
  have apart := distinct.filter (·.equals e)
  generalize list.filter (·.equals e) = equal at alone there apart ⊢
  cases equal with
  | nil => cases there
  | cons first rest =>
      obtain rfl := alone first (by simp)
      cases rest with
      | nil => rfl
      | cons second rest =>
          obtain rfl := alone second (by simp)
          have differ := (List.pairwise_cons.mp apart).1 second (by simp)
          simp at differ

theorem exact_of_told {id : BitVec 32} {before after : List (List Subscriber)}
    {out : List Action} (close : ∃ is_succ, atlCloses (told out) = [(id, is_succ)])
    (kept : before.map (others id) = after.map (others id))
    (quiet : ∀ s status, .notified s status ∈ told out → s.kind ≠ .bit ∧ s.kind ≠ .wifi) :
    Exact id before after out where
  close := by rwa [atlCloses_told] at close
  kept := kept
  quiet s status member := quiet s status (mem_told_notified.mpr member)

theorem kind_of_named {e : Subscriber} {id : BitVec 32} (named : e.named id = true) :
    e.kind ≠ .bit ∧ e.kind ≠ .wifi := by
  cases e <;> simp_all [Subscriber.named, Subscriber.kind]

theorem named_markInactive (e : Subscriber) (id : BitVec 32) :
    e.markInactive.named id = e.named id := by
  simp [Subscriber.named]

/-- The reports of an ATL or DS entry end its own connection only. -/
theorem exact_of_named {id : BitVec 32} {e : Subscriber} (named : e.named id = true)
    {before after : List (List Subscriber)}
    (kept : before.map (others id) = after.map (others id)) {out : List Action}
    (said : told out = [.notified e .unsubscribe, .atlCloseStatus id true] ∨
      told out = [.atlCloseStatus id true]) :
    Exact id before after out := by
  refine exact_of_told ⟨true, ?_⟩ kept ?_
  · rcases said with said | said <;> rw [said] <;> rfl
  · intro s status member
    rcases said with said | said
    · rw [said] at member
      have same : s = e ∧ status = .unsubscribe := by simpa using member
      rw [same.1]
      exact kind_of_named named
    · simp [said] at member

section Unsubscribe

variable {send : SendRsrcRequest} (frames : send.Frames) {m : AgpsStateMachine}
  (clear : m.out = []) {position : Nat} {e : Subscriber}
  (listed : m.mSubscribers[position]? = some e)
include frames clear listed

/-- The unsubscription of an ATL or DS entry is exact. -/
theorem unsubscribe_named (distinct : Distinct m.mSubscribers) {id : BitVec 32}
    (named : e.named id = true) :
    Exact id [m.mSubscribers] [(m.onStateEvent send (.unsubscribe position)).mSubscribers]
      (m.onStateEvent send (.unsubscribe position)).out := by
  have member : e ∈ m.mSubscribers := List.mem_of_getElem? listed
  have ID : e.ID = id := by
    simp only [Subscriber.named, Bool.and_eq_true, beq_iff_eq] at named
    exact named.2
  by_cases state : m.mStatePtr = .released
  · obtain ⟨list, out⟩ := unsubscribe_released send state clear listed
    rw [list, out]
    refine exact_of_named named rfl (.inl ?_)
    rw [reports_unsubscribe_named m named]
    rfl
  · obtain ⟨list, said⟩ := unsubscribe_held frames state position
    rcases unsubscribeEntry_cases listed with ⟨waits, marked⟩ | ⟨-, removed⟩
    · -- a DS entry stays, marked, until its connection is closed
      have kind : e.kind = .ds := by
        cases e <;> simp_all [Subscriber.named, Subscriber.kind, Subscriber.waitForCloseComplete]
      rw [list, marked, m.setInactive_mSubscribers]
      rw [marked, AgpsStateMachine.setInactive_out listed, clear, kind, ID] at said
      refine exact_of_named named ?_ (.inr said)
      simp only [List.map_cons, List.map_nil]
      congr 1
      refine (filter_modify ?_).symm
      intro x found
      rw [listed] at found
      obtain rfl := Option.some.inj found
      simp [named_markInactive, named]
    · -- an ATL entry is removed, and no other equals it
      have alone := distinct.filter_equals member (kind_of_named named).1
      rw [list, removed, m.notifySubscribers_unicast e .unsubscribe rfl]
      rw [removed, m.notifySubscribers_out _ rfl, clear] at said
      simp only [Subscriber.forMe_unicast, alone] at said
      refine exact_of_named named ?_ (.inl ?_)
      · simp only [List.map_cons, List.map_nil, others, List.filter_filter]
        congr 1
        refine List.filter_congr ?_
        intro s sListed
        cases same : s.equals e with
        | false => simp
        | true =>
            obtain rfl := distinct.eq_of_equals sListed member (kind_of_named named).1 same
            simp [named]
      · rw [said]
        simp only [Notification.unicast, List.flatMap_cons, List.flatMap_nil]
        rw [reports_unsubscribe_named m named]
        rfl

/-- The unsubscription of a BIT entry tells it so. -/
theorem unsubscribe_bit (kind : e.kind = .bit) :
    .notified e .unsubscribe ∈ (m.onStateEvent send (.unsubscribe position)).out := by
  have member : e ∈ m.mSubscribers := List.mem_of_getElem? listed
  have told : .notified e .unsubscribe ∈ m.reports e .unsubscribe := by
    cases e with
    | bit => simp [AgpsStateMachine.reports, AgpsStateMachine.inform, AgpsStateMachine.emit]
    | atl | wifi | ds => cases kind
  by_cases state : m.mStatePtr = .released
  · rw [(unsubscribe_released send state clear listed).2]
    exact told
  · obtain ⟨-, said⟩ := unsubscribe_held frames state position
    rcases unsubscribeEntry_cases listed with ⟨waits, -⟩ | ⟨-, removed⟩
    · cases e with
      | bit => cases waits
      | atl | wifi | ds => cases kind
    · rw [← mem_told_notified, said, removed, mem_told_notified,
        m.notifySubscribers_out _ rfl, clear, List.nil_append]
      exact List.mem_flatMap.mpr ⟨e, List.mem_filter.mpr ⟨member, by simp⟩, told⟩

/-- The unsubscription of a WIFI entry tells it so or closes no connection. -/
theorem unsubscribe_wifi (kind : e.kind = .wifi) :
    .notified e .unsubscribe ∈ (m.onStateEvent send (.unsubscribe position)).out ∨
    atlCloses (m.onStateEvent send (.unsubscribe position)).out = [] := by
  by_cases state : m.mStatePtr = .released
  · rw [(unsubscribe_released send state clear listed).2]
    cases e with
    | wifi =>
        exact .inl (by
          simp [AgpsStateMachine.reports, AgpsStateMachine.inform, AgpsStateMachine.emit])
    | atl | bit | ds => cases kind
  · obtain ⟨-, said⟩ := unsubscribe_held frames state position
    rcases unsubscribeEntry_cases listed with ⟨-, marked⟩ | ⟨waits, -⟩
    · rw [marked, AgpsStateMachine.setInactive_out listed, clear, kind] at said
      rw [← atlCloses_told, said]
      exact .inr rfl
    · cases e with
      | wifi => cases waits
      | atl | bit | ds => cases kind

/-- An unsubscription for a handle is exact if and only if the entry that it
finds is not a BIT or a WIFI one. -/
theorem unsubscribe_exact_iff (distinct : Distinct m.mSubscribers) {id : BitVec 32}
    (ID : e.ID = id) :
    Exact id [m.mSubscribers] [(m.onStateEvent send (.unsubscribe position)).mSubscribers]
        (m.onStateEvent send (.unsubscribe position)).out ↔
      e.kind ≠ .bit ∧ e.kind ≠ .wifi := by
  constructor
  · intro exact'
    refine ⟨fun kind => ?_, fun kind => ?_⟩
    · exact (exact'.quiet e _ (unsubscribe_bit frames clear listed kind)).1 kind
    · rcases unsubscribe_wifi frames clear listed kind with told | none
      · exact (exact'.quiet e _ told).2 kind
      · obtain ⟨is_succ, close⟩ := exact'.close
        rw [none] at close
        cases close
  · rintro ⟨bit, wifi⟩
    refine unsubscribe_named frames clear listed distinct ?_
    cases kind : e.kind with
    | bit => exact absurd kind bit
    | wifi => exact absurd kind wifi
    | atl | ds => simp [Subscriber.named, kind, ID]

end Unsubscribe

/-- unsubscribeRsrc acts on the entry that a search for the subscriber finds. -/
theorem unsubscribeRsrc_find (send : SendRsrcRequest) (s : Subscriber) (m : AgpsStateMachine) :
    (∃ position e, m.mSubscribers.find? (·.equals s) = some e ∧
      m.mSubscribers[position]? = some e ∧ e.equals s = true ∧
      m.unsubscribeRsrc send s = (true, m.onStateEvent send (.unsubscribe position))) ∨
    (m.mSubscribers.find? (·.equals s) = none ∧ m.unsubscribeRsrc send s = (false, m)) := by
  rcases m.unsubscribeRsrc_cases send s with ⟨position, e, listed, same, before, done⟩ |
    ⟨absent, done⟩
  · refine .inl ⟨position, e, ?_, listed, same, done⟩
    obtain ⟨inside, rfl⟩ := List.getElem?_eq_some_iff.mp listed
    refine List.find?_eq_some_iff_getElem.mpr ⟨same, position, inside, rfl, ?_⟩
    intro i earlier
    simpa using before i _ earlier (List.getElem?_eq_getElem _)
  · exact .inr ⟨by simpa using absent, done⟩

theorem exact_within {id : BitVec 32} (front back : List (List Subscriber))
    {before after : List Subscriber} {out : List Action} :
    Exact id (front ++ before :: back) (front ++ after :: back) out ↔
      Exact id [before] [after] out := by
  constructor
  · rintro ⟨close, kept, quiet⟩
    exact ⟨close, by simpa using kept, quiet⟩
  · rintro ⟨close, kept, quiet⟩
    exact ⟨close, by simpa using kept, quiet⟩

theorem exact_unmatched (id : BitVec 32) (lists : List (List Subscriber)) :
    Exact id lists lists [.atlCloseStatus id false] :=
  ⟨⟨false, rfl⟩, rfl, fun s status member => by simp at member⟩

namespace LocEng

def agnssList (σ : LocEng) : List Subscriber :=
  (σ.agnss_nif.map (·.machine.mSubscribers)).getD []

def internetList (σ : LocEng) : List Subscriber :=
  (σ.internet_nif.map (·.machine.mSubscribers)).getD []

def dsList (σ : LocEng) : List Subscriber := (σ.ds_nif.map (·.mSubscribers)).getD []

def lists (σ : LocEng) : List (List Subscriber) := [σ.agnssList, σ.internetList, σ.dsList]

/-- The entry that LocEngReleaseATL::proc finds first. -/
def found (σ : LocEng) (mID : BitVec 32) (around : Surroundings) : Option Subscriber :=
  (σ.agnssList.find? (·.equals (.atl mID false around.s1))).or
    ((σ.internetList.find? (·.equals (.atl mID false around.s2))).or
      (σ.dsList.find? (·.equals (.ds mID false around.s3))))

/-- One machine asked for a handle: it finds an entry and unsubscribes it, or
lists none. -/
theorem asked {α : Type} (machine? : Option α) (view : α → AgpsStateMachine)
    (send : SendRsrcRequest) (s : Subscriber) :
    (∃ a position e, machine? = some a ∧
      ((machine?.map (fun a => (view a).mSubscribers)).getD []).find? (·.equals s) = some e ∧
      (view a).mSubscribers[position]? = some e ∧ e.equals s = true ∧
      (view a).cleared.unsubscribeRsrc send s =
        (true, (view a).cleared.onStateEvent send
          (.unsubscribe position))) ∨
    ((machine?.map (fun a => (view a).mSubscribers)).getD []).find? (·.equals s) = none ∧
      ∀ a, machine? = some a →
        ((view a).cleared.unsubscribeRsrc send s).1 = false := by
  cases machine? with
  | none => exact .inr ⟨rfl, by simp⟩
  | some a =>
      rcases unsubscribeRsrc_find send s (view a).cleared with
        ⟨position, e, found, listed, same, done⟩ | ⟨absent, done⟩
      · exact .inl ⟨a, position, e, rfl, found, listed, same, done⟩
      · refine .inr ⟨absent, ?_⟩
        rintro b same
        obtain rfl := Option.some.inj same
        rw [done]

/-- A machine that does not list the subscriber is passed over. -/
theorem not_found {Machine After : Type} {machine : Option Machine}
    {unsubscribe : Machine → Bool × After}
    (skipped : ∀ m, machine = some m → (unsubscribe m).1 = false) (after : After) :
    machine.map unsubscribe ≠ some (true, after) := by
  intro found
  obtain ⟨m, present, took⟩ := Option.map_eq_some_iff.mp found
  have passed := skipped m present
  rw [took] at passed
  cases passed

section Steps

variable {σ : LocEng} {mID : BitVec 32} {around : Surroundings}

theorem releaseATL_agnss {nif after : Nif} (present : σ.agnss_nif = some nif)
    (done : nif.unsubscribeRsrc (.atl mID false around.s1) = (true, after)) :
    σ.releaseATL mID around = ({ σ with agnss_nif := some after }, after.machine.out) := by
  simp only [releaseATL, present, Option.map_some, done]

theorem releaseATL_internet {nif after : Nif}
    (skipped : ∀ nif, σ.agnss_nif = some nif →
      (nif.unsubscribeRsrc (.atl mID false around.s1)).1 = false)
    (present : σ.internet_nif = some nif)
    (done : nif.unsubscribeRsrc (.atl mID false around.s2) = (true, after)) :
    σ.releaseATL mID around = ({ σ with internet_nif := some after }, after.machine.out) := by
  unfold releaseATL
  split
  · rename_i other found
    exact absurd found (not_found skipped other)
  · simp only [present, Option.map_some, done]

theorem releaseATL_ds {m after : AgpsStateMachine}
    (skipped : ∀ nif, σ.agnss_nif = some nif →
      (nif.unsubscribeRsrc (.atl mID false around.s1)).1 = false)
    (passed : ∀ nif, σ.internet_nif = some nif →
      (nif.unsubscribeRsrc (.atl mID false around.s2)).1 = false)
    (present : σ.ds_nif = some m)
    (done : m.cleared.unsubscribeRsrc
      (DSStateMachine.sendRsrcRequest around.answer) (.ds mID false around.s3) = (true, after)) :
    σ.releaseATL mID around = ({ σ with ds_nif := some after }, after.out) := by
  unfold releaseATL
  split
  · rename_i other found
    exact absurd found (not_found skipped other)
  · split
    · rename_i other found
      exact absurd found (not_found passed other)
    · simp only [present, Option.map_some, done]

theorem releaseATL_unmatched
    (skipped : ∀ nif, σ.agnss_nif = some nif →
      (nif.unsubscribeRsrc (.atl mID false around.s1)).1 = false)
    (passed : ∀ nif, σ.internet_nif = some nif →
      (nif.unsubscribeRsrc (.atl mID false around.s2)).1 = false)
    (missed : ∀ m, σ.ds_nif = some m →
      (m.cleared.unsubscribeRsrc
        (DSStateMachine.sendRsrcRequest around.answer) (.ds mID false around.s3)).1 = false) :
    σ.releaseATL mID around = (σ, [.atlCloseStatus mID false]) := by
  unfold releaseATL
  split
  · rename_i other found
    exact absurd found (not_found skipped other)
  · split
    · rename_i other found
      exact absurd found (not_found passed other)
    · split
      · rename_i other found
        exact absurd found (not_found missed other)
      · rfl

end Steps

theorem forall_found {p : Subscriber → Prop} {first : Option Subscriber} {e : Subscriber}
    (found : first = some e) : (∀ other, first = some other → p other) ↔ p e := by
  subst found
  simp

/-- What LocEngReleaseATL::proc does, by the machine that lists the handle. -/
theorem Sound.releaseATL_exact {σ : LocEng} (sound : σ.Sound) (mID : BitVec 32)
    (around : Surroundings) :
    Exact mID σ.lists (σ.releaseATL mID around).1.lists (σ.releaseATL mID around).2 ↔
      ∀ e, σ.found mID around = some e → e.kind ≠ .bit ∧ e.kind ≠ .wifi := by
  have base := sendRsrcRequest_frames
  have emergency := DSStateMachine.sendRsrcRequest_frames around.answer
  rcases asked σ.agnss_nif Nif.machine AgpsStateMachine.sendRsrcRequest
      (.atl mID false around.s1) with ⟨nif, position, e, present, found, listed, same, done⟩ |
    ⟨noAgnss, skipped⟩
  · have first : σ.found mID around = some e := by
      rw [LocEng.found, show σ.agnssList.find? _ = some e from found]
      rfl
    have unsubscribed : nif.unsubscribeRsrc (.atl mID false around.s1) =
        (true, ⟨nif.machine.cleared.onStateEvent AgpsStateMachine.sendRsrcRequest
          (.unsubscribe position), nif.callbackAGps⟩) := by
      simp only [Nif.unsubscribeRsrc, done]
    have before : σ.lists = [] ++ nif.machine.mSubscribers :: [σ.internetList, σ.dsList] := by
      simp [lists, agnssList, present]
    rw [releaseATL_agnss present unsubscribed, forall_found first, before]
    have clear : nif.machine.cleared.out = [] := rfl
    exact (exact_within [] _).trans (unsubscribe_exact_iff base clear listed
      (sound.agnss nif present).distinct (Subscriber.ID_of_equals same))
  rcases asked σ.internet_nif Nif.machine AgpsStateMachine.sendRsrcRequest
      (.atl mID false around.s2) with ⟨nif, position, e, present, found, listed, same, done⟩ |
    ⟨noInternet, passed⟩
  · have first : σ.found mID around = some e := by
      rw [LocEng.found, show σ.agnssList.find? _ = none from noAgnss,
        show σ.internetList.find? _ = some e from found]
      rfl
    have unsubscribed : nif.unsubscribeRsrc (.atl mID false around.s2) =
        (true, ⟨nif.machine.cleared.onStateEvent AgpsStateMachine.sendRsrcRequest
          (.unsubscribe position), nif.callbackAGps⟩) := by
      simp only [Nif.unsubscribeRsrc, done]
    have before : σ.lists = [σ.agnssList] ++ nif.machine.mSubscribers :: [σ.dsList] := by
      simp [lists, internetList, present]
    rw [releaseATL_internet skipped present unsubscribed, forall_found first, before]
    have clear : nif.machine.cleared.out = [] := rfl
    exact (exact_within [_] _).trans (unsubscribe_exact_iff base clear listed
      (sound.internet nif present).distinct (Subscriber.ID_of_equals same))
  rcases asked σ.ds_nif id (DSStateMachine.sendRsrcRequest around.answer)
      (.ds mID false around.s3) with ⟨m, position, e, present, found, listed, same, done⟩ |
    ⟨noDs, missed⟩
  · have first : σ.found mID around = some e := by
      rw [LocEng.found, show σ.agnssList.find? _ = none from noAgnss,
        show σ.internetList.find? _ = none from noInternet,
        show σ.dsList.find? _ = some e from found]
      rfl
    have before : σ.lists = [σ.agnssList, σ.internetList] ++ m.mSubscribers :: [] := by
      simp [lists, dsList, present]
    rw [releaseATL_ds skipped passed present done, forall_found first, before]
    have clear : m.cleared.out = [] := rfl
    exact (exact_within [_, _] _).trans (unsubscribe_exact_iff emergency clear listed
      (sound.ds m present) (Subscriber.ID_of_equals same))
  · have none : σ.found mID around = none := by
      rw [LocEng.found, show σ.agnssList.find? _ = none from noAgnss,
        show σ.internetList.find? _ = none from noInternet, show σ.dsList.find? _ = none from noDs]
      rfl
    rw [releaseATL_unmatched skipped passed missed, none]
    exact ⟨fun _ e absent => (nomatch absent), fun _ => exact_unmatched mID σ.lists⟩

end LocEng

/-- From every reachable state and for every handle: the release of an ATL is
exact if and only if the first entry with its handle is not a BIT or a WIFI one. -/
theorem releaseATL_exact_iff {σ : LocEng} (run : locEng.Reachable σ) (mID : BitVec 32)
    (around : Surroundings) :
    Exact mID σ.lists (σ.releaseATL mID around).1.lists (σ.releaseATL mID around).2 ↔
      ∀ e, σ.found mID around = some e → e.kind ≠ .bit ∧ e.kind ≠ .wifi :=
  (locEng_sound run).releaseATL_exact mID around

/-- The release of a listed ATL subscriber. -/
theorem releaseATL_exact_listed :
    let atl := Subscriber.atl 5 false (Vector.replicate 16 0)
    let around : Surroundings := ⟨Vector.replicate 16 0, Vector.replicate 16 0,
      Vector.replicate 16 0, ⟨0, true⟩⟩
    ∃ σ, locEng.exec ⟨false, none, none, none⟩
        [.agpsInit true, .createAgnssNifs true true false false,
          .agnss (.subscribeRsrc atl)] = some σ ∧
      Exact 5 σ.lists (σ.releaseATL 5 around).1.lists (σ.releaseATL 5 around).2 := by
  intro atl around
  refine ⟨_, rfl, ?_⟩
  have run : locEng.Reachable _ := System.ReachableUnder.exec (.start rfl)
    [.agpsInit true, .createAgnssNifs true true false false, .agnss (.subscribeRsrc atl)] rfl
  refine (releaseATL_exact_iff run 5 around).mpr ?_
  intro e found
  obtain rfl : atl = e := Option.some.inj found
  decide

/-- A handle that is the IP address of a BIT subscriber. -/
theorem releaseATL_of_bit :
    ¬ ∀ σ, locEng.Reachable σ → ∀ mID around,
      Exact mID σ.lists (σ.releaseATL mID around).1.lists (σ.releaseATL mID around).2 := by
  intro exactly
  let bit := Subscriber.bit 5 (Vector.replicate 16 0)
  let around : Surroundings := ⟨Vector.replicate 16 0, Vector.replicate 16 0,
    Vector.replicate 16 0, ⟨0, true⟩⟩
  have start : locEng.initial ⟨false, none, none, none⟩ := rfl
  obtain ⟨σ, run, seen⟩ := System.reachable_of_exec start
    [.agpsInit true, .createAgnssNifs true true false false, .internet (.subscribeRsrc bit)]
    (fun σ => (σ.releaseATL 5 around).2.contains (.notified bit .unsubscribe)) (by decide)
  have told : .notified bit .unsubscribe ∈ (σ.releaseATL 5 around).2 := by simpa using seen
  exact ((exactly σ run 5 around).quiet bit _ told).1 rfl

end A5Common.Agps
