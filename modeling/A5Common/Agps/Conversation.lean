import A5Common.Agps.Talk

set_option autoImplicit false

namespace A5Common.Agps

open A5Common.Run

/-- A machine, and what the modem knows of each connection handle. -/
structure Conversation where
  machine : AgpsStateMachine
  talk : BitVec 32 → Talk

namespace Conversation

inductive Label where
  | call (operation : Operation)
  | engineRestart

/-- A request names a handle that is not in use, and that no listed subscriber
of another kind is taken for. -/
def fresh (c : Conversation) : Label → Bool
  | .call (.subscribeRsrc s) =>
      s.kind != .atl || (c.talk s.ID == .absent &&
        c.machine.mSubscribers.all (fun other => other.kind == .atl || !other.equals s))
  | .call _ | .engineRestart => true

def call (c : Conversation) (operation : Operation) : Conversation where
  machine := c.machine.perform operation
  talk handle :=
    ((c.talk handle).asked handle operation).heard handle (c.machine.perform operation).out

/-- A restarted engine knows no handle, and the machine's list is flushed. -/
def restarted (c : Conversation) : Conversation where
  machine := c.machine.dropAllSubscribers
  talk _ := .absent

end Conversation

def conversation : System Conversation Conversation.Label where
  initial c := ∃ mType enforceSingleSubscriber,
    c = ⟨.new mType enforceSingleSubscriber, fun _ => .absent⟩
  step c
    | .call operation => if operation.onBase then some (c.call operation) else none
    | .engineRestart => some c.restarted

namespace Conversation

/-- The machine agrees with the modem on every handle. -/
def Sound (c : Conversation) : Prop :=
  ∀ handle, Agreed handle c.machine.mStatePtr c.machine.mSubscribers (c.talk handle)

theorem Sound.cleared {c : Conversation} (sound : c.Sound) (handle : BitVec 32) :
    c.machine.cleared.Agreed handle (c.talk handle) :=
  sound handle

/-- A fresh handle has no entry, and no entry is taken for its subscriber. -/
theorem Sound.apart {c : Conversation} (sound : c.Sound) {s : Subscriber}
    (fresh : c.fresh (.call (.subscribeRsrc s)) = true) {handle : BitVec 32}
    (mine : s.isFor handle = true) :
    c.talk handle = .absent ∧ ∀ other ∈ c.machine.mSubscribers, other.equals s = false := by
  obtain ⟨atl, rfl⟩ := Subscriber.isFor_iff.mp mine
  simp only [Conversation.fresh, atl, bne_self_eq_false, Bool.false_or, Bool.and_eq_true,
    beq_iff_eq, List.all_eq_true, Bool.or_eq_true, Bool.not_eq_true'] at fresh
  obtain ⟨absent, others⟩ := fresh
  refine ⟨absent, fun other member => ?_⟩
  rcases others other member with sameKind | different
  · have none := List.countP_eq_zero.mp ((sound s.ID).count.trans (by rw [absent]; rfl))
    have notFor := none other member
    rw [Subscriber.isFor_iff] at notFor
    have notBit : other.kind ≠ .bit := by rw [sameKind]; decide
    rw [Subscriber.equals_of_not_bit notBit]
    exact beq_eq_false_iff_ne.mpr (fun same => notFor ⟨sameKind, same⟩)
  · exact different

theorem Sound.subscribe {c : Conversation} (sound : c.Sound) {s : Subscriber}
    (base : s.kind ≠ .ds) (fresh : c.fresh (.call (.subscribeRsrc s)) = true) :
    (c.call (.subscribeRsrc s)).Sound := by
  intro handle
  have agreed := sound handle
  have apart : s.isFor handle = true →
      c.talk handle = .absent ∧ ∀ other ∈ c.machine.mSubscribers, other.equals s = false :=
    sound.apart fresh
  show Agreed handle (c.machine.cleared.subscribeRsrc AgpsStateMachine.sendRsrcRequest s).mStatePtr
    (c.machine.cleared.subscribeRsrc AgpsStateMachine.sendRsrcRequest s).mSubscribers
    (((c.talk handle).asked handle (.subscribeRsrc s)).heard handle
      (c.machine.cleared.subscribeRsrc AgpsStateMachine.sendRsrcRequest s).out)
  unfold AgpsStateMachine.subscribeRsrc
  split
  · -- a machine with a single subscriber denies every other
    have denied : c.machine.cleared.notifyRsrcStatus s (.broadcast .all .denied true) =
        (true, c.machine.cleared.inform s .denied) := by
      simp [AgpsStateMachine.notifyRsrcStatus, Notification.broadcast, AgpsRsrcStatus.known,
        Subscriber.forMe]
    simp only [AgpsStateMachine.notifySubscriber, denied, AgpsStateMachine.inform_mStatePtr,
      AgpsStateMachine.inform_mSubscribers, AgpsStateMachine.inform_out, Talk.heard_append,
      Talk.heard_reports handle _ base, Talk.heard_nil, Talk.asked]
    by_cases mine : s.isFor handle = true
    · have absent := (apart mine).1
      rw [absent] at agreed
      simp only [mine, if_true]
      exact agreed
    · simp only [mine, Bool.false_eq_true, if_false]
      exact agreed
  · exact AgpsStateMachine.Agreed.subscribe (m := c.machine.cleared) agreed rfl base apart

/-- A release ends the talk about its handle. -/
theorem Sound.release {c : Conversation} (sound : c.Sound)
    (distinct : Distinct c.machine.mSubscribers) {handle : BitVec 32} {s : Subscriber}
    (mine : s.isFor handle = true) (after : (c.call (.unsubscribeRsrc s)).Sound) :
    (c.call (.unsubscribeRsrc s)).talk handle = .absent := by
  refine (after handle).absent_of_count ?_
  obtain ⟨atl, rfl⟩ := Subscriber.isFor_iff.mp mine
  have agreed := sound s.ID
  rcases c.machine.cleared.unsubscribeRsrc_cases AgpsStateMachine.sendRsrcRequest s with
    ⟨position, entry, listed, same, _, found⟩ | ⟨others, absent⟩
  · simp only [Conversation.call, AgpsStateMachine.perform, found]
    have gone := Agreed.unsubscribeEntry_count (sound.cleared s.ID) distinct listed
      (Subscriber.ID_of_equals same)
    unfold AgpsStateMachine.onStateEvent
    cases state : c.machine.mStatePtr with
    | released =>
        rw [state] at agreed
        simp only [releasedOnRsrcEvent]
        have nobody := agreed.count.trans (congrArg Talk.listed agreed.absent_of_released)
        split
        · rw [AgpsStateMachine.notifyRsrcStatus_mSubscribers]
          exact nobody
        · exact nobody
    | pending | acquired =>
        simp only [pendingOnRsrcEvent, acquiredOnRsrcEvent,
          releaseIfUnused_mSubscribers sendRsrcRequest_frames]
        exact gone
    | releasing =>
        simp only [releasingOnRsrcEvent]
        split <;> exact gone
  · simp only [Conversation.call, AgpsStateMachine.perform, absent]
    rw [List.countP_eq_zero]
    intro other member isFor
    have different := others other member
    rw [Subscriber.equals_of_isFor isFor] at different
    simp at different

theorem Sound.call {c : Conversation} (sound : c.Sound) {operation : Operation}
    (onBase : operation.onBase = true) (fresh : c.fresh (.call operation) = true) :
    (c.call operation).Sound := by
  cases operation with
  | subscribeRsrc s => exact sound.subscribe (by simpa [Operation.onBase] using onBase) fresh
  | unsubscribeRsrc s =>
      intro handle
      rcases c.machine.cleared.unsubscribeRsrc_cases AgpsStateMachine.sendRsrcRequest s with
        ⟨position, _, _, _, _, found⟩ | ⟨_, absent⟩
      · have told := AgpsStateMachine.Agreed.unsubscribe (sound.cleared handle) position
        simp only [Conversation.call, AgpsStateMachine.perform, found]
        exact told
      · simp only [Conversation.call, AgpsStateMachine.perform, absent]
        exact sound handle
  | onRsrcEvent event =>
      intro handle
      exact AgpsStateMachine.Agreed.event (sound.cleared handle) event
  | setAPN apn => exact sound
  | setBearer bearer => exact sound

theorem Sound.restarted (c : Conversation) : c.restarted.Sound :=
  fun _ => .of_absent (by simp [Conversation.restarted, AgpsStateMachine.dropAllSubscribers])
    (by simp [Conversation.restarted, AgpsStateMachine.dropAllSubscribers]) _

/-- The runs in which every request names a fresh handle. -/
abbrev Ran (c : Conversation) : Prop :=
  conversation.ReachableUnder (fun c label => c.fresh label = true) c

theorem step_cases {before after : Conversation} {label : Label}
    (taken : conversation.step before label = some after) :
    (∃ operation, label = .call operation ∧ operation.onBase = true ∧
      after = before.call operation) ∨
    (label = .engineRestart ∧ after = before.restarted) := by
  cases label with
  | call operation =>
      simp only [conversation] at taken
      split at taken
      · rename_i onBase
        exact .inl ⟨operation, rfl, onBase, (Option.some.inj taken).symm⟩
      · cases taken
  | engineRestart => exact .inr ⟨rfl, (Option.some.inj taken).symm⟩

theorem Ran.sound {c : Conversation} (run : c.Ran) :
    c.Sound ∧ Distinct c.machine.mSubscribers := by
  refine System.ReachableUnder.invariant
    (fun c => c.Sound ∧ Distinct c.machine.mSubscribers) ?_ ?_ run
  · rintro c ⟨mType, enforceSingleSubscriber, rfl⟩
    refine ⟨fun handle => ?_, distinct_nil⟩
    exact .of_absent (by simp [AgpsStateMachine.new]) (by simp [AgpsStateMachine.new]) _
  · rintro before label after - ⟨sound, distinct⟩ fresh taken
    rcases step_cases taken with ⟨operation, rfl, onBase, rfl⟩ | ⟨rfl, rfl⟩
    · exact ⟨sound.call onBase fresh, distinct.perform operation⟩
    · exact ⟨.restarted before, distinct_nil⟩

end Conversation

/-- In every run the modem hears of a handle only what it waits for: its request
is answered once, its connection closed once. A handle is listed exactly while
the modem waits for it or has it open; nothing waits once the connection is there,
nothing is open before, and a release leaves nothing behind. -/
theorem atl_conversation {c : Conversation} (run : c.Ran) (handle : BitVec 32) :
    c.talk handle ≠ .broken ∧
    ((∃ s ∈ c.machine.mSubscribers, s.isFor handle = true) ↔
      c.talk handle = .waiting ∨ c.talk handle = .opened) ∧
    (c.talk handle = .waiting → c.machine.mStatePtr = .pending ∨
      c.machine.mStatePtr = .releasing) ∧
    (c.talk handle = .opened → c.machine.mStatePtr = .acquired) ∧
    ∀ s : Subscriber, s.isFor handle = true →
      (c.call (.unsubscribeRsrc s)).talk handle = .absent := by
  obtain ⟨sound, distinct⟩ := run.sound
  have agreed := sound handle
  have fits := agreed.fits
  refine ⟨agreed.not_broken, agreed.listed_iff, ?_, ?_, ?_⟩
  · intro waiting
    rw [waiting] at fits
    cases state : c.machine.mStatePtr with
    | pending => exact .inl rfl
    | releasing => exact .inr rfl
    | released | acquired => rw [state] at fits; cases fits
  · intro opened
    rw [opened] at fits
    cases state : c.machine.mStatePtr with
    | acquired => rfl
    | released | pending | releasing => rw [state] at fits; cases fits
  · intro s mine
    have base : s.kind ≠ .ds := by
      rw [(Subscriber.isFor_iff.mp mine).1]
      decide
    exact sound.release distinct mine
      (sound.call (by simpa [Operation.onBase] using base) rfl)

/-- A handle that is open when the engine restarts, and two requests that are
denied afterwards. -/
theorem atl_conversation_denied :
    let atl := fun handle => Subscriber.atl handle false (Vector.replicate 16 0)
    ∃ c, conversation.execUnder (fun c label => c.fresh label = true)
        ⟨.new AGPS_TYPE_SUPL false, fun _ => .absent⟩
        [.call (.subscribeRsrc (atl 5)), .call (.onRsrcEvent .granted), .engineRestart,
          .call (.onRsrcEvent .released), .call (.subscribeRsrc (atl 5)),
          .call (.subscribeRsrc (atl 6)), .call (.onRsrcEvent .denied)] = some c ∧
      c.talk 5 = .absent ∧ c.talk 6 ≠ .broken := by
  intro atl
  have first : conversation.initial ⟨.new AGPS_TYPE_SUPL false, fun _ => .absent⟩ :=
    ⟨_, _, rfl⟩
  exact System.execUnder_then first (fun c run _ => (atl_conversation run 6).1)
    (by decide +kernel)

end A5Common.Agps
