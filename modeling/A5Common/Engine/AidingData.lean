import A5Common.Engine.Status

set_option autoImplicit false

namespace A5Common.Engine

open A5Common.Run

/-- A bit that was requested, and that no mask passed since then contains. -/
def Outstanding (events : List AidingEvent) (bit : Nat) : Prop :=
  ∃ before mask after, events = before ++ .requested mask :: after ∧ mask.getLsbD bit = true ∧
    ∀ passed, .deleted passed ∈ after → passed.getLsbD bit = false

theorem not_outstanding_nil (bit : Nat) : ¬ Outstanding [] bit := by
  rintro ⟨before, mask, after, split, -⟩
  cases before <;> cases split

/-- The requests before the last event are outstanding unless it passes them on. -/
theorem outstanding_concat {events : List AidingEvent} {event : AidingEvent} {bit : Nat}
    (outstanding : Outstanding (events ++ [event]) bit) :
    (∃ mask, event = .requested mask ∧ mask.getLsbD bit = true) ∨
      Outstanding events bit ∧ ∀ passed, event = .deleted passed → passed.getLsbD bit = false := by
  obtain ⟨before, mask, after, split, asked, unpassed⟩ := outstanding
  rcases List.eq_nil_or_concat after with rfl | ⟨rest, last, rfl⟩
  · obtain ⟨-, same⟩ := List.append_inj' split rfl
    exact .inl ⟨mask, List.head_eq_of_cons_eq same, asked⟩
  · rw [List.concat_eq_append] at split unpassed
    rw [← List.cons_append, ← List.append_assoc] at split
    obtain ⟨rfl, same⟩ := List.append_inj' split rfl
    obtain rfl := List.head_eq_of_cons_eq same
    refine .inr ⟨⟨before, mask, rest, rfl, asked, ?_⟩, ?_⟩
    · exact fun passed member => unpassed passed (List.mem_append_left _ member)
    · rintro passed rfl
      exact unpassed passed (List.mem_append_right _ List.mem_cons_self)

namespace LocEngData

/-- No requested bit is lost, and nothing is left pending once a message has been
processed with the engine not on. -/
structure Kept (σ : LocEngData) : Prop where
  pending : ∀ bit, Outstanding σ.aiding bit → σ.aiding_data_for_deletion.getLsbD bit = true
  flushed : σ.task = .idle → σ.engine_status ≠ GPS_STATUS_ENGINE_ON →
    σ.aiding_data_for_deletion = 0

/-- A request asks for every bit that is pending. -/
def inclusive (σ : LocEngData) : MsgTask → Prop
  | .setAiding mType => σ.aiding_data_for_deletion &&& ~~~mType = 0
  | _ => True

instance (σ : LocEngData) (task : MsgTask) : Decidable (σ.inclusive task) :=
  match task with
  | .setAiding _ => inferInstanceAs (Decidable (_ = _))
  | .idle | .reportStatus _ | .updateAiding | .clearAiding | .engineDown | .engineUp _
  | .startFix _ | .stopFix | .muteOneSession => inferInstanceAs (Decidable True)

/-- The engine does not go down with a request pending. -/
def settledDown (σ : LocEngData) : MsgTask → Prop
  | .engineDown => σ.aiding_data_for_deletion = 0
  | _ => True

instance (σ : LocEngData) (task : MsgTask) : Decidable (σ.settledDown task) :=
  match task with
  | .engineDown => inferInstanceAs (Decidable (_ = _))
  | .idle | .setAiding _ | .reportStatus _ | .updateAiding | .clearAiding | .engineUp _
  | .startFix _ | .stopFix | .muteOneSession => inferInstanceAs (Decidable True)

def asksAll (σ : LocEngData) : Label → Prop
  | .run => σ.inclusive σ.task
  | .message _ => True

instance (σ : LocEngData) (label : Label) : Decidable (σ.asksAll label) :=
  match label with
  | .run => inferInstanceAs (Decidable (σ.inclusive σ.task))
  | .message _ => inferInstanceAs (Decidable True)

def goesDownClear (σ : LocEngData) : Label → Prop
  | .run => σ.settledDown σ.task
  | .message _ => True

instance (σ : LocEngData) (label : Label) : Decidable (σ.goesDownClear label) :=
  match label with
  | .run => inferInstanceAs (Decidable (σ.settledDown σ.task))
  | .message _ => inferInstanceAs (Decidable True)

def careful (σ : LocEngData) (label : Label) : Prop :=
  σ.asksAll label ∧ σ.goesDownClear label

instance (σ : LocEngData) (label : Label) : Decidable (σ.careful label) :=
  inferInstanceAs (Decidable (_ ∧ _))

/-- What is pending before each step of a message. -/
def TaskMeets (σ : LocEngData) : MsgTask → Prop
  | .updateAiding => True
  | .clearAiding => ∀ bit, ¬ Outstanding σ.aiding bit
  | .idle | .setAiding _ | .reportStatus _ | .engineDown | .engineUp _ | .startFix _ | .stopFix
  | .muteOneSession => σ.engine_status = GPS_STATUS_ENGINE_ON ∨ σ.aiding_data_for_deletion = 0

structure Sound (σ : LocEngData) : Prop where
  pending : ∀ bit, Outstanding σ.aiding bit → σ.aiding_data_for_deletion.getLsbD bit = true
  task : σ.TaskMeets σ.task

theorem Sound.kept {σ : LocEngData} (sound : σ.Sound) : σ.Kept where
  pending := sound.pending
  flushed := by
    intro idle off
    have task := sound.task
    rw [idle] at task
    exact task.resolve_left off

/-- Every pending bit is in a mask that asks for all of them. -/
theorem getLsbD_of_inclusive {pending mask : GpsAidingData} (inclusive : pending &&& ~~~mask = 0)
    {bit : Nat} (set : pending.getLsbD bit = true) : mask.getLsbD bit = true := by
  have inside := BitVec.lt_of_getLsbD set
  have gone := congrArg (fun mask => BitVec.getLsbD mask bit) inclusive
  simp only [BitVec.getLsbD_and, BitVec.getLsbD_not, set, inside, decide_true, Bool.true_and,
    BitVec.ofNat_eq_ofNat, BitVec.getLsbD_zero, Bool.not_eq_eq_eq_not, Bool.not_false] at gone
  exact gone

theorem Sound.setAiding {σ : LocEngData} (sound : σ.Sound) {mType : GpsAidingData}
    (inclusive : σ.aiding_data_for_deletion &&& ~~~mType = 0) :
    Sound { σ with
      aiding_data_for_deletion := mType
      aiding := σ.aiding ++ [.requested mType]
      task := .updateAiding } where
  pending := by
    intro bit outstanding
    rcases outstanding_concat outstanding with ⟨mask, ⟨⟩, asked⟩ | ⟨before, -⟩
    · exact asked
    · exact getLsbD_of_inclusive inclusive (sound.pending bit before)
  task := trivial

/-- A step that neither asks for bits nor passes any on. -/
theorem Sound.aside {σ τ : LocEngData} (sound : σ.Sound) (aiding : τ.aiding = σ.aiding)
    (kept : τ.aiding_data_for_deletion = σ.aiding_data_for_deletion)
    (task : τ.TaskMeets τ.task) : τ.Sound where
  pending := by
    rw [aiding, kept]
    exact sound.pending
  task := task

/-- A step at the end of a message that leaves what is pending and the engine's
status. -/
theorem Sound.done {σ τ : LocEngData} (sound : σ.Sound) {here : MsgTask} (at_here : σ.task = here)
    (first : accepts here = true) (aiding : τ.aiding = σ.aiding)
    (kept : τ.aiding_data_for_deletion = σ.aiding_data_for_deletion)
    (status : τ.engine_status = σ.engine_status) (done : τ.task = .idle) : τ.Sound := by
  apply sound.aside aiding kept
  have task := sound.task
  rw [at_here] at task
  rw [done]
  have meets : σ.engine_status = GPS_STATUS_ENGINE_ON ∨ σ.aiding_data_for_deletion = 0 := by
    cases here with
    | idle | updateAiding | clearAiding => cases first
    | _ => exact task
  rw [← status, ← kept] at meets
  exact meets

theorem Sound.passOn {σ : LocEngData} (sound : σ.Sound) :
    Sound { σ with
      aiding := σ.aiding ++ [.deleted σ.aiding_data_for_deletion]
      task := .clearAiding } where
  pending := by
    intro bit outstanding
    rcases outstanding_concat outstanding with ⟨mask, ⟨⟩, -⟩ | ⟨before, -⟩
    exact sound.pending bit before
  task := by
    intro bit outstanding
    rcases outstanding_concat outstanding with ⟨mask, ⟨⟩, -⟩ | ⟨before, passed⟩
    have set := sound.pending bit before
    rw [passed _ rfl] at set
    cases set

theorem Sound.run {σ τ : LocEngData} (sound : σ.Sound) (inclusive : σ.inclusive σ.task)
    (settled : σ.settledDown σ.task) (taken : σ.run = some τ) : τ.Sound := by
  have task := sound.task
  unfold LocEngData.run at taken
  cases here : σ.task with
  | idle =>
      rw [here] at taken
      cases taken
  | setAiding mType =>
      rw [here] at inclusive
      simp only [here] at taken
      obtain rfl := Option.some.inj taken
      exact sound.setAiding inclusive
  | reportStatus mStatus =>
      simp only [here] at taken
      obtain rfl := Option.some.inj taken
      obtain ⟨_, _, _, reported⟩ := σ.reportStatus_eq mStatus
      rw [reported]
      exact sound.aside rfl rfl trivial
  | updateAiding =>
      simp only [here] at taken
      split at taken
      · obtain rfl := Option.some.inj taken
        exact sound.passOn
      · rename_i nothing
        obtain rfl := Option.some.inj taken
        refine sound.aside rfl rfl ?_
        by_cases on : σ.engine_status = GPS_STATUS_ENGINE_ON
        · exact .inl on
        · exact .inr (Decidable.not_not.mp (fun pending => nothing ⟨on, pending⟩))
  | clearAiding =>
      rw [here] at task
      simp only [here] at taken
      obtain rfl := Option.some.inj taken
      exact ⟨fun bit outstanding => absurd outstanding (task bit), .inr rfl⟩
  | engineDown =>
      rw [here] at settled
      simp only [here] at taken
      obtain rfl := Option.some.inj taken
      obtain ⟨_, _, _, reported⟩ := σ.reportStatus_eq GPS_STATUS_ENGINE_OFF
      rw [reported]
      exact sound.aside rfl rfl (.inr settled)
  | engineUp startFix =>
      simp only [here] at taken
      obtain rfl := Option.some.inj taken
      obtain ⟨_, restarted⟩ := σ.handleEngineUp_eq startFix
      rw [restarted]
      exact sound.done here rfl rfl rfl rfl rfl
  | startFix startFix =>
      simp only [here] at taken
      obtain rfl := Option.some.inj taken
      obtain ⟨_, started⟩ := σ.startHandler_eq startFix
      rw [started]
      exact sound.done here rfl rfl rfl rfl rfl
  | stopFix =>
      simp only [here] at taken
      obtain rfl := Option.some.inj taken
      obtain ⟨_, stopped⟩ := σ.stopHandler_eq
      rw [stopped]
      exact sound.done here rfl rfl rfl rfl rfl
  | muteOneSession =>
      simp only [here] at taken
      obtain rfl := Option.some.inj taken
      exact sound.done here rfl rfl rfl rfl rfl

theorem Sound.message {σ τ : LocEngData} (sound : σ.Sound) {task : MsgTask}
    (taken : σ.step (.message task) = some τ) : τ.Sound := by
  have before := sound.task
  simp only [LocEngData.step] at taken
  split at taken
  · rename_i idle
    split at taken
    · rename_i accepted
      obtain rfl := Option.some.inj taken
      rw [idle] at before
      refine sound.aside rfl rfl ?_
      cases task with
      | idle | updateAiding | clearAiding => cases accepted
      | _ => exact before
    · cases taken
  · cases taken

end LocEngData

theorem engine_sound {σ : LocEngData} (run : engine.ReachableUnder LocEngData.careful σ) :
    σ.Sound := by
  apply run.invariant LocEngData.Sound
  · rintro σ ⟨status_cb, rfl⟩
    exact ⟨fun bit outstanding => absurd outstanding (not_outstanding_nil bit), .inr rfl⟩
  · intro before label after _ sound careful taken
    cases label with
    | message task => exact sound.message taken
    | run => exact sound.run careful.1 careful.2 taken

/-- In every run in which a request asks for all that is pending and the engine goes
down with nothing pending, no request is lost. -/
theorem aiding_data_kept {σ : LocEngData} (run : engine.ReachableUnder LocEngData.careful σ) :
    σ.Kept :=
  (engine_sound run).kept

/-- The labels of messages that are processed in two steps. -/
def processed : List MsgTask → List LocEngData.Label :=
  List.flatMap (fun task => [.message task, .run, .run])

/-- A request that waits for the engine to be off. -/
theorem aiding_data_kept_deferred :
    ∃ σ, engine.execUnder LocEngData.careful (.new true)
        (processed [.reportStatus GPS_STATUS_ENGINE_ON, .setAiding 1, .setAiding 3,
          .reportStatus GPS_STATUS_ENGINE_OFF] ++ [.run]) = some σ ∧
      σ.aiding_data_for_deletion = 0 ∧ σ.Kept := by
  refine ⟨_, rfl, rfl, ?_⟩
  have run : engine.ReachableUnder LocEngData.careful _ :=
    System.ReachableUnder.exec (.start ⟨true, rfl⟩)
      (processed [.reportStatus GPS_STATUS_ENGINE_ON, .setAiding 1, .setAiding 3,
          .reportStatus GPS_STATUS_ENGINE_OFF] ++ [.run]) rfl
  exact aiding_data_kept run

/-- A second request while the engine is on replaces the first; and a request stays
pending when the engine goes down. -/
theorem aiding_data_lost :
    (¬ ∀ σ, engine.ReachableUnder LocEngData.goesDownClear σ → σ.Kept) ∧
      ¬ ∀ σ, engine.ReachableUnder LocEngData.asksAll σ → σ.Kept := by
  have start : engine.initial (.new true) := ⟨true, rfl⟩
  refine ⟨fun kept => ?_, fun kept => ?_⟩
  · obtain ⟨σ, run, seen⟩ := System.reachableUnder_of_exec LocEngData.goesDownClear start
      (processed [.reportStatus GPS_STATUS_ENGINE_ON, .setAiding 1, .setAiding 2])
      (fun σ => decide (σ.aiding = [.requested 1, .requested 2] ∧ σ.aiding_data_for_deletion = 2))
      (by decide)
    obtain ⟨asked, second⟩ := of_decide_eq_true seen
    have outstanding : Outstanding σ.aiding 0 := by
      refine ⟨[], 1, [.requested 2], asked, rfl, ?_⟩
      intro passed member
      cases List.mem_singleton.mp member
    have lost := (kept σ run).pending 0 outstanding
    rw [second] at lost
    exact absurd lost (by decide)
  · obtain ⟨σ, run, seen⟩ := System.reachableUnder_of_exec LocEngData.asksAll start
      (processed [.reportStatus GPS_STATUS_ENGINE_ON, .setAiding 1] ++ [.message .engineDown, .run])
      (fun σ => decide (σ.task = .idle ∧ σ.engine_status ≠ GPS_STATUS_ENGINE_ON ∧
        σ.aiding_data_for_deletion ≠ 0)) (by decide)
    obtain ⟨idle, off, pending⟩ := of_decide_eq_true seen
    exact pending ((kept σ run).flushed idle off)

end A5Common.Engine
