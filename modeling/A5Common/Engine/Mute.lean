import A5Common.Engine.Status

set_option autoImplicit false

namespace A5Common.Engine

open A5Common.Run

inductive MuteEvent where
  | request
  | report (status : GpsStatusValue)
deriving DecidableEq

/-- A report that turns a waiting mute on. -/
def Begins (status : GpsStatusValue) : Prop :=
  status = GPS_STATUS_SESSION_BEGIN ∨ status = GPS_STATUS_ENGINE_ON

/-- A report that ends a muted session. -/
def Ends (status : GpsStatusValue) : Prop :=
  status = GPS_STATUS_SESSION_END ∨ status = GPS_STATUS_ENGINE_OFF

instance (status : GpsStatusValue) : Decidable (Ends status) :=
  inferInstanceAs (Decidable (_ ∨ _))

/-- A mute was requested, and no session has begun since. -/
def Waiting (events : List MuteEvent) : Prop :=
  ∃ before after, events = before ++ .request :: after ∧
    ∀ status, .report status ∈ after → ¬ Begins status

/-- A session began with a mute waiting, and has not ended. -/
def InMutedSession (events : List MuteEvent) : Prop :=
  ∃ before begins after, events = before ++ .report begins :: after ∧ Waiting before ∧
    Begins begins ∧ ∀ status, .report status ∈ after → ¬ Ends status

/-- The statuses that are reported at all, with mutes apart. -/
def Reportable (navigating : Bool) (status : GpsStatusValue) : Prop :=
  status ≠ GPS_STATUS_NONE ∧ ¬ (status = GPS_STATUS_SESSION_END ∧ navigating = true) ∧
    ¬ (status = GPS_STATUS_SESSION_BEGIN ∧ navigating = false)

instance (navigating : Bool) (status : GpsStatusValue) :
    Decidable (Reportable navigating status) :=
  inferInstanceAs (Decidable (_ ∧ _))

def gpsStatusValues : List GpsStatusValue :=
  [GPS_STATUS_NONE, GPS_STATUS_SESSION_BEGIN, GPS_STATUS_SESSION_END, GPS_STATUS_ENGINE_ON,
    GPS_STATUS_ENGINE_OFF]

theorem not_ends_of_begins {status : GpsStatusValue} (begins : Begins status) : ¬ Ends status := by
  rcases begins with rfl | rfl <;> rintro (ends | ends) <;> cases ends

/-- A mark in a list that has a last element is that element, or before it. -/
theorem mark_append {events before after : List MuteEvent} {event mark : MuteEvent}
    (split : events ++ [event] = before ++ mark :: after) :
    (event = mark ∧ events = before ∧ after = []) ∨
      ∃ rest, events = before ++ mark :: rest ∧ after = rest ++ [event] := by
  rcases List.eq_nil_or_concat after with rfl | ⟨rest, last, rfl⟩
  · obtain ⟨same, marked⟩ := List.append_inj' split rfl
    exact .inl ⟨List.head_eq_of_cons_eq marked, same, rfl⟩
  · rw [List.concat_eq_append, ← List.cons_append, ← List.append_assoc] at split
    obtain ⟨same, ended⟩ := List.append_inj' split rfl
    obtain rfl := List.head_eq_of_cons_eq ended
    exact .inr ⟨rest, same, List.concat_eq_append⟩

theorem waiting_append (events : List MuteEvent) (event : MuteEvent) :
    Waiting (events ++ [event]) ↔
      event = .request ∨ Waiting events ∧ ∀ status, event = .report status → ¬ Begins status := by
  constructor
  · rintro ⟨before, after, split, silent⟩
    rcases mark_append split with ⟨rfl, _⟩ | ⟨rest, same, rfl⟩
    · exact .inl rfl
    · refine .inr ⟨⟨before, rest, same, ?_⟩, ?_⟩
      · exact fun status member => silent status (List.mem_append_left _ member)
      · rintro status rfl
        exact silent status (List.mem_append_right _ List.mem_cons_self)
  · rintro (rfl | ⟨⟨before, after, rfl, silent⟩, last⟩)
    · exact ⟨events, [], rfl, nofun⟩
    · refine ⟨before, after ++ [event], by simp only [List.append_assoc, List.cons_append], ?_⟩
      intro status member
      rcases List.mem_append.mp member with member | member
      · exact silent status member
      · exact last status (List.mem_singleton.mp member).symm

theorem inMutedSession_append (events : List MuteEvent) (event : MuteEvent) :
    InMutedSession (events ++ [event]) ↔
      (∃ status, event = .report status ∧ Begins status ∧ Waiting events) ∨
        InMutedSession events ∧ ∀ status, event = .report status → ¬ Ends status := by
  constructor
  · rintro ⟨before, begins, after, split, waiting, begun, going⟩
    rcases mark_append split with ⟨rfl, rfl, _⟩ | ⟨rest, same, rfl⟩
    · exact .inl ⟨begins, rfl, begun, waiting⟩
    · refine .inr ⟨⟨before, begins, rest, same, waiting, begun, ?_⟩, ?_⟩
      · exact fun status member => going status (List.mem_append_left _ member)
      · rintro status rfl
        exact going status (List.mem_append_right _ List.mem_cons_self)
  · rintro (⟨status, rfl, begun, waiting⟩ | ⟨⟨before, begins, after, rfl, waiting, begun, going⟩,
      last⟩)
    · exact ⟨events, status, [], rfl, waiting, begun, nofun⟩
    · refine ⟨before, begins, after ++ [event],
        by simp only [List.append_assoc, List.cons_append], waiting, begun, ?_⟩
      intro status member
      rcases List.mem_append.mp member with member | member
      · exact going status member
      · exact last status (List.mem_singleton.mp member).symm

/-- How a report moves the state of the mute. -/
def LocMuteSession.next (status : GpsStatusValue) (state : LocMuteSession) : LocMuteSession :=
  match state with
  | .none => .none
  | .wait =>
      if status = GPS_STATUS_SESSION_BEGIN ∨ status = GPS_STATUS_ENGINE_ON then .inSession
      else .wait
  | .inSession =>
      if status = GPS_STATUS_SESSION_END ∨ status = GPS_STATUS_ENGINE_OFF then .none
      else .inSession

namespace LocEngData

theorem switchMute_eq (status : GpsStatusValue) (σ : LocEngData) :
    σ.switchMute status =
      { σ with mute_session_state := σ.mute_session_state.next status } := by
  obtain ⟨status_cb, engine_status, fix_session_status, aiding_data_for_deletion, state,
    mNavigating, task, informed, aiding⟩ := σ
  unfold switchMute
  cases state with
  | none => simp [LocMuteSession.next]
  | wait =>
      by_cases begins : Begins status
      · have stays := not_ends_of_begins begins
        unfold Begins at begins
        unfold Ends at stays
        simp [LocMuteSession.next, begins, stays]
      · unfold Begins at begins
        simp [LocMuteSession.next, begins]
  | inSession =>
      simp only [LocMuteSession.next, reduceCtorEq, and_false, if_false, true_and]
      split <;> rfl

theorem deliver_eq (status : GpsStatusValue) (σ : LocEngData) :
    σ.deliver status =
      { σ with
        informed := σ.informed ++
          (if σ.status_cb = true ∧ Reportable σ.mNavigating status ∧
              σ.mute_session_state ≠ .inSession then [status] else []) } := by
  unfold deliver informGpsStatus Reportable
  by_cases informs : σ.status_cb = true
  · rw [if_pos informs]
    simp only [informs, true_and, and_assoc]
    split
    · rfl
    · rw [List.append_nil, ← informs]
  · rw [if_neg informs, ite_self, if_neg (fun all => informs all.1), List.append_nil]

theorem keepStatus_eq (status : GpsStatusValue) (σ : LocEngData) :
    (σ.keepStatus status).mute_session_state = σ.mute_session_state ∧
      (σ.keepStatus status).informed = σ.informed := by
  unfold keepStatus
  dsimp only
  split <;> split <;> exact ⟨rfl, rfl⟩

/-- A report is delivered in the state of the mute that it leads to. -/
theorem reportStatus_muted (status : GpsStatusValue) (σ : LocEngData) :
    (σ.reportStatus status).mute_session_state = σ.mute_session_state.next status ∧
      (σ.reportStatus status).informed = σ.informed ++
        (if σ.status_cb = true ∧ Reportable σ.mNavigating status ∧
            σ.mute_session_state.next status ≠ .inSession then [status] else []) := by
  rw [reportStatus_parts, switchMute_eq, deliver_eq]
  exact keepStatus_eq status _

end LocEngData

/-- The reports and mute requests that a task of the message thread makes. -/
def MsgTask.event : MsgTask → Option MuteEvent
  | .reportStatus mStatus => some (.report mStatus)
  | .engineDown => some (.report GPS_STATUS_ENGINE_OFF)
  | .muteOneSession => some .request
  | .idle | .setAiding _ | .updateAiding | .clearAiding | .engineUp _ | .startFix _
  | .stopFix => none

/-- What a step of the message thread does to the mute, and what it delivers. -/
theorem run_cases {σ τ : LocEngData} (taken : σ.run = some τ) :
    (σ.task.event = none ∧ τ.mute_session_state = σ.mute_session_state ∧
        τ.informed = σ.informed) ∨
      (σ.task.event = some .request ∧ τ.mute_session_state = .wait ∧ τ.informed = σ.informed) ∨
      ∃ status, σ.task.event = some (.report status) ∧
        τ.mute_session_state = σ.mute_session_state.next status ∧
        τ.informed = σ.informed ++
          (if σ.status_cb = true ∧ Reportable σ.mNavigating status ∧
              σ.mute_session_state.next status ≠ .inSession then [status] else []) := by
  unfold LocEngData.run at taken
  cases here : σ.task with
  | idle =>
      rw [here] at taken
      cases taken
  | setAiding mType =>
      simp only [here] at taken
      obtain rfl := Option.some.inj taken
      exact .inl ⟨rfl, rfl, rfl⟩
  | reportStatus mStatus =>
      simp only [here] at taken
      obtain rfl := Option.some.inj taken
      exact .inr (.inr ⟨mStatus, rfl, σ.reportStatus_muted mStatus⟩)
  | updateAiding =>
      simp only [here] at taken
      split at taken <;> obtain rfl := Option.some.inj taken <;> exact .inl ⟨rfl, rfl, rfl⟩
  | clearAiding =>
      simp only [here] at taken
      obtain rfl := Option.some.inj taken
      exact .inl ⟨rfl, rfl, rfl⟩
  | engineDown =>
      simp only [here] at taken
      obtain rfl := Option.some.inj taken
      exact .inr (.inr ⟨_, rfl, σ.reportStatus_muted GPS_STATUS_ENGINE_OFF⟩)
  | engineUp startFix =>
      simp only [here] at taken
      obtain rfl := Option.some.inj taken
      obtain ⟨_, restarted⟩ := σ.handleEngineUp_eq startFix
      rw [restarted]
      exact .inl ⟨rfl, rfl, rfl⟩
  | startFix startFix =>
      simp only [here] at taken
      obtain rfl := Option.some.inj taken
      obtain ⟨_, started⟩ := σ.startHandler_eq startFix
      rw [started]
      exact .inl ⟨rfl, rfl, rfl⟩
  | stopFix =>
      simp only [here] at taken
      obtain rfl := Option.some.inj taken
      obtain ⟨_, stopped⟩ := σ.stopHandler_eq
      rw [stopped]
      exact .inl ⟨rfl, rfl, rfl⟩
  | muteOneSession =>
      simp only [here] at taken
      obtain rfl := Option.some.inj taken
      exact .inr (.inl ⟨rfl, rfl, rfl⟩)

/-- The engine, with the reports and mute requests so far. -/
structure Muting where
  engine : LocEngData
  events : List MuteEvent

namespace Muting

def made (σ : LocEngData) : LocEngData.Label → Option MuteEvent
  | .run => σ.task.event
  | .message _ => none

def step (σ : Muting) (label : LocEngData.Label) : Option Muting :=
  (σ.engine.step label).map (fun engine => ⟨engine, σ.events ++ (made σ.engine label).toList⟩)

/-- The state of the mute by what was requested and reported. -/
structure Kept (σ : Muting) : Prop where
  wait : σ.engine.mute_session_state = .wait ↔ Waiting σ.events
  audible : σ.engine.mute_session_state = .none → ¬ InMutedSession σ.events
  muted : σ.engine.mute_session_state = .inSession → InMutedSession σ.events

end Muting

/-- The message thread of the location engine, with what mutes it. -/
def muting : System Muting LocEngData.Label where
  initial σ := ∃ status_cb, σ = ⟨.new status_cb, []⟩
  step := Muting.step

namespace Muting

theorem Kept.request {σ : Muting} {engine : LocEngData}
    (waits : engine.mute_session_state = .wait) :
    Kept ⟨engine, σ.events ++ [.request]⟩ where
  wait := ⟨fun _ => (waiting_append _ _).mpr (.inl rfl), fun _ => waits⟩
  audible := fun silent => by
    rw [waits] at silent
    cases silent
  muted := fun silent => by
    rw [waits] at silent
    cases silent

theorem Kept.report {σ : Muting} (kept : σ.Kept) {engine : LocEngData} {status : GpsStatusValue}
    (next : engine.mute_session_state = σ.engine.mute_session_state.next status) :
    Kept ⟨engine, σ.events ++ [.report status]⟩ := by
  have waiting : Waiting (σ.events ++ [.report status]) ↔
      Waiting σ.events ∧ ¬ Begins status := by
    rw [waiting_append]
    simp only [reduceCtorEq, false_or, MuteEvent.report.injEq, forall_eq']
  have muted : InMutedSession (σ.events ++ [.report status]) ↔
      (Begins status ∧ Waiting σ.events) ∨ InMutedSession σ.events ∧ ¬ Ends status := by
    rw [inMutedSession_append]
    simp only [MuteEvent.report.injEq, exists_eq_left', forall_eq']
  cases state : σ.engine.mute_session_state with
  | none =>
      have idle : ¬ Waiting σ.events := fun waits => by
        have wait := kept.wait.mpr waits
        rw [state] at wait
        cases wait
      rw [state] at next
      simp only [LocMuteSession.next] at next
      refine ⟨?_, ?_, ?_⟩ <;> dsimp only <;> rw [next]
      · exact ⟨nofun, fun waits => absurd (waiting.mp waits).1 idle⟩
      · intro _ inside
        rcases muted.mp inside with ⟨_, waits⟩ | ⟨inside, _⟩
        · exact idle waits
        · exact kept.audible state inside
      · exact nofun
  | wait =>
      have waits := kept.wait.mp state
      rw [state] at next
      by_cases begins : Begins status
      · have next : engine.mute_session_state = .inSession := next.trans (if_pos begins)
        refine ⟨?_, ?_, ?_⟩ <;> dsimp only <;> rw [next]
        · exact ⟨nofun, fun waits => absurd begins (waiting.mp waits).2⟩
        · exact nofun
        · exact fun _ => muted.mpr (.inl ⟨begins, waits⟩)
      · have next : engine.mute_session_state = .wait := next.trans (if_neg begins)
        refine ⟨?_, ?_, ?_⟩ <;> dsimp only <;> rw [next]
        · exact ⟨fun _ => waiting.mpr ⟨waits, begins⟩, fun _ => rfl⟩
        · exact nofun
        · exact nofun
  | inSession =>
      have inside := kept.muted state
      have idle : ¬ Waiting σ.events := fun waits => by
        have wait := kept.wait.mpr waits
        rw [state] at wait
        cases wait
      rw [state] at next
      by_cases ends : Ends status
      · have next : engine.mute_session_state = .none := next.trans (if_pos ends)
        refine ⟨?_, ?_, ?_⟩ <;> dsimp only <;> rw [next]
        · exact ⟨nofun, fun waits => absurd (waiting.mp waits).1 idle⟩
        · intro _ still
          rcases muted.mp still with ⟨_, waits⟩ | ⟨_, going⟩
          · exact idle waits
          · exact going ends
        · exact nofun
      · have next : engine.mute_session_state = .inSession := next.trans (if_neg ends)
        refine ⟨?_, ?_, ?_⟩ <;> dsimp only <;> rw [next]
        · exact ⟨nofun, fun waits => absurd (waiting.mp waits).1 idle⟩
        · exact nofun
        · exact fun _ => muted.mpr (.inr ⟨inside, ends⟩)

theorem Kept.same {σ : Muting} (kept : σ.Kept) {engine : LocEngData}
    (same : engine.mute_session_state = σ.engine.mute_session_state) :
    Kept ⟨engine, σ.events⟩ := by
  refine ⟨?_, ?_, ?_⟩ <;> dsimp only <;> rw [same]
  · exact kept.wait
  · exact kept.audible
  · exact kept.muted

theorem Kept.step {σ τ : Muting} (kept : σ.Kept) {label : LocEngData.Label}
    (taken : σ.step label = some τ) : τ.Kept := by
  obtain ⟨engine, moved, rfl⟩ := Option.map_eq_some_iff.mp taken
  cases label with
  | message task =>
      have same : engine.mute_session_state = σ.engine.mute_session_state := by
        simp only [LocEngData.step] at moved
        split at moved
        · split at moved
          · obtain rfl := Option.some.inj moved
            rfl
          · cases moved
        · cases moved
      unfold made
      rw [Option.toList_none, List.append_nil]
      exact kept.same same
  | run =>
      unfold made
      rcases run_cases moved with ⟨silent, same, _⟩ | ⟨asked, waits, _⟩ | ⟨status, said, next, _⟩
      · rw [silent, Option.toList_none, List.append_nil]
        exact kept.same same
      · rw [asked]
        exact .request waits
      · rw [said]
        exact kept.report next

end Muting

theorem muting_kept {σ : Muting} (run : muting.Reachable σ) : σ.Kept := by
  apply run.invariant Muting.Kept
  · rintro σ ⟨status_cb, rfl⟩
    have empty : ∀ (before after : List MuteEvent) (event : MuteEvent),
        [] ≠ before ++ event :: after := by
      intro before after event split
      cases before <;> cases split
    refine ⟨⟨nofun, ?_⟩, ?_, nofun⟩
    · rintro ⟨before, after, split, _⟩
      exact absurd split (empty before after _)
    · rintro _ ⟨before, begins, after, split, _⟩
      exact absurd split (empty before after _)
  · intro before label after _ kept _ taken
    exact kept.step taken

/-- A status that neither begins nor ends a session is not reported at all. -/
theorem not_reportable {status : GpsStatusValue} (known : status ∈ gpsStatusValues)
    (not_begins : ¬ Begins status) (not_ends : ¬ Ends status) (navigating : Bool) :
    ¬ Reportable navigating status := by
  intro reportable
  simp only [gpsStatusValues, List.mem_cons, List.not_mem_nil, or_false] at known
  rcases known with none | begins | ends | on | off
  · exact reportable.1 none
  · exact not_begins (.inl begins)
  · exact not_ends (.inl ends)
  · exact not_begins (.inr on)
  · exact not_ends (.inr off)

/-- No status is delivered in a muted session, until the report that ends it; and outside
of one every status that is reported at all is delivered. -/
theorem muted_session_silent {σ τ : Muting} (run : muting.Reachable σ) {status : GpsStatusValue}
    (reports : σ.engine.task.event = some (.report status)) (taken : σ.step .run = some τ) :
    (InMutedSession τ.events → status ∈ gpsStatusValues →
      τ.engine.informed = σ.engine.informed) ∧
    (¬ InMutedSession τ.events →
      τ.engine.informed = σ.engine.informed ++
        (if σ.engine.status_cb = true ∧ Reportable σ.engine.mNavigating status then [status]
        else [])) := by
  have kept := (muting_kept run).step taken
  obtain ⟨engine, moved, rfl⟩ := Option.map_eq_some_iff.mp taken
  rcases run_cases moved with ⟨silent, _⟩ | ⟨asked, _⟩ | ⟨_, said, next, informed⟩
  · cases silent.symm.trans reports
  · cases asked.symm.trans reports
  · cases said.symm.trans reports
    have events : σ.events ++ (Muting.made σ.engine .run).toList =
        σ.events ++ [.report status] :=
      congrArg (σ.events ++ ·) (congrArg Option.toList reports)
    dsimp only at kept ⊢
    rw [events] at kept ⊢
    constructor
    · intro inside known
      rw [informed, if_neg, List.append_nil]
      rintro ⟨_, reportable, audible⟩
      cases state : σ.engine.mute_session_state with
      | none =>
          rw [state] at next
          exact kept.audible next inside
      | wait =>
          -- a mute that was requested within the session leaves only its end to report
          rw [state] at audible
          have not_begins : ¬ Begins status := fun begins => audible (if_pos begins)
          rcases (inMutedSession_append _ _).mp inside with ⟨_, ⟨⟩, begins, _⟩ | ⟨_, going⟩
          · exact not_begins begins
          · exact not_reportable known not_begins (going status rfl) _ reportable
      | inSession =>
          rw [state] at audible next
          have ends : Ends status := Decidable.byContradiction (fun going =>
            audible (if_neg going))
          exact kept.audible (next.trans (if_pos ends)) inside
    · intro outside
      have audible : σ.engine.mute_session_state.next status ≠ .inSession := fun muted =>
        outside (kept.muted (next.trans muted))
      rw [informed]
      simp only [audible, ne_eq, not_false_eq_true, and_true]

/-- The engine goes on in a session that is muted. -/
theorem muted_session_silent_on :
    ∃ σ, muting.exec ⟨.new true, []⟩ [.message .muteOneSession, .run,
        .message (.reportStatus GPS_STATUS_ENGINE_ON)] = some σ ∧
      σ.engine.task.event = some (.report GPS_STATUS_ENGINE_ON) ∧
      ∀ τ, σ.step .run = some τ →
        (InMutedSession τ.events → GPS_STATUS_ENGINE_ON ∈ gpsStatusValues →
          τ.engine.informed = σ.engine.informed) ∧
        (¬ InMutedSession τ.events →
          τ.engine.informed = σ.engine.informed ++
            (if σ.engine.status_cb = true ∧
                Reportable σ.engine.mNavigating GPS_STATUS_ENGINE_ON then [GPS_STATUS_ENGINE_ON]
            else [])) := by
  have first : muting.initial ⟨.new true, []⟩ := ⟨true, rfl⟩
  apply System.execUnder_then first
  · intro σ run reports τ taken
    exact muted_session_silent run reports taken
  · decide +kernel

/-- The report that ends a muted session is delivered. -/
theorem muted_session_end_heard :
    ¬ ∀ σ τ status, muting.Reachable σ → σ.engine.task.event = some (.report status) →
      σ.step .run = some τ → InMutedSession σ.events ∨ InMutedSession τ.events →
      τ.engine.informed = σ.engine.informed := by
  intro silent
  have first : muting.initial ⟨.new true, []⟩ := ⟨true, rfl⟩
  obtain ⟨σ, run, seen⟩ := System.reachable_of_exec first
    [.message .muteOneSession, .run, .message (.reportStatus GPS_STATUS_ENGINE_ON), .run, .run,
      .message (.reportStatus GPS_STATUS_ENGINE_OFF)]
    (fun σ => decide (σ.events = [.request, .report GPS_STATUS_ENGINE_ON] ∧
      σ.engine.task = .reportStatus GPS_STATUS_ENGINE_OFF ∧ σ.engine.informed = [] ∧
      (σ.step .run).any (fun τ => τ.engine.informed = [GPS_STATUS_ENGINE_OFF])))
    (by decide +kernel)
  obtain ⟨events, task, unheard, ended⟩ := of_decide_eq_true seen
  obtain ⟨τ, taken, heard⟩ := (Option.any_eq_true _ _).mp ended
  have reports : σ.engine.task.event = some (.report GPS_STATUS_ENGINE_OFF) := by
    rw [task]
    rfl
  have inside : InMutedSession σ.events := by
    rw [events]
    exact ⟨[.request], GPS_STATUS_ENGINE_ON, [], rfl, ⟨[], [], rfl, nofun⟩, .inr rfl, nofun⟩
  have same := silent σ τ _ run reports taken (.inl inside)
  rw [of_decide_eq_true heard, unheard] at same
  cases same

end A5Common.Engine
