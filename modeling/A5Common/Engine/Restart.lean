import A5Common.Engine.Session

set_option autoImplicit false

namespace A5Common.Engine

open A5Common.Run

/-- The criteria that a call passes on. -/
def LocApiCall.criteria : LocApiCall → Option LocPosMode
  | .startFix criteria | .setPositionMode criteria => some criteria
  | .stopFix | .setInSession _ => none

def LocApiCall.started : LocApiCall → Option LocPosMode
  | .startFix criteria => some criteria
  | .setPositionMode _ | .stopFix | .setInSession _ => none

/-- The parameters in force are those that `LocApi` was given last. -/
def inForce (calls : List LocApiCall) : Option LocPosMode :=
  (calls.filterMap LocApiCall.criteria).getLast?

/-- A restart starts a fix once, with the parameters in force before it. -/
def Resumes (before after : SessionData) : Prop :=
  ∃ criteria issued, inForce before.calls = some criteria ∧
    after.calls = before.calls ++ issued ∧ issued.filterMap LocApiCall.started = [criteria]

theorem inForce_append (calls : List LocApiCall) (call : LocApiCall) :
    inForce (calls ++ [call]) = call.criteria.or (inForce calls) := by
  unfold inForce
  rw [List.filterMap_append, List.getLast?_append]
  cases call <;> rfl

namespace SessionData

/-- In a session, the adapter holds the parameters in force. -/
def Held (σ : SessionData) : Prop :=
  σ.eng.mNavigating = true → inForce σ.calls = some σ.mFixCriteria

theorem held_stopped (σ : SessionData) : (σ.setInSession false).Held := by
  intro navigating
  cases navigating

theorem held_started (answer : LocApiAdapterErr) (σ : SessionData) (held : σ.Held) :
    (σ.startHandler answer).Held := by
  unfold startHandler
  split
  · rename_i idle
    dsimp only
    split
    · intro _
      simp only [setInSession, startFix, Bool.not_true, Bool.false_eq_true, if_false,
        inForce_append, LocApiCall.criteria, Option.none_or, Option.some_or]
    · intro navigating
      have idle : σ.eng.mNavigating = false := by simpa using idle
      exact absurd (idle.symm.trans navigating) Bool.false_ne_true
  · exact held

theorem Held.step {σ τ : SessionData} (held : σ.Held) {label : Label}
    (taken : σ.step label = some τ) : τ.Held := by
  cases label with
  | setPositionMode params =>
      obtain rfl := Option.some.inj taken
      intro _
      simp only [setPositionMode, inForce_append, LocApiCall.criteria, Option.some_or]
  | start answer =>
      obtain rfl := Option.some.inj taken
      exact held_started answer σ held
  | stop =>
      obtain rfl := Option.some.inj taken
      unfold stopHandler
      split
      · exact held_stopped _
      · exact held
  | reportPosition report =>
      obtain rfl := Option.some.inj taken
      unfold reportPosition
      split
      · split
        · exact held_stopped _
        · exact held
      · exact held
  | reportStatus status =>
      obtain rfl := Option.some.inj taken
      obtain ⟨_, _, _, reported⟩ := σ.eng.reportStatus_eq status
      rw [reported]
      exact held
  | muteOneSession =>
      obtain rfl := Option.some.inj taken
      exact held
  | engineDown =>
      obtain rfl := Option.some.inj taken
      obtain ⟨_, _, _, reported⟩ := σ.eng.reportStatus_eq GPS_STATUS_ENGINE_OFF
      rw [reported]
      exact held
  | engineUp answer =>
      obtain rfl := Option.some.inj taken
      unfold handleEngineUp
      split
      · exact held_started answer _ (held_stopped σ)
      · exact held

/-- A restart in a session starts a fix once, with an invalid mode. -/
theorem handleEngineUp_calls {σ : SessionData} (navigating : σ.eng.mNavigating = true)
    (answer : LocApiAdapterErr) :
    ∃ issued, (σ.handleEngineUp answer).calls = σ.calls ++ issued ∧
      issued.filterMap LocApiCall.started = [{ σ.mFixCriteria with mode := .invalid }] := by
  have stopped : (!(σ.setInSession false).eng.mNavigating) = true := rfl
  unfold handleEngineUp
  rw [if_pos navigating]
  unfold startHandler
  rw [if_pos stopped]
  dsimp only
  split
  · exact ⟨[.setInSession false, .startFix _, .setInSession true],
      by simp [setInSession, startFix], rfl⟩
  · exact ⟨[.setInSession false, .startFix _], by simp [setInSession, startFix], rfl⟩

end SessionData

theorem session_held {σ : SessionData} (run : session.Reachable σ) : σ.Held := by
  apply run.invariant SessionData.Held
  · rintro σ ⟨conf, status_cb, rfl⟩
    intro navigating
    cases navigating
  · intro before label after _ held _ taken
    exact held.step taken

/-- After every run, an engine restart in a session resumes it with the same parameters
exactly if their mode is invalid. -/
theorem handleEngineUp_resumes_iff {σ : SessionData} (run : session.Reachable σ)
    (navigating : σ.eng.mNavigating = true) (answer : LocApiAdapterErr) :
    Resumes σ (σ.handleEngineUp answer) ↔ σ.mFixCriteria.mode = .invalid := by
  have held := session_held run navigating
  obtain ⟨issued, calls, started⟩ := SessionData.handleEngineUp_calls navigating answer
  constructor
  · rintro ⟨criteria, others, force, others_calls, others_started⟩
    rw [calls, List.append_right_inj] at others_calls
    rw [← others_calls, started] at others_started
    rw [held, Option.some.injEq] at force
    rw [force, ← List.head_eq_of_cons_eq others_started]
  · intro invalid
    refine ⟨σ.mFixCriteria, issued, held, calls, ?_⟩
    rw [started, ← invalid]

/-- A session with positions every second. -/
def msBased : LocPosMode where
  mode := .msBased
  recurrence := GPS_POSITION_RECURRENCE_PERIODIC
  min_interval := 1000
  preferred_accuracy := 0
  preferred_time := 0
  credentials := []
  provider := []

def allCapable : SessionConf where
  CAPABILITIES := 7
  ACCURACY_THRES := 0
  location_cb := true
  intermediateFix := 0

/-- A session that was started before any position mode was set. -/
theorem handleEngineUp_resumes_unset :
    ∃ σ, session.exec (.new allCapable true) [.start .success] = some σ ∧
      σ.eng.mNavigating = true ∧
      (Resumes σ (σ.handleEngineUp .success) ↔ σ.mFixCriteria.mode = .invalid) := by
  have first : session.initial (.new allCapable true) := ⟨allCapable, true, rfl⟩
  apply System.execUnder_then first
  · intro σ run navigating
    exact handleEngineUp_resumes_iff run navigating .success
  · decide +kernel

/-- A restart in an MS based session starts a fix with an invalid mode. -/
theorem handleEngineUp_mode_lost :
    ¬ ∀ σ, session.Reachable σ → σ.eng.mNavigating = true → ∀ answer,
      Resumes σ (σ.handleEngineUp answer) := by
  intro resumes
  have first : session.initial (.new allCapable true) := ⟨allCapable, true, rfl⟩
  obtain ⟨σ, run, seen⟩ := System.reachable_of_exec first
    [.setPositionMode msBased, .start .success]
    (fun σ => decide (σ.eng.mNavigating = true ∧ inForce σ.calls = some msBased ∧
      (σ.handleEngineUp .success).calls = σ.calls ++ [.setInSession false,
        .startFix { msBased with mode := .invalid }, .setInSession true])) (by decide +kernel)
  obtain ⟨navigating, force, calls⟩ := of_decide_eq_true seen
  obtain ⟨criteria, issued, same, issued_calls, started⟩ := resumes σ run navigating .success
  rw [calls, List.append_right_inj] at issued_calls
  rw [force, Option.some.injEq] at same
  rw [← issued_calls, ← same] at started
  exact absurd started (by decide)

end A5Common.Engine
