import A5Common.Engine.Status

set_option autoImplicit false

namespace A5Common.Engine

open A5Common.Run

inductive LocPositionMode where
  | invalid
  | standalone
  | msBased
  | msAssisted
  | reserved1
  | reserved2
  | reserved3
  | reserved4
  | reserved5
deriving DecidableEq

abbrev GpsPositionRecurrence := BitVec 32

def GPS_POSITION_RECURRENCE_PERIODIC : GpsPositionRecurrence := 0

def GPS_POSITION_RECURRENCE_SINGLE : GpsPositionRecurrence := 1

structure LocPosMode where
  mode : LocPositionMode
  recurrence : GpsPositionRecurrence
  min_interval : BitVec 32
  preferred_accuracy : BitVec 32
  preferred_time : BitVec 32
  credentials : List Char
  provider : List Char
deriving DecidableEq

def GPS_CAPABILITY_MSB : BitVec 32 := 2

def GPS_CAPABILITY_MSA : BitVec 32 := 4

abbrev LocPosTechMask := BitVec 32

def LOC_POS_TECH_MASK_SATELLITE : LocPosTechMask := 0x00000001

def LOC_POS_TECH_MASK_SENSORS : LocPosTechMask := 0x00000008

def LOC_POS_TECH_MASK_HYBRID : LocPosTechMask := 0x00000080

inductive LocSessStatus where
  | success
  | intermediate
  | failure
deriving DecidableEq

/-- A report of a position. The comparison of its accuracy with the threshold is between
floating point numbers, and only its outcome is kept. -/
structure LocEngReportPosition where
  mStatus : LocSessStatus
  mTechMask : LocPosTechMask
  hasAccuracy : Bool
  exceedsThreshold : Bool
deriving DecidableEq

inductive LocApiCall where
  | startFix (criteria : LocPosMode)
  | stopFix
  | setPositionMode (criteria : LocPosMode)
  | setInSession (inSession : Bool)
deriving DecidableEq

/-- The settings that position reports and position modes are processed by. -/
structure SessionConf where
  CAPABILITIES : BitVec 32
  ACCURACY_THRES : BitVec 32
  location_cb : Bool
  intermediateFix : BitVec 8
deriving DecidableEq

/-- The engine with the fix criteria of its adapter. The list is a record of the calls to
`LocApi`. -/
structure SessionData where
  conf : SessionConf
  eng : LocEngData
  mFixCriteria : LocPosMode
  calls : List LocApiCall

namespace SessionData

def new (conf : SessionConf) (status_cb : Bool) : SessionData where
  conf := conf
  eng := .new status_cb
  mFixCriteria :=
    { mode := .invalid
      recurrence := 0
      min_interval := 0
      preferred_accuracy := 0
      preferred_time := 0
      credentials := []
      provider := [] }
  calls := []

/-- `LocEngAdapter::setInSession` -/
def setInSession (inSession : Bool) (σ : SessionData) : SessionData :=
  let σ :=
    { σ with
      eng := { σ.eng with mNavigating := inSession }
      calls := σ.calls ++ [.setInSession inSession] }
  if !inSession then { σ with mFixCriteria := { σ.mFixCriteria with mode := .invalid } } else σ

def startFix (σ : SessionData) : SessionData :=
  { σ with calls := σ.calls ++ [.startFix σ.mFixCriteria] }

def stopFix (σ : SessionData) : SessionData :=
  { σ with calls := σ.calls ++ [.stopFix] }

/-- `loc_eng_set_position_mode`, and the message that it sends. -/
def setPositionMode (params : LocPosMode) (σ : SessionData) : SessionData :=
  let params :=
    if σ.conf.CAPABILITIES &&& GPS_CAPABILITY_MSB = 0 ∧
        σ.conf.CAPABILITIES &&& GPS_CAPABILITY_MSA = 0 ∧ params.mode ≠ .standalone then
      { params with mode := .standalone }
    else params
  { σ with mFixCriteria := params, calls := σ.calls ++ [.setPositionMode params] }

/-- `loc_eng_start_handler`, with the answer that `startFix` gets. -/
def startHandler (answer : LocApiAdapterErr) (σ : SessionData) : SessionData :=
  if !σ.eng.mNavigating then
    let σ := σ.startFix
    if answer = .success ∨ answer = .engineDown ∨ answer = .phoneOffline ∨
        answer = .internal then
      σ.setInSession true
    else σ
  else σ

def stopHandler (σ : SessionData) : SessionData :=
  if σ.eng.mNavigating then σ.stopFix.setInSession false else σ

/-- Whether a position is passed to `location_cb`. -/
def reports (report : LocEngReportPosition) (σ : SessionData) : Bool :=
  σ.conf.location_cb &&
    (report.mStatus = .failure ||
      (report.mStatus = .success &&
        ((LOC_POS_TECH_MASK_SATELLITE ||| LOC_POS_TECH_MASK_SENSORS |||
          LOC_POS_TECH_MASK_HYBRID) &&& report.mTechMask ≠ 0)) ||
      (σ.conf.intermediateFix = 1 &&
        !(report.hasAccuracy && σ.conf.ACCURACY_THRES ≠ 0 && report.exceedsThreshold)))

/-- What `LocEngReportPosition::proc` does to the session. -/
def reportPosition (report : LocEngReportPosition) (σ : SessionData) : SessionData :=
  if σ.eng.mute_session_state ≠ .inSession then
    if σ.reports report = true ∧
        σ.mFixCriteria.recurrence = GPS_POSITION_RECURRENCE_SINGLE then
      -- the modem could be still working for a final fix
      let σ := if report.mStatus = .intermediate then σ.stopFix else σ
      σ.setInSession false
    else σ
  else σ

/-- What `loc_eng_handle_engine_up` does to the session. -/
def handleEngineUp (answer : LocApiAdapterErr) (σ : SessionData) : SessionData :=
  if σ.eng.mNavigating then (σ.setInSession false).startHandler answer else σ

inductive Label where
  | setPositionMode (params : LocPosMode)
  | start (answer : LocApiAdapterErr)
  | stop
  | reportPosition (report : LocEngReportPosition)
  | reportStatus (status : GpsStatusValue)
  | muteOneSession
  | engineDown
  | engineUp (answer : LocApiAdapterErr)
deriving DecidableEq

def step (σ : SessionData) : Label → Option SessionData
  | .setPositionMode params => some (σ.setPositionMode params)
  | .start answer => some (σ.startHandler answer)
  | .stop => some σ.stopHandler
  | .reportPosition report => some (σ.reportPosition report)
  | .reportStatus status => some { σ with eng := σ.eng.reportStatus status }
  | .muteOneSession => some { σ with eng := { σ.eng with mute_session_state := .wait } }
  | .engineDown => some { σ with eng := σ.eng.reportStatus GPS_STATUS_ENGINE_OFF }
  | .engineUp answer => some (σ.handleEngineUp answer)

/-- The session of the engine starts as the engine's own model has it. -/
theorem startHandler_eng (answer : LocApiAdapterErr) (σ : SessionData) :
    (σ.startHandler answer).eng = σ.eng.startHandler answer := by
  unfold startHandler LocEngData.startHandler
  split
  · dsimp only
    split <;> rfl
  · rfl

theorem stopHandler_eng (σ : SessionData) : σ.stopHandler.eng = σ.eng.stopHandler := by
  unfold stopHandler LocEngData.stopHandler
  split <;> rfl

theorem handleEngineUp_eng (answer : LocApiAdapterErr) (σ : SessionData) :
    (σ.handleEngineUp answer).eng = σ.eng.handleEngineUp answer := by
  unfold handleEngineUp LocEngData.handleEngineUp
  split
  · exact startHandler_eng answer (σ.setInSession false)
  · rfl

end SessionData

/-- The sessions of the location engine, a message at a time. -/
def session : System SessionData SessionData.Label where
  initial σ := ∃ conf status_cb, σ = .new conf status_cb
  step := SessionData.step

namespace LocEngData

theorem startHandler_task (startFix : LocApiAdapterErr) (σ : LocEngData) (task : MsgTask) :
    { σ with task := task }.startHandler startFix =
      { σ.startHandler startFix with task := task } := by
  unfold startHandler
  split
  · split <;> rfl
  · rfl

theorem stopHandler_task (σ : LocEngData) (task : MsgTask) :
    { σ with task := task }.stopHandler = { σ.stopHandler with task := task } := by
  unfold stopHandler
  split <;> rfl

theorem handleEngineUp_task (startFix : LocApiAdapterErr) (σ : LocEngData) (task : MsgTask) :
    { σ with task := task }.handleEngineUp startFix =
      { σ.handleEngineUp startFix with task := task } := by
  unfold handleEngineUp
  split
  · exact startHandler_task startFix { σ with mNavigating := false } task
  · rfl

theorem reportStatus_task (status : GpsStatusValue) (σ : LocEngData) (task : MsgTask) :
    { σ with task := task }.reportStatus status = { σ.reportStatus status with task := task } := by
  have switched : { σ with task := task }.switchMute status =
      { σ.switchMute status with task := task } := by
    unfold switchMute
    dsimp only
    split <;> split <;> rfl
  have delivered : ∀ σ : LocEngData, { σ with task := task }.deliver status =
      { σ.deliver status with task := task } := by
    intro σ
    unfold deliver informGpsStatus
    split
    · split <;> rfl
    · rfl
  have kept : ∀ σ : LocEngData, { σ with task := task }.keepStatus status =
      { σ.keepStatus status with task := task } := by
    intro σ
    unfold keepStatus
    dsimp only
    split <;> split <;> rfl
  rw [reportStatus_parts, reportStatus_parts, switched, delivered, kept]

/-- Between two messages, with no aiding data to delete. -/
structure Settled (σ : LocEngData) : Prop where
  task : σ.task = .idle
  aiding_data_for_deletion : σ.aiding_data_for_deletion = 0

variable {σ τ : LocEngData} {task : MsgTask}

theorem Settled.idle (settled : σ.Settled) : { σ with task := .idle } = σ := by
  cases σ
  cases settled.task
  rfl

/-- A message that is taken up. -/
theorem Settled.exec_message (settled : σ.Settled) (accepted : accepts task = true)
    (labels : List Label) :
    engine.exec σ (.message task :: labels) = engine.exec { σ with task := task } labels := by
  have taken : σ.step (.message task) = some { σ with task := task } := by
    rw [step, settled.task]
    exact if_pos accepted
  rw [System.exec, System.execUnder, if_pos trivial,
    show engine.step σ (.message task) = some { σ with task := task } from taken]
  rfl

theorem exec_run {next : LocEngData} (ran : σ.run = some next) (labels : List Label) :
    engine.exec σ (.run :: labels) = engine.exec next labels := by
  rw [System.exec, System.execUnder, if_pos trivial, show engine.step σ .run = some next from ran]
  rfl

/-- A message that is processed in one step, by a handler that does not look at the task. -/
theorem Settled.exec_handled (settled : σ.Settled) (task : MsgTask)
    (accepted : accepts task = true) (handler : LocEngData → LocEngData)
    (frame : ∀ (σ : LocEngData) (task : MsgTask),
      handler { σ with task := task } = { handler σ with task := task })
    (handled : { σ with task := task }.run =
      some { handler { σ with task := task } with task := .idle }) :
    engine.exec σ [.message task, .run] = some (handler σ) := by
  have processed : { σ with task := task }.run = some (handler σ) := by
    rw [handled, frame, ← settled.idle, frame]
  rw [settled.exec_message accepted, exec_run processed]
  rfl

/-- The session is over, whether or not there was one. -/
theorem stopHandler_navigating (σ : LocEngData) :
    σ.stopHandler = { σ with mNavigating := false } := by
  unfold stopHandler
  split
  · rfl
  · rename_i idle
    rw [Bool.not_eq_true] at idle
    rw [← idle]

theorem Settled.reportStatus (settled : σ.Settled) (status : GpsStatusValue) :
    (σ.reportStatus status).Settled := by
  obtain ⟨_, _, _, reported⟩ := σ.reportStatus_eq status
  rw [reported]
  exact ⟨settled.task, settled.aiding_data_for_deletion⟩

/-- A report of the status is followed by a look at the aiding data, of which there is none. -/
theorem Settled.exec_reportStatus (settled : σ.Settled) (status : GpsStatusValue) :
    engine.exec σ [.message (.reportStatus status), .run, .run] =
      some (σ.reportStatus status) := by
  have after := settled.reportStatus status
  have reported : ({ σ with task := .reportStatus status } : LocEngData).run =
      some { σ.reportStatus status with task := .updateAiding } := by
    show some { ({ σ with task := .reportStatus status } : LocEngData).reportStatus status with
      task := .updateAiding } = _
    rw [reportStatus_task]
  have nothing : ({ σ.reportStatus status with task := .updateAiding } : LocEngData).run =
      some (σ.reportStatus status) := by
    rw [run, if_neg (fun both => both.2 after.aiding_data_for_deletion)]
    exact congrArg some after.idle
  rw [settled.exec_message rfl, exec_run reported, exec_run nothing]
  rfl

end LocEngData

namespace SessionData

/-- What a message does to the engine of a session, the message thread of the engine does in a
run of its own. -/
theorem step_engine {σ τ : SessionData} {label : Label} (settled : σ.eng.Settled)
    (taken : σ.step label = some τ) :
    (∃ labels, engine.exec σ.eng labels = some τ.eng) ∧ τ.eng.Settled := by
  have navigates : ∀ mNavigating,
      ({ σ.eng with mNavigating := mNavigating } : LocEngData).Settled :=
    fun _ => ⟨settled.task, settled.aiding_data_for_deletion⟩
  have stops := settled.exec_handled .stopFix rfl _ LocEngData.stopHandler_task rfl
  cases label with
  | setPositionMode params =>
      cases taken
      exact ⟨⟨[], rfl⟩, settled⟩
  | start answer =>
      cases taken
      obtain ⟨mNavigating, started⟩ := σ.eng.startHandler_eq answer
      rw [startHandler_eng]
      exact ⟨⟨_, settled.exec_handled (.startFix answer) rfl _
        (LocEngData.startHandler_task answer) rfl⟩, started ▸ navigates mNavigating⟩
  | stop =>
      cases taken
      rw [stopHandler_eng]
      exact ⟨⟨_, stops⟩, σ.eng.stopHandler_navigating ▸ navigates false⟩
  | reportPosition report =>
      cases taken
      have ended : (σ.reportPosition report).eng = σ.eng ∨
          (σ.reportPosition report).eng = σ.eng.stopHandler := by
        rw [LocEngData.stopHandler_navigating]
        unfold reportPosition
        split
        · split
          · refine Or.inr ?_
            dsimp only
            split <;> rfl
          · exact Or.inl rfl
        · exact Or.inl rfl
      rcases ended with same | stopped
      · rw [same]
        exact ⟨⟨[], rfl⟩, settled⟩
      · rw [stopped]
        exact ⟨⟨_, stops⟩, σ.eng.stopHandler_navigating ▸ navigates false⟩
  | reportStatus status =>
      cases taken
      exact ⟨⟨_, settled.exec_reportStatus status⟩, settled.reportStatus status⟩
  | muteOneSession =>
      cases taken
      have muted := settled.exec_handled .muteOneSession rfl
        (fun σ => { σ with mute_session_state := .wait }) (fun _ _ => rfl) rfl
      exact ⟨⟨_, muted⟩, settled.task, settled.aiding_data_for_deletion⟩
  | engineDown =>
      cases taken
      exact ⟨⟨_, settled.exec_handled .engineDown rfl _
        (LocEngData.reportStatus_task GPS_STATUS_ENGINE_OFF) rfl⟩,
        settled.reportStatus GPS_STATUS_ENGINE_OFF⟩
  | engineUp answer =>
      cases taken
      obtain ⟨mNavigating, restarted⟩ := σ.eng.handleEngineUp_eq answer
      rw [handleEngineUp_eng]
      exact ⟨⟨_, settled.exec_handled (.engineUp answer) rfl _
        (LocEngData.handleEngineUp_task answer) rfl⟩, restarted ▸ navigates mNavigating⟩

end SessionData

/-- The engine of a session is one that the message thread of the engine can come to, so that what
holds in all its runs holds in a session. -/
theorem session_engine {σ : SessionData} (run : session.Reachable σ) : engine.Reachable σ.eng := by
  have both : engine.Reachable σ.eng ∧ σ.eng.Settled := by
    apply run.invariant (fun σ => engine.Reachable σ.eng ∧ σ.eng.Settled)
    · rintro σ ⟨conf, status_cb, rfl⟩
      exact ⟨.start ⟨status_cb, rfl⟩, rfl, rfl⟩
    · rintro before label after - ⟨reached, settled⟩ - taken
      obtain ⟨⟨labels, ran⟩, stays⟩ := SessionData.step_engine settled taken
      exact ⟨reached.exec labels ran, stays⟩
  exact both.1

end A5Common.Engine
