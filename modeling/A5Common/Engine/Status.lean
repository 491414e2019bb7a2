import A5Common.Run.System

set_option autoImplicit false

namespace A5Common.Engine

open A5Common.Run

abbrev GpsStatusValue := BitVec 16

def GPS_STATUS_NONE : GpsStatusValue := 0

def GPS_STATUS_SESSION_BEGIN : GpsStatusValue := 1

def GPS_STATUS_SESSION_END : GpsStatusValue := 2

def GPS_STATUS_ENGINE_ON : GpsStatusValue := 3

def GPS_STATUS_ENGINE_OFF : GpsStatusValue := 4

abbrev GpsAidingData := BitVec 16

inductive LocMuteSession where
  | none
  | wait
  | inSession
deriving DecidableEq

inductive LocApiAdapterErr where
  | success
  | generalFailure
  | unsupported
  | invalidHandle
  | invalidParameter
  | engineBusy
  | phoneOffline
  | timeout
  | serviceNotPresent
  | internal
  | failure
  | unknown
deriving DecidableEq

/-- Engine down is equated to phone offline, as they are the same error. -/
def LocApiAdapterErr.engineDown : LocApiAdapterErr :=
  .phoneOffline

/-- What was asked to be deleted, and what was passed to `LocEngAdapter::deleteAidingData`. -/
inductive AidingEvent where
  | requested (mask : GpsAidingData)
  | deleted (mask : GpsAidingData)
deriving DecidableEq

/-- What the message thread does next, within the message that it processes. -/
inductive MsgTask where
  | idle
  | setAiding (mType : GpsAidingData)
  | reportStatus (mStatus : GpsStatusValue)
  | updateAiding
  | clearAiding
  | engineDown
  | engineUp (startFix : LocApiAdapterErr)
  | startFix (startFix : LocApiAdapterErr)
  | stopFix
  | muteOneSession
deriving DecidableEq

/-- The data of the engine that status reports and aiding data requests work on.
The lists are a record of the calls made. -/
structure LocEngData where
  status_cb : Bool
  engine_status : GpsStatusValue
  fix_session_status : GpsStatusValue
  aiding_data_for_deletion : GpsAidingData
  mute_session_state : LocMuteSession
  mNavigating : Bool
  task : MsgTask
  informed : List GpsStatusValue
  aiding : List AidingEvent

namespace LocEngData

def new (status_cb : Bool) : LocEngData where
  status_cb := status_cb
  engine_status := GPS_STATUS_NONE
  fix_session_status := GPS_STATUS_NONE
  aiding_data_for_deletion := 0
  mute_session_state := .none
  mNavigating := false
  task := .idle
  informed := []
  aiding := []

def informGpsStatus (status : GpsStatusValue) (σ : LocEngData) : LocEngData :=
  if σ.status_cb then { σ with informed := σ.informed ++ [status] } else σ

/-- `loc_eng_report_status` -/
def reportStatus (status : GpsStatusValue) (σ : LocEngData) : LocEngData :=
  let σ :=
    if (status = GPS_STATUS_SESSION_BEGIN ∨ status = GPS_STATUS_ENGINE_ON) ∧
        σ.mute_session_state = .wait then
      { σ with mute_session_state := .inSession }
    else σ
  let σ :=
    if σ.mute_session_state = .inSession ∧
        (status = GPS_STATUS_SESSION_END ∨ status = GPS_STATUS_ENGINE_OFF) then
      { σ with mute_session_state := .none }
    else σ
  let σ :=
    -- the end of a session is not reported while navigating
    if status ≠ GPS_STATUS_NONE ∧ ¬ (status = GPS_STATUS_SESSION_END ∧ σ.mNavigating = true) ∧
        ¬ (status = GPS_STATUS_SESSION_BEGIN ∧ σ.mNavigating = false) ∧
        σ.mute_session_state ≠ .inSession then
      σ.informGpsStatus status
    else σ
  let σ :=
    if status = GPS_STATUS_ENGINE_ON ∨ status = GPS_STATUS_ENGINE_OFF then
      { σ with engine_status := status }
    else σ
  if status = GPS_STATUS_SESSION_BEGIN ∨ status = GPS_STATUS_SESSION_END then
    { σ with fix_session_status := status }
  else σ

def startHandler (startFix : LocApiAdapterErr) (σ : LocEngData) : LocEngData :=
  if !σ.mNavigating then
    if startFix = .success ∨ startFix = .engineDown ∨ startFix = .phoneOffline ∨
        startFix = .internal then
      { σ with mNavigating := true }
    else σ
  else σ

def stopHandler (σ : LocEngData) : LocEngData :=
  if σ.mNavigating then { σ with mNavigating := false } else σ

/-- The session is restarted if the modem crashed in the middle of navigating. -/
def handleEngineUp (startFix : LocApiAdapterErr) (σ : LocEngData) : LocEngData :=
  if σ.mNavigating then startHandler startFix { σ with mNavigating := false } else σ

/-- The next step of the message that is processed. -/
def run (σ : LocEngData) : Option LocEngData :=
  match σ.task with
  | .idle => none
  | .setAiding mType =>
      some { σ with
        aiding_data_for_deletion := mType
        aiding := σ.aiding ++ [.requested mType]
        task := .updateAiding }
  | .reportStatus mStatus => some { σ.reportStatus mStatus with task := .updateAiding }
  | .updateAiding =>
      if σ.engine_status ≠ GPS_STATUS_ENGINE_ON ∧ σ.aiding_data_for_deletion ≠ 0 then
        some { σ with
          aiding := σ.aiding ++ [.deleted σ.aiding_data_for_deletion]
          task := .clearAiding }
      else some { σ with task := .idle }
  | .clearAiding => some { σ with aiding_data_for_deletion := 0, task := .idle }
  | .engineDown => some { σ.reportStatus GPS_STATUS_ENGINE_OFF with task := .idle }
  | .engineUp startFix => some { σ.handleEngineUp startFix with task := .idle }
  | .startFix startFix => some { σ.startHandler startFix with task := .idle }
  | .stopFix => some { σ.stopHandler with task := .idle }
  | .muteOneSession => some { σ with mute_session_state := .wait, task := .idle }

inductive Label where
  | message (task : MsgTask)
  | run

/-- The messages that come in, by the first step of their processing. -/
def accepts : MsgTask → Bool
  | .setAiding _ | .reportStatus _ | .engineDown | .engineUp _ | .startFix _ | .stopFix
  | .muteOneSession => true
  | .idle | .updateAiding | .clearAiding => false

def step (σ : LocEngData) : Label → Option LocEngData
  | .message task =>
      match σ.task with
      | .idle => if accepts task then some { σ with task := task } else none
      | _ => none
  | .run => σ.run

/-- The part of a report that switches the mute. -/
def switchMute (status : GpsStatusValue) (σ : LocEngData) : LocEngData :=
  let σ :=
    if (status = GPS_STATUS_SESSION_BEGIN ∨ status = GPS_STATUS_ENGINE_ON) ∧
        σ.mute_session_state = .wait then
      { σ with mute_session_state := .inSession }
    else σ
  if σ.mute_session_state = .inSession ∧
      (status = GPS_STATUS_SESSION_END ∨ status = GPS_STATUS_ENGINE_OFF) then
    { σ with mute_session_state := .none }
  else σ

def deliver (status : GpsStatusValue) (σ : LocEngData) : LocEngData :=
  if status ≠ GPS_STATUS_NONE ∧ ¬ (status = GPS_STATUS_SESSION_END ∧ σ.mNavigating = true) ∧
      ¬ (status = GPS_STATUS_SESSION_BEGIN ∧ σ.mNavigating = false) ∧
      σ.mute_session_state ≠ .inSession then
    σ.informGpsStatus status
  else σ

def keepStatus (status : GpsStatusValue) (σ : LocEngData) : LocEngData :=
  let σ :=
    if status = GPS_STATUS_ENGINE_ON ∨ status = GPS_STATUS_ENGINE_OFF then
      { σ with engine_status := status }
    else σ
  if status = GPS_STATUS_SESSION_BEGIN ∨ status = GPS_STATUS_SESSION_END then
    { σ with fix_session_status := status }
  else σ

theorem reportStatus_parts (status : GpsStatusValue) (σ : LocEngData) :
    σ.reportStatus status = ((σ.switchMute status).deliver status).keepStatus status :=
  rfl

theorem switchMute_rest (status : GpsStatusValue) (σ : LocEngData) :
    ∃ mute_session_state,
      σ.switchMute status = { σ with mute_session_state := mute_session_state } := by
  unfold switchMute
  dsimp only
  split <;> split <;> exact ⟨_, rfl⟩

theorem deliver_rest (status : GpsStatusValue) (σ : LocEngData) :
    ∃ informed, σ.deliver status = { σ with informed := informed } := by
  unfold deliver informGpsStatus
  split
  · split <;> exact ⟨_, rfl⟩
  · exact ⟨_, rfl⟩

theorem keepStatus_rest (status : GpsStatusValue) (σ : LocEngData) :
    ∃ fix_session_status, σ.keepStatus status = { σ with
      engine_status :=
        if status = GPS_STATUS_ENGINE_ON ∨ status = GPS_STATUS_ENGINE_OFF then status
        else σ.engine_status
      fix_session_status := fix_session_status } := by
  unfold keepStatus
  dsimp only
  split <;> split <;> exact ⟨_, rfl⟩

/-- What a status report leaves as it was, and the engine status it keeps. -/
theorem reportStatus_eq (status : GpsStatusValue) (σ : LocEngData) :
    ∃ mute_session_state informed fix_session_status, σ.reportStatus status = { σ with
      mute_session_state := mute_session_state
      informed := informed
      engine_status :=
        if status = GPS_STATUS_ENGINE_ON ∨ status = GPS_STATUS_ENGINE_OFF then status
        else σ.engine_status
      fix_session_status := fix_session_status } := by
  rw [reportStatus_parts]
  obtain ⟨mute_session_state, switched⟩ := σ.switchMute_rest status
  rw [switched]
  obtain ⟨informed, delivered⟩ := deliver_rest status { σ with mute_session_state }
  rw [delivered]
  obtain ⟨fix_session_status, kept⟩ :=
    keepStatus_rest status { σ with mute_session_state, informed }
  exact ⟨mute_session_state, informed, fix_session_status, kept⟩

theorem startHandler_eq (startFix : LocApiAdapterErr) (σ : LocEngData) :
    ∃ mNavigating, σ.startHandler startFix = { σ with mNavigating := mNavigating } := by
  unfold startHandler
  split
  · split <;> exact ⟨_, rfl⟩
  · exact ⟨_, rfl⟩

theorem stopHandler_eq (σ : LocEngData) :
    ∃ mNavigating, σ.stopHandler = { σ with mNavigating := mNavigating } := by
  unfold stopHandler
  split <;> exact ⟨_, rfl⟩

theorem handleEngineUp_eq (startFix : LocApiAdapterErr) (σ : LocEngData) :
    ∃ mNavigating, σ.handleEngineUp startFix = { σ with mNavigating := mNavigating } := by
  unfold handleEngineUp
  split
  · obtain ⟨mNavigating, started⟩ := startHandler_eq startFix { σ with mNavigating := false }
    exact ⟨mNavigating, started⟩
  · exact ⟨_, rfl⟩

end LocEngData

/-- The message thread of the location engine. -/
def engine : System LocEngData LocEngData.Label where
  initial σ := ∃ status_cb, σ = .new status_cb
  step := LocEngData.step

end A5Common.Engine
