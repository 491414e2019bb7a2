import A5Common.Run.System
import A5Common.Cfg.GpsConf
import Mathlib.Logic.Function.Basic

set_option autoImplicit false

namespace A5Common.Engine.Configuration

open A5Common.Run
open A5Common.Cfg (LocGpsCfg Platform locEngConfigurationUpdate utilUpdateConf updateMsgs)

/-- The fields of the configuration that the modem is told of and that an update over the
air can change. -/
inductive Setting where
  | SUPL_VER
  | LPP_PROFILE
  | A_GLONASS_POS_PROTOCOL_SELECT
deriving DecidableEq

namespace Setting

def value (gps_conf : LocGpsCfg) : Setting → BitVec 32
  | .SUPL_VER => gps_conf.SUPL_VER
  | .LPP_PROFILE => gps_conf.LPP_PROFILE
  | .A_GLONASS_POS_PROTOCOL_SELECT => gps_conf.A_GLONASS_POS_PROTOCOL_SELECT

/-- The message with which the modem is told of a field. -/
def msg (value : BitVec 32) : Setting → Cfg.LocMsg
  | .SUPL_VER => .LocEngSuplVer value
  | .LPP_PROFILE => .LocEngLppConfig value
  | .A_GLONASS_POS_PROTOCOL_SELECT => .LocEngAGlonassProtocol value

end Setting

def POWER_VOTE_RIGHT : BitVec 32 := 0x20

def POWER_VOTE_VALUE : BitVec 32 := 0x10

def setPowerVoteRight (powerVoteRight : Bool) (mPowerVote : BitVec 32) : BitVec 32 :=
  if powerVoteRight then mPowerVote ||| POWER_VOTE_RIGHT else mPowerVote &&& ~~~POWER_VOTE_RIGHT

def getPowerVoteRight (mPowerVote : BitVec 32) : Bool :=
  mPowerVote &&& POWER_VOTE_RIGHT ≠ 0

/-- What `setPowerVote` stores. -/
def setPowerVote (powerOn : Bool) (mPowerVote : BitVec 32) : BitVec 32 :=
  if powerOn then mPowerVote ||| POWER_VOTE_VALUE else mPowerVote &&& ~~~POWER_VOTE_VALUE

def getPowerVote (mPowerVote : BitVec 32) : Bool :=
  mPowerVote &&& POWER_VOTE_VALUE ≠ 0

/-- The lock with which `requestPowerVote` votes. -/
def powerVote (mPowerVote : BitVec 32) : BitVec 32 :=
  if getPowerVote mPowerVote then 103 else 101

/-- What the modem has been told of each field and the last power vote that it has been
given, both since it last started, and the last lock that is no power vote. -/
structure Modem where
  settings : Setting → Option (BitVec 32)
  vote : Option (BitVec 32)
  lock : Option (BitVec 32)

namespace Modem

def tell (modem : Modem) (setting : Setting) (value : BitVec 32) : Modem :=
  { modem with settings := Function.update modem.settings setting (some value) }

/-- The call with which a message is processed. -/
def take (modem : Modem) : Cfg.Call → Modem
  | .setSUPLVersion version => modem.tell .SUPL_VER version
  | .setLPPConfig profile => modem.tell .LPP_PROFILE profile
  | .setAGLONASSProtocol aGlonassProtocol =>
      modem.tell .A_GLONASS_POS_PROTOCOL_SELECT aGlonassProtocol
  | .setCapabilities _ => modem
  | .setGpsLock lock => { modem with lock := some lock }

def restarted (modem : Modem) : Modem where
  settings _ := none
  vote := none
  lock := modem.lock

end Modem

inductive LocMsg where
  | LocEngInit
  | LocEngUp
  | LocEngDown
  | config (msg : Cfg.LocMsg)
deriving DecidableEq

/-- A statement of a call: a message is sent, a bit of the power vote is stored, the vote is
requested, or the fields that an update must leave alone are put back. -/
inductive CallStep where
  | sendMsg (msg : LocMsg)
  | setPowerVoteRight (powerVoteRight : Bool)
  | setPowerVote (powerOn : Bool)
  | requestPowerVote
  | restore (gps_conf : LocGpsCfg)

/-- A statement of the message thread: `loc_eng_reinit` sends the message for a field,
`requestPowerVote`, or the lock of `LocEngInit`. -/
inductive MsgStep where
  | sends (setting : Setting)
  | requestPowerVote
  | setGpsLock (lock : BitVec 32)
deriving DecidableEq

/-- What the message thread has read and not passed on: a message or a power vote. -/
inductive Read where
  | msg (setting : Setting) (value : BitVec 32)
  | vote (lock : BitVec 32)
deriving DecidableEq

/-- The configuration, the adapter with its power vote and its messages, what is left of the
call that is under way, and what is left of the message that is processed. -/
structure LocEngData where
  gps_conf : LocGpsCfg
  adapter : Bool
  mPowerVote : BitVec 32
  queue : List LocMsg
  call : List CallStep
  thread : List MsgStep
  read : Option Read
  modem : Modem

def LocEngData.new (gps_conf : LocGpsCfg) : LocEngData where
  gps_conf := gps_conf
  adapter := false
  mPowerVote := 0
  queue := []
  call := []
  thread := []
  read := none
  modem := ⟨fun _ => none, none, none⟩

inductive Label where
  | locInit
  | locCleanup
  | locConfigurationUpdate (malloc : Bool) (config_data : Option (List Char)) (length : Int)
  | callStep
  | handleEngineDownEvent
  | handleEngineUpEvent
  | takeMsg
  | msgStep
deriving DecidableEq

/-- `loc_eng_reinit`, as far as it has to do with the fields. -/
def locEngReinit : List MsgStep :=
  [.sends .SUPL_VER, .sends .LPP_PROFILE, .sends .A_GLONASS_POS_PROTOCOL_SELECT]

namespace LocEngData

def sendMsg (σ : LocEngData) (msg : LocMsg) : LocEngData :=
  { σ with queue := σ.queue ++ [msg] }

/-- `loc_init`, which makes the adapter when there is none. -/
def locInit (qca1530 : Bool) (σ : LocEngData) : LocEngData :=
  { σ with
    adapter := true
    call := (if σ.adapter then [] else [.sendMsg .LocEngInit]) ++
      [.sendMsg (.config (.LocEngAdapterGpsLock 0)), .setPowerVoteRight qca1530,
        .setPowerVote true, .requestPowerVote] }

def locCleanup (σ : LocEngData) : LocEngData :=
  { σ with
    call := [.setPowerVote false, .requestPowerVote,
      .sendMsg (.config (.LocEngAdapterGpsLock σ.gps_conf.GPS_LOCK))] }

/-- `loc_eng_configuration_update` up to the first message. -/
def locConfigurationUpdate {F : Type} (platform : Platform F) (malloc : Bool)
    (config_data : Option (List Char)) (length : Int) (σ : LocEngData) : LocEngData :=
  match config_data with
  | some config =>
      if 0 < length then
        let vote := if σ.adapter then some (getPowerVote σ.mPowerVote) else none
        let update :=
          locEngConfigurationUpdate platform malloc vote config_data length σ.gps_conf
        { σ with
          gps_conf := utilUpdateConf platform malloc config length.toNat σ.gps_conf
          call := update.1.map (fun msg => .sendMsg (.config msg)) ++ [.restore update.2] }
      else σ
  | none => σ

/-- The next statement of the call. -/
def callStep (σ : LocEngData) : CallStep → LocEngData
  | .sendMsg msg => σ.sendMsg msg
  | .setPowerVoteRight powerVoteRight =>
      { σ with mPowerVote := Configuration.setPowerVoteRight powerVoteRight σ.mPowerVote }
  | .setPowerVote powerOn =>
      { σ with mPowerVote := Configuration.setPowerVote powerOn σ.mPowerVote }
  | .requestPowerVote =>
      if getPowerVoteRight σ.mPowerVote then
        { σ with modem := { σ.modem with vote := some (powerVote σ.mPowerVote) } }
      else σ
  | .restore gps_conf => { σ with gps_conf := gps_conf }

/-- The message thread takes a message off the queue. -/
def proc (σ : LocEngData) : LocMsg → LocEngData
  | .LocEngInit => { σ with thread := locEngReinit ++ [.setGpsLock 1] }
  | .LocEngUp => { σ with thread := locEngReinit ++ [.requestPowerVote] }
  | .LocEngDown => σ
  | .config msg => { σ with modem := σ.modem.take (msg.proc σ.gps_conf) }

/-- The next statement of the message thread, up to where it passes on what it has read. -/
def msgStep (σ : LocEngData) : MsgStep → LocEngData
  | .sends setting => { σ with read := some (.msg setting (setting.value σ.gps_conf)) }
  | .requestPowerVote =>
      if getPowerVoteRight σ.mPowerVote then
        { σ with read := some (.vote (powerVote σ.mPowerVote)) }
      else σ
  | .setGpsLock lock => { σ with modem := { σ.modem with lock := some lock } }

/-- What has been read is passed on. -/
def pass (σ : LocEngData) : Read → LocEngData
  | .msg setting value => σ.sendMsg (.config (setting.msg value))
  | .vote lock => { σ with modem := { σ.modem with vote := some lock } }

def step {F : Type} (platform : Platform F) (qca1530 : Bool) (σ : LocEngData) :
    Label → Option LocEngData
  | .locInit => if σ.call.isEmpty then some (σ.locInit qca1530) else none
  | .locCleanup => if σ.call.isEmpty && σ.adapter then some σ.locCleanup else none
  | .locConfigurationUpdate malloc config_data length =>
      if σ.call.isEmpty then
        some (σ.locConfigurationUpdate platform malloc config_data length)
      else none
  | .callStep =>
      match σ.call with
      | next :: rest => some ({ σ with call := rest }.callStep next)
      | [] => none
  | .handleEngineDownEvent => if σ.adapter then some (σ.sendMsg .LocEngDown) else none
  | .handleEngineUpEvent =>
      if σ.adapter then some ({ σ with modem := σ.modem.restarted }.sendMsg .LocEngUp) else none
  | .takeMsg =>
      match σ.read, σ.thread, σ.queue with
      | none, [], msg :: rest => some ({ σ with queue := rest }.proc msg)
      | _, _, _ => none
  | .msgStep =>
      match σ.read, σ.thread with
      | some read, _ => some ({ σ with read := none }.pass read)
      | none, next :: rest => some ({ σ with thread := rest }.msgStep next)
      | none, [] => none

end LocEngData

/-- The calls come one after another, the modem may restart at any time. -/
def engine {F : Type} (platform : Platform F) (qca1530 : Bool) : System LocEngData Label where
  initial σ := ∃ gps_conf, σ = .new gps_conf
  step := LocEngData.step platform qca1530

namespace CallStep

/-- A bit of the power vote is stored. -/
def votes : CallStep → Bool
  | .setPowerVoteRight _ | .setPowerVote _ => true
  | .sendMsg _ | .requestPowerVote | .restore _ => false

end CallStep

/-- No field is overwritten, and no power vote, that the message thread has read and not
passed on. -/
def LocEngData.passed (σ : LocEngData) : Label → Bool
  | .locConfigurationUpdate _ _ _ =>
      match σ.read with
      | some (.msg _ _) => false
      | some (.vote _) | none => true
  | .callStep =>
      match σ.read with
      | some (.vote _) => !(σ.call.head?.any CallStep.votes)
      | some (.msg _ _) | none => true
  | _ => true

theorem getPowerVote_setPowerVote (powerOn : Bool) (mPowerVote : BitVec 32) :
    getPowerVote (setPowerVote powerOn mPowerVote) = powerOn := by
  unfold getPowerVote setPowerVote
  cases powerOn with
  | true =>
      rw [if_pos rfl, decide_eq_true_eq]
      intro none
      have bit := congrArg (fun word : BitVec 32 => word.getLsbD 4) none
      simp [POWER_VOTE_VALUE] at bit
  | false =>
      rw [if_neg Bool.false_ne_true, decide_eq_false_iff_not, not_not, BitVec.and_assoc]
      exact BitVec.and_zero

/-- A message with which `loc_eng_reinit` is called. -/
def LocMsg.reinits : LocMsg → Bool
  | .LocEngInit | .LocEngUp => true
  | .LocEngDown | .config _ => false

/-- What a message tells the modem of a field. -/
def LocMsg.told (setting : Setting) : LocMsg → Option (BitVec 32)
  | .config (.LocEngSuplVer value) => if setting = .SUPL_VER then some value else none
  | .config (.LocEngLppConfig value) => if setting = .LPP_PROFILE then some value else none
  | .config (.LocEngAGlonassProtocol value) =>
      if setting = .A_GLONASS_POS_PROTOCOL_SELECT then some value else none
  | .config .LocEngSuplMode | .config (.LocEngAdapterGpsLock _) => none
  | .LocEngInit | .LocEngUp | .LocEngDown => none

/-- The lock that the modem is given when a message is processed. -/
def LocMsg.lock : LocMsg → Option (BitVec 32)
  | .LocEngInit => some 1
  | .config (.LocEngAdapterGpsLock lock) => some lock
  | .config (.LocEngSuplVer _) | .config (.LocEngLppConfig _) => none
  | .config (.LocEngAGlonassProtocol _) | .config .LocEngSuplMode => none
  | .LocEngUp | .LocEngDown => none

theorem told_msg (setting other : Setting) (value : BitVec 32) :
    (LocMsg.config (setting.msg value)).told other =
      if other = setting then some value else none := by
  cases setting <;> rfl

theorem lock_msg (setting : Setting) (value : BitVec 32) :
    (LocMsg.config (setting.msg value)).lock = none := by
  cases setting <;> rfl

theorem take_settings (modem : Modem) (gps_conf : LocGpsCfg) (msg : Cfg.LocMsg)
    (setting : Setting) :
    (modem.take (msg.proc gps_conf)).settings setting =
      ((LocMsg.config msg).told setting).or (modem.settings setting) := by
  cases msg <;> cases setting <;> rfl

theorem take_lock (modem : Modem) (gps_conf : LocGpsCfg) (msg : Cfg.LocMsg) :
    (modem.take (msg.proc gps_conf)).lock = (LocMsg.config msg).lock.or modem.lock := by
  cases msg <;> rfl

theorem take_vote (modem : Modem) (gps_conf : LocGpsCfg) (msg : Cfg.LocMsg) :
    (modem.take (msg.proc gps_conf)).vote = modem.vote := by
  cases msg <;> rfl

/-- What an update sends of a field is its new value, -/
theorem updateMsgs_told {vote : Bool} {before after : LocGpsCfg} {msg : Cfg.LocMsg}
    (sent : msg ∈ updateMsgs vote before after) {setting : Setting} {value : BitVec 32}
    (told : (LocMsg.config msg).told setting = some value) : value = setting.value after := by
  simp only [updateMsgs, List.mem_append, List.mem_ite_nil_right, List.mem_singleton] at sent
  rcases sent with (((⟨-, rfl⟩ | ⟨-, rfl⟩) | ⟨-, rfl⟩) | ⟨-, rfl⟩) | rfl
  all_goals
    cases setting <;> cases told <;> rfl

/-- and a value that is new is sent. -/
theorem updateMsgs_changed (vote : Bool) {before after : LocGpsCfg} {setting : Setting}
    (changed : setting.value before ≠ setting.value after) :
    setting.msg (setting.value after) ∈ updateMsgs vote before after := by
  simp only [updateMsgs, List.mem_append, List.mem_ite_nil_right, List.mem_singleton]
  cases setting with
  | SUPL_VER => exact Or.inl (Or.inl (Or.inl (Or.inl ⟨changed, rfl⟩)))
  | LPP_PROFILE => exact Or.inl (Or.inl (Or.inl (Or.inr ⟨changed, rfl⟩)))
  | A_GLONASS_POS_PROTOCOL_SELECT => exact Or.inl (Or.inl (Or.inr ⟨changed, rfl⟩))

/-- The last item of a list, or what there is without one. -/
theorem getLast?_cons_or {α : Type} (first : α) (rest : List α) (other : Option α) :
    (first :: rest).getLast?.or other = rest.getLast?.or (some first) := by
  rw [List.getLast?_cons]
  cases rest.getLast? with
  | none => rfl
  | some last => rfl

namespace LocEngData

variable {σ : LocEngData}

/-- What the modem has been told of a field when the messages have been processed. -/
def last (σ : LocEngData) (setting : Setting) : Option (BitVec 32) :=
  (σ.queue.filterMap (LocMsg.told setting)).getLast?.or (σ.modem.settings setting)

/-- A message about a field is still to be sent. -/
def Pending (σ : LocEngData) (setting : Setting) : Prop :=
  (∃ msg ∈ σ.queue, msg.reinits = true) ∨ .sends setting ∈ σ.thread ∨
    (∃ value, σ.read = some (.msg setting value)) ∨
    ∃ msg, .sendMsg msg ∈ σ.call ∧ (msg.reinits = true ∨ (msg.told setting).isSome = true)

/-- The modem has been told of a field, or will be. -/
def Settles (σ : LocEngData) (setting : Setting) : Prop :=
  σ.Pending setting ∨ σ.last setting = some (setting.value σ.gps_conf)

/-- What is on its way to the modem is as good as the configuration. -/
structure Told (σ : LocEngData) : Prop where
  restores : ∀ gps_conf, .restore gps_conf ∈ σ.call →
    (∀ setting : Setting, setting.value gps_conf = setting.value σ.gps_conf) ∧
      gps_conf.GPS_LOCK = σ.gps_conf.GPS_LOCK
  sends : ∀ msg, .sendMsg msg ∈ σ.call → ∀ setting value, msg.told setting = some value →
    value = setting.value σ.gps_conf
  read : ∀ setting value, σ.read = some (.msg setting value) → value = setting.value σ.gps_conf
  settles : σ.adapter = true → ∀ setting, σ.Settles setting

theorem last_sendMsg (msg : LocMsg) (setting : Setting) :
    (σ.sendMsg msg).last setting = (msg.told setting).or (σ.last setting) := by
  unfold last sendMsg
  rw [List.filterMap_append, List.filterMap_cons, List.filterMap_nil]
  cases msg.told setting with
  | none => rw [List.append_nil, Option.none_or]
  | some value => rw [List.getLast?_concat, Option.some_or, Option.some_or]

/-- A message with what the configuration holds unsettles nothing. -/
theorem Settles.sendMsg {setting : Setting} (settles : σ.Settles setting) {msg : LocMsg}
    (told : ∀ value, msg.told setting = some value → value = setting.value σ.gps_conf) :
    (σ.sendMsg msg).Settles setting := by
  rcases settles with pending | last
  · apply Or.inl
    rcases pending with ⟨other, member, reinits⟩ | rest
    · exact Or.inl ⟨other, List.mem_append_left _ member, reinits⟩
    · exact Or.inr rest
  · apply Or.inr
    rw [last_sendMsg, last]
    cases sent : msg.told setting with
    | none => exact Option.none_or
    | some value =>
        rw [told value sent]
        rfl

theorem Told.sendMsg (told : σ.Told) {msg : LocMsg}
    (same : ∀ setting value, msg.told setting = some value → value = setting.value σ.gps_conf) :
    (σ.sendMsg msg).Told :=
  { told with settles := fun opened setting => (told.settles opened setting).sendMsg (same setting) }

theorem settles_of_reinits {msg : LocMsg} (reinits : msg.reinits = true) (setting : Setting) :
    (σ.sendMsg msg).Settles setting :=
  Or.inl (Or.inl ⟨msg, List.mem_append_right _ (List.mem_singleton_self msg), reinits⟩)

/-- A message that has been sent and is not left any more. -/
theorem Settles.sent {msg : LocMsg} {rest : List CallStep} (call : σ.call = .sendMsg msg :: rest)
    {setting : Setting} (settles : σ.Settles setting)
    (told : ∀ value, msg.told setting = some value → value = setting.value σ.gps_conf) :
    ({ σ with call := rest }.sendMsg msg).Settles setting := by
  cases reinits : msg.reinits with
  | true => exact settles_of_reinits reinits setting
  | false =>
      cases sent : msg.told setting with
      | some value =>
          apply Or.inr
          rw [last_sendMsg, sent, told value sent]
          rfl
      | none =>
          refine Settles.sendMsg ?_ (fun value other => by rw [sent] at other; cases other)
          rcases settles with pending | last
          · apply Or.inl
            rcases pending with queued | left | read | ⟨other, member, due⟩
            · exact Or.inl queued
            · exact Or.inr (Or.inl left)
            · exact Or.inr (Or.inr (Or.inl read))
            · rw [call, List.mem_cons] at member
              rcases member with same | later
              · cases same
                rw [reinits, sent] at due
                exact absurd due (by decide)
              · exact Or.inr (Or.inr (Or.inr ⟨other, later, due⟩))
          · exact Or.inr last

theorem Told.callStep (told : σ.Told) {next : CallStep} {rest : List CallStep}
    (call : σ.call = next :: rest) : ({ σ with call := rest }.callStep next).Told := by
  have later : ∀ step ∈ rest, step ∈ σ.call := by
    rw [call]
    exact fun step member => List.mem_cons_of_mem next member
  have here : next ∈ σ.call := by
    rw [call]
    exact List.mem_cons_self
  -- any other statement leaves what is still to be sent
  have settles : (∀ msg, next ≠ .sendMsg msg) → σ.adapter = true →
      ∀ setting, ({ σ with call := rest } : LocEngData).Settles setting := by
    intro other opened setting
    rcases told.settles opened setting with pending | last
    · apply Or.inl
      rcases pending with queued | left | read | ⟨msg, member, due⟩
      · exact Or.inl queued
      · exact Or.inr (Or.inl left)
      · exact Or.inr (Or.inr (Or.inl read))
      · rw [call, List.mem_cons] at member
        exact Or.inr (Or.inr (Or.inr ⟨msg, member.resolve_left (Ne.symm (other msg)), due⟩))
    · exact Or.inr last
  have shorter : (∀ msg, next ≠ .sendMsg msg) → ({ σ with call := rest } : LocEngData).Told :=
    fun other =>
      { restores := fun conf member => told.restores conf (later _ member)
        sends := fun msg member => told.sends msg (later _ member)
        read := told.read
        settles := settles other }
  cases next with
  | sendMsg msg =>
      exact
        { restores := fun conf member => told.restores conf (later _ member)
          sends := fun msg member => told.sends msg (later _ member)
          read := told.read
          settles := fun opened setting =>
            (told.settles opened setting).sent call (told.sends msg here setting) }
  | setPowerVoteRight powerVoteRight | setPowerVote powerOn =>
      exact { shorter (by simp) with }
  | requestPowerVote =>
      unfold LocEngData.callStep
      dsimp only
      split
      · exact { shorter (by simp) with }
      · exact shorter (by simp)
  | restore gps_conf =>
      have left := shorter (by simp)
      obtain ⟨same, lock⟩ := told.restores gps_conf here
      exact
        { restores := fun conf member =>
            ⟨fun setting => ((left.restores conf member).1 setting).trans (same setting).symm,
              (left.restores conf member).2.trans lock.symm⟩
          sends := fun msg member setting value sent =>
            (left.sends msg member setting value sent).trans (same setting).symm
          read := fun setting value read => (left.read setting value read).trans (same setting).symm
          settles := fun opened setting => by
            rcases left.settles opened setting with pending | last
            · exact Or.inl pending
            · exact Or.inr (last.trans (congrArg some (same setting).symm)) }

theorem Told.msgStep (told : σ.Told) (idle : σ.read = none) {next : MsgStep} {rest : List MsgStep}
    (thread : σ.thread = next :: rest) : ({ σ with thread := rest }.msgStep next).Told := by
  -- any other statement leaves what is still to be read
  have shorter : (∀ setting, next ≠ .sends setting) →
      ({ σ with thread := rest } : LocEngData).Told := fun other =>
    { told with
      settles := fun opened setting => by
        rcases told.settles opened setting with (queued | left | later) | last
        · exact Or.inl (Or.inl queued)
        · rw [thread, List.mem_cons] at left
          exact Or.inl (Or.inr (Or.inl (left.resolve_left (Ne.symm (other setting)))))
        · exact Or.inl (Or.inr (Or.inr later))
        · exact Or.inr last }
  cases next with
  | sends setting =>
      exact
        { told with
          read := fun other value read => by
            cases read
            rfl
          settles := fun opened other => by
            rcases told.settles opened other with (queued | left | ⟨value, read⟩ | sent) | last
            · exact Or.inl (Or.inl queued)
            · rw [thread, List.mem_cons] at left
              rcases left with same | later
              · cases same
                exact Or.inl (Or.inr (Or.inr (Or.inl ⟨_, rfl⟩)))
              · exact Or.inl (Or.inr (Or.inl later))
            · rw [idle] at read
              cases read
            · exact Or.inl (Or.inr (Or.inr (Or.inr sent)))
            · exact Or.inr last }
  | requestPowerVote =>
      have left := shorter (by simp)
      unfold LocEngData.msgStep
      dsimp only
      split
      · exact
          { left with
            read := fun other value read => by cases read
            settles := fun opened setting => by
              rcases left.settles opened setting with (queued | later | ⟨value, read⟩ | sent) | last
              · exact Or.inl (Or.inl queued)
              · exact Or.inl (Or.inr (Or.inl later))
              · rw [show ({ σ with thread := rest } : LocEngData).read = none from idle] at read
                cases read
              · exact Or.inl (Or.inr (Or.inr (Or.inr sent)))
              · exact Or.inr last }
      · exact left
  | setGpsLock lock => exact { shorter (by simp) with }

theorem Told.pass (told : σ.Told) {read : Read} (held : σ.read = some read) :
    ({ σ with read := none }.pass read).Told := by
  cases read with
  | msg setting value =>
      have same := told.read setting value held
      exact
        { told with
          read := fun other value none => by cases none
          settles := fun opened other => by
            rcases told.settles opened other with (queued | left | ⟨value', read⟩ | sent) | last
            · obtain ⟨msg, member, reinits⟩ := queued
              exact Or.inl (Or.inl ⟨msg, List.mem_append_left _ member, reinits⟩)
            · exact Or.inl (Or.inr (Or.inl left))
            · rw [held] at read
              cases read
              apply Or.inr
              rw [LocEngData.pass, last_sendMsg, told_msg, if_pos rfl, Option.some_or, same]
              rfl
            · exact Or.inl (Or.inr (Or.inr (Or.inr sent)))
            · apply Or.inr
              rw [LocEngData.pass, last_sendMsg, told_msg]
              by_cases this : other = setting
              · rw [if_pos this, Option.some_or, same, this]
                rfl
              · rw [if_neg this, Option.none_or]
                exact last }
  | vote lock =>
      exact
        { told with
          read := fun other value none => by cases none
          settles := fun opened setting => by
            rcases told.settles opened setting with (queued | left | ⟨value, read⟩ | sent) | last
            · exact Or.inl (Or.inl queued)
            · exact Or.inl (Or.inr (Or.inl left))
            · rw [held] at read
              cases read
            · exact Or.inl (Or.inr (Or.inr (Or.inr sent)))
            · exact Or.inr last }

theorem sends_mem_locEngReinit (setting : Setting) (rest : List MsgStep) :
    .sends setting ∈ locEngReinit ++ rest := by
  cases setting with
  | SUPL_VER => exact List.mem_cons_self
  | LPP_PROFILE => exact List.mem_cons_of_mem _ List.mem_cons_self
  | A_GLONASS_POS_PROTOCOL_SELECT =>
      exact List.mem_cons_of_mem _ (List.mem_cons_of_mem _ List.mem_cons_self)

theorem Told.proc (told : σ.Told) {msg : LocMsg} {rest : List LocMsg}
    (queue : σ.queue = msg :: rest) : ({ σ with queue := rest }.proc msg).Told := by
  have rereads : ∀ steps : List MsgStep,
      ({ σ with queue := rest, thread := locEngReinit ++ steps } : LocEngData).Told := fun steps =>
    { told with
      settles := fun _ setting => Or.inl (Or.inr (Or.inl (sends_mem_locEngReinit setting steps))) }
  -- what is pending is so without a message that does not reinitialize
  have pending : msg.reinits = false → ∀ setting, σ.Pending setting →
      ({ σ with queue := rest } : LocEngData).Pending setting := by
    intro other setting pending
    rcases pending with ⟨queued, member, reinits⟩ | later
    · rw [queue, List.mem_cons] at member
      rcases member with rfl | member
      · rw [other] at reinits
        cases reinits
      · exact Or.inl ⟨queued, member, reinits⟩
    · exact Or.inr later
  cases msg with
  | LocEngInit => exact rereads [.setGpsLock 1]
  | LocEngUp => exact rereads [.requestPowerVote]
  | LocEngDown =>
      exact
        { told with
          settles := fun opened setting => by
            rcases told.settles opened setting with before | last
            · exact Or.inl (pending rfl setting before)
            · apply Or.inr
              rw [LocEngData.last, queue] at last
              exact last }
  | config msg =>
      exact
        { told with
          settles := fun opened setting => by
            rcases told.settles opened setting with before | last
            · exact Or.inl (pending rfl setting before)
            · apply Or.inr
              refine Eq.trans ?_ last
              simp only [LocEngData.last, LocEngData.proc, queue, take_settings,
                List.filterMap_cons]
              cases (LocMsg.config msg).told setting with
              | none => rw [Option.none_or]
              | some value => rw [Option.some_or, getLast?_cons_or] }

/-- What an update stores and what it is going to do. -/
theorem locConfigurationUpdate_eq {F : Type} (platform : Platform F) (malloc : Bool)
    (config_data : Option (List Char)) (length : Int) (σ : LocEngData) :
    σ.locConfigurationUpdate platform malloc config_data length = σ ∨
    ∃ stored restored : LocGpsCfg,
      (∀ setting : Setting, setting.value restored = setting.value stored) ∧
      restored.GPS_LOCK = stored.GPS_LOCK ∧
      σ.locConfigurationUpdate platform malloc config_data length =
        { σ with
          gps_conf := stored
          call := (if σ.adapter then updateMsgs (getPowerVote σ.mPowerVote) σ.gps_conf stored
            else []).map (fun msg => .sendMsg (.config msg)) ++ [.restore restored] } := by
  cases config_data with
  | none => exact Or.inl rfl
  | some config =>
      by_cases long : 0 < length
      · apply Or.inr
        refine ⟨utilUpdateConf platform malloc config length.toNat σ.gps_conf,
          (locEngConfigurationUpdate platform malloc
            (if σ.adapter then some (getPowerVote σ.mPowerVote) else none) (some config) length
            σ.gps_conf).2, ?_, ?_, ?_⟩
        · intro setting
          rw [locEngConfigurationUpdate, if_pos long]
          cases setting <;> rfl
        · rw [locEngConfigurationUpdate, if_pos long]
        · simp only [locConfigurationUpdate, locEngConfigurationUpdate, if_pos long]
          cases σ.adapter <;> rfl
      · apply Or.inl
        simp only [locConfigurationUpdate, if_neg long]

theorem Told.update (told : σ.Told) (idle : σ.call = [])
    (passed : ∀ setting value, σ.read ≠ some (.msg setting value)) {stored restored : LocGpsCfg}
    (same : ∀ setting : Setting, setting.value restored = setting.value stored)
    (lock : restored.GPS_LOCK = stored.GPS_LOCK) (vote : Bool) :
    ({ σ with
      gps_conf := stored
      call := (if σ.adapter then updateMsgs vote σ.gps_conf stored
        else []).map (fun msg => .sendMsg (.config msg)) ++ [.restore restored] } :
      LocEngData).Told where
  restores conf member := by
    simp only [List.mem_append, List.mem_map, reduceCtorEq, and_false, exists_false, false_or,
      List.mem_singleton, CallStep.restore.injEq] at member
    rw [member]
    exact ⟨same, lock⟩
  sends msg member setting value sent := by
    simp only [List.mem_append, List.mem_map, CallStep.sendMsg.injEq, List.mem_singleton,
      reduceCtorEq, or_false] at member
    obtain ⟨config, listed, rfl⟩ := member
    split at listed
    · exact updateMsgs_told listed sent
    · cases listed
  read setting value read := absurd read (passed setting value)
  settles opened setting := by
    by_cases changed : setting.value σ.gps_conf = setting.value stored
    · rcases told.settles opened setting with (queued | left | ⟨value, read⟩ | ⟨msg, sent, -⟩) | last
      · exact Or.inl (Or.inl queued)
      · exact Or.inl (Or.inr (Or.inl left))
      · exact absurd read (passed setting value)
      · rw [idle] at sent
        cases sent
      · exact Or.inr (last.trans (congrArg some changed))
    · apply Or.inl
      refine Or.inr (Or.inr (Or.inr ⟨.config (setting.msg (setting.value stored)), ?_, Or.inr ?_⟩))
      · rw [if_pos opened]
        exact List.mem_append_left _
          (List.mem_map_of_mem (updateMsgs_changed vote changed))
      · rw [told_msg, if_pos rfl]
        rfl

/-- A call that stores no field and tells nothing of one. -/
theorem Told.called (told : σ.Told) (idle : σ.call = []) {call : List CallStep}
    (restores : ∀ gps_conf, .restore gps_conf ∉ call)
    (sends : ∀ msg, .sendMsg msg ∈ call → ∀ setting, msg.told setting = none) :
    ({ σ with call := call } : LocEngData).Told :=
  { told with
    restores := fun conf member => absurd member (restores conf)
    sends := fun msg member setting value sent => by
      rw [sends msg member setting] at sent
      cases sent
    settles := fun opened setting => by
      rcases told.settles opened setting with (queued | left | read | ⟨msg, sent, -⟩) | last
      · exact Or.inl (Or.inl queued)
      · exact Or.inl (Or.inr (Or.inl left))
      · exact Or.inl (Or.inr (Or.inr (Or.inl read)))
      · rw [idle] at sent
        cases sent
      · exact Or.inr last }

theorem Told.locInit (told : σ.Told) (idle : σ.call = []) (qca1530 : Bool) :
    (σ.locInit qca1530).Told := by
  have called : ({ σ with call := (σ.locInit qca1530).call } : LocEngData).Told := by
    apply told.called idle
    · intro conf
      unfold LocEngData.locInit
      cases σ.adapter <;> simp
    · intro msg member setting
      have sent : msg = .LocEngInit ∨ msg = .config (.LocEngAdapterGpsLock 0) := by
        unfold LocEngData.locInit at member
        cases opened : σ.adapter with
        | true => exact Or.inr (by simpa [opened] using member)
        | false => simpa [opened] using member
      rcases sent with rfl | rfl
      · rfl
      · rfl
  exact
    { called with
      settles := fun _ setting => by
        cases opened : σ.adapter with
        | true => exact called.settles opened setting
        | false =>
            apply Or.inl
            refine Or.inr (Or.inr (Or.inr ⟨.LocEngInit, ?_, Or.inl rfl⟩))
            simp [LocEngData.locInit, opened] }

theorem Told.locCleanup (told : σ.Told) (idle : σ.call = []) : σ.locCleanup.Told := by
  apply told.called idle
  · simp
  · intro msg member setting
    simp only [List.mem_cons, reduceCtorEq, CallStep.sendMsg.injEq, List.not_mem_nil, or_false,
      false_or] at member
    rw [member]
    rfl

theorem Told.step {F : Type} {platform : Platform F} {qca1530 : Bool} {τ : LocEngData}
    (told : σ.Told) {label : Label} (passed : σ.passed label = true)
    (taken : σ.step platform qca1530 label = some τ) : τ.Told := by
  cases label with
  | locInit =>
      simp only [LocEngData.step, List.isEmpty_iff] at taken
      split at taken
      · rename_i idle
        cases taken
        exact told.locInit idle qca1530
      · cases taken
  | locCleanup =>
      simp only [LocEngData.step, Bool.and_eq_true, List.isEmpty_iff] at taken
      split at taken
      · rename_i idle
        cases taken
        exact told.locCleanup idle.1
      · cases taken
  | locConfigurationUpdate malloc config_data length =>
      simp only [LocEngData.step, List.isEmpty_iff] at taken
      split at taken
      · rename_i idle
        cases taken
        rcases locConfigurationUpdate_eq platform malloc config_data length σ with
          unchanged | ⟨stored, restored, same, lock, updated⟩
        · rw [unchanged]
          exact told
        · rw [updated]
          refine told.update idle ?_ same lock _
          intro setting value read
          rw [LocEngData.passed, read] at passed
          cases passed
      · cases taken
  | callStep =>
      simp only [LocEngData.step] at taken
      split at taken
      · rename_i next rest call
        cases taken
        exact told.callStep call
      · cases taken
  | handleEngineDownEvent =>
      simp only [LocEngData.step] at taken
      split at taken
      · cases taken
        exact told.sendMsg (fun setting value other => by cases other)
      · cases taken
  | handleEngineUpEvent =>
      simp only [LocEngData.step] at taken
      split at taken
      · cases taken
        exact { told with settles := fun _ setting => settles_of_reinits rfl setting }
      · cases taken
  | takeMsg =>
      simp only [LocEngData.step] at taken
      split at taken
      · rename_i queue
        cases taken
        exact told.proc queue
      · cases taken
  | msgStep =>
      simp only [LocEngData.step] at taken
      split at taken
      · rename_i read held
        cases taken
        exact told.pass held
      · rename_i next rest idle thread
        cases taken
        exact told.msgStep idle thread
      · cases taken

end LocEngData

/-- The lock that a statement gives to the modem, at once or with its message. -/
def CallStep.lock : CallStep → Option (BitVec 32)
  | .sendMsg msg => msg.lock
  | .setPowerVoteRight _ | .setPowerVote _ | .requestPowerVote | .restore _ => none

/-- Behind each bit of the power vote that is stored the vote is requested. -/
def CallStep.Requested : List CallStep → Prop
  | [] => True
  | next :: rest => (next.votes = true → .requestPowerVote ∈ rest) ∧ Requested rest

def MsgStep.lock : MsgStep → Option (BitVec 32)
  | .setGpsLock lock => some lock
  | .sends _ | .requestPowerVote => none

/-- What a statement makes of the power vote. -/
def CallStep.voted (mPowerVote : BitVec 32) : CallStep → BitVec 32
  | .setPowerVoteRight powerVoteRight =>
      Configuration.setPowerVoteRight powerVoteRight mPowerVote
  | .setPowerVote powerOn => Configuration.setPowerVote powerOn mPowerVote
  | .sendMsg _ | .requestPowerVote | .restore _ => mPowerVote

namespace LocEngData

variable {σ : LocEngData}

/-- The lock of the modem when the call has ended and all messages have been processed. -/
def lastLock (σ : LocEngData) : Option (BitVec 32) :=
  (σ.thread.filterMap MsgStep.lock ++
    (σ.queue.filterMap LocMsg.lock ++ σ.call.filterMap CallStep.lock)).getLast?.or σ.modem.lock

/-- The power vote when the call has ended. -/
def lastVote (σ : LocEngData) : BitVec 32 :=
  σ.call.foldl CallStep.voted σ.mPowerVote

/-- With a power vote the modem is not locked, without one it has the configured lock. -/
def Locked (σ : LocEngData) : Prop :=
  σ.adapter = true →
    σ.lastLock = some (if getPowerVote σ.lastVote then 0 else σ.gps_conf.GPS_LOCK)

theorem Locked.same {τ : LocEngData} (locked : σ.Locked) (opened : τ.adapter = σ.adapter)
    (lock : τ.lastLock = σ.lastLock) (vote : τ.lastVote = σ.lastVote)
    (configured : τ.gps_conf.GPS_LOCK = σ.gps_conf.GPS_LOCK) : τ.Locked := by
  unfold Locked
  rw [opened, lock, vote, configured]
  exact locked

theorem lastLock_sendMsg {msg : LocMsg} (silent : msg.lock = none) :
    (σ.sendMsg msg).lastLock = σ.lastLock := by
  unfold lastLock sendMsg
  dsimp only
  rw [List.filterMap_append, List.filterMap_cons_none silent, List.filterMap_nil, List.append_nil]

theorem Locked.sendMsg (locked : σ.Locked) {msg : LocMsg} (silent : msg.lock = none) :
    (σ.sendMsg msg).Locked :=
  locked.same rfl (lastLock_sendMsg silent) rfl rfl

theorem Locked.callStep (locked : σ.Locked) (told : σ.Told) {next : CallStep}
    {rest : List CallStep} (call : σ.call = next :: rest) :
    ({ σ with call := rest }.callStep next).Locked := by
  have vote : σ.lastVote = rest.foldl CallStep.voted (CallStep.voted σ.mPowerVote next) := by
    unfold lastVote
    rw [call, List.foldl_cons]
  have lock : next.lock = none → ({ σ with call := rest } : LocEngData).lastLock = σ.lastLock := by
    intro silent
    unfold lastLock
    rw [call, List.filterMap_cons_none silent]
  cases next with
  | sendMsg msg =>
      refine locked.same rfl ?_ vote.symm rfl
      have here : CallStep.lock (.sendMsg msg) = msg.lock := rfl
      show (σ.thread.filterMap MsgStep.lock ++ ((σ.queue ++ [msg]).filterMap LocMsg.lock ++
        rest.filterMap CallStep.lock)).getLast?.or σ.modem.lock = σ.lastLock
      unfold lastLock
      rw [call, List.filterMap_append, List.append_assoc (σ.queue.filterMap LocMsg.lock),
        List.filterMap_cons, List.filterMap_nil, List.filterMap_cons, here]
      cases msg.lock <;> rfl
  | setPowerVoteRight powerVoteRight | setPowerVote powerOn =>
      exact locked.same rfl (lock rfl) vote.symm rfl
  | requestPowerVote =>
      unfold LocEngData.callStep
      dsimp only
      split
      · exact locked.same rfl (lock rfl) vote.symm rfl
      · exact locked.same rfl (lock rfl) vote.symm rfl
  | restore gps_conf =>
      have configured := (told.restores gps_conf (by rw [call]; exact List.mem_cons_self)).2
      exact locked.same rfl (lock rfl) vote.symm configured

theorem Locked.msgStep (locked : σ.Locked) {next : MsgStep} {rest : List MsgStep}
    (thread : σ.thread = next :: rest) : ({ σ with thread := rest }.msgStep next).Locked := by
  have lock : next.lock = none →
      ({ σ with thread := rest } : LocEngData).lastLock = σ.lastLock := by
    intro silent
    unfold lastLock
    rw [thread, List.filterMap_cons_none silent]
  cases next with
  | sends setting => exact locked.same rfl (lock rfl) rfl rfl
  | requestPowerVote =>
      unfold LocEngData.msgStep
      dsimp only
      split
      · exact locked.same rfl (lock rfl) rfl rfl
      · exact locked.same rfl (lock rfl) rfl rfl
  | setGpsLock value =>
      refine locked.same rfl ?_ rfl rfl
      have here : MsgStep.lock (.setGpsLock value) = some value := rfl
      unfold lastLock
      rw [thread, List.filterMap_cons_some here, List.cons_append, getLast?_cons_or]
      rfl

theorem Locked.pass (locked : σ.Locked) (read : Read) :
    ({ σ with read := none }.pass read).Locked := by
  have dropped : ({ σ with read := none } : LocEngData).Locked := locked
  cases read with
  | msg setting value => exact dropped.sendMsg (lock_msg setting value)
  | vote lock => exact dropped

theorem Locked.proc (locked : σ.Locked) (idle : σ.thread = []) {msg : LocMsg}
    {rest : List LocMsg} (queue : σ.queue = msg :: rest) :
    ({ σ with queue := rest }.proc msg).Locked := by
  have lock : σ.lastLock = ((LocMsg.lock msg).toList ++ (rest.filterMap LocMsg.lock ++
      σ.call.filterMap CallStep.lock)).getLast?.or σ.modem.lock := by
    unfold lastLock
    rw [idle, queue, List.filterMap_nil, List.nil_append, List.filterMap_cons]
    cases LocMsg.lock msg <;> rfl
  cases msg with
  | LocEngInit | LocEngUp => exact locked.same rfl lock.symm rfl rfl
  | LocEngDown =>
      refine locked.same rfl ?_ rfl rfl
      rw [lock]
      unfold lastLock LocEngData.proc
      rw [idle]
      rfl
  | config msg =>
      refine locked.same rfl ?_ rfl rfl
      rw [lock]
      unfold lastLock LocEngData.proc
      dsimp only
      rw [idle, take_lock, List.filterMap_nil, List.nil_append]
      cases (LocMsg.config msg).lock with
      | none => rw [Option.toList_none, List.nil_append, Option.none_or]
      | some value => rw [Option.toList_some, List.singleton_append, getLast?_cons_or, Option.some_or]

theorem lastLock_called {call : List CallStep} {front : List (BitVec 32)} {lock : BitVec 32}
    (locks : call.filterMap CallStep.lock = front ++ [lock]) :
    ({ σ with call := call } : LocEngData).lastLock = some lock := by
  unfold lastLock
  dsimp only
  rw [locks, ← List.append_assoc, ← List.append_assoc, List.getLast?_concat]
  rfl

theorem locked_locInit (qca1530 : Bool) (σ : LocEngData) : (σ.locInit qca1530).Locked := by
  intro _
  have vote : (σ.locInit qca1530).lastVote =
      setPowerVote true (setPowerVoteRight qca1530 σ.mPowerVote) := by
    unfold LocEngData.locInit lastVote
    cases σ.adapter <;> rfl
  rw [vote, getPowerVote_setPowerVote, if_pos rfl]
  have locks : (σ.locInit qca1530).call.filterMap CallStep.lock =
      (if σ.adapter then [] else [1]) ++ [0] := by
    unfold LocEngData.locInit
    cases σ.adapter <;> rfl
  exact lastLock_called locks

theorem locked_locCleanup (σ : LocEngData) : σ.locCleanup.Locked := by
  intro _
  have vote : σ.locCleanup.lastVote = setPowerVote false σ.mPowerVote := rfl
  rw [vote, getPowerVote_setPowerVote, if_neg Bool.false_ne_true]
  exact lastLock_called (show _ = [] ++ [σ.gps_conf.GPS_LOCK] from rfl)

theorem foldl_voted_sent (msgs : List Cfg.LocMsg) (gps_conf : LocGpsCfg) (mPowerVote : BitVec 32) :
    (msgs.map (fun msg => CallStep.sendMsg (.config msg)) ++
      [CallStep.restore gps_conf]).foldl CallStep.voted mPowerVote = mPowerVote := by
  induction msgs with
  | nil => rfl
  | cons msg rest ih => exact ih

theorem locked_update (σ : LocEngData) (stored restored : LocGpsCfg) :
    ({ σ with
      gps_conf := stored
      call := (if σ.adapter then updateMsgs (getPowerVote σ.mPowerVote) σ.gps_conf stored
        else []).map (fun msg => .sendMsg (.config msg)) ++ [.restore restored] } :
      LocEngData).Locked := by
  intro opened
  have opened : σ.adapter = true := opened
  have vote : ∀ call, lastVote { σ with gps_conf := stored, call := call } =
    call.foldl CallStep.voted σ.mPowerVote := fun _ => rfl
  rw [vote, foldl_voted_sent, if_pos opened]
  have sent : ∀ msgs : List Cfg.LocMsg,
      (msgs.map (fun msg => CallStep.sendMsg (.config msg)) ++
        [CallStep.restore restored]).filterMap CallStep.lock = msgs.filterMap (fun msg => (LocMsg.config msg).lock) := by
    intro msgs
    rw [List.filterMap_append, List.filterMap_map, List.filterMap_cons_none rfl,
      List.filterMap_nil, List.append_nil]
    rfl
  have locks := (sent (updateMsgs (getPowerVote σ.mPowerVote) σ.gps_conf stored)).trans
    List.filterMap_append
  exact @lastLock_called { σ with gps_conf := stored } _ _ _ locks

theorem Locked.step {F : Type} {platform : Platform F} {qca1530 : Bool} {τ : LocEngData}
    (locked : σ.Locked) (told : σ.Told) {label : Label}
    (taken : σ.step platform qca1530 label = some τ) : τ.Locked := by
  cases label with
  | locInit =>
      simp only [LocEngData.step] at taken
      split at taken
      · cases taken
        exact locked_locInit qca1530 σ
      · cases taken
  | locCleanup =>
      simp only [LocEngData.step] at taken
      split at taken
      · cases taken
        exact locked_locCleanup σ
      · cases taken
  | locConfigurationUpdate malloc config_data length =>
      simp only [LocEngData.step] at taken
      split at taken
      · cases taken
        rcases locConfigurationUpdate_eq platform malloc config_data length σ with
          unchanged | ⟨stored, restored, -, -, updated⟩
        · rw [unchanged]
          exact locked
        · rw [updated]
          exact locked_update σ stored restored
      · cases taken
  | callStep =>
      simp only [LocEngData.step] at taken
      split at taken
      · rename_i next rest call
        cases taken
        exact locked.callStep told call
      · cases taken
  | handleEngineDownEvent =>
      simp only [LocEngData.step] at taken
      split at taken
      · cases taken
        exact locked.sendMsg rfl
      · cases taken
  | handleEngineUpEvent =>
      simp only [LocEngData.step] at taken
      split at taken
      · cases taken
        have restarted : ({ σ with modem := σ.modem.restarted } : LocEngData).Locked := locked
        exact restarted.sendMsg rfl
      · cases taken
  | takeMsg =>
      simp only [LocEngData.step] at taken
      split at taken
      · rename_i idle queue
        cases taken
        exact locked.proc idle queue
      · cases taken
  | msgStep =>
      simp only [LocEngData.step] at taken
      split at taken
      · rename_i read held
        cases taken
        exact locked.pass read
      · rename_i next rest idle thread
        cases taken
        exact locked.msgStep thread
      · cases taken

/-- The power vote that the modem has been given is that of the adapter, or is requested. -/
structure Voted (σ : LocEngData) : Prop where
  requests : CallStep.Requested σ.call
  read : ∀ lock, σ.read = some (.vote lock) → lock = powerVote σ.mPowerVote
  vote : getPowerVoteRight σ.mPowerVote = true →
    .LocEngUp ∈ σ.queue ∨ .requestPowerVote ∈ σ.thread ∨ (∃ lock, σ.read = some (.vote lock)) ∨
      .requestPowerVote ∈ σ.call ∨ σ.modem.vote = some (powerVote σ.mPowerVote)

theorem requested_sent (msgs : List Cfg.LocMsg) (gps_conf : LocGpsCfg) :
    CallStep.Requested (msgs.map (fun msg => CallStep.sendMsg (.config msg)) ++
      [.restore gps_conf]) := by
  induction msgs with
  | nil => exact ⟨Bool.noConfusion, trivial⟩
  | cons msg rest ih => exact ⟨Bool.noConfusion, ih⟩

theorem Voted.sendMsg (voted : σ.Voted) (msg : LocMsg) : (σ.sendMsg msg).Voted :=
  { voted with
    vote := fun right => (voted.vote right).imp_left (List.mem_append_left _) }

theorem Voted.called (voted : σ.Voted) (idle : σ.call = []) {call : List CallStep}
    (requests : CallStep.Requested call) : ({ σ with call := call } : LocEngData).Voted :=
  { voted with
    requests := requests
    vote := fun right => by
      rcases voted.vote right with queued | left | read | request | vote
      · exact Or.inl queued
      · exact Or.inr (Or.inl left)
      · exact Or.inr (Or.inr (Or.inl read))
      · rw [idle] at request
        cases request
      · exact Or.inr (Or.inr (Or.inr (Or.inr vote))) }

/-- A statement that is no request takes none away. -/
theorem Voted.shorter (voted : σ.Voted) {next : CallStep} {rest : List CallStep}
    (call : σ.call = next :: rest) (other : next ≠ .requestPowerVote) :
    ({ σ with call := rest } : LocEngData).Voted :=
  { voted with
    requests := (call ▸ voted.requests).2
    vote := fun right => by
      rcases voted.vote right with queued | left | read | request | vote
      · exact Or.inl queued
      · exact Or.inr (Or.inl left)
      · exact Or.inr (Or.inr (Or.inl read))
      · rw [call, List.mem_cons] at request
        exact Or.inr (Or.inr (Or.inr (Or.inl (request.resolve_left (Ne.symm other)))))
      · exact Or.inr (Or.inr (Or.inr (Or.inr vote))) }

/-- A bit of the power vote is stored while none has been read. -/
theorem Voted.stores (voted : σ.Voted) {next : CallStep} {rest : List CallStep}
    (call : σ.call = next :: rest) (votes : next.votes = true)
    (unread : ∀ lock, σ.read ≠ some (.vote lock)) (mPowerVote : BitVec 32) :
    ({ σ with call := rest, mPowerVote := mPowerVote } : LocEngData).Voted where
  requests := (call ▸ voted.requests).2
  read lock read := absurd read (unread lock)
  vote _ := Or.inr (Or.inr (Or.inr (Or.inl ((call ▸ voted.requests).1 votes))))

theorem Voted.callStep (voted : σ.Voted) {next : CallStep} {rest : List CallStep}
    (call : σ.call = next :: rest)
    (unread : next.votes = true → ∀ lock, σ.read ≠ some (.vote lock)) :
    ({ σ with call := rest }.callStep next).Voted := by
  cases next with
  | sendMsg msg => exact (voted.shorter call (by simp)).sendMsg msg
  | setPowerVoteRight powerVoteRight => exact voted.stores call rfl (unread rfl) _
  | setPowerVote powerOn => exact voted.stores call rfl (unread rfl) _
  | restore gps_conf => exact { voted.shorter call (by simp) with }
  | requestPowerVote =>
      have requests : CallStep.Requested rest := (call ▸ voted.requests).2
      unfold LocEngData.callStep
      dsimp only
      split
      · exact
          { requests := requests
            read := voted.read
            vote := fun _ => Or.inr (Or.inr (Or.inr (Or.inr rfl))) }
      · rename_i unentitled
        exact
          { requests := requests
            read := voted.read
            vote := fun right => absurd right unentitled }

theorem Voted.msgStep (voted : σ.Voted) (idle : σ.read = none) {next : MsgStep}
    {rest : List MsgStep} (thread : σ.thread = next :: rest) :
    ({ σ with thread := rest }.msgStep next).Voted := by
  -- any other statement leaves a request
  have vote : next ≠ .requestPowerVote → getPowerVoteRight σ.mPowerVote = true →
      .LocEngUp ∈ σ.queue ∨ .requestPowerVote ∈ rest ∨ .requestPowerVote ∈ σ.call ∨
        σ.modem.vote = some (powerVote σ.mPowerVote) := by
    intro other right
    rcases voted.vote right with queued | left | ⟨lock, read⟩ | later
    · exact Or.inl queued
    · rw [thread, List.mem_cons] at left
      exact Or.inr (Or.inl (left.resolve_left (Ne.symm other)))
    · rw [idle] at read
      cases read
    · exact Or.inr (Or.inr later)
  cases next with
  | sends setting =>
      exact
        { voted with
          read := fun lock read => by cases read
          vote := fun right => by
            rcases vote (by simp) right with queued | left | later
            · exact Or.inl queued
            · exact Or.inr (Or.inl left)
            · exact Or.inr (Or.inr (Or.inr later)) }
  | setGpsLock lock =>
      exact
        { voted with
          vote := fun right => by
            rcases vote (by simp) right with queued | left | later
            · exact Or.inl queued
            · exact Or.inr (Or.inl left)
            · exact Or.inr (Or.inr (Or.inr later)) }
  | requestPowerVote =>
      unfold LocEngData.msgStep
      dsimp only
      split
      · exact
          { voted with
            read := fun lock read => by
              cases read
              rfl
            vote := fun _ => Or.inr (Or.inr (Or.inl ⟨_, rfl⟩)) }
      · rename_i unentitled
        exact { voted with vote := fun right => absurd right unentitled }

theorem Voted.pass (voted : σ.Voted) {read : Read} (held : σ.read = some read) :
    ({ σ with read := none }.pass read).Voted := by
  cases read with
  | msg setting value =>
      have dropped : ({ σ with read := none } : LocEngData).Voted :=
        { voted with
          read := fun lock none => by cases none
          vote := fun right => by
            rcases voted.vote right with queued | left | ⟨lock, read⟩ | later
            · exact Or.inl queued
            · exact Or.inr (Or.inl left)
            · rw [held] at read
              cases read
            · exact Or.inr (Or.inr (Or.inr later)) }
      exact dropped.sendMsg _
  | vote lock =>
      exact
        { voted with
          read := fun lock none => by cases none
          vote := fun _ => Or.inr (Or.inr (Or.inr (Or.inr
            (congrArg some (voted.read lock held))))) }

theorem Voted.proc (voted : σ.Voted) (idle : σ.thread = []) {msg : LocMsg} {rest : List LocMsg}
    (queue : σ.queue = msg :: rest) : ({ σ with queue := rest }.proc msg).Voted := by
  have vote : msg ≠ .LocEngUp → getPowerVoteRight σ.mPowerVote = true →
      .LocEngUp ∈ rest ∨ (∃ lock, σ.read = some (.vote lock)) ∨ .requestPowerVote ∈ σ.call ∨
        σ.modem.vote = some (powerVote σ.mPowerVote) := by
    intro other right
    rcases voted.vote right with queued | left | later
    · rw [queue, List.mem_cons] at queued
      exact Or.inl (queued.resolve_left (Ne.symm other))
    · rw [idle] at left
      cases left
    · exact Or.inr later
  cases msg with
  | LocEngUp =>
      exact { voted with vote := fun _ => Or.inr (Or.inl (List.mem_append_right _ List.mem_cons_self)) }
  | LocEngInit =>
      exact { voted with vote := fun right => (vote (by simp) right).imp_right Or.inr }
  | LocEngDown =>
      exact { voted with vote := fun right => (vote (by simp) right).imp_right Or.inr }
  | config msg =>
      exact
        { voted with
          vote := fun right => by
            rcases vote (by simp) right with queued | read | request | vote
            · exact Or.inl queued
            · exact Or.inr (Or.inr (Or.inl read))
            · exact Or.inr (Or.inr (Or.inr (Or.inl request)))
            · exact Or.inr (Or.inr (Or.inr (Or.inr ((take_vote _ _ msg).trans vote)))) }

theorem Voted.step {F : Type} {platform : Platform F} {qca1530 : Bool} {τ : LocEngData}
    (voted : σ.Voted) {label : Label} (passed : σ.passed label = true)
    (taken : σ.step platform qca1530 label = some τ) : τ.Voted := by
  cases label with
  | locInit =>
      simp only [LocEngData.step, List.isEmpty_iff] at taken
      split at taken
      · rename_i idle
        cases taken
        have requests : CallStep.Requested (σ.locInit qca1530).call := by
          unfold LocEngData.locInit
          cases σ.adapter <;> simp [CallStep.Requested, CallStep.votes]
        exact { voted.called idle requests with }
      · cases taken
  | locCleanup =>
      simp only [LocEngData.step, Bool.and_eq_true, List.isEmpty_iff] at taken
      split at taken
      · rename_i idle
        cases taken
        exact voted.called idle.1 (by simp [CallStep.Requested, CallStep.votes])
      · cases taken
  | locConfigurationUpdate malloc config_data length =>
      simp only [LocEngData.step, List.isEmpty_iff] at taken
      split at taken
      · rename_i idle
        cases taken
        rcases locConfigurationUpdate_eq platform malloc config_data length σ with
          unchanged | ⟨stored, restored, -, -, updated⟩
        · rw [unchanged]
          exact voted
        · rw [updated]
          exact { voted.called idle (requested_sent _ restored) with }
      · cases taken
  | callStep =>
      simp only [LocEngData.step] at taken
      split at taken
      · rename_i next rest call
        cases taken
        refine voted.callStep call ?_
        intro votes lock read
        rw [LocEngData.passed, read, call, List.head?_cons, Option.any_some, votes] at passed
        cases passed
      · cases taken
  | handleEngineDownEvent =>
      simp only [LocEngData.step] at taken
      split at taken
      · cases taken
        exact voted.sendMsg _
      · cases taken
  | handleEngineUpEvent =>
      simp only [LocEngData.step] at taken
      split at taken
      · cases taken
        exact
          { voted with
            vote := fun _ => Or.inl (List.mem_append_right _ (List.mem_singleton_self _)) }
      · cases taken
  | takeMsg =>
      simp only [LocEngData.step] at taken
      split at taken
      · rename_i idle queue
        cases taken
        exact voted.proc idle queue
      · cases taken
  | msgStep =>
      simp only [LocEngData.step] at taken
      split at taken
      · rename_i read held
        cases taken
        exact voted.pass held
      · rename_i next rest idle thread
        cases taken
        exact voted.msgStep idle thread
      · cases taken

/-- No call is under way, no message is left, and none is being processed. -/
def Quiet (σ : LocEngData) : Prop :=
  σ.call = [] ∧ σ.queue = [] ∧ σ.thread = [] ∧ σ.read = none

instance (σ : LocEngData) : Decidable σ.Quiet :=
  decidable_of_iff (σ.call.isEmpty = true ∧ σ.queue = [] ∧ σ.thread = [] ∧ σ.read = none)
    (by rw [List.isEmpty_iff]; rfl)

/-- The modem has the configuration: it has been told of each field since it started, it is
locked as configured unless the power vote is up, and it has been given that vote. -/
structure Configured (σ : LocEngData) : Prop where
  settings : ∀ setting : Setting, σ.modem.settings setting = some (setting.value σ.gps_conf)
  lock : σ.modem.lock = some (if getPowerVote σ.mPowerVote then 0 else σ.gps_conf.GPS_LOCK)
  vote : getPowerVoteRight σ.mPowerVote = true → σ.modem.vote = some (powerVote σ.mPowerVote)

theorem configured_of_quiet (told : σ.Told) (locked : σ.Locked) (voted : σ.Voted)
    (opened : σ.adapter = true) (quiet : σ.Quiet) : σ.Configured := by
  obtain ⟨call, queue, thread, read⟩ := quiet
  constructor
  · intro setting
    rcases told.settles opened setting with (⟨msg, member, -⟩ | left | ⟨value, held⟩ | sent) | last
    · rw [queue] at member
      cases member
    · rw [thread] at left
      cases left
    · rw [read] at held
      cases held
    · obtain ⟨msg, member, -⟩ := sent
      rw [call] at member
      cases member
    · unfold LocEngData.last at last
      rw [queue, List.filterMap_nil, List.getLast?_nil, Option.none_or] at last
      exact last
  · have locked := locked opened
    unfold lastLock lastVote at locked
    rw [thread, queue, call] at locked
    exact locked
  · intro right
    rcases voted.vote right with queued | left | ⟨lock, held⟩ | request | vote
    · rw [queue] at queued
      cases queued
    · rw [thread] at left
      cases left
    · rw [read] at held
      cases held
    · rw [call] at request
      cases request
    · exact vote

end LocEngData

theorem new_told (gps_conf : LocGpsCfg) : (LocEngData.new gps_conf).Told where
  restores conf left := by cases left
  sends msg left := by cases left
  read setting value read := by cases read
  settles opened := by cases opened

theorem new_voted (gps_conf : LocGpsCfg) : (LocEngData.new gps_conf).Voted where
  requests := trivial
  read lock read := by cases read
  vote right := absurd right (show ¬ getPowerVoteRight 0 = true by decide)

section Runs

variable {F : Type} {platform : Platform F} {qca1530 : Bool} {σ : LocEngData}

theorem engine_sound
    (run : (engine platform qca1530).ReachableUnder (fun σ label => σ.passed label = true) σ) :
    σ.Told ∧ σ.Locked ∧ σ.Voted := by
  apply run.invariant (fun σ : LocEngData => σ.Told ∧ σ.Locked ∧ σ.Voted)
  · rintro σ ⟨gps_conf, rfl⟩
    exact ⟨new_told gps_conf, Bool.noConfusion, new_voted gps_conf⟩
  · intro before label after _ sound passed taken
    obtain ⟨told, locked, voted⟩ := sound
    exact ⟨told.step passed taken, locked.step told taken, voted.step passed taken⟩

/-- Whenever all is quiet the modem has the configuration, whatever calls there have been and
however often it has restarted, if nothing is overwritten that has been read and not passed
on. -/
theorem modem_configured
    (run : (engine platform qca1530).ReachableUnder (fun σ label => σ.passed label = true) σ)
    (opened : σ.adapter = true) (quiet : σ.Quiet) : σ.Configured := by
  obtain ⟨told, locked, voted⟩ := engine_sound run
  exact LocEngData.configured_of_quiet told locked voted opened quiet

end Runs

/-- The configuration of the two runs. -/
def configOne : LocGpsCfg :=
  LocGpsCfg.ofValue (fun _ => (.number 1 : Cfg.Value Unit))

/-- A new version of SUPL while `loc_eng_reinit` runs, and a restart before the messages
about it have been processed. -/
theorem modem_configured_restarted :
    ∃ σ, (engine Cfg.lp64 true).execUnder (fun σ label => σ.passed label = true) (.new configOne)
        ([.locInit] ++ List.replicate 5 .callStep ++ [.takeMsg, .msgStep, .msgStep] ++
          [.locConfigurationUpdate true (some "SUPL_VER=2\n".toList) 11] ++
          List.replicate 3 .callStep ++ [.handleEngineDownEvent, .handleEngineUpEvent] ++
          List.replicate 5 .msgStep ++ List.replicate 6 .takeMsg ++ List.replicate 8 .msgStep ++
          List.replicate 5 .takeMsg) = some σ ∧
      (σ.adapter = true ∧ σ.Quiet ∧ σ.gps_conf.SUPL_VER = 2) ∧ σ.Configured := by
  have first : (engine Cfg.lp64 true).initial (.new configOne) := ⟨configOne, rfl⟩
  exact System.execUnder_then first (fun σ run seen => modem_configured run seen.1 seen.2.1)
    (by decide +kernel)

/-- An update that comes between the reading of a field and the message about it leaves the
modem with the old value. -/
theorem modem_overtaken :
    ∃ σ, (engine Cfg.lp64 true).Reachable σ ∧ σ.adapter = true ∧ σ.Quiet ∧ ¬ σ.Configured := by
  have first : (engine Cfg.lp64 true).initial (.new configOne) := ⟨configOne, rfl⟩
  obtain ⟨σ, run, test⟩ := System.reachable_of_exec first
    ([.locInit] ++ List.replicate 5 .callStep ++ [.takeMsg, .msgStep] ++
      [.locConfigurationUpdate true (some "SUPL_VER=2\n".toList) 11] ++
      List.replicate 3 .callStep ++ List.replicate 6 .msgStep ++ List.replicate 6 .takeMsg)
    (fun σ => σ.adapter && decide σ.Quiet && decide (σ.gps_conf.SUPL_VER = 2) &&
      decide (σ.modem.settings .SUPL_VER = some 1)) (by decide +kernel)
  simp only [Bool.and_eq_true, decide_eq_true_eq] at test
  obtain ⟨⟨⟨opened, quiet⟩, configured⟩, told⟩ := test
  refine ⟨σ, run, opened, quiet, fun same => ?_⟩
  have value := told.symm.trans (same.settings .SUPL_VER)
  rw [Setting.value, configured] at value
  exact absurd value (by decide)

end A5Common.Engine.Configuration
