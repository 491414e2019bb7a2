import A5Common.Cfg.Param
import A5Common.Run.System

set_option autoImplicit false

namespace A5Common.Server

open A5Common.Cfg
open A5Common.Run

def MAX_URL_LEN : Nat := 256

/-- The size of the host buffers. -/
def HOST_BUF_SIZE : Nat := 101

/-- The text of a string in C, which its terminator is not a part of. -/
structure CString where
  text : List Char
  terminated : Char.ofNat 0 ∉ text
deriving DecidableEq

/-- `strlcpy` to a buffer of a size. -/
def CString.strlcpy (size : Nat) (source : CString) : CString where
  text := source.text.take (size - 1)
  terminated := fun inside => source.terminated (List.mem_of_mem_take inside)

/-- Whether `strncasecmp` finds no difference. The terminators are compared too. -/
def strncasecmp (n : Nat) (a b : List Char) : Bool :=
  ((a ++ [Char.ofNat 0]).take n).map tolower = ((b ++ [Char.ofNat 0]).take n).map tolower

inductive LocServerType where
  | cdmaPde
  | customPde
  | mpc
  | supl
deriving DecidableEq

/-- The two types of server that the engine keeps settings of. -/
def LocServerType.kept (type : LocServerType) : Prop :=
  type = .supl ∨ type = .cdmaPde

/-- The messages that `loc_eng_set_server` sends to the adapter. -/
inductive LocMsg where
  | setServerUrl (url : List Char) (len : Nat)
  | setServerIpv4 (ip : BitVec 32) (port : BitVec 32) (type : LocServerType)
deriving DecidableEq

def LocMsg.type : LocMsg → LocServerType
  | .setServerUrl _ _ => .supl
  | .setServerIpv4 _ _ type => type

/-- What the server settings of the engine are kept in. The list is a record of the
messages sent to the adapter. -/
structure LocEngData where
  adapter : Bool
  agps_status_cb : Bool
  supl_host_set : Bool
  supl_host_buf : CString
  supl_port_buf : BitVec 32
  c2k_host_set : Bool
  c2k_host_buf : CString
  c2k_port_buf : BitVec 32
  sent : List LocMsg
deriving DecidableEq

/-- The text that `loc_eng_set_server` makes of a SUPL server, and its length. -/
def suplUrl (hostname : CString) (port : BitVec 32) : List Char × Nat :=
  if strncasecmp 5 "NONE".toList hostname.text then ([], 0)
  else
    let url := hostname.text ++ ':' :: Nat.toDigits 10 port.toNat
    (url, url.length)

namespace LocEngData

/-- An engine that nothing has been set of. -/
def blank (sent : List LocMsg) : LocEngData where
  adapter := false
  agps_status_cb := false
  supl_host_set := false
  supl_host_buf := ⟨[], List.not_mem_nil⟩
  supl_port_buf := 0
  c2k_host_set := false
  c2k_host_buf := ⟨[], List.not_mem_nil⟩
  c2k_port_buf := 0
  sent := sent

section

variable (resolve_in_addr : List Char → Option (BitVec 32))

/-- The message that `loc_eng_set_server` sends, if any. -/
def setServerMsg (type : LocServerType) (hostname : CString) (port : BitVec 32) : Option LocMsg :=
  match type with
  | .supl =>
      let (url, len) := suplUrl hostname port
      if MAX_URL_LEN > len then some (.setServerUrl url len) else none
  | .cdmaPde | .customPde | .mpc =>
      (resolve_in_addr hostname.text).map (fun ip => .setServerIpv4 ip port type)

def setServer (type : LocServerType) (hostname : CString) (port : BitVec 32)
    (σ : LocEngData) : LocEngData :=
  { σ with sent := σ.sent ++ (setServerMsg resolve_in_addr type hostname port).toList }

/-- `loc_eng_set_server_proxy` -/
def setServerProxy (type : LocServerType) (hostname : CString) (port : BitVec 32)
    (σ : LocEngData) : LocEngData :=
  let σ :=
    match type with
    | .supl =>
        { σ with
          supl_host_buf := hostname.strlcpy HOST_BUF_SIZE
          supl_port_buf := port
          supl_host_set := true }
    | .cdmaPde =>
        { σ with
          c2k_host_buf := hostname.strlcpy HOST_BUF_SIZE
          c2k_port_buf := port
          c2k_host_set := true }
    | .customPde | .mpc => σ
  if σ.adapter then σ.setServer resolve_in_addr type hostname port else σ

def agpsReinit (σ : LocEngData) : LocEngData :=
  let σ :=
    if σ.supl_host_set then σ.setServer resolve_in_addr .supl σ.supl_host_buf σ.supl_port_buf
    else σ
  if σ.c2k_host_set then σ.setServer resolve_in_addr .cdmaPde σ.c2k_host_buf σ.c2k_port_buf
  else σ

/-- `loc_eng_init`, with callbacks or without, and with events to register for or without. -/
def init (callbacks : Bool) (event : Bool) (σ : LocEngData) : LocEngData :=
  if !callbacks || !event then σ
  else if σ.adapter then σ
  -- the memset, then the new adapter
  else { blank σ.sent with adapter := true }

/-- `loc_eng_agps_init` -/
def agpsInit (callbacks : Bool) (σ : LocEngData) : LocEngData :=
  if !σ.adapter then σ
  else if σ.agps_status_cb then σ
  else if !callbacks then σ
  else agpsReinit resolve_in_addr { σ with agps_status_cb := true }

/-- What `loc_eng_handle_engine_up` does with the server settings. -/
def handleEngineUp (σ : LocEngData) : LocEngData :=
  if σ.agps_status_cb then σ.agpsReinit resolve_in_addr else σ

end

/-- The setting that is buffered for a type. -/
def buffered (type : LocServerType) (σ : LocEngData) : Option (CString × BitVec 32) :=
  match type with
  | .supl => if σ.supl_host_set then some (σ.supl_host_buf, σ.supl_port_buf) else none
  | .cdmaPde => if σ.c2k_host_set then some (σ.c2k_host_buf, σ.c2k_port_buf) else none
  | .customPde | .mpc => none

/-- The messages sent for a type. -/
def sentFor (type : LocServerType) (σ : LocEngData) : List LocMsg :=
  σ.sent.filter (fun msg => msg.type = type)

variable (resolve_in_addr : List Char → Option (BitVec 32))

theorem length_port (port : BitVec 32) : (Nat.toDigits 10 port.toNat).length ≤ 10 := by
  rw [Nat.length_toDigits_le_iff (by decide) (by decide)]
  have small := port.isLt
  omega

/-- The URL of a host that fits its buffer fits too. -/
theorem suplUrl_fits {hostname : CString} (fits : hostname.text.length < HOST_BUF_SIZE)
    (port : BitVec 32) : (suplUrl hostname port).2 < MAX_URL_LEN := by
  have digits := length_port port
  unfold suplUrl
  unfold HOST_BUF_SIZE at fits
  unfold MAX_URL_LEN
  split
  · decide
  · simp only [List.length_append, List.length_cons]
    omega

theorem setServerMsg_supl_iff {hostname : CString} {port : BitVec 32} {url : List Char}
    {len : Nat} :
    setServerMsg resolve_in_addr .supl hostname port = some (.setServerUrl url len) ↔
      suplUrl hostname port = (url, len) ∧ len < MAX_URL_LEN := by
  unfold setServerMsg
  cases made : suplUrl hostname port with
  | mk text size =>
      dsimp only
      constructor
      · intro sends
        split at sends
        · rename_i fits
          cases sends
          exact ⟨rfl, fits⟩
        · cases sends
      · rintro ⟨same, fits⟩
        cases same
        exact if_pos fits

theorem setServerMsg_type {type : LocServerType} {hostname : CString} {port : BitVec 32}
    {msg : LocMsg} (sends : setServerMsg resolve_in_addr type hostname port = some msg) :
    msg.type = type := by
  unfold setServerMsg at sends
  cases type with
  | supl =>
      dsimp only at sends
      split at sends
      · cases sends
        rfl
      · cases sends
  | cdmaPde | customPde | mpc =>
      obtain ⟨ip, _, rfl⟩ := Option.map_eq_some_iff.mp sends
      rfl

/-- A message is the last one sent for its type, and none for another type. -/
theorem sentFor_append (type : LocServerType) {other : LocServerType} (σ : LocEngData) {sends : Option LocMsg}
    (of_other : ∀ msg, sends = some msg → msg.type = other) :
    { σ with sent := σ.sent ++ sends.toList }.sentFor type =
      σ.sentFor type ++ (if other = type then sends else none).toList := by
  unfold sentFor
  rw [List.filter_append]
  congr 1
  cases sends with
  | none => split <;> rfl
  | some msg =>
      obtain rfl := of_other msg rfl
      by_cases same : msg.type = type
      · rw [if_pos same]
        exact List.filter_eq_self.mpr (fun _ member => by
          rw [List.mem_singleton.mp member]
          exact decide_eq_true same)
      · rw [if_neg same]
        exact List.filter_eq_nil_iff.mpr (fun _ member => by
          rw [List.mem_singleton.mp member]
          exact fun of_type => same (of_decide_eq_true of_type))

/-- The message that the buffered setting of a type makes. -/
def replayMsg (type : LocServerType) (σ : LocEngData) : Option LocMsg :=
  (σ.buffered type).bind (fun setting => setServerMsg resolve_in_addr type setting.1 setting.2)

theorem replayMsg_some {type : LocServerType} {σ : LocEngData} {hostname : CString}
    {port : BitVec 32} (buffered : σ.buffered type = some (hostname, port)) :
    σ.replayMsg resolve_in_addr type = setServerMsg resolve_in_addr type hostname port := by
  unfold replayMsg
  rw [buffered]
  rfl

theorem replayMsg_none {type : LocServerType} {σ : LocEngData}
    (empty : σ.buffered type = none) : σ.replayMsg resolve_in_addr type = none := by
  unfold replayMsg
  rw [empty]
  rfl

/-- The buffered setting of a type is sent again, if there is one. -/
def resend (type : LocServerType) (σ : LocEngData) : LocEngData :=
  { σ with sent := σ.sent ++ (σ.replayMsg resolve_in_addr type).toList }

theorem agpsReinit_resend (σ : LocEngData) :
    σ.agpsReinit resolve_in_addr =
      (σ.resend resolve_in_addr .supl).resend resolve_in_addr .cdmaPde := by
  obtain ⟨adapter, agps_status_cb, supl_host_set, supl_host_buf, supl_port_buf, c2k_host_set,
    c2k_host_buf, c2k_port_buf, sent⟩ := σ
  cases supl_host_set <;> cases c2k_host_set <;>
    simp [agpsReinit, resend, replayMsg, setServer, buffered]

theorem replayMsg_type {type : LocServerType} (σ : LocEngData) (msg : LocMsg)
    (sends : σ.replayMsg resolve_in_addr type = some msg) : msg.type = type := by
  obtain ⟨setting, _, made⟩ := Option.bind_eq_some_iff.mp sends
  exact setServerMsg_type resolve_in_addr made

theorem agpsReinit_eq (σ : LocEngData) :
    ∃ sent, σ.agpsReinit resolve_in_addr = { σ with sent := sent } := by
  rw [agpsReinit_resend]
  exact ⟨_, rfl⟩

theorem agpsReinit_sentFor {type : LocServerType} (kept : type.kept) (σ : LocEngData) :
    (σ.agpsReinit resolve_in_addr).sentFor type =
      σ.sentFor type ++ (σ.replayMsg resolve_in_addr type).toList := by
  rw [agpsReinit_resend]
  unfold resend
  rw [sentFor_append _ _ (replayMsg_type resolve_in_addr _),
    sentFor_append _ _ (replayMsg_type resolve_in_addr _)]
  rcases kept with rfl | rfl
  · rw [if_pos rfl, if_neg (by decide)]
    exact List.append_nil _
  · rw [if_neg (by decide), if_pos rfl]
    exact congrArg (· ++ _) (List.append_nil _)

theorem setServerProxy_eq (type : LocServerType) (hostname : CString) (port : BitVec 32)
    (σ : LocEngData) :
    (σ.setServerProxy resolve_in_addr type hostname port).adapter = σ.adapter ∧
      (σ.setServerProxy resolve_in_addr type hostname port).agps_status_cb = σ.agps_status_cb := by
  unfold setServerProxy setServer
  cases type <;> cases opened : σ.adapter <;> simp [opened]

theorem setServerProxy_buffered {type : LocServerType} (kept : type.kept)
    (other : LocServerType) (hostname : CString) (port : BitVec 32) (σ : LocEngData) :
    (σ.setServerProxy resolve_in_addr other hostname port).buffered type =
      if other = type then some (hostname.strlcpy HOST_BUF_SIZE, port) else σ.buffered type := by
  unfold setServerProxy setServer buffered
  rcases kept with rfl | rfl <;> cases other <;> cases opened : σ.adapter <;> simp [opened]

theorem setServerProxy_sentFor (type other : LocServerType) (hostname : CString)
    (port : BitVec 32) (σ : LocEngData) :
    (σ.setServerProxy resolve_in_addr other hostname port).sentFor type =
      σ.sentFor type ++
        (if other = type ∧ σ.adapter = true then
          setServerMsg resolve_in_addr other hostname port else none).toList := by
  have typed := fun msg => @setServerMsg_type resolve_in_addr other hostname port msg
  cases opened : σ.adapter with
  | false =>
      have silent : (σ.setServerProxy resolve_in_addr other hostname port).sent = σ.sent := by
        unfold setServerProxy
        cases other <;> simp [opened]
      unfold sentFor
      rw [silent, if_neg (fun both => Bool.false_ne_true both.2)]
      exact (List.append_nil _).symm
  | true =>
      have sends : (σ.setServerProxy resolve_in_addr other hostname port).sent =
          σ.sent ++ (setServerMsg resolve_in_addr other hostname port).toList := by
        unfold setServerProxy setServer
        cases other <;> simp [opened]
      have appended := sentFor_append type σ typed
      unfold sentFor at appended ⊢
      rw [sends, appended]
      simp only [and_true]

end LocEngData

inductive Label where
  | setServerProxy (type : LocServerType) (hostname : CString) (port : BitVec 32)
  | init (callbacks : Bool) (event : Bool)
  | agpsInit (callbacks : Bool)
  | handleEngineUp
deriving DecidableEq

/-- The calls that the server settings go through, in any order. -/
def servers (resolve_in_addr : List Char → Option (BitVec 32)) : System LocEngData Label where
  initial σ := σ = .blank []
  step σ
    | .setServerProxy type hostname port =>
        some (σ.setServerProxy resolve_in_addr type hostname port)
    | .init callbacks event => some (σ.init callbacks event)
    | .agpsInit callbacks => some (σ.agpsInit resolve_in_addr callbacks)
    | .handleEngineUp => if σ.adapter then some (σ.handleEngineUp resolve_in_addr) else none

end A5Common.Server
