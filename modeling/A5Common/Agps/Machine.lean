import A5Common.Agps.Subscriber

set_option autoImplicit false

namespace A5Common.Agps

/-- The two AGpsStatusValue actions a machine asks its servicer for. -/
inductive AGpsStatusValue where
  | requestAgpsDataConn | releaseAgpsDataConn
  deriving DecidableEq, Repr

/-- AGPS_TYPE_SUPL. -/
def AGPS_TYPE_SUPL : Int := 1

def AGPS_TYPE_INVALID : Int := -1

def AGPS_APN_BEARER_INVALID : Int := -1

/-- LOC_ENG_IF_REQUEST_SENDER_ID_GPSONE_DAEMON. -/
def SENDER_ID_GPSONE_DAEMON : BitVec 32 := 3#32

inductive DataConnStatus where
  | requestSuccess | releaseSuccess | failure
  deriving DecidableEq, Repr

/-- The request built by sendRsrcRequest. `none` marks what is left unset: the
IPv4 address when there is a subscriber, the address family when there is none. -/
structure AGpsExtStatus where
  type : Int
  status : AGpsStatusValue
  ipv4_addr : Option (BitVec 32)
  family : Option Nat
  ssid : CString
  password : CString
  deriving DecidableEq, Repr

/-- Everything a machine does to the outside: the servicer, the adapter, the
daemon connection and the retry timer. `notified` records that a subscriber
took a notification as its own; it stands before what the subscriber reports. -/
inductive Action where
  | notified (s : Subscriber) (status : AgpsRsrcStatus)
  | requestRsrc (nifRequest : AGpsExtStatus)
  | dataCall (action : AGpsStatusValue) (ret : Int)
  | startTimer (handle : Bool)
  | serverDataConn (senderId : BitVec 32) (status : DataConnStatus)
  | atlOpenStatus (handle : BitVec 32) (is_succ : Bool) (apn : Option CString)
      (bearer agpsType : Int)
  | atlCloseStatus (handle : BitVec 32) (is_succ : Bool)
  | closeDataCall
  | requestATL (connHandle : BitVec 32) (agpsType : Int)
  deriving DecidableEq, Repr

inductive AgpsState where
  | released | pending | acquired | releasing
  deriving DecidableEq, Repr

/-- The object of both machine classes; mRetries is a DSStateMachine's. `out`
is what the machine has done to the outside, oldest first. -/
structure AgpsStateMachine where
  mSubscribers : List Subscriber
  mStatePtr : AgpsState
  mType : Int
  mAPN : Option CString
  mBearer : Int
  mEnforceSingleSubscriber : Bool
  mRetries : BitVec 8
  out : List Action
  deriving DecidableEq, Repr

namespace AgpsStateMachine

/-- The constructor of both classes. -/
def new (mType : Int) (enforceSingleSubscriber : Bool) : AgpsStateMachine where
  mSubscribers := []
  mStatePtr := .released
  mType := mType
  mAPN := none
  mBearer := AGPS_APN_BEARER_INVALID
  mEnforceSingleSubscriber := enforceSingleSubscriber
  mRetries := 0
  out := []

def setAPN (apn : Option CString) (m : AgpsStateMachine) : AgpsStateMachine :=
  { m with mAPN := apn }

def setBearer (bearer : Int) (m : AgpsStateMachine) : AgpsStateMachine :=
  { m with mBearer := bearer }

/-- linked_list_flush; no state hears of it. -/
def dropAllSubscribers (m : AgpsStateMachine) : AgpsStateMachine := { m with mSubscribers := [] }

/-- The machine before a call whose actions are looked at on their own. -/
abbrev cleared (m : AgpsStateMachine) : AgpsStateMachine := { m with out := [] }

def emit (m : AgpsStateMachine) (action : Action) : AgpsStateMachine :=
  { m with out := m.out ++ [action] }

def hasSubscribers (m : AgpsStateMachine) : Bool := !m.mSubscribers.isEmpty

def hasActiveSubscribers (m : AgpsStateMachine) : Bool :=
  (m.mSubscribers.find? (·.forMe (.searchGroup .active))).isSome

/-- DSStateMachine::informStatus. -/
def informStatus (m : AgpsStateMachine) (status : AgpsRsrcStatus) (ID : BitVec 32) :
    AgpsStateMachine :=
  match status with
  | .unsubscribe => m.emit (.atlCloseStatus ID true)
  | .released => m.emit .closeDataCall
  | .denied => { m with mRetries := 0 }.emit (.requestATL ID AGPS_TYPE_SUPL)
  | .granted => m.emit (.atlOpenStatus ID true none AGPS_APN_BEARER_INVALID AGPS_TYPE_INVALID)
  | .subscribe | .statusMax => m

/-- The type an ATLSubscriber reports with its open status. -/
def openType (m : AgpsStateMachine) (mBackwardCompatibleMode : Bool) : Int :=
  if mBackwardCompatibleMode then AGPS_TYPE_INVALID else m.mType

/-- The switch of notifyRsrcStatus, for a known status that is for `s`. -/
def inform (m : AgpsStateMachine) (s : Subscriber) (status : AgpsRsrcStatus) : AgpsStateMachine :=
  let m := m.emit (.notified s status)
  match s, status with
  | .bit .., .unsubscribe | .bit .., .released =>
      m.emit (.serverDataConn SENDER_ID_GPSONE_DAEMON .releaseSuccess)
  | .bit .., .denied => m.emit (.serverDataConn SENDER_ID_GPSONE_DAEMON .failure)
  | .bit .., .granted => m.emit (.serverDataConn SENDER_ID_GPSONE_DAEMON .requestSuccess)
  | .atl ID _ _, .unsubscribe | .atl ID _ _, .released => m.emit (.atlCloseStatus ID true)
  | .atl ID compatible _, .denied =>
      m.emit (.atlOpenStatus ID false m.mAPN m.mBearer (m.openType compatible))
  | .atl ID compatible _, .granted =>
      m.emit (.atlOpenStatus ID true m.mAPN m.mBearer (m.openType compatible))
  | .wifi .., .unsubscribe => m
  | .wifi senderId _ _ _ _, .released => m.emit (.serverDataConn senderId .releaseSuccess)
  | .wifi senderId _ _ _ _, .denied => m.emit (.serverDataConn senderId .failure)
  | .wifi senderId _ _ _ _, .granted => m.emit (.serverDataConn senderId .requestSuccess)
  | .ds ID _ _, status => m.informStatus status ID
  | _, .subscribe | _, .statusMax => m

/-- notifyRsrcStatus: the result tells whether the notification was for `s`. -/
def notifyRsrcStatus (m : AgpsStateMachine) (s : Subscriber) (notification : Notification) :
    Bool × AgpsStateMachine :=
  if s.forMe notification && notification.rsrcStatus.known then
    (true, m.inform s notification.rsrcStatus)
  else (false, m)

/-- The comparison callback notifySubscriber, with its effect on the machine. -/
def notifySubscriber (m : AgpsStateMachine) (s : Subscriber) (notification : Notification) :
    Bool × AgpsStateMachine :=
  let notified := m.notifyRsrcStatus s notification
  (notified.1 && notification.postNotifyDelete, notified.2)

/-- linked_list_search with notifySubscriber: the callback runs on every entry
up to the first for which it returns true, whose position is the result. -/
def searchNotify (notification : Notification) :
    List Subscriber → AgpsStateMachine → Option Nat × AgpsStateMachine
  | [], m => (none, m)
  | s :: rest, m =>
      let called := m.notifySubscriber s notification
      if called.1 then (some 0, called.2)
      else
        let searched := searchNotify notification rest called.2
        (searched.1.map (· + 1), searched.2)

/-- The while loop of notifySubscribers: search with removal until a search
finds nothing. The fuel bounds the number of searches. -/
def notifyDeleteLoop (notification : Notification) : Nat → AgpsStateMachine → AgpsStateMachine
  | 0, m => m
  | fuel + 1, m =>
      match searchNotify notification m.mSubscribers m with
      | (none, m) => m
      | (some position, m) =>
          notifyDeleteLoop notification fuel
            { m with mSubscribers := m.mSubscribers.eraseIdx position }

/-- Every search but the last removes an entry, so one search more than there
are entries is enough. -/
def notifySubscribers (m : AgpsStateMachine) (notification : Notification) : AgpsStateMachine :=
  if notification.postNotifyDelete then
    notifyDeleteLoop notification (m.mSubscribers.length + 1) m
  else (searchNotify notification m.mSubscribers m).2

/-- linked_list_add puts the clone at the head. -/
def addSubscriber (m : AgpsStateMachine) (subscriber : Subscriber) : AgpsStateMachine :=
  match m.mSubscribers.find? (·.forMe (.searchFor subscriber)) with
  | none => { m with mSubscribers := subscriber.clone :: m.mSubscribers }
  | some _ => m

/-- setInactive on the entry at a position. -/
def setInactive (m : AgpsStateMachine) (position : Nat) : AgpsStateMachine :=
  let marked := { m with mSubscribers := m.mSubscribers.modify position Subscriber.markInactive }
  match m.mSubscribers[position]? with
  | some (.ds ID _ _) => marked.informStatus .unsubscribe ID
  | _ => marked

/-- The nifRequest of AgpsStateMachine::sendRsrcRequest; 10 is AF_INET6. -/
def nifRequest (m : AgpsStateMachine) (action : AGpsStatusValue) (s : Option Subscriber) :
    AGpsExtStatus :=
  match s with
  | none => ⟨m.mType, action, some INADDR_NONE, some 0, [], []⟩
  | some s => ⟨m.mType, action, none, some 10, s.setWifiInfo.1, s.setWifiInfo.2⟩

/-- AgpsStateMachine::sendRsrcRequest. It always returns 0. -/
def sendRsrcRequest (action : AGpsStatusValue) (m : AgpsStateMachine) : AgpsStateMachine × Int :=
  let s := m.mSubscribers.find? (·.forMe (.searchGroup .active))
  if s.isNone == (action == .releaseAgpsDataConn) then
    (m.emit (.requestRsrc (m.nifRequest action s)), 0)
  else (m, 0)

end AgpsStateMachine

/-- The virtual method a state calls through its machine. -/
abbrev SendRsrcRequest := AGpsStatusValue → AgpsStateMachine → AgpsStateMachine × Int

/-- The events of the states, with their data: the subscriber of a subscribe is
the caller's own object, that of an unsubscribe is the list entry at a position. -/
inductive RsrcEvent where
  | subscribe (subscriber : Subscriber)
  | unsubscribe (position : Nat)
  | granted | released | denied

section States

variable (send : SendRsrcRequest)

/-- AgpsReleasedState::onRsrcEvent. The result has the next state. -/
def releasedOnRsrcEvent (event : RsrcEvent) (m : AgpsStateMachine) :
    AgpsStateMachine × AgpsState :=
  match event with
  | .subscribe subscriber =>
      -- only a request that returns 0 moves the machine
      let sent := send .requestAgpsDataConn (m.addSubscriber subscriber)
      if sent.2 = 0 then (sent.1, .pending) else (sent.1, .released)
  | .unsubscribe position =>
      match m.mSubscribers[position]? with
      | some subscriber =>
          ((m.notifyRsrcStatus subscriber (.unicast subscriber .unsubscribe false)).2, .released)
      | none => (m, .released)
  | .granted | .released | .denied => (m, .released)

/-- The RSRC_UNSUBSCRIBE cases of the other three states start alike. -/
def unsubscribeEntry (position : Nat) (m : AgpsStateMachine) : AgpsStateMachine :=
  match m.mSubscribers[position]? with
  | some subscriber =>
      if subscriber.waitForCloseComplete then m.setInactive position
      else m.notifySubscribers (.unicast subscriber .unsubscribe true)
  | none => m

/-- What the pending and the acquired state then do, `stay` being the state. -/
def releaseIfUnused (stay : AgpsState) (m : AgpsStateMachine) : AgpsStateMachine × AgpsState :=
  if !m.hasSubscribers then ((send .releaseAgpsDataConn m).1, .released)
  else if !m.hasActiveSubscribers then ((send .releaseAgpsDataConn m).1, .releasing)
  else (m, stay)

/-- AgpsPendingState::onRsrcEvent. -/
def pendingOnRsrcEvent (event : RsrcEvent) (m : AgpsStateMachine) : AgpsStateMachine × AgpsState :=
  match event with
  | .subscribe subscriber => (m.addSubscriber subscriber, .pending)
  | .unsubscribe position => releaseIfUnused send .pending (unsubscribeEntry position m)
  | .granted => (m.notifySubscribers (.broadcast .active .granted false), .acquired)
  | .released => (m, .pending)
  | .denied => (m.notifySubscribers (.broadcast .all .denied true), .released)

/-- AgpsAcquiredState::onRsrcEvent. -/
def acquiredOnRsrcEvent (event : RsrcEvent) (m : AgpsStateMachine) :
    AgpsStateMachine × AgpsState :=
  match event with
  | .subscribe subscriber =>
      ((m.notifyRsrcStatus subscriber
          (.unicast subscriber .granted false)).2.addSubscriber subscriber,
        .acquired)
  | .unsubscribe position => releaseIfUnused send .acquired (unsubscribeEntry position m)
  | .granted => (m, .acquired)
  | .released => (m.notifySubscribers (.broadcast .all .released true), .released)
  | .denied => (m, .acquired)

/-- The common case of RSRC_DENIED and RSRC_RELEASED in the releasing state. The
result of the new request is not looked at. -/
def releasingFinish (status : AgpsRsrcStatus) (m : AgpsStateMachine) :
    AgpsStateMachine × AgpsState :=
  let m := m.notifySubscribers (.broadcast .inactive status true)
  if m.hasActiveSubscribers then ((send .requestAgpsDataConn m).1, .pending)
  else (m, .released)

/-- AgpsReleasingState::onRsrcEvent. -/
def releasingOnRsrcEvent (event : RsrcEvent) (m : AgpsStateMachine) :
    AgpsStateMachine × AgpsState :=
  match event with
  | .subscribe subscriber => (m.addSubscriber subscriber, .releasing)
  | .unsubscribe position =>
      let m := unsubscribeEntry position m
      if !m.hasSubscribers then (m, .released) else (m, .releasing)
  | .denied => releasingFinish send .denied m
  | .released => releasingFinish send .released m
  | .granted => (m, .releasing)

end States

namespace AgpsStateMachine

variable (send : SendRsrcRequest)

/-- `mStatePtr = mStatePtr->onRsrcEvent(event, data)`. -/
def onStateEvent (event : RsrcEvent) (m : AgpsStateMachine) : AgpsStateMachine :=
  let handled :=
    match m.mStatePtr with
    | .released => releasedOnRsrcEvent send event m
    | .pending => pendingOnRsrcEvent send event m
    | .acquired => acquiredOnRsrcEvent send event m
    | .releasing => releasingOnRsrcEvent send event m
  { handled.1 with mStatePtr := handled.2 }

def subscribeRsrc (subscriber : Subscriber) (m : AgpsStateMachine) : AgpsStateMachine :=
  if m.mEnforceSingleSubscriber && m.hasSubscribers then
    (m.notifySubscriber subscriber (.broadcast .all .denied true)).2
  else m.onStateEvent send (.subscribe subscriber)

/-- The result tells whether the subscriber was listed. -/
def unsubscribeRsrc (subscriber : Subscriber) (m : AgpsStateMachine) : Bool × AgpsStateMachine :=
  match m.mSubscribers.findIdx? (·.forMe (.searchFor subscriber)) with
  | some position => (true, m.onStateEvent send (.unsubscribe position))
  | none => (false, m)

end AgpsStateMachine

/-- The events that reach a machine from its servicer. -/
inductive ServicerEvent where
  | granted | released | denied
  deriving DecidableEq, Repr

def ServicerEvent.toRsrcEvent : ServicerEvent → RsrcEvent
  | .granted => .granted
  | .released => .released
  | .denied => .denied

/-- AgpsStateMachine::onRsrcEvent. -/
def AgpsStateMachine.onRsrcEvent (event : ServicerEvent) (m : AgpsStateMachine) :
    AgpsStateMachine :=
  m.onStateEvent sendRsrcRequest event.toRsrcEvent

/-- The calls on a base machine. -/
inductive Operation where
  | subscribeRsrc (subscriber : Subscriber)
  | unsubscribeRsrc (subscriber : Subscriber)
  | onRsrcEvent (event : ServicerEvent)
  | setAPN (apn : Option CString)
  | setBearer (bearer : Int)

/-- DS subscribers are made for a DSStateMachine only. -/
def Operation.onBase : Operation → Bool
  | .subscribeRsrc subscriber | .unsubscribeRsrc subscriber => subscriber.kind != .ds
  | .onRsrcEvent _ | .setAPN _ | .setBearer _ => true

/-- One call on a base machine; `out` is left with what this call has done. -/
def AgpsStateMachine.perform (m : AgpsStateMachine) (operation : Operation) : AgpsStateMachine :=
  let m := m.cleared
  match operation with
  | .subscribeRsrc subscriber => m.subscribeRsrc sendRsrcRequest subscriber
  | .unsubscribeRsrc subscriber => (m.unsubscribeRsrc sendRsrcRequest subscriber).2
  | .onRsrcEvent event => m.onRsrcEvent event
  | .setAPN apn => m.setAPN apn
  | .setBearer bearer => m.setBearer bearer

end A5Common.Agps
