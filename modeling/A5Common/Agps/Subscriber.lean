set_option autoImplicit false

namespace A5Common.Agps

/-- A NUL-terminated C string, without its terminator. -/
abbrev CString := List (BitVec 8)

/-- The mIPv6Addr array of a BITSubscriber. -/
abbrev IPv6Addr := Vector (BitVec 8) 16

def INADDR_NONE : BitVec 32 := 0xffffffff#32

def SSID_BUF_SIZE : Nat := 32 + 1

/-- The characters strncmp looks at: all sixteen, or those before the first NUL. -/
def compared (addr : IPv6Addr) : CString := addr.toList.takeWhile (· ≠ 0#8)

/-- `0 == strncmp(first, second, sizeof(mIPv6Addr))`. -/
def strncmpEqual (first second : IPv6Addr) : Bool := compared first == compared second

/-- The copy that strlcpy leaves in a buffer of SSID_BUF_SIZE bytes. -/
def strlcpySsid (text : CString) : CString := text.take (SSID_BUF_SIZE - 1)

inductive AgpsRsrcStatus where
  | subscribe | unsubscribe | granted | released | denied | statusMax
  deriving DecidableEq, Repr

/-- The statuses for which the switch of every notifyRsrcStatus has a case. -/
def AgpsRsrcStatus.known : AgpsRsrcStatus → Bool
  | .unsubscribe | .granted | .released | .denied => true
  | .subscribe | .statusMax => false

inductive SubscriberKind where
  | bit | atl | wifi | ds
  deriving DecidableEq, Repr

/-- The four subscriber classes. `beyond` is what the sixteen bytes after the
common base class hold in an object that is not a BITSubscriber, which is what
BITSubscriber::equals reads when it casts such an object. -/
inductive Subscriber where
  | bit (ID : BitVec 32) (mIPv6Addr : IPv6Addr)
  | atl (ID : BitVec 32) (mBackwardCompatibleMode : Bool) (beyond : IPv6Addr)
  | wifi (senderId : BitVec 32) (mSSID mPassword : Option CString) (mIsInactive : Bool)
      (beyond : IPv6Addr)
  | ds (ID : BitVec 32) (mIsInactive : Bool) (beyond : IPv6Addr)
  deriving DecidableEq, Repr

namespace Subscriber

def kind : Subscriber → SubscriberKind
  | .bit .. => .bit
  | .atl .. => .atl
  | .wifi .. => .wifi
  | .ds .. => .ds

/-- The WIFISubscriber constructor passes its sender id to the base class. -/
def ID : Subscriber → BitVec 32
  | .bit ID _ => ID
  | .atl ID _ _ => ID
  | .wifi senderId _ _ _ _ => senderId
  | .ds ID _ _ => ID

/-- What `((BITSubscriber*)s)->mIPv6Addr` reads. -/
def castIPv6Addr : Subscriber → IPv6Addr
  | .bit _ mIPv6Addr => mIPv6Addr
  | .atl _ _ beyond => beyond
  | .wifi _ _ _ _ beyond => beyond
  | .ds _ _ beyond => beyond

/-- `this->equals(s)`; only BITSubscriber overrides the comparison of IDs. -/
def equals (this s : Subscriber) : Bool :=
  match this with
  | .bit ID mIPv6Addr =>
      ID == s.ID && (INADDR_NONE != ID || strncmpEqual mIPv6Addr s.castIPv6Addr)
  | _ => this.ID == s.ID

def waitForCloseComplete : Subscriber → Bool
  | .wifi .. | .ds .. => true
  | .bit .. | .atl .. => false

def isInactive : Subscriber → Bool
  | .wifi _ _ _ mIsInactive _ => mIsInactive
  | .ds _ mIsInactive _ => mIsInactive
  | .bit .. | .atl .. => false

/-- The flag that setInactive raises. What DSSubscriber::setInactive reports on
top is in `AgpsStateMachine.setInactive`. -/
def markInactive : Subscriber → Subscriber
  | .wifi senderId mSSID mPassword _ beyond => .wifi senderId mSSID mPassword true beyond
  | .ds ID _ beyond => .ds ID true beyond
  | s => s

/-- A clone goes through the constructor, which clears mIsInactive. -/
def clone : Subscriber → Subscriber
  | .bit ID mIPv6Addr => .bit ID mIPv6Addr
  | .atl ID mBackwardCompatibleMode beyond => .atl ID mBackwardCompatibleMode beyond
  | .wifi senderId mSSID mPassword _ beyond =>
      .wifi senderId (mSSID.map strlcpySsid) (mPassword.map strlcpySsid) false beyond
  | .ds ID _ beyond => .ds ID false beyond

/-- setWifiInfo: the base class writes two empty strings. -/
def setWifiInfo : Subscriber → CString × CString
  | .wifi _ mSSID mPassword _ _ =>
      ((mSSID.map strlcpySsid).getD [], (mPassword.map strlcpySsid).getD [])
  | _ => ([], [])

@[simp] theorem ID_markInactive (s : Subscriber) : s.markInactive.ID = s.ID := by
  cases s <;> rfl

@[simp] theorem kind_markInactive (s : Subscriber) : s.markInactive.kind = s.kind := by
  cases s <;> rfl

@[simp] theorem equals_markInactive_left (s other : Subscriber) :
    s.markInactive.equals other = s.equals other := by
  cases s <;> rfl

@[simp] theorem equals_markInactive_right (s other : Subscriber) :
    other.equals s.markInactive = other.equals s := by
  cases s <;> cases other <;> rfl

@[simp] theorem kind_clone (s : Subscriber) : s.clone.kind = s.kind := by
  cases s <;> rfl

@[simp] theorem isInactive_clone (s : Subscriber) : s.clone.isInactive = false := by
  cases s <;> rfl

@[simp] theorem equals_clone_right (s other : Subscriber) :
    other.equals s.clone = other.equals s := by
  cases s <;> cases other <;> rfl

/-- Entries of the other classes compare IDs only. -/
theorem equals_of_not_bit {this : Subscriber} (other : this.kind ≠ .bit) (s : Subscriber) :
    this.equals s = (this.ID == s.ID) := by
  cases this with
  | bit ID addr => exact absurd rfl other
  | atl | wifi | ds => rfl

theorem ID_of_equals {this s : Subscriber} (same : this.equals s = true) : this.ID = s.ID := by
  cases this with
  | bit ID addr =>
      simp only [equals, Bool.and_eq_true, beq_iff_eq] at same
      exact same.1
  | atl | wifi | ds => simpa [equals] using same

@[simp] theorem equals_self (s : Subscriber) : s.equals s = true := by
  cases s <;> simp [equals, castIPv6Addr, strncmpEqual, ID]

@[simp] theorem clone_equals (s : Subscriber) : s.clone.equals s = true := by
  have same := equals_self s.clone
  rwa [equals_clone_right] at same

end Subscriber

/-- The broadcast group ids; a notification with a receiver has none of them. -/
inductive Broadcast where
  | all | active | inactive
  deriving DecidableEq, Repr

structure Notification where
  rcver : Option Subscriber
  groupID : Option Broadcast
  rsrcStatus : AgpsRsrcStatus
  postNotifyDelete : Bool

namespace Notification

def broadcast (group : Broadcast) (status : AgpsRsrcStatus) (deleteAfterwards : Bool) :
    Notification :=
  ⟨none, some group, status, deleteAfterwards⟩

def unicast (subscriber : Subscriber) (status : AgpsRsrcStatus) (deleteAfterwards : Bool) :
    Notification :=
  ⟨some subscriber, none, status, deleteAfterwards⟩

/-- The one-argument constructors, used to search only. -/
def searchGroup (group : Broadcast) : Notification := broadcast group .statusMax false

def searchFor (subscriber : Subscriber) : Notification := unicast subscriber .statusMax false

end Notification

/-- Is this notification for this subscriber. -/
def Subscriber.forMe (s : Subscriber) (notification : Notification) : Bool :=
  match notification.rcver with
  | some rcver => s.equals rcver
  | none =>
      match notification.groupID with
      | some .all => true
      | some .active => !s.isInactive
      | some .inactive => s.isInactive
      | none => false

@[simp] theorem Subscriber.forMe_unicast (s rcver : Subscriber) (status : AgpsRsrcStatus)
    (deleteAfterwards : Bool) :
    s.forMe (.unicast rcver status deleteAfterwards) = s.equals rcver := rfl

@[simp] theorem Subscriber.forMe_searchFor (s rcver : Subscriber) :
    s.forMe (.searchFor rcver) = s.equals rcver := rfl

@[simp] theorem Subscriber.forMe_all (s : Subscriber) (status : AgpsRsrcStatus)
    (deleteAfterwards : Bool) : s.forMe (.broadcast .all status deleteAfterwards) = true := rfl

@[simp] theorem Subscriber.forMe_searchGroup_active (s : Subscriber) :
    s.forMe (.searchGroup .active) = !s.isInactive := rfl

end A5Common.Agps
