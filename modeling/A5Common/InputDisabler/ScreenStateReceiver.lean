import A5Common.Run.System

set_option autoImplicit false

namespace A5Common.InputDisabler

open A5Common.Run

def DOZING_TIME : Nat := 1000 * 5

/-- Which of the two nodes can be written. -/
structure Paths where
  TS_PATH : Bool
  TK_PATH : Bool

/-- What the nodes of the touch screen and of the keys hold, and what is read of
`TK_FORCE_DISABLE`. -/
structure Device where
  touch : Bool
  keys : Bool
  force_disable : Int
deriving DecidableEq

namespace Device

/-- `write_sysfs`. A write that fails leaves the node, and is only logged. -/
def writeSysfs (path on node : Bool) : Bool :=
  if path then on else node

def enableDevices (paths : Paths) (enable touch keys : Bool) (device : Device) : Device where
  touch := if touch then writeSysfs paths.TS_PATH enable device.touch else device.touch
  keys :=
    if keys then
      if !(enable && device.force_disable > 0) then writeSysfs paths.TK_PATH enable device.keys
      else device.keys
    else device.keys
  force_disable := device.force_disable

def enableTouch (paths : Paths) (enable : Bool) (device : Device) : Device :=
  device.enableDevices paths enable true false

def enableKeys (paths : Paths) (enable : Bool) (device : Device) : Device :=
  device.enableDevices paths enable false true

/-- What is disabled when the screen goes off: not the touch screen, if a double tap is to
wake the device. -/
def disable (paths : Paths) (isDoubleTapEnabled : Int) (device : Device) : Device :=
  if isDoubleTapEnabled ≠ 0 then device.enableKeys paths false
  else device.enableDevices paths false true true

def handleScreenOn (paths : Paths) (keys : Bool) (device : Device) : Device :=
  let device := if keys then device.enableKeys paths true else device
  ((device.enableTouch paths true).enableTouch paths false).enableTouch paths true

/-- After the sequence the touch screen is enabled, if its node can be written. -/
theorem handleScreenOn_touch (paths : Paths) (keys : Bool) (device : Device) :
    (device.handleScreenOn paths keys).touch = (paths.TS_PATH || device.touch) := by
  unfold handleScreenOn enableTouch enableKeys enableDevices writeSysfs
  cases keys <;> cases paths.TS_PATH <;> rfl

end Device

inductive ScreenState where
  | STATE_OFF
  | STATE_ON
  | STATE_DOZE
deriving DecidableEq

inductive CallState where
  | CALL_STATE_IDLE
  | CALL_STATE_RINGING
  | CALL_STATE_OFFHOOK
deriving DecidableEq

inductive Intent where
  | ACTION_SCREEN_ON
  | ACTION_SCREEN_OFF
  | ACTION_DOZE_PULSE_STARTING
  | ACTION_PHONE_STATE_CHANGED (callState : CallState)
deriving DecidableEq

/-- A doze pulse: how many came before it, and when it came, in milliseconds. -/
structure Pulse where
  number : Nat
  time : Nat
deriving DecidableEq

/-- The runnable that a pulse posts, with the setting that it was made with. -/
structure DozeDisable where
  pulse : Pulse
  isDoubleTapEnabled : Int
deriving DecidableEq

/-- The receiver, the nodes, and the runnables that are posted and have not run. Records are
the pulses so far, the last of them unless a screen-on, screen-off, call-idle or proximity
event has come since, and for each runnable that ended a doze its pulse's number and that of
the pulse whose doze it ended. -/
structure ScreenStateReceiver where
  mScreenState : ScreenState
  device : Device
  now : Nat
  posted : List DozeDisable
  pulses : Nat
  dozing : Option Pulse
  ended : List (Nat × Nat)

inductive Label where
  | onReceive (isDoubleTapEnabled : Int) (intent : Intent)
  | onSensorChanged (zero : Bool)
  | run
  | elapse (ms : Nat)
  | forceDisable (value : Int)
deriving DecidableEq

namespace ScreenStateReceiver

/-- The receiver is made. -/
def new (device : Device) : ScreenStateReceiver where
  mScreenState := .STATE_OFF
  device := device
  now := 0
  posted := []
  pulses := 0
  dozing := none
  ended := []

/-- A doze pulse of now. -/
def pulse (σ : ScreenStateReceiver) : Pulse :=
  ⟨σ.pulses, σ.now⟩

def onReceive (paths : Paths) (isDoubleTapEnabled : Int) (σ : ScreenStateReceiver) :
    Intent → ScreenStateReceiver
  | .ACTION_SCREEN_ON =>
      { σ with
        device := σ.device.handleScreenOn paths true
        mScreenState := .STATE_ON
        dozing := none }
  | .ACTION_SCREEN_OFF =>
      { σ with
        device := σ.device.disable paths isDoubleTapEnabled
        mScreenState := .STATE_OFF
        dozing := none }
  | .ACTION_DOZE_PULSE_STARTING =>
      { σ with
        mScreenState := .STATE_DOZE
        posted := σ.posted ++ [⟨σ.pulse, isDoubleTapEnabled⟩]
        device := σ.device.handleScreenOn paths false
        pulses := σ.pulses + 1
        dozing := some σ.pulse }
  | .ACTION_PHONE_STATE_CHANGED .CALL_STATE_IDLE =>
      if σ.mScreenState ≠ .STATE_ON then
        { σ with
          device := σ.device.handleScreenOn paths true
          mScreenState := .STATE_ON
          dozing := none }
      else { σ with dozing := none }
  | .ACTION_PHONE_STATE_CHANGED _ => σ

/-- A change of the proximity sensor, whose value is zero or not. -/
def onSensorChanged (paths : Paths) (zero : Bool) (σ : ScreenStateReceiver) :
    ScreenStateReceiver :=
  if zero then
    { σ with
      device := σ.device.enableDevices paths false true true
      mScreenState := .STATE_OFF
      dozing := none }
  else
    { σ with
      device := σ.device.handleScreenOn paths true
      mScreenState := .STATE_ON
      dozing := none }

/-- The runnable of a pulse. -/
def run (paths : Paths) (runnable : DozeDisable) (σ : ScreenStateReceiver) :
    ScreenStateReceiver :=
  match σ.mScreenState with
  | .STATE_DOZE =>
      { σ with
        mScreenState := .STATE_OFF
        device := σ.device.disable paths runnable.isDoubleTapEnabled
        ended := σ.ended ++ (σ.dozing.map (fun p => (runnable.pulse.number, p.number))).toList }
  | .STATE_ON | .STATE_OFF => σ

/-- The runnables are due in the order in which they are posted, each `DOZING_TIME` after its
pulse, and no time passes while one is due. -/
def step (paths : Paths) (σ : ScreenStateReceiver) : Label → Option ScreenStateReceiver
  | .onReceive isDoubleTapEnabled intent => some (σ.onReceive paths isDoubleTapEnabled intent)
  | .onSensorChanged zero => some (σ.onSensorChanged paths zero)
  | .run =>
      match σ.posted with
      | [] => none
      | runnable :: posted =>
          if σ.now = runnable.pulse.time + DOZING_TIME then
            some ({ σ with posted := posted }.run paths runnable)
          else none
  | .elapse ms =>
      if σ.posted.head?.all (fun runnable => σ.now + ms ≤ runnable.pulse.time + DOZING_TIME) then
        some { σ with now := σ.now + ms }
      else none
  | .forceDisable value => some { σ with device := { σ.device with force_disable := value } }

end ScreenStateReceiver

/-- The receiver with any events, from any state of the nodes. -/
def screenStateReceiver (paths : Paths) : System ScreenStateReceiver Label where
  initial σ := ∃ device, σ = .new device
  step := ScreenStateReceiver.step paths

end A5Common.InputDisabler
