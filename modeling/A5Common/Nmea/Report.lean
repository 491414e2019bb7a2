import A5Common.Engine.Session
import A5Common.Nmea.Sentence

set_option autoImplicit false

namespace A5Common.Nmea

open A5Common.Number

/-- What `gmtime` fills, each field in its range. -/
structure Tm where
  tm_sec : Fin 61
  tm_min : Fin 60
  tm_hour : Fin 24
  tm_mday : Fin 32
  tm_mon : Fin 12
  tm_year : Int

/-- The C library and the compiler: `gmtime`, and what comes of an operation that C leaves
undefined, a shift out of 32 bits or a number with no value in the integer type. -/
structure Platform where
  gmtime : Int → Option Tm
  shifted : Int → BitVec 32
  int : Value → BitVec 32
  byte : Value → BitVec 8

namespace Platform

variable (platform : Platform)

/-- `1 << n`. -/
def shiftOne (n : Int) : BitVec 32 :=
  if 0 ≤ n ∧ n < 32 then 1#32 <<< n.toNat else platform.shifted n

/-- `(int) x`. -/
def toInt (x : Double) : Int :=
  (x.value.truncate.filter fun n => -2147483648 ≤ n && n ≤ 2147483647).getD
    (platform.int x.value).toInt

/-- `(uint8_t) floor(x)`. -/
def toByte (x : Double) : Nat :=
  match x.value.floor with
  | some (.ofNat n) => if n < 256 then n else (platform.byte x.value).toNat
  | _ => (platform.byte x.value).toNat

end Platform

inductive GnssConstellationType where
  | unknown | gps | sbas | glonass | qzss | beidou | galileo
  deriving DecidableEq

def GNSS_SV_FLAGS_USED_IN_FIX : BitVec 8 := 4

structure GnssSvInfo where
  svid : BitVec 16
  constellation : GnssConstellationType
  c_n0_dbhz : Single
  elevation : Single
  azimuth : Single
  flags : BitVec 8

def GnssSvInfo.usedInFix (sv : GnssSvInfo) : Bool :=
  sv.flags &&& GNSS_SV_FLAGS_USED_IN_FIX = GNSS_SV_FLAGS_USED_IN_FIX

def GNSS_MAX_SVS : Nat := 64

/-- The first `num_svs` entries of `gnss_sv_list`. -/
structure GnssSvStatus where
  svs : List GnssSvInfo
  within : svs.length ≤ GNSS_MAX_SVS

def GPS_LOCATION_HAS_LAT_LONG : BitVec 16 := 0x1
def GPS_LOCATION_HAS_ALTITUDE : BitVec 16 := 0x2
def GPS_LOCATION_HAS_SPEED : BitVec 16 := 0x4
def GPS_LOCATION_HAS_BEARING : BitVec 16 := 0x8

structure GpsLocation where
  flags : BitVec 16
  latitude : Double
  longitude : Double
  altitude : Double
  speed : Single
  bearing : Single
  timestamp : Int

def GpsLocation.has (location : GpsLocation) (flag : BitVec 16) : Bool :=
  location.flags &&& flag ≠ 0

def GPS_LOCATION_EXTENDED_HAS_DOP : BitVec 16 := 0x1
def GPS_LOCATION_EXTENDED_HAS_ALTITUDE_MEAN_SEA_LEVEL : BitVec 16 := 0x2
def GPS_LOCATION_EXTENDED_HAS_MAG_DEV : BitVec 16 := 0x4

structure GpsLocationExtended where
  flags : BitVec 16
  altitudeMeanSeaLevel : Single
  pdop : Single
  hdop : Single
  vdop : Single
  magneticDeviation : Single

def GpsLocationExtended.has (locationExtended : GpsLocationExtended) (flag : BitVec 16) : Bool :=
  locationExtended.flags &&& flag ≠ 0

/-- The zero that clears a `float`. -/
def zero : Single := ⟨.finite false 0 0, by decide⟩

/-- The engine data of the reports; `nmea` is what `nmea_cb` has been given, in order. -/
structure LocEngData where
  nmea_cb : Bool
  gps_used_mask : BitVec 32
  glo_used_mask : BitVec 32
  hdop : Single
  pdop : Single
  vdop : Single
  positionMode : Engine.LocPositionMode
  nmea : List Message

/-- A platform whose `gmtime` always tells the epoch, a satellite that is used, and data and
locations without anything in them. -/
def epoch : Platform := ⟨fun _ => some ⟨0, 0, 0, 1, 0, 70⟩, fun _ => 0, fun _ => 0, fun _ => 0⟩
def usedSv (svid : BitVec 16) (constellation : GnssConstellationType) : GnssSvInfo :=
  ⟨svid, constellation, zero, zero, zero, GNSS_SV_FLAGS_USED_IN_FIX⟩
def idle : LocEngData := ⟨true, 0, 0, zero, zero, zero, .standalone, []⟩
def unextended : GpsLocationExtended := ⟨0, zero, zero, zero, zero, zero⟩
def unlocated : GpsLocation := ⟨0, zero.promote, zero.promote, zero.promote, zero, zero, 0⟩

namespace LocEngData

/-- `loc_eng_nmea_send`. -/
def send (data : LocEngData) (message : Message) : LocEngData :=
  if data.nmea_cb then { data with nmea := data.nmea ++ [message] } else data

/-- A sentence that is sent with its checksum; a print that failed ends the report. -/
def sendOr (data : LocEngData) (sentence : Option Sentence) (next : LocEngData → LocEngData) :
    LocEngData :=
  match sentence with
  | none => data
  | some sentence => next (data.send (putChecksum sentence.text NMEA_SENTENCE_MAX_LENGTH))

/-- A sentence that is copied whole. -/
def sendText (data : LocEngData) (text : List Char) : LocEngData :=
  data.send (putChecksum (strlcpy text).text NMEA_SENTENCE_MAX_LENGTH)

/-- Messages that are sent one after the other. -/
def sends (data : LocEngData) (messages : List Message) : LocEngData :=
  messages.foldl send data

def setDop (data : LocEngData) (pdop hdop vdop : Single) : LocEngData :=
  { data with pdop := pdop, hdop := hdop, vdop := vdop }

end LocEngData

namespace LocEngData

theorem send_eq (data : LocEngData) (message : Message) :
    data.send message =
      { data with nmea := data.nmea ++ if data.nmea_cb then [message] else [] } := by
  unfold send
  split
  · rfl
  · rw [List.append_nil]

theorem sends_eq (data : LocEngData) (messages : List Message) :
    data.sends messages =
      { data with nmea := data.nmea ++ if data.nmea_cb then messages else [] } := by
  induction messages generalizing data with
  | nil =>
      rw [ite_self, List.append_nil]
      rfl
  | cons message rest ih =>
      change (data.send message).sends rest = _
      rw [ih, send_eq]
      dsimp only
      by_cases registered : data.nmea_cb
      · rw [if_pos registered, if_pos registered, if_pos registered, List.append_assoc]
        rfl
      · rw [if_neg registered, if_neg registered, if_neg registered, List.append_nil,
          List.append_nil]

theorem nmea_sends (data : LocEngData) (registered : data.nmea_cb) (messages : List Message) :
    (data.sends messages).nmea = data.nmea ++ messages := by
  rw [sends_eq, if_pos registered]

theorem nmea_sends_unregistered (data : LocEngData) (unregistered : ¬data.nmea_cb)
    (messages : List Message) : (data.sends messages).nmea = data.nmea := by
  rw [sends_eq, if_neg unregistered, List.append_nil]

theorem nmea_cb_sends (data : LocEngData) (messages : List Message) :
    (data.sends messages).nmea_cb = data.nmea_cb := by
  rw [sends_eq]

theorem sendText_eq (data : LocEngData) {body : List Char}
    (room : body.length + 6 < NMEA_SENTENCE_MAX_LENGTH) :
    data.sendText ('$' :: body) = data.send (framed body) := by
  unfold sendText
  rw [strlcpy_text (by rw [List.length_cons]; omega), putChecksum_eq room]

end LocEngData

theorem Platform.natAbs_toInt_lt (platform : Platform) (x : Double) :
    (platform.toInt x).natAbs < 10 ^ 10 := by
  have low := (platform.int x.value).le_toInt
  have high := (platform.int x.value).toInt_lt
  unfold toInt
  cases found : x.value.truncate.filter fun n => -2147483648 ≤ n && n ≤ 2147483647 with
  | none =>
      rw [Option.getD_none]
      omega
  | some n =>
      have range := (Option.filter_eq_some_iff.mp found).2
      rw [Bool.and_eq_true, decide_eq_true_eq, decide_eq_true_eq] at range
      rw [Option.getD_some]
      omega

theorem Platform.toByte_lt (platform : Platform) (x : Double) : platform.toByte x < 10 ^ 3 := by
  have byte := (platform.byte x.value).isLt
  unfold toByte
  split
  · split <;> omega
  · omega

end A5Common.Nmea
