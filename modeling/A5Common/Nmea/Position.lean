import A5Common.Nmea.Report

set_option autoImplicit false

namespace A5Common.Nmea

open A5Common.Number

def GLONASS_SV_ID_OFFSET : Nat := 64

/-- The loop over a mask: `i` is one more than the bit that is lowest in what is left of it. -/
def svUsedLoop (offset : Nat) : Nat → Nat → BitVec 32 → List Nat → List Nat
  | 0, _, _, svUsedList => svUsedList
  | rounds + 1, i, mask, svUsedList =>
      if mask = 0#32 ∨ 32 ≤ svUsedList.length then svUsedList
      else svUsedLoop offset rounds (i + 1) (mask >>> 1)
        (if mask &&& 1#32 = 1#32 then svUsedList ++ [i + offset] else svUsedList)

/-- The satellites of a mask, which 32 shifts empty. -/
def svUsed (offset : Nat) (mask : BitVec 32) : List Nat :=
  svUsedLoop offset 32 1 mask []

def fixType (svUsedCount : Nat) : Char :=
  if svUsedCount = 0 then '1' else if svUsedCount ≤ 3 then '2' else '3'

/-- `%.1f`. -/
def tenths (x : Single) : List Char := fixed 1 x.promote.value

/-- One of the twelve places for a satellite. -/
def svPlace (svUsedList : List Nat) (i : Nat) : List Char :=
  match svUsedList[i]? with
  | some id => decimal 2 id ++ [',']
  | none => [',']

def LocEngData.dopCached (data : LocEngData) : Bool :=
  data.pdop.isPositive && data.hdop.isPositive && data.vdop.isPositive

def dopText (data : LocEngData) (locationExtended : GpsLocationExtended) : List Char :=
  if locationExtended.has GPS_LOCATION_EXTENDED_HAS_DOP then
    tenths locationExtended.pdop ++ ',' :: tenths locationExtended.hdop ++
      ',' :: tenths locationExtended.vdop
  else if data.dopCached then
    tenths data.pdop ++ ',' :: tenths data.hdop ++ ',' :: tenths data.vdop
  else ",,".toList

def gsa (talker : List Char) (svUsedList : List Nat) (dops : List Char) : Option Sentence :=
  compose ((talker ++ [fixType svUsedList.length, ',']) ::
    (List.range 12).map (svPlace svUsedList)) dops

def gpgsa (svUsedList : List Nat) (dops : List Char) : Option Sentence :=
  gsa "$GPGSA,A,".toList svUsedList dops

def gngsa (gloUsedList : List Nat) (dops : List Char) : Option Sentence :=
  gsa "$GNGSA,A,".toList gloUsedList dops

/-- The constants `3600.0/1852.0` and `3.6`. -/
def knots : Double := ⟨.finite false (halfEven (3600 * 2 ^ 52) 1852) (-52), by decide +kernel⟩
def kmPerHour : Double := ⟨.finite false (halfEven (36 * 2 ^ 51) 10) (-51), by decide +kernel⟩

def speedKnots (location : GpsLocation) : Single := (location.speed.promote.mul knots).narrow
def speedKmPerHour (location : GpsLocation) : Single :=
  (location.speed.promote.mul kmPerHour).narrow

/-- Three letters for no fix, an autonomous and a differential one. -/
def fixQuality (data : LocEngData) (location : GpsLocation) (none autonomous differential : Char) :
    Char :=
  if !location.has GPS_LOCATION_HAS_LAT_LONG then none
  else if data.positionMode = .standalone then autonomous
  else differential

/-- The bearing is printed twice: the `magTrack` with the deviation is a variable of its own
block. -/
def gpvtg (data : LocEngData) (location : GpsLocation) : Option Sentence :=
  compose
    [if location.has GPS_LOCATION_HAS_BEARING then
        "$GPVTG,".toList ++ tenths location.bearing ++ ",T,".toList ++ tenths location.bearing ++
          ",M,".toList
      else "$GPVTG,,T,,M,".toList,
      if location.has GPS_LOCATION_HAS_SPEED then
        tenths (speedKnots location) ++ ",N,".toList ++ tenths (speedKmPerHour location) ++
          ",K,".toList
      else ",N,,K,".toList]
    [fixQuality data location 'N' 'A' 'D']

def sixty : Double := ⟨.finite false 60 0, by decide +kernel⟩

/-- `fmod(x * 60.0, 60.0)` with six places. -/
def minutes (x : Double) : List Char :=
  zeroFixed 9 6 (fmod 60 (by decide) (by decide) (x.mul sixty)).value

def positionText (platform : Platform) (location : GpsLocation) : List Char :=
  if location.has GPS_LOCATION_HAS_LAT_LONG then
    let (latHemisphere, latitude) :=
      if location.latitude.isPositive then ('N', location.latitude)
      else ('S', location.latitude.negate)
    let (lonHemisphere, longitude) :=
      if location.longitude.isNegative then ('W', location.longitude.negate)
      else ('E', location.longitude)
    decimal 2 (platform.toByte latitude) ++ minutes latitude ++ [',', latHemisphere, ','] ++
      (decimal 3 (platform.toByte longitude) ++ minutes longitude ++ [',', lonHemisphere, ','])
  else ",,,,".toList

/-- The hours, minutes, seconds and hundredths, before and after. -/
def timeText (tm : Tm) (location : GpsLocation) : List Char :=
  decimal 2 tm.tm_hour.val ++ decimal 2 tm.tm_min.val ++ decimal 2 tm.tm_sec.val ++
    '.' :: decimal 2 ((location.timestamp.tmod 1000).tdiv 10)

def magneticText (locationExtended : GpsLocationExtended) : List Char :=
  if locationExtended.has GPS_LOCATION_EXTENDED_HAS_MAG_DEV then
    let (direction, magneticVariation) :=
      if locationExtended.magneticDeviation.isNegative then
        ('W', locationExtended.magneticDeviation.negate)
      else ('E', locationExtended.magneticDeviation)
    tenths magneticVariation ++ [',', direction, ',']
  else ",,".toList

/-- The day, the month and the year in two digits. -/
def dateText (tm : Tm) : List Char :=
  precise 2 tm.tm_mday.val ++ precise 2 (tm.tm_mon.val + 1 : Nat) ++
    precise 2 (tm.tm_year.tmod 100) ++ [',']

def gprmc (platform : Platform) (tm : Tm) (data : LocEngData) (location : GpsLocation)
    (locationExtended : GpsLocationExtended) : Option Sentence :=
  compose
    ["$GPRMC,".toList ++ timeText tm location ++ ",A,".toList,
      positionText platform location,
      if location.has GPS_LOCATION_HAS_SPEED then tenths (speedKnots location) ++ [','] else [','],
      if location.has GPS_LOCATION_HAS_BEARING then tenths location.bearing ++ [','] else [','],
      dateText tm,
      magneticText locationExtended]
    [fixQuality data location 'N' 'A' 'D']

/-- The quality, the satellites that are used and the horizontal dilution. -/
def qualityText (data : LocEngData) (location : GpsLocation)
    (locationExtended : GpsLocationExtended) (svUsedCount : Nat) : List Char :=
  [fixQuality data location '0' '1' '2', ','] ++ decimal 2 svUsedCount ++ ',' ::
    (if locationExtended.has GPS_LOCATION_EXTENDED_HAS_DOP then tenths locationExtended.hdop
      else if data.dopCached then tenths data.hdop else []) ++ [',']

/-- The last print of `$GPGGA`, whose length is not checked. -/
def geoidText (location : GpsLocation) (locationExtended : GpsLocationExtended) : List Char :=
  if location.has GPS_LOCATION_HAS_ALTITUDE &&
      locationExtended.has GPS_LOCATION_EXTENDED_HAS_ALTITUDE_MEAN_SEA_LEVEL then
    fixed 1 (location.altitude.sub locationExtended.altitudeMeanSeaLevel.promote).value ++
      ",M,,".toList
  else ",,,".toList

def altitudeText (locationExtended : GpsLocationExtended) : List Char :=
  if locationExtended.has GPS_LOCATION_EXTENDED_HAS_ALTITUDE_MEAN_SEA_LEVEL then
    tenths locationExtended.altitudeMeanSeaLevel ++ ",M,".toList
  else ",,".toList

def gpgga (platform : Platform) (tm : Tm) (data : LocEngData) (location : GpsLocation)
    (locationExtended : GpsLocationExtended) (svUsedCount : Nat) : Option Sentence :=
  compose
    ["$GPGGA,".toList ++ timeText tm location ++ [','],
      positionText platform location,
      qualityText data location locationExtended svUsedCount,
      altitudeText locationExtended]
    (geoidText location locationExtended)

/-- The sentences of a fix that is not final. -/
def blankSentences : List (List Char) :=
  ["$GPGSA,A,1,,,,,,,,,,,,,,,".toList, "$GNGSA,A,1,,,,,,,,,,,,,,,".toList,
    "$GPVTG,,T,,M,,N,,K,N".toList, "$GPRMC,,V,,,,,,,,,,N".toList,
    "$GPGGA,,,,,,0,,,,,,,,".toList]

def generatePos (platform : Platform) (location : GpsLocation)
    (locationExtended : GpsLocationExtended) (generate_nmea : Bool) (data : LocEngData) :
    LocEngData :=
  match platform.gmtime (location.timestamp.tdiv 1000) with
  | none => data
  | some tm =>
      if generate_nmea then
        let svUsedList := svUsed 0 data.gps_used_mask
        let data := { data with gps_used_mask := 0 }
        data.sendOr (gpgsa svUsedList (dopText data locationExtended)) fun data =>
        let gloUsedList := svUsed GLONASS_SV_ID_OFFSET data.glo_used_mask
        let data := { data with glo_used_mask := 0 }
        data.sendOr (gngsa gloUsedList (dopText data locationExtended)) fun data =>
        data.sendOr (gpvtg data location) fun data =>
        data.sendOr (gprmc platform tm data location locationExtended) fun data =>
        data.sendOr (gpgga platform tm data location locationExtended svUsedList.length) fun data =>
        data.setDop zero zero zero
      else (blankSentences.foldl LocEngData.sendText data).setDop zero zero zero

theorem and_one_eq_one (mask : BitVec 32) (j : Nat) :
    mask >>> j &&& 1#32 = 1#32 ↔ mask.getLsbD j := by
  constructor
  · intro one
    have bit := congrArg (BitVec.getLsbD · 0) one
    simpa using bit
  · intro bit
    apply BitVec.eq_of_getLsbD_eq
    intro i small
    rw [BitVec.getLsbD_and, BitVec.getLsbD_ushiftRight, BitVec.getLsbD_one]
    cases i with
    | zero => simpa using bit
    | succ i => simp

/-- The bits of a mask from `j` on, which are lowest after as many shifts. -/
theorem svUsedLoop_eq (offset : Nat) (mask : BitVec 32) (rounds : Nat) {j : Nat}
    (whole : j + rounds = 32) {svUsedList : List Nat} (few : svUsedList.length ≤ j) :
    svUsedLoop offset rounds (j + 1) (mask >>> j) svUsedList =
      svUsedList ++ ((List.range' j rounds).filter mask.getLsbD).map (· + 1 + offset) := by
  induction rounds generalizing j svUsedList with
  | zero =>
      rw [List.range'_zero, List.filter_nil, List.map_nil, List.append_nil]
      rfl
  | succ rounds ih =>
      unfold svUsedLoop
      by_cases empty : mask >>> j = 0#32
      · have clear : (List.range' j (rounds + 1)).filter mask.getLsbD = [] := by
          rw [List.filter_eq_nil_iff]
          intro k member
          obtain ⟨from_j, -⟩ := List.mem_range'_1.mp member
          have bit : (mask >>> j).getLsbD (k - j) = false := by
            rw [empty, BitVec.getLsbD_zero]
          rw [BitVec.getLsbD_ushiftRight, Nat.add_sub_cancel' from_j] at bit
          rw [bit]
          exact Bool.false_ne_true
        rw [if_pos (.inl empty), clear, List.map_nil, List.append_nil]
      · rw [if_neg (fun done => done.elim empty (by omega)), ← BitVec.shiftRight_add,
          List.range'_succ]
        by_cases used : mask.getLsbD j
        · have longer : (svUsedList ++ [j + 1 + offset]).length ≤ j + 1 := by
            rw [List.length_append]
            exact Nat.succ_le_succ few
          rw [if_pos ((and_one_eq_one mask j).mpr used), ih (by omega) longer,
            List.filter_cons_of_pos used, List.map_cons, List.append_assoc]
          rfl
        · rw [if_neg (fun one => used ((and_one_eq_one mask j).mp one)), ih (by omega) (by omega),
            List.filter_cons_of_neg used]

theorem svUsed_eq (offset : Nat) (mask : BitVec 32) :
    svUsed offset mask = ((List.range 32).filter mask.getLsbD).map (· + 1 + offset) := by
  have loop := svUsedLoop_eq offset mask 32 (Nat.zero_add 32) (Nat.le_of_eq List.length_nil)
  rw [BitVec.ushiftRight_zero, ← List.range_eq_range'] at loop
  exact loop

theorem length_svUsed_le (offset : Nat) (mask : BitVec 32) :
    (svUsed offset mask).length ≤ 32 := by
  rw [svUsed_eq, List.length_map]
  exact List.length_filter_le _ _

theorem le_of_mem_svUsed {offset id : Nat} {mask : BitVec 32} (member : id ∈ svUsed offset mask) :
    id ≤ 32 + offset := by
  rw [svUsed_eq] at member
  obtain ⟨bit, among, rfl⟩ := List.mem_map.mp member
  have small := List.mem_range.mp (List.mem_filter.mp among).1
  omega

end A5Common.Nmea
