import A5Common.Nmea.Report

set_option autoImplicit false

namespace A5Common.Nmea

open A5Common.Number

variable (platform : Platform)

/-- The counts of the satellites of the two constellations, with the masks of the data. -/
structure SvCounts where
  data : LocEngData
  gpsCount : Nat
  glnCount : Nat

/-- A mask with the bit of a satellite, when that is used in a fix. -/
def usedMask (sv : GnssSvInfo) (mask : BitVec 32) : BitVec 32 :=
  if sv.usedInFix then mask ||| platform.shiftOne (sv.svid.toInt - 1) else mask

def countSv (counts : SvCounts) (sv : GnssSvInfo) : SvCounts :=
  match sv.constellation with
  | .gps =>
      { counts with
        data := { counts.data with gps_used_mask := usedMask platform sv counts.data.gps_used_mask }
        gpsCount := counts.gpsCount + 1 }
  | .glonass =>
      { counts with
        data := { counts.data with glo_used_mask := usedMask platform sv counts.data.glo_used_mask }
        glnCount := counts.glnCount + 1 }
  | _ => counts

def half : Double := ⟨.finite false 1 (-1), by decide +kernel⟩

/-- `(int)(0.5 + x)`. -/
def roundInt (x : Single) : Int := platform.toInt (half.add x.promote)

/-- The prints of a satellite: its place in the sky, and its signal where there is one. -/
def svPrints (sv : GnssSvInfo) : List (List Char) :=
  let position := ',' :: decimal 2 sv.svid.toInt ++
    ',' :: decimal 2 (roundInt platform sv.elevation) ++
    ',' :: decimal 3 (roundInt platform sv.azimuth) ++ [',']
  if sv.c_n0_dbhz.isPositive then [position, decimal 2 (roundInt platform sv.c_n0_dbhz)]
  else [position]

/-- The loop over the satellites from `svNumber` on, with `i` of them in the sentence. -/
def fillSentence (constellation : GnssConstellationType) :
    Nat → List GnssSvInfo → Sentence → Option (Sentence × List GnssSvInfo)
  | _, [], sentence => some (sentence, [])
  | i, sv :: svs, sentence =>
      if i < 4 then
        if sv.constellation = constellation then
          match sentence.prints (svPrints platform sv) with
          | none => none
          | some sentence => fillSentence constellation (i + 1) svs sentence
        else fillSentence constellation i svs sentence
      else some (sentence, sv :: svs)

def gsvHeader (talker : List Char) (sentenceCount sentenceNumber count : Nat) : List Char :=
  talker ++ ',' :: decimal 0 sentenceCount ++ ',' :: decimal 0 sentenceNumber ++
    ',' :: decimal 2 count

/-- A sentence, and the satellites that are left for the next. -/
def gsvSentence (talker : List Char) (constellation : GnssConstellationType)
    (sentenceCount sentenceNumber count : Nat) (svs : List GnssSvInfo) :
    Option (Sentence × List GnssSvInfo) :=
  match Sentence.start.print (gsvHeader talker sentenceCount sentenceNumber count) with
  | none => none
  | some sentence => fillSentence platform constellation 0 svs sentence

/-- The loop over the sentences from `sentenceNumber` on, of which some are left. -/
def gsvLoop (talker : List Char) (constellation : GnssConstellationType)
    (sentenceCount count : Nat) (next : LocEngData → LocEngData) :
    Nat → Nat → List GnssSvInfo → LocEngData → LocEngData
  | 0, _, _, data => next data
  | left + 1, sentenceNumber, svs, data =>
      match gsvSentence platform talker constellation sentenceCount sentenceNumber count svs with
      | none => data
      | some (sentence, svs) =>
          gsvLoop talker constellation sentenceCount count next left (sentenceNumber + 1) svs
            (data.send (putChecksum sentence.text NMEA_SENTENCE_MAX_LENGTH))

def gsvCount (count : Nat) : Nat := count / 4 + if count % 4 ≠ 0 then 1 else 0

def gsv (talker : List Char) (constellation : GnssConstellationType) (count : Nat)
    (svs : List GnssSvInfo) (data : LocEngData) (next : LocEngData → LocEngData) : LocEngData :=
  if count = 0 then next (data.sendText (talker ++ ",1,1,0,".toList))
  else gsvLoop platform talker constellation (gsvCount count) count next (gsvCount count) 1 svs data

def gpgsv := gsv platform "$GPGSV".toList .gps
def glgsv := gsv platform "$GLGSV".toList .glonass

/-- The dilutions of a report, which the next report of a position may print. -/
def cacheDop (locationExtended : GpsLocationExtended) (data : LocEngData) : LocEngData :=
  if locationExtended.has GPS_LOCATION_EXTENDED_HAS_DOP then
    data.setDop locationExtended.pdop locationExtended.hdop locationExtended.vdop
  else data.setDop zero zero zero

def generateSv (svStatus : GnssSvStatus) (locationExtended : GpsLocationExtended)
    (data : LocEngData) : LocEngData :=
  let counts := svStatus.svs.foldl (countSv platform)
    ⟨{ data with gps_used_mask := 0, glo_used_mask := 0 }, 0, 0⟩
  gpgsv platform counts.gpsCount svStatus.svs counts.data fun data =>
  glgsv platform counts.glnCount svStatus.svs data fun data =>
  cacheDop locationExtended data

end A5Common.Nmea
