import A5Common.Nmea.Gsv
import A5Common.Nmea.Sendable

set_option autoImplicit false

namespace A5Common.Nmea

open A5Common.Number A5Common.Run

/-- What `nmea_cb` is given between two states of the data. -/
def givenSince (before after : LocEngData) : List Message :=
  after.nmea.drop before.nmea.length

/-- The width of the numbers that a position with both altitudes has printed in `$GPGGA`. -/
def fieldsWidth (platform : Platform) (tm : Tm) (data : LocEngData) (location : GpsLocation)
    (locationExtended : GpsLocationExtended) : Nat :=
  (timeText tm location).length + (positionText platform location).length +
    (qualityText data location locationExtended (svUsed 0 data.gps_used_mask).length).length +
    (tenths locationExtended.altitudeMeanSeaLevel).length +
    (fixed 1 (location.altitude.sub locationExtended.altitudeMeanSeaLevel.promote).value).length

/-- The fields leave room for a checksum, where there are both altitudes and they are sent. -/
def FieldsFit (platform : Platform) (location : GpsLocation)
    (locationExtended : GpsLocationExtended) (generate_nmea : Bool) (data : LocEngData) : Prop :=
  data.nmea_cb → generate_nmea →
    ∀ tm, platform.gmtime (location.timestamp.tdiv 1000) = some tm →
      location.has GPS_LOCATION_HAS_ALTITUDE →
      locationExtended.has GPS_LOCATION_EXTENDED_HAS_ALTITUDE_MEAN_SEA_LEVEL →
      fieldsWidth platform tm data location locationExtended ≤ 179

theorem givenSince_eq {before after : LocEngData} {messages : List Message}
    (sends : after.nmea = before.nmea ++ messages) : givenSince before after = messages := by
  unfold givenSince
  rw [sends, List.drop_left]

variable {platform : Platform} {location : GpsLocation} {locationExtended : GpsLocationExtended}
  {tm : Tm} {data : LocEngData}

theorem framed_gsvReport {talker : List Char} (named : Printed 5 talker)
    (constellation : GnssConstellationType) {svs : List GnssSvInfo}
    (within : svs.length ≤ GNSS_MAX_SVS) :
    ∀ message ∈ gsvReport platform talker constellation svs, Framed message := by
  have count_small : (inView constellation svs).length ≤ 64 :=
    Nat.le_trans (List.length_filter_le _ _) within
  have total_small : gsvCount (inView constellation svs).length ≤ 17 := by
    unfold gsvCount
    split <;> omega
  unfold gsvReport
  dsimp only
  split
  · have blank : Printed 7 ",1,1,0,".toList := .literal (by decide) (by decide)
    rw [blank_eq]
    exact List.forall_mem_singleton.mpr ((named.append blank).mono (by decide)).framed
  · intro message member
    obtain ⟨i, inside, rfl⟩ := List.mem_mapIdx.mp member
    have number_small := inside
    rw [length_chunks] at number_small
    rw [← gsvBody_eq]
    exact (printed_gsvBody platform named (by omega) (by omega) (by omega)
      (length_le_of_mem_chunks (List.getElem_mem inside))).framed

theorem framed_generateSv (svStatus : GnssSvStatus) (data : LocEngData) :
    ∀ message ∈ givenSince data (generateSv platform svStatus locationExtended data),
      Framed message := by
  by_cases registered : data.nmea_cb
  · have sends := nmea_generateSv platform svStatus locationExtended registered
    rw [List.append_assoc] at sends
    rw [givenSince_eq sends]
    exact List.forall_mem_append.mpr
      ⟨framed_gsvReport printed_gpgsv .gps svStatus.within,
        framed_gsvReport printed_glgsv .glonass svStatus.within⟩
  · have silent := nmea_generateSv_unregistered platform svStatus locationExtended
      registered
    rw [givenSince_eq (silent.trans (List.append_nil _).symm)]
    exact fun _ member => nomatch member

theorem length_ggaHead
    (sea_level : locationExtended.has GPS_LOCATION_EXTENDED_HAS_ALTITUDE_MEAN_SEA_LEVEL)
    (svUsedCount : Nat) :
    (ggaHead platform tm data location locationExtended svUsedCount).length =
      10 + (timeText tm location).length + (positionText platform location).length +
        (qualityText data location locationExtended svUsedCount).length +
        (tenths locationExtended.altitudeMeanSeaLevel).length := by
  have name : "GPGGA,".toList.length = 6 := rfl
  have unit : ",M,".toList.length = 3 := rfl
  unfold ggaHead altitudeText
  rw [if_pos sea_level]
  simp only [List.length_append, List.flatten_cons, List.flatten_nil, List.length_cons,
    List.length_nil, name, unit]
  omega

/-- The room for the last field, which is short unless there are both altitudes. -/
theorem fields_fit_iff :
    (ggaHead platform tm data location locationExtended
          (svUsed 0 data.gps_used_mask).length).length +
        (geoidText location locationExtended).length ≤ 193 ↔
      (location.has GPS_LOCATION_HAS_ALTITUDE →
        locationExtended.has GPS_LOCATION_EXTENDED_HAS_ALTITUDE_MEAN_SEA_LEVEL →
        fieldsWidth platform tm data location locationExtended ≤ 179) := by
  have few : (svUsed 0 data.gps_used_mask).length < 10 ^ 2 :=
    Nat.lt_of_le_of_lt (length_svUsed_le 0 _) (by decide)
  have head := (printed_ggaHead platform location locationExtended tm data few).short
  have blank : ",,,".toList.length = 3 := rfl
  unfold geoidText
  by_cases altitude : location.has GPS_LOCATION_HAS_ALTITUDE
  · by_cases sea_level : locationExtended.has GPS_LOCATION_EXTENDED_HAS_ALTITUDE_MEAN_SEA_LEVEL
    · have both : (location.has GPS_LOCATION_HAS_ALTITUDE &&
          locationExtended.has GPS_LOCATION_EXTENDED_HAS_ALTITUDE_MEAN_SEA_LEVEL) = true := by
        rw [altitude, sea_level]
        rfl
      have unit : ",M,,".toList.length = 4 := rfl
      rw [if_pos both, List.length_append, unit, length_ggaHead sea_level,
        imp_iff_right altitude, imp_iff_right sea_level]
      unfold fieldsWidth
      omega
    · rw [if_neg (fun both => sea_level (Bool.and_eq_true_iff.mp both).2), blank]
      exact iff_of_true (by omega) fun _ set => absurd set sea_level
  · rw [if_neg (fun both => altitude (Bool.and_eq_true_iff.mp both).1), blank]
    exact iff_of_true (by omega) fun set => absurd set altitude

/-- Whatever else is printed, a difference of the altitudes of 44 digits fits. -/
theorem fieldsFit_of_small
    (small : ∀ negative significand exponent,
      (location.altitude.sub locationExtended.altitudeMeanSeaLevel.promote).value =
          .finite negative significand exponent →
        numerator significand exponent ≤ (10 ^ 44 - 1) * denominator exponent)
    (generate_nmea : Bool) (data : LocEngData) :
    FieldsFit platform location locationExtended generate_nmea data := by
  intro _ _ tm _ _ _
  have few : (svUsed 0 data.gps_used_mask).length < 10 ^ 2 :=
    Nat.lt_of_le_of_lt (length_svUsed_le 0 _) (by decide)
  have time := (printed_timeText location tm).short
  have position := (printed_positionText platform location).short
  have quality := (printed_qualityText location locationExtended data few).short
  have sea_level := (printed_tenths locationExtended.altitudeMeanSeaLevel).short
  have difference := length_fixed_le _ 44 (Nat.one_pos) (by decide) small (by decide)
  unfold fieldsWidth
  omega

theorem generatePos_undated (undated : platform.gmtime (location.timestamp.tdiv 1000) = none)
    (generate_nmea : Bool) :
    generatePos platform location locationExtended generate_nmea data = data := by
  unfold generatePos
  rw [undated]

theorem nmea_generatePos_unregistered (platform : Platform) (location : GpsLocation)
    (locationExtended : GpsLocationExtended) (unregistered : ¬data.nmea_cb) (generate_nmea : Bool) :
    (generatePos platform location locationExtended generate_nmea data).nmea = data.nmea := by
  cases dated : platform.gmtime (location.timestamp.tdiv 1000) with
  | none => rw [generatePos_undated dated]
  | some tm =>
      cases generate_nmea with
      | false =>
          rw [generatePos_blank dated]
          exact LocEngData.nmea_sends_unregistered _ unregistered _
      | true =>
          obtain ⟨rest, sends, -⟩ := generatePos_sends locationExtended data dated
          rw [sends]
          exact LocEngData.nmea_sends_unregistered
            { data with gps_used_mask := 0, glo_used_mask := 0 } unregistered _

theorem framed_blankSentences : ∀ message ∈ blankSentences.map fun text => framed text.tail,
    Framed message := by
  intro message member
  obtain ⟨text, among, rfl⟩ := List.mem_map.mp member
  have all : ∀ text ∈ blankSentences,
      text.tail.length ≤ 193 ∧ text.tail.all fun c => Plain c := by
    decide
  obtain ⟨short, plain⟩ := all text among
  exact (Printed.literal short plain).framed

/-- The messages of a fix with a date, when they are heard. -/
theorem framed_fix_iff (registered : data.nmea_cb)
    (dated : platform.gmtime (location.timestamp.tdiv 1000) = some tm) :
    (∀ message ∈ givenSince data (generatePos platform location locationExtended true data),
        Framed message) ↔
      (ggaHead platform tm data location locationExtended
          (svUsed 0 data.gps_used_mask).length).length +
        (geoidText location locationExtended).length ≤ 193 := by
  have dops := printed_dopText locationExtended data
  obtain ⟨gsa, -⟩ := complete_gpgsa data.gps_used_mask dops
  obtain ⟨gngsa, -⟩ := complete_gngsa data.glo_used_mask dops
  obtain ⟨rest, sends, rest_iff⟩ := generatePos_sends locationExtended data dated
  have heard : (generatePos platform location locationExtended true data).nmea = data.nmea ++ _ :=
    (congrArg LocEngData.nmea sends).trans (LocEngData.nmea_sends
      { data with gps_used_mask := 0, glo_used_mask := 0 } registered _)
  rw [givenSince_eq heard, List.forall_mem_cons, List.forall_mem_cons, and_iff_right gsa.framed,
    and_iff_right gngsa.framed]
  exact rest_iff

theorem framed_generatePos_iff (generate_nmea : Bool) :
    (∀ message ∈ givenSince data
        (generatePos platform location locationExtended generate_nmea data), Framed message) ↔
      FieldsFit platform location locationExtended generate_nmea data := by
  by_cases registered : data.nmea_cb
  · cases dated : platform.gmtime (location.timestamp.tdiv 1000) with
    | none =>
        rw [generatePos_undated dated, givenSince_eq (List.append_nil _).symm]
        refine iff_of_true (fun _ member => nomatch member) ?_
        intro _ _ tm found
        exact nomatch dated.symm.trans found
    | some tm =>
        cases generate_nmea with
        | false =>
            have heard : (generatePos platform location locationExtended false data).nmea =
                data.nmea ++ _ :=
              (congrArg LocEngData.nmea (generatePos_blank dated)).trans
                (LocEngData.nmea_sends _ registered _)
            rw [givenSince_eq heard]
            exact iff_of_true framed_blankSentences fun _ final => nomatch final
        | true =>
            rw [framed_fix_iff registered dated, fields_fit_iff]
            constructor
            · intro fits _ _ other found
              cases Option.some.inj (dated.symm.trans found)
              exact fits
            · intro fits
              exact fits registered rfl tm dated
  · have silent := nmea_generatePos_unregistered platform location locationExtended registered
      generate_nmea
    rw [givenSince_eq (silent.trans (List.append_nil _).symm)]
    exact iff_of_true (fun _ member => nomatch member) fun set => absurd set registered

/-- All that is sent is framed, but for a `$GPGGA` with no room for its last field. -/
theorem nmea_framed_iff (platform : Platform) (location : GpsLocation)
    (locationExtended svExtended : GpsLocationExtended) (svStatus : GnssSvStatus)
    (generate_nmea : Bool) (data svData : LocEngData) :
    ((∀ message ∈ givenSince svData (generateSv platform svStatus svExtended svData),
        Framed message) ∧
      (∀ message ∈ givenSince data
        (generatePos platform location locationExtended generate_nmea data), Framed message)) ↔
      FieldsFit platform location locationExtended generate_nmea data := by
  rw [and_iff_right (framed_generateSv svStatus svData)]
  exact framed_generatePos_iff generate_nmea

/-- An altitude of 199 digits. -/
def remote : GpsLocation :=
  { unlocated with
    flags := GPS_LOCATION_HAS_ALTITUDE
    altitude := ⟨.finite false 1 660, by decide +kernel⟩ }

def seaLevel : GpsLocationExtended :=
  { unextended with flags := GPS_LOCATION_EXTENDED_HAS_ALTITUDE_MEAN_SEA_LEVEL }

theorem gpgga_overrun :
    ∃ message ∈ givenSince idle (generatePos epoch remote seaLevel true idle),
      message.1.length = 199 ∧ message.2 = 204 ∧ ¬Framed message := by
  have found : ∃ message ∈ givenSince idle (generatePos epoch remote seaLevel true idle),
      message.1.length = 199 ∧ message.2 = 204 := by
    decide +kernel
  obtain ⟨message, given, length, passed⟩ := found
  refine ⟨message, given, length, passed, ?_⟩
  rintro ⟨_, _, _, -, -, -, -, -, same, -⟩
  omega

end A5Common.Nmea
