import A5Common.Nmea.Position
import A5Common.Nmea.Printed

set_option autoImplicit false

namespace A5Common.Nmea

open A5Common.Number

theorem printed_tenths (x : Single) : Printed 42 (tenths x) :=
  ⟨length_fixed_promote_le x, fun c member => plain_of_numeral (numeral_fixed 1 _ c member)⟩

theorem printed_minutes (x : Double) : Printed 10 (minutes x) :=
  ⟨length_zeroFixed_fmod_le 60 _ _ (by decide) _,
    fun c member => plain_of_numeral (numeral_zeroFixed 9 6 _ c member)⟩

variable (platform : Platform) (location : GpsLocation)
  (locationExtended : GpsLocationExtended) (tm : Tm) (data : LocEngData)

theorem printed_dopText : Printed 128 (dopText data locationExtended) := by
  have three (x y z : Single) :
      Printed (42 + (42 + 1) + (42 + 1)) (tenths x ++ ',' :: tenths y ++ ',' :: tenths z) :=
    ((printed_tenths x).append ((printed_tenths y).cons plain_comma)).append
      ((printed_tenths z).cons plain_comma)
  unfold dopText
  split
  · exact three _ _ _
  · split
    · exact three _ _ _
    · exact .literal (by decide) (by decide)

theorem printed_byte (x : Double) {width : Nat} (at_most : width ≤ 3) :
    Printed 3 (decimal width (platform.toByte x)) :=
  (printed_natural width 3 (by decide) (platform.toByte_lt x)).mono
    (Nat.max_le.mpr ⟨at_most, Nat.le_refl 3⟩)

theorem printed_positionText : Printed 32 (positionText platform location) := by
  have coordinate (x : Double) {width : Nat} (at_most : width ≤ 3) {c : Char} (plain : Plain c) :
      Printed (3 + 10 + 3)
        (decimal width (platform.toByte x) ++ minutes x ++ [',', c, ',']) :=
    ((printed_byte platform x at_most).append (printed_minutes x)).append
      (printed_letter plain)
  unfold positionText
  split
  · dsimp only
    split <;> split <;> dsimp only <;>
      exact (coordinate _ (by decide) (by decide)).append (coordinate _ (by decide) (by decide))
  · exact .literal (by decide) (by decide)

theorem printed_timeText : Printed 10 (timeText tm location) := by
  have two {n : Nat} (small : n < 10 ^ 2) : Printed 2 (decimal 2 n) :=
    printed_natural 2 2 (by decide) small
  have hundredths : ((location.timestamp.tmod 1000).tdiv 10).natAbs < 10 ^ 2 := by
    rw [Int.natAbs_tdiv, Int.natAbs_tmod]
    change location.timestamp.natAbs % 1000 / 10 < 100
    omega
  have point : Plain '.' := by decide
  exact (((two (by omega)).append (two (by omega))).append (two (by omega))).append
    ((printed_decimal 2 2 (by decide) hundredths).cons point)

theorem printed_magneticText : Printed 45 (magneticText locationExtended) := by
  have signed (x : Single) {c : Char} (plain : Plain c) :
      Printed (42 + 3) (tenths x ++ [',', c, ',']) :=
    (printed_tenths x).append (printed_letter plain)
  unfold magneticText
  split
  · dsimp only
    split <;> dsimp only <;> exact signed _ (by decide)
  · exact .literal (by decide) (by decide)

theorem plain_fixQuality {none autonomous differential : Char} (plain_none : Plain none)
    (plain_autonomous : Plain autonomous) (plain_differential : Plain differential) :
    Plain (fixQuality data location none autonomous differential) := by
  unfold fixQuality
  split
  · exact plain_none
  · split
    · exact plain_autonomous
    · exact plain_differential

/-- The letter that ends `$GPVTG` and `$GPRMC`. -/
theorem printed_mode : Printed 1 [fixQuality data location 'N' 'A' 'D'] :=
  Printed.nil.cons (plain_fixQuality location data (by decide) (by decide) (by decide))

theorem printed_dateText : Printed 10 (dateText tm) := by
  have day := tm.tm_mday.isLt
  have month := tm.tm_mon.isLt
  have year : (tm.tm_year.tmod 100).natAbs < 10 ^ 2 := by
    rw [Int.natAbs_tmod]
    exact Nat.mod_lt _ (by decide)
  exact (((printed_precise 2 2 (by decide) (by omega)).append
    (printed_precise 2 2 (by decide) (by omega))).append
      (printed_precise 2 2 (by decide) year)).append printed_comma

theorem printed_altitudeText : Printed 45 (altitudeText locationExtended) := by
  have unit : Printed 3 ",M,".toList := .literal (by decide) (by decide)
  unfold altitudeText
  split
  · exact (printed_tenths _).append unit
  · exact .literal (by decide) (by decide)

theorem printed_qualityText {svUsedCount : Nat} (few : svUsedCount < 10 ^ 2) :
    Printed 48 (qualityText data location locationExtended svUsedCount) := by
  have dilution : Printed 42 (if locationExtended.has GPS_LOCATION_EXTENDED_HAS_DOP then
      tenths locationExtended.hdop else if data.dopCached then tenths data.hdop else []) := by
    split
    · exact printed_tenths _
    · split
      · exact printed_tenths _
      · exact Printed.nil.mono (by decide)
  have quality : Plain (fixQuality data location '0' '1' '2') :=
    plain_fixQuality location data (by decide) (by decide) (by decide)
  exact (((printed_comma.cons quality).append
    (printed_natural 2 2 (by decide) few)).append (dilution.cons plain_comma)).append
      printed_comma

def Sentence.message (sentence : Sentence) : Message :=
  putChecksum sentence.text NMEA_SENTENCE_MAX_LENGTH

/-- A sentence that is complete, with the room that its checksum takes. -/
def Complete (body : List Char) (sentence : Option Sentence) : Prop :=
  Printed 193 body ∧ ∃ made, sentence = some made ∧ made.message = framed body

theorem complete_compose (head : List Char) {checked : List (List Char)} {last : List Char}
    (printed : Printed 193 (head ++ checked.flatten ++ last)) :
    Complete (head ++ checked.flatten ++ last) (compose (('$' :: head) :: checked) last) := by
  have room := Nat.add_lt_add_right (Nat.lt_succ_of_le printed.short) 6
  have whole : (('$' :: head) :: checked).flatten ++ last =
      '$' :: (head ++ checked.flatten ++ last) := by
    rw [List.flatten_cons, List.cons_append, List.cons_append]
  obtain ⟨made, some, text⟩ := compose_framed whole room
  refine ⟨printed, made, some, ?_⟩
  unfold Sentence.message
  rw [text, putChecksum_eq room]

/-- The body of a `GSA` sentence. -/
def gsaBody (talker : List Char) (svUsedList : List Nat) (dops : List Char) : List Char :=
  talker ++ [fixType svUsedList.length, ','] ++
    ((List.range 12).map (svPlace svUsedList)).flatten ++ dops

theorem plain_fixType (svUsedCount : Nat) : Plain (fixType svUsedCount) := by
  unfold fixType
  split
  · decide
  · split <;> decide

theorem printed_svPlace {svUsedList : List Nat} (small : ∀ id ∈ svUsedList, id < 10 ^ 2) (i : Nat) :
    Printed 3 (svPlace svUsedList i) := by
  unfold svPlace
  split
  · rename_i id found
    exact (printed_natural 2 2 (by decide)
      (small id (List.mem_of_getElem? found))).append printed_comma
  · exact printed_comma.mono (by decide)

theorem complete_gsa {talker : List Char} (short : Printed 8 talker) {svUsedList : List Nat}
    (small : ∀ id ∈ svUsedList, id < 10 ^ 2) {dops : List Char} (printed : Printed 128 dops) :
    Complete (gsaBody talker svUsedList dops) (gsa ('$' :: talker) svUsedList dops) := by
  have places : Printed (12 * 3) ((List.range 12).map (svPlace svUsedList)).flatten := by
    have flat := Printed.flatten ((List.range 12).map (svPlace svUsedList))
      (List.forall_mem_map.mpr fun i _ => printed_svPlace small i)
    rw [List.length_map, List.length_range] at flat
    exact flat
  have head : Printed (8 + (0 + 1 + 1)) (talker ++ [fixType svUsedList.length, ',']) :=
    short.append (printed_comma.cons (plain_fixType _))
  exact complete_compose _ (((head.append places).append printed).mono (by decide))

theorem complete_gpgsa (mask : BitVec 32) {dops : List Char} (printed : Printed 128 dops) :
    Complete (gsaBody "GPGSA,A,".toList (svUsed 0 mask) dops) (gpgsa (svUsed 0 mask) dops) :=
  complete_gsa (.literal (by decide) (by decide))
    (fun _ member => Nat.lt_of_le_of_lt (le_of_mem_svUsed member) (by decide)) printed

theorem complete_gngsa (mask : BitVec 32) {dops : List Char} (printed : Printed 128 dops) :
    Complete (gsaBody "GNGSA,A,".toList (svUsed GLONASS_SV_ID_OFFSET mask) dops)
      (gngsa (svUsed GLONASS_SV_ID_OFFSET mask) dops) :=
  complete_gsa (.literal (by decide) (by decide))
    (fun _ member => Nat.lt_of_le_of_lt (le_of_mem_svUsed member) (by decide)) printed

theorem complete_gpvtg : ∃ body, Complete body (gpvtg data location) := by
  have speed : Printed 90 (if location.has GPS_LOCATION_HAS_SPEED then
      tenths (speedKnots location) ++ ",N,".toList ++ tenths (speedKmPerHour location) ++
        ",K,".toList
      else ",N,,K,".toList) := by
    split
    · exact (((printed_tenths _).append (printed_letter (c := 'N') (by decide))).append
        (printed_tenths _)).append (printed_letter (c := 'K') (by decide))
    · exact .literal (by decide) (by decide)
  have mode := printed_mode location data
  have name : Printed 6 "GPVTG,".toList := .literal (by decide) (by decide)
  unfold gpvtg
  by_cases bearing : location.has GPS_LOCATION_HAS_BEARING
  · have head : Printed (6 + 42 + 3 + 42 + 3) ("GPVTG,".toList ++ tenths location.bearing ++
        ",T,".toList ++ tenths location.bearing ++ ",M,".toList) :=
      (((name.append (printed_tenths _)).append (printed_letter (c := 'T') (by decide))).append
        (printed_tenths _)).append (printed_letter (c := 'M') (by decide))
    rw [if_pos bearing]
    exact ⟨_, complete_compose _
      (((head.append (speed.append Printed.nil)).append mode).mono (by decide))⟩
  · have head : Printed 12 "GPVTG,,T,,M,".toList := .literal (by decide) (by decide)
    rw [if_neg bearing]
    exact ⟨_, complete_compose _
      (((head.append (speed.append Printed.nil)).append mode).mono (by decide))⟩

theorem complete_gprmc :
    ∃ body, Complete body (gprmc platform tm data location locationExtended) := by
  have name : Printed 6 "GPRMC,".toList := .literal (by decide) (by decide)
  have valid : Printed 3 ",A,".toList := .literal (by decide) (by decide)
  have optional (given : Bool) (x : Single) :
      Printed 43 (if given then tenths x ++ [','] else [',']) := by
    split
    · exact (printed_tenths x).append printed_comma
    · exact printed_comma.mono (by decide)
  have fields := (printed_positionText platform location).append
    ((optional (location.has GPS_LOCATION_HAS_SPEED) (speedKnots location)).append
      ((optional (location.has GPS_LOCATION_HAS_BEARING) location.bearing).append
        ((printed_dateText tm).append
          ((printed_magneticText locationExtended).append Printed.nil))))
  exact ⟨_, complete_compose ("GPRMC,".toList ++ timeText tm location ++ ",A,".toList)
    (((((name.append (printed_timeText location tm)).append valid).append fields).append
      (printed_mode location data)).mono (by decide))⟩

/-- The checked fields of `$GPGGA`. -/
def ggaHead (platform : Platform) (tm : Tm) (data : LocEngData) (location : GpsLocation)
    (locationExtended : GpsLocationExtended) (svUsedCount : Nat) : List Char :=
  "GPGGA,".toList ++ timeText tm location ++ [','] ++
    [positionText platform location,
      qualityText data location locationExtended svUsedCount,
      altitudeText locationExtended].flatten

theorem printed_ggaHead {svUsedCount : Nat} (few : svUsedCount < 10 ^ 2) :
    Printed 142 (ggaHead platform tm data location locationExtended svUsedCount) := by
  have name : Printed 6 "GPGGA,".toList := .literal (by decide) (by decide)
  exact ((name.append (printed_timeText location tm)).append printed_comma).append
    ((printed_positionText platform location).append
      ((printed_qualityText location locationExtended data few).append
        ((printed_altitudeText locationExtended).append Printed.nil)))

theorem plain_geoidText : ∀ c ∈ geoidText location locationExtended, Plain c := by
  have unit : Printed 4 ",M,,".toList := .literal (by decide) (by decide)
  have blank : Printed 3 ",,,".toList := .literal (by decide) (by decide)
  unfold geoidText
  split
  · exact List.forall_mem_append.mpr
      ⟨fun c member => plain_of_numeral (numeral_fixed 1 _ c member), unit.plain⟩
  · exact blank.plain

/-- A last print that is not checked is cut where the buffer ends. -/
theorem compose_cut (head : List Char) {checked : List (List Char)}
    (room : (head ++ checked.flatten).length < 199) (last : List Char) :
    ∃ made, compose (('$' :: head) :: checked) last = some made ∧
      made.text = '$' :: (head ++ checked.flatten) ++
        last.take (198 - (head ++ checked.flatten).length) := by
  have flat : (('$' :: head) :: checked).flatten = '$' :: (head ++ checked.flatten) := by
    rw [List.flatten_cons, List.cons_append]
  have fits : (('$' :: head) :: checked).flatten.length < NMEA_SENTENCE_MAX_LENGTH := by
    rw [flat, List.length_cons]
    exact Nat.succ_lt_succ room
  have remaining : NMEA_SENTENCE_MAX_LENGTH - ((head ++ checked.flatten).length + 1) - 1 =
      198 - (head ++ checked.flatten).length := by
    unfold NMEA_SENTENCE_MAX_LENGTH
    omega
  refine ⟨_, compose_eq fits last, ?_⟩
  unfold Sentence.snprintf Sentence.lengthRemaining
  dsimp only
  rw [flat, List.length_cons, remaining]

/-- Whether the last print leaves room for the checksum decides whether `$GPGGA` is framed. -/
theorem gpgga_message {svUsedCount : Nat} (few : svUsedCount < 10 ^ 2) :
    ∃ made, gpgga platform tm data location locationExtended svUsedCount = some made ∧
      (Framed made.message ↔
        (ggaHead platform tm data location locationExtended svUsedCount).length +
          (geoidText location locationExtended).length ≤ 193) := by
  have head := printed_ggaHead platform location locationExtended tm data few
  by_cases room : (ggaHead platform tm data location locationExtended svUsedCount).length +
      (geoidText location locationExtended).length ≤ 193
  · have body : Printed 193 (ggaHead platform tm data location locationExtended svUsedCount ++
        geoidText location locationExtended) :=
      ⟨by rw [List.length_append]; exact room, List.forall_mem_append.mpr
        ⟨head.plain, plain_geoidText location locationExtended⟩⟩
    obtain ⟨-, made, some, message⟩ := complete_compose _ body
    exact ⟨made, some, iff_of_true (message ▸ body.framed) room⟩
  · obtain ⟨made, some, text⟩ := compose_cut
      ("GPGGA,".toList ++ timeText tm location ++ [','])
      (Nat.lt_of_le_of_lt head.short (by decide)) (geoidText location locationExtended)
    refine ⟨made, some, iff_of_false (putChecksum_not_framed ?_) room⟩
    have short := head.short
    rw [text, List.length_append, List.length_cons, List.length_take]
    change 200 ≤ (ggaHead platform tm data location locationExtended svUsedCount).length + 1 +
      min (198 - (ggaHead platform tm data location locationExtended svUsedCount).length) _ + 5
    omega

theorem LocEngData.sendOr_some (data : LocEngData) {sentence : Option Sentence} {made : Sentence}
    (complete : sentence = some made) (next : LocEngData → LocEngData) :
    data.sendOr sentence next =
      next { data with nmea := data.nmea ++ if data.nmea_cb then [made.message] else [] } := by
  rw [complete]
  exact congrArg next (data.send_eq _)

variable {platform : Platform} {location : GpsLocation} {locationExtended : GpsLocationExtended}
  {tm : Tm} {data : LocEngData}

/-- A report of a fix sends its five sentences, when they are all complete. -/
theorem generatePos_eq (dated : platform.gmtime (location.timestamp.tdiv 1000) = some tm)
    {gsa glonass vtg rmc gga : Sentence}
    (gsa_made : gpgsa (svUsed 0 data.gps_used_mask) (dopText data locationExtended) = some gsa)
    (glonass_made : gngsa (svUsed GLONASS_SV_ID_OFFSET data.glo_used_mask)
      (dopText data locationExtended) = some glonass)
    (vtg_made : gpvtg data location = some vtg)
    (rmc_made : gprmc platform tm data location locationExtended = some rmc)
    (gga_made : gpgga platform tm data location locationExtended
      (svUsed 0 data.gps_used_mask).length = some gga) :
    generatePos platform location locationExtended true data =
      (({ data with gps_used_mask := 0, glo_used_mask := 0 } : LocEngData).sends
        [gsa.message, glonass.message, vtg.message, rmc.message, gga.message]).setDop
        zero zero zero := by
  rw [LocEngData.sends_eq]
  unfold generatePos
  rw [dated]
  dsimp only
  rw [if_pos rfl]
  refine (LocEngData.sendOr_some _ gsa_made _).trans ?_
  refine (LocEngData.sendOr_some _ glonass_made _).trans ?_
  refine (LocEngData.sendOr_some _ vtg_made _).trans ?_
  refine (LocEngData.sendOr_some _ rmc_made _).trans ?_
  refine (LocEngData.sendOr_some _ gga_made _).trans ?_
  unfold LocEngData.setDop
  dsimp only
  by_cases registered : data.nmea_cb
  · simp only [if_pos registered, List.append_assoc]
    rfl
  · simp only [if_neg registered, List.append_nil]

/-- The messages of a report of a fix: those of `GSA`, and three of which the last may fail. -/
theorem generatePos_sends (locationExtended : GpsLocationExtended) (data : LocEngData)
    (dated : platform.gmtime (location.timestamp.tdiv 1000) = some tm) :
    ∃ rest,
      generatePos platform location locationExtended true data =
        (({ data with gps_used_mask := 0, glo_used_mask := 0 } : LocEngData).sends
          (framed (gsaBody "GPGSA,A,".toList (svUsed 0 data.gps_used_mask)
              (dopText data locationExtended)) ::
            framed (gsaBody "GNGSA,A,".toList (svUsed GLONASS_SV_ID_OFFSET data.glo_used_mask)
              (dopText data locationExtended)) :: rest)).setDop zero zero zero ∧
      ((∀ message ∈ rest, Framed message) ↔
        (ggaHead platform tm data location locationExtended
          (svUsed 0 data.gps_used_mask).length).length +
          (geoidText location locationExtended).length ≤ 193) := by
  have dops := printed_dopText locationExtended data
  obtain ⟨-, gsa, gsa_made, gsa_message⟩ := complete_gpgsa data.gps_used_mask dops
  obtain ⟨-, glonass, glonass_made, glonass_message⟩ := complete_gngsa data.glo_used_mask dops
  obtain ⟨_, vtg_printed, vtg, vtg_made, vtg_message⟩ := complete_gpvtg location data
  obtain ⟨_, rmc_printed, rmc, rmc_made, rmc_message⟩ :=
    complete_gprmc platform location locationExtended tm data
  obtain ⟨gga, gga_made, gga_framed⟩ := gpgga_message platform location locationExtended tm data
    (Nat.lt_of_le_of_lt (length_svUsed_le 0 data.gps_used_mask) (by decide))
  refine ⟨[vtg.message, rmc.message, gga.message], ?_, ?_⟩
  · rw [← gsa_message, ← glonass_message]
    exact generatePos_eq dated gsa_made glonass_made vtg_made rmc_made gga_made
  · rw [List.forall_mem_cons, List.forall_mem_cons, List.forall_mem_singleton,
      and_iff_right (vtg_message ▸ vtg_printed.framed),
      and_iff_right (rmc_message ▸ rmc_printed.framed)]
    exact gga_framed

theorem foldl_sendText {texts : List (List Char)}
    (short : ∀ text ∈ texts, text.head? = some '$' ∧ text.length ≤ 194) (data : LocEngData) :
    texts.foldl LocEngData.sendText data =
      data.sends (texts.map fun text => framed text.tail) := by
  induction texts generalizing data with
  | nil => rfl
  | cons text texts ih =>
      obtain ⟨⟨dollar, length⟩, others⟩ := List.forall_mem_cons.mp short
      obtain ⟨body, rfl⟩ := List.head?_eq_some_iff.mp dollar
      rw [List.length_cons] at length
      have room : body.length + 6 < NMEA_SENTENCE_MAX_LENGTH :=
        Nat.add_lt_add_right (Nat.lt_succ_of_le (Nat.le_of_succ_le_succ length)) 6
      rw [List.foldl_cons, data.sendText_eq room, ih others]
      rfl

/-- A report of a fix that is not final sends the blank sentences. -/
theorem generatePos_blank (dated : platform.gmtime (location.timestamp.tdiv 1000) = some tm) :
    generatePos platform location locationExtended false data =
      (data.sends (blankSentences.map fun text => framed text.tail)).setDop zero zero zero := by
  have short : ∀ text ∈ blankSentences, text.head? = some '$' ∧ text.length ≤ 194 := by decide
  unfold generatePos
  rw [dated]
  dsimp only
  rw [if_neg Bool.false_ne_true, foldl_sendText short]

end A5Common.Nmea
