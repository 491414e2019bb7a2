import A5Common.Nmea.Gsv
import A5Common.Nmea.Sendable

set_option autoImplicit false

namespace A5Common.Nmea

open A5Common.Number

/-- The ids of the satellites of a constellation that are used, each once and ascending. -/
def UsedIds (constellation : GnssConstellationType) (svs : List GnssSvInfo) (ids : List Nat) :
    Prop :=
  ids.Pairwise (· < ·) ∧ ∀ id : Nat, id ∈ ids ↔
    ∃ sv ∈ svs, sv.constellation = constellation ∧ sv.usedInFix ∧ sv.svid.toInt = id

/-- The fields of so many places: the first satellites, and blanks for the others. -/
def places (count : Nat) (ids : List Nat) : List (List Char) :=
  (ids.take count).map (fun id : Nat => decimal 2 id) ++ List.replicate (count - ids.length) []

/-- A message with twelve places, the type of the fix in front of them and three dilutions
behind them, that lists satellites. -/
def Lists (talker : List Char) (ids : List Nat) (message : Message) : Prop :=
  ∃ fix pdop hdop vdop,
    message = ofFields ([talker, ['A'], [fix]] ++ places 12 ids ++ [pdop, hdop, vdop]) ∧
    (∀ dop ∈ [pdop, hdop, vdop], ',' ∉ dop) ∧
    (ids.length = 0 → fix = '1') ∧ (1 ≤ ids.length → ids.length ≤ 3 → fix = '2') ∧
    (4 ≤ ids.length → fix = '3')

theorem intercalate_append (front : List (List Char)) {last : List (List Char)}
    (some_last : last ≠ []) :
    [','].intercalate (front ++ last) = front.flatMap (· ++ [',']) ++ [','].intercalate last := by
  induction front with
  | nil => rfl
  | cons first front ih =>
      rw [List.cons_append, List.intercalate_cons_of_ne_nil (List.append_ne_nil_of_right_ne_nil _
        some_last), ih, List.flatMap_cons]
      simp only [List.append_assoc]

/-- Each place is printed with a comma behind it. -/
theorem flatten_svPlace (ids : List Nat) (count : Nat) :
    ((List.range count).map (svPlace ids)).flatten = (places count ids).flatMap (· ++ [',']) := by
  induction count generalizing ids with
  | zero =>
      unfold places
      rw [List.take_zero, Nat.zero_sub]
      rfl
  | succ count ih =>
      rw [List.range_succ_eq_map, List.map_cons, List.map_map, List.flatten_cons]
      cases ids with
      | nil =>
          have tail := ih []
          unfold places at tail ⊢
          rw [List.take_nil, List.map_nil, List.nil_append] at tail ⊢
          exact congrArg (',' :: ·) tail
      | cons id ids =>
          have tail := ih ids
          unfold places at tail ⊢
          rw [List.take_succ_cons, List.map_cons, List.length_cons, Nat.succ_sub_succ,
            List.cons_append, List.flatMap_cons]
          exact congrArg (decimal 2 id ++ [','] ++ ·) tail

theorem comma_not_mem_tenths (x : Single) : ',' ∉ tenths x := by
  intro member
  exact absurd (numeral_fixed 1 x.promote.value ',' member) (by unfold Numeral; decide)

theorem dopText_eq (data : LocEngData) (locationExtended : GpsLocationExtended) :
    ∃ pdop hdop vdop, dopText data locationExtended = [','].intercalate [pdop, hdop, vdop] ∧
      ∀ dop ∈ [pdop, hdop, vdop], ',' ∉ dop := by
  have three (x y z : Single) :
      tenths x ++ ',' :: tenths y ++ ',' :: tenths z =
          [','].intercalate [tenths x, tenths y, tenths z] ∧
        ∀ dop ∈ [tenths x, tenths y, tenths z], ',' ∉ dop := by
    refine ⟨?_, ?_⟩
    · rw [intercalate_cons]
      simp only [List.flatMap_cons, List.flatMap_nil, List.append_nil, List.append_assoc]
    · intro dop member
      simp only [List.mem_cons, List.not_mem_nil, or_false] at member
      rcases member with rfl | rfl | rfl <;> exact comma_not_mem_tenths _
  unfold dopText
  split
  · exact ⟨_, _, _, three _ _ _⟩
  · split
    · exact ⟨_, _, _, three _ _ _⟩
    · exact ⟨[], [], [], rfl, by decide⟩

theorem lists_gsaBody (talker : List Char) (ids : List Nat) {dops pdop hdop vdop : List Char}
    (three : dops = [','].intercalate [pdop, hdop, vdop])
    (plain : ∀ dop ∈ [pdop, hdop, vdop], ',' ∉ dop) :
    Lists talker ids (framed (gsaBody (talker ++ ",A,".toList) ids dops)) := by
  refine ⟨fixType ids.length, pdop, hdop, vdop, ?_, plain, ?_, ?_, ?_⟩
  · have head : [talker, ['A'], [fixType ids.length]].flatMap (· ++ [',']) =
        talker ++ ",A,".toList ++ [fixType ids.length, ','] := by
      simp only [List.flatMap_cons, List.flatMap_nil, List.append_nil, List.append_assoc]
      rfl
    unfold ofFields gsaBody
    rw [intercalate_append _ (List.cons_ne_nil _ _), List.flatMap_append, head, three,
      flatten_svPlace]
  · intro none
    exact if_pos none
  · intro some few
    unfold fixType
    rw [if_neg (by omega), if_pos few]
  · intro many
    unfold fixType
    rw [if_neg (by omega), if_neg (by omega)]

variable (platform : Platform)

theorem getLsbD_shiftOne {svid : Int} (first : 1 ≤ svid) (last : svid ≤ 32) {bit : Nat} :
    (platform.shiftOne (svid - 1)).getLsbD bit ↔ svid = bit + 1 := by
  unfold Platform.shiftOne
  rw [if_pos (by omega), ← BitVec.twoPow_eq, BitVec.getLsbD_twoPow, Bool.and_eq_true,
    decide_eq_true_eq, decide_eq_true_eq]
  omega

/-- Every satellite that is used puts its bit in the mask, and no other does. -/
theorem getLsbD_usedMasks {constellation : GnssConstellationType} {svs : List GnssSvInfo}
    (svids : ∀ sv ∈ svs, sv.constellation = constellation →
      1 ≤ sv.svid.toInt ∧ sv.svid.toInt ≤ 32) (mask : BitVec 32) (bit : Nat) :
    (usedMasks platform constellation svs mask).getLsbD bit ↔ mask.getLsbD bit ∨
      ∃ sv ∈ svs, sv.constellation = constellation ∧ sv.usedInFix ∧
        sv.svid.toInt = bit + 1 := by
  induction svs generalizing mask with
  | nil =>
      constructor
      · exact .inl
      · rintro (set | ⟨_, member, -⟩)
        · exact set
        · exact nomatch member
  | cons sv svs ih =>
      have rest := ih (fun other member => svids other (List.mem_cons_of_mem _ member))
      simp only [List.mem_cons, exists_eq_or_imp]
      by_cases same : sv.constellation = constellation
      · obtain ⟨first, last⟩ := svids sv List.mem_cons_self same
        rw [usedMasks_cons_same same, rest, and_iff_right same]
        unfold usedMask
        by_cases used : sv.usedInFix
        · rw [if_pos used, BitVec.getLsbD_or, Bool.or_eq_true,
            getLsbD_shiftOne platform first last, and_iff_right used, or_assoc]
        · have unused : ¬(sv.usedInFix ∧ sv.svid.toInt = bit + 1) := fun found => used found.1
          rw [if_neg used, or_iff_right unused]
      · have foreign : ¬(sv.constellation = constellation ∧ sv.usedInFix ∧
            sv.svid.toInt = bit + 1) := fun found => same found.1
        rw [usedMasks_cons_other same, rest, or_iff_right foreign]

/-- The list that is made of the mask is that of the satellites which went into it. -/
theorem usedIds_svUsed {constellation : GnssConstellationType} {svs : List GnssSvInfo}
    (svids : ∀ sv ∈ svs, sv.constellation = constellation →
      1 ≤ sv.svid.toInt ∧ sv.svid.toInt ≤ 32) :
    UsedIds constellation svs (svUsed 0 (usedMasks platform constellation svs 0)) := by
  rw [svUsed_eq]
  constructor
  · apply List.Pairwise.map (fun bit => bit + 1 + 0) (fun _ _ less => Nat.succ_lt_succ less)
    exact List.Pairwise.filter _ List.pairwise_lt_range
  · intro id
    rw [List.mem_map]
    constructor
    · rintro ⟨bit, member, rfl⟩
      obtain ⟨-, set⟩ := List.mem_filter.mp member
      rcases (getLsbD_usedMasks platform svids 0 bit).mp set with zero | found
      · exact nomatch (BitVec.getLsbD_zero (w := 32) (i := bit)).symm.trans zero
      · exact found
    · rintro ⟨sv, member, same, used, svid⟩
      obtain ⟨first, last⟩ := svids sv member same
      refine ⟨id - 1, List.mem_filter.mpr ⟨List.mem_range.mpr (by omega), ?_⟩, by omega⟩
      exact (getLsbD_usedMasks platform svids 0 _).mpr
        (.inr ⟨sv, member, same, used, by omega⟩)

theorem svUsed_offset (offset : Nat) (mask : BitVec 32) :
    svUsed offset mask = (svUsed 0 mask).map (· + offset) := by
  rw [svUsed_eq, svUsed_eq, List.map_map]
  rfl

theorem svUsed_zero (offset : Nat) : svUsed offset 0 = [] := rfl

/-- A report that sends a list of GPS and one of GLONASS satellites before anything else. -/
def Reports (before after : LocEngData) (gps glonass : List Nat) : Prop :=
  ∃ gsa gngsa rest, after.nmea = before.nmea ++ gsa :: gngsa :: rest ∧
    Lists "GPGSA".toList gps gsa ∧ Lists "GNGSA".toList glonass gngsa

variable {platform} {location : GpsLocation} {locationExtended : GpsLocationExtended} {tm : Tm}
  {data : LocEngData}

/-- A report of a fix lists the satellites of the masks. -/
theorem reports_fix (locationExtended : GpsLocationExtended) (registered : data.nmea_cb)
    (dated : platform.gmtime (location.timestamp.tdiv 1000) = some tm) :
    Reports data (generatePos platform location locationExtended true data)
      (svUsed 0 data.gps_used_mask) (svUsed GLONASS_SV_ID_OFFSET data.glo_used_mask) := by
  obtain ⟨rest, sends, -⟩ := generatePos_sends locationExtended data dated
  have heard := LocEngData.nmea_sends { data with gps_used_mask := 0, glo_used_mask := 0 }
    registered
  obtain ⟨_, _, _, three, plain⟩ := dopText_eq data locationExtended
  rw [sends]
  exact ⟨_, _, rest, heard _, lists_gsaBody _ _ three plain, lists_gsaBody _ _ three plain⟩

/-- The masks are used once. -/
theorem masks_generatePos (locationExtended : GpsLocationExtended) (data : LocEngData)
    (dated : platform.gmtime (location.timestamp.tdiv 1000) = some tm) :
    (generatePos platform location locationExtended true data).nmea_cb = data.nmea_cb ∧
      (generatePos platform location locationExtended true data).gps_used_mask = 0 ∧
      (generatePos platform location locationExtended true data).glo_used_mask = 0 := by
  obtain ⟨rest, sends, -⟩ := generatePos_sends locationExtended data dated
  rw [sends, LocEngData.sends_eq]
  exact ⟨rfl, rfl, rfl⟩

/-- With empty masks a report lists nothing, whether its fix is final or not. -/
theorem reports_none (registered : data.nmea_cb) (gps_empty : data.gps_used_mask = 0)
    (glonass_empty : data.glo_used_mask = 0)
    (dated : platform.gmtime (location.timestamp.tdiv 1000) = some tm) (generate_nmea : Bool) :
    Reports data (generatePos platform location locationExtended generate_nmea data) [] [] := by
  cases generate_nmea with
  | true =>
      have lists := reports_fix locationExtended registered dated
      rw [gps_empty, glonass_empty, svUsed_zero, svUsed_zero] at lists
      exact lists
  | false =>
      rw [generatePos_blank dated]
      have three : ",,".toList = [','].intercalate [[], [], []] := rfl
      exact ⟨_, _, _, LocEngData.nmea_sends _ registered _,
        lists_gsaBody _ [] three (by decide), lists_gsaBody _ [] three (by decide)⟩

theorem masks_generateSv (platform : Platform) (svStatus : GnssSvStatus)
    (locationExtended : GpsLocationExtended) (data : LocEngData) :
    let cached := generateSv platform svStatus locationExtended data
    cached.nmea_cb = data.nmea_cb ∧
      cached.gps_used_mask = usedMasks platform .gps svStatus.svs 0 ∧
      cached.glo_used_mask = usedMasks platform .glonass svStatus.svs 0 := by
  dsimp only
  rw [generateSv_eq, LocEngData.sends_eq, LocEngData.sends_eq]
  unfold cacheDop
  split <;> exact ⟨rfl, rfl, rfl⟩

/-- A fix after a report of satellites lists those that are used, and a second fix lists none. -/
theorem gsa_lists_used (svStatus : GnssSvStatus) (registered : data.nmea_cb)
    (svids : ∀ sv ∈ svStatus.svs, sv.constellation = .gps ∨ sv.constellation = .glonass →
      1 ≤ sv.svid.toInt ∧ sv.svid.toInt ≤ 32)
    (dated : platform.gmtime (location.timestamp.tdiv 1000) = some tm)
    {later : GpsLocation} {laterTm : Tm}
    (later_dated : platform.gmtime (later.timestamp.tdiv 1000) = some laterTm)
    (svExtended laterExtended : GpsLocationExtended) (later_nmea : Bool) :
    let cached := generateSv platform svStatus svExtended data
    let reported := generatePos platform location locationExtended true cached
    let again := generatePos platform later laterExtended later_nmea reported
    ∃ gps glonass, UsedIds .gps svStatus.svs gps ∧ UsedIds .glonass svStatus.svs glonass ∧
      Reports cached reported gps (glonass.map (· + GLONASS_SV_ID_OFFSET)) ∧
      Reports reported again [] [] := by
  intro cached reported again
  obtain ⟨callback, gps_mask, glonass_mask⟩ :=
    masks_generateSv platform svStatus svExtended data
  have lists := reports_fix locationExtended (callback.trans registered) dated
  obtain ⟨still, gps_cleared, glonass_cleared⟩ := masks_generatePos locationExtended cached dated
  rw [gps_mask, glonass_mask, svUsed_offset GLONASS_SV_ID_OFFSET] at lists
  exact ⟨_, _, usedIds_svUsed platform fun sv member same => svids sv member (.inl same),
    usedIds_svUsed platform fun sv member same => svids sv member (.inr same), lists,
    reports_none (still.trans (callback.trans registered)) gps_cleared glonass_cleared
      later_dated later_nmea⟩

theorem gsa_lists_used_two :
    let cached := generateSv epoch ⟨[usedSv 32 .gps, usedSv 5 .glonass], by decide⟩ unextended idle
    let reported := generatePos epoch unlocated unextended true cached
    let again := generatePos epoch unlocated unextended true reported
    ∃ gps glonass, UsedIds .gps [usedSv 32 .gps, usedSv 5 .glonass] gps ∧
      UsedIds .glonass [usedSv 32 .gps, usedSv 5 .glonass] glonass ∧
      Reports cached reported gps (glonass.map (· + GLONASS_SV_ID_OFFSET)) ∧
      Reports reported again [] [] :=
  gsa_lists_used ⟨[usedSv 32 .gps, usedSv 5 .glonass], by decide⟩ rfl (by decide) rfl rfl
    unextended unextended true

end A5Common.Nmea
