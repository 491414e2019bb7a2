import A5Common.Nmea.Printed
import A5Common.Nmea.Satellites
import A5Common.Run.Chunks

set_option autoImplicit false

namespace A5Common.Nmea

open A5Common.Number A5Common.Run

variable (platform : Platform)

/-- A message of fields with commas between them. -/
def ofFields (fields : List (List Char)) : Message := framed ([','].intercalate fields)

/-- The fields of a satellite: its id, its elevation and azimuth in whole degrees, and its
signal, which is left empty where there is none. -/
def svFields (sv : GnssSvInfo) : List (List Char) :=
  let whole (x : Single) : Int := platform.toInt (half.add x.promote)
  [decimal 2 sv.svid.toInt, decimal 2 (whole sv.elevation), decimal 3 (whole sv.azimuth),
    if sv.c_n0_dbhz.isPositive then decimal 2 (whole sv.c_n0_dbhz) else []]

/-- The message with some of the satellites, numbered, with the total and the count. -/
def gsvMessage (talker : List Char) (total number count : Nat) (svs : List GnssSvInfo) : Message :=
  ofFields ([talker, decimal 0 total, decimal 0 number, decimal 2 count] ++
    svs.flatMap (svFields platform))

def inView (constellation : GnssConstellationType) (svs : List GnssSvInfo) : List GnssSvInfo :=
  svs.filter fun sv => sv.constellation = constellation

/-- The satellites of a constellation, each once and in order, four in each message until the
last, or one blank message where there are none. -/
def Partitions (talker : List Char) (constellation : GnssConstellationType)
    (svs : List GnssSvInfo) (messages : List Message) : Prop :=
  (inView constellation svs = [] ∧ messages = [ofFields [talker, ['1'], ['1'], ['0'], []]]) ∨
    (inView constellation svs ≠ [] ∧ ∃ sentences : List (List GnssSvInfo),
      sentences.length = ((inView constellation svs).length + 3) / 4 ∧
      sentences.flatten = inView constellation svs ∧
      (∀ sentence ∈ sentences, sentence.length ≤ 4) ∧
      (∀ sentence ∈ sentences.dropLast, sentence.length = 4) ∧
      messages = sentences.mapIdx fun i sentence =>
        gsvMessage platform talker sentences.length (1 + i) (inView constellation svs).length
          sentence)

variable {platform}

theorem inView_cons_same {constellation : GnssConstellationType} {sv : GnssSvInfo}
    (same : sv.constellation = constellation) (svs : List GnssSvInfo) :
    inView constellation (sv :: svs) = sv :: inView constellation svs :=
  List.filter_cons_of_pos (decide_eq_true same)

theorem inView_cons_other {constellation : GnssConstellationType} {sv : GnssSvInfo}
    (other : sv.constellation ≠ constellation) (svs : List GnssSvInfo) :
    inView constellation (sv :: svs) = inView constellation svs :=
  List.filter_cons_of_neg (fun same => other (of_decide_eq_true same))

theorem intercalate_cons (first : List Char) (rest : List (List Char)) :
    [','].intercalate (first :: rest) = first ++ rest.flatMap (',' :: ·) := by
  induction rest generalizing first with
  | nil => rw [List.intercalate_singleton, List.flatMap_nil, List.append_nil]
  | cons second rest ih =>
      rw [List.intercalate_cons_cons, ih, List.flatMap_cons, List.append_assoc]
      rfl

theorem blank_eq (talker : List Char) :
    ofFields [talker, ['1'], ['1'], ['0'], []] = framed (talker ++ ",1,1,0,".toList) := by
  unfold ofFields
  rw [intercalate_cons]
  rfl

/-- What is printed for a satellite. -/
def svBlock (platform : Platform) (sv : GnssSvInfo) : List Char := (svPrints platform sv).flatten

/-- It is printed with a comma in front of each of its fields. -/
theorem svBlock_eq (platform : Platform) (sv : GnssSvInfo) :
    svBlock platform sv = (svFields platform sv).flatMap (',' :: ·) := by
  unfold svBlock svPrints svFields roundInt
  dsimp only
  split <;>
    simp only [List.flatten_cons, List.flatten_nil, List.flatMap_cons, List.flatMap_nil,
      List.append_assoc, List.cons_append, List.nil_append, List.append_nil]

/-- The header and the blocks are the body of the message. -/
theorem gsvBody_eq (platform : Platform) (talker : List Char) (total number count : Nat)
    (svs : List GnssSvInfo) :
    framed (gsvHeader talker total number count ++ svs.flatMap (svBlock platform)) =
      gsvMessage platform talker total number count svs := by
  have blocks : svs.flatMap (svBlock platform) =
      (svs.flatMap (svFields platform)).flatMap (',' :: ·) := by
    rw [List.flatMap_assoc]
    exact congrArg (svs.flatMap ·) (funext (svBlock_eq platform))
  unfold gsvMessage ofFields gsvHeader
  rw [blocks, List.cons_append, intercalate_cons, List.flatMap_append]
  simp only [List.flatMap_cons, List.flatMap_nil, List.append_assoc, List.cons_append,
    List.append_nil]

theorem printed_svBlock (platform : Platform) (sv : GnssSvInfo) :
    Printed 43 (svBlock platform sv) := by
  have id : Printed 6 (decimal 2 sv.svid.toInt) := by
    have low := sv.svid.le_toInt
    have high := sv.svid.toInt_lt
    exact printed_decimal 2 5 (by decide) (by omega)
  have rounded (x : Single) {width : Nat} (narrow : width ≤ 11) :
      Printed 11 (decimal width (roundInt platform x)) :=
    (printed_decimal width 10 (by decide) (platform.natAbs_toInt_lt _)).mono
      (Nat.max_le.mpr ⟨narrow, Nat.le_refl _⟩)
  have position : Printed (7 + 12 + 12 + 1) (',' :: decimal 2 sv.svid.toInt ++
      ',' :: decimal 2 (roundInt platform sv.elevation) ++
      ',' :: decimal 3 (roundInt platform sv.azimuth) ++ [',']) :=
    (((id.cons plain_comma).append ((rounded _ (by decide)).cons plain_comma)).append
      ((rounded _ (by decide)).cons plain_comma)).append printed_comma
  unfold svBlock svPrints
  dsimp only
  split
  · exact position.append ((rounded _ (by decide)).append Printed.nil)
  · exact (position.append Printed.nil).mono (by decide)

/-- What one sentence takes of the satellites that are left. -/
theorem fillSentence_eq (platform : Platform) (constellation : GnssConstellationType) {i : Nat}
    (at_most : i ≤ 4) (svs : List GnssSvInfo) (sentence : Sentence)
    (room : sentence.text.length + 43 * (4 - i) < NMEA_SENTENCE_MAX_LENGTH) :
    ∃ filled left, fillSentence platform constellation i svs sentence = some (filled, left) ∧
      filled.text = sentence.text ++
        ((inView constellation svs).take (4 - i)).flatMap (svBlock platform) ∧
      inView constellation left = (inView constellation svs).drop (4 - i) := by
  induction svs generalizing i sentence with
  | nil =>
      refine ⟨sentence, [], rfl, ?_, List.drop_nil.symm⟩
      change sentence.text = sentence.text ++ (List.take (4 - i) []).flatMap _
      rw [List.take_nil, List.flatMap_nil, List.append_nil]
  | cons sv svs ih =>
      unfold fillSentence
      by_cases more : i < 4
      · rw [if_pos more]
        by_cases same : sv.constellation = constellation
        · have block := (printed_svBlock platform sv).short
          have fits : (sentence.text ++ svBlock platform sv).length <
              NMEA_SENTENCE_MAX_LENGTH := by
            rw [List.length_append]
            omega
          have places : 4 - i = 4 - (i + 1) + 1 := by omega
          rw [if_pos same, Sentence.prints_eq sentence fits, places, inView_cons_same same,
            List.take_succ_cons, List.drop_succ_cons, List.flatMap_cons, ← List.append_assoc]
          exact ih more ⟨sentence.text ++ svBlock platform sv, fits⟩
            (by dsimp only; rw [List.length_append]; omega)
        · rw [if_neg same, inView_cons_other same]
          exact ih at_most sentence room
      · have full : 4 - i = 0 := by omega
        rw [if_neg more, full, List.take_zero, List.drop_zero, List.flatMap_nil, List.append_nil]
        exact ⟨sentence, sv :: svs, rfl, rfl, rfl⟩

theorem printed_gsvHeader {talker : List Char} (named : Printed 5 talker)
    {total number count : Nat} (total_small : total < 10 ^ 2) (number_small : number < 10 ^ 2)
    (count_small : count < 10 ^ 2) : Printed 14 (gsvHeader talker total number count) :=
  ((named.append ((printed_natural 0 2 (by decide) total_small).cons plain_comma)).append
    ((printed_natural 0 2 (by decide) number_small).cons plain_comma)).append
      ((printed_natural 2 2 (by decide) count_small).cons plain_comma)

/-- The body of a message with four satellites at most. -/
theorem printed_gsvBody (platform : Platform) {talker : List Char} (named : Printed 5 talker)
    {total number count : Nat} (total_small : total < 10 ^ 2) (number_small : number < 10 ^ 2)
    (count_small : count < 10 ^ 2) {svs : List GnssSvInfo} (four : svs.length ≤ 4) :
    Printed 193 (gsvHeader talker total number count ++ svs.flatMap (svBlock platform)) := by
  have blocks := Printed.flatten (svs.map (svBlock platform))
    (List.forall_mem_map.mpr fun sv _ => printed_svBlock platform sv)
  rw [List.length_map] at blocks
  exact ((printed_gsvHeader named total_small number_small count_small).append blocks).mono
    (by omega)

theorem gsvSentence_eq (platform : Platform) {talker : List Char} (named : Printed 5 talker)
    (constellation : GnssConstellationType) {total number count : Nat}
    (total_small : total < 10 ^ 2) (number_small : number < 10 ^ 2) (count_small : count < 10 ^ 2)
    (svs : List GnssSvInfo) :
    ∃ sentence left,
      gsvSentence platform ('$' :: talker) constellation total number count svs =
        some (sentence, left) ∧
      putChecksum sentence.text NMEA_SENTENCE_MAX_LENGTH =
        gsvMessage platform talker total number count ((inView constellation svs).take 4) ∧
      inView constellation left = (inView constellation svs).drop 4 := by
  have header := (printed_gsvHeader named total_small number_small count_small).short
  have four : ((inView constellation svs).take 4).length ≤ 4 := by
    rw [List.length_take]
    exact Nat.min_le_left _ _
  have body := printed_gsvBody platform named total_small number_small count_small four
  have limit : NMEA_SENTENCE_MAX_LENGTH = 200 := rfl
  have room : ('$' :: gsvHeader talker total number count).length < NMEA_SENTENCE_MAX_LENGTH := by
    rw [List.length_cons]
    omega
  have places : ('$' :: gsvHeader talker total number count).length + 43 * (4 - 0) <
      NMEA_SENTENCE_MAX_LENGTH := by
    rw [List.length_cons]
    omega
  obtain ⟨filled, left, fills, text, rest⟩ := fillSentence_eq platform constellation
    (Nat.zero_le 4) svs ⟨_, room⟩ places
  have whole : filled.text = '$' :: (gsvHeader talker total number count ++
      ((inView constellation svs).take 4).flatMap (svBlock platform)) := text
  refine ⟨filled, left, ?_, ?_, rest⟩
  · have printed : Sentence.start.print (gsvHeader ('$' :: talker) total number count) =
        some ⟨_, room⟩ := Sentence.start_print room
    unfold gsvSentence
    rw [printed]
    exact fills
  · rw [whole, putChecksum_eq (Nat.add_lt_add_right (Nat.lt_succ_of_le body.short) 6)]
    exact gsvBody_eq platform talker total number count _

/-- The messages of the sentences, from a number on. -/
def gsvMessages (platform : Platform) (talker : List Char) (total count : Nat)
    (number : Nat) (sentences : List (List GnssSvInfo)) : List Message :=
  sentences.mapIdx fun i sentence => gsvMessage platform talker total (number + i) count sentence

theorem gsvMessages_cons (talker : List Char) (total count number : Nat)
    (sentence : List GnssSvInfo) (sentences : List (List GnssSvInfo)) :
    gsvMessages platform talker total count number (sentence :: sentences) =
      gsvMessage platform talker total number count sentence ::
        gsvMessages platform talker total count (number + 1) sentences := by
  unfold gsvMessages
  rw [List.mapIdx_cons, Nat.add_zero]
  congr 2
  funext i later
  rw [Nat.add_right_comm, Nat.add_assoc]

theorem gsvLoop_eq {talker : List Char} (named : Printed 5 talker)
    (constellation : GnssConstellationType) {total count : Nat} (total_small : total < 10 ^ 2)
    (count_small : count < 10 ^ 2) (next : LocEngData → LocEngData) (left : Nat) {number : Nat}
    (numbers_small : number + left ≤ 100) (svs : List GnssSvInfo) (data : LocEngData) :
    gsvLoop platform ('$' :: talker) constellation total count next left number svs data =
      next (data.sends (gsvMessages platform talker total count number
        (chunks 4 left (inView constellation svs)))) := by
  induction left generalizing number svs data with
  | zero => rfl
  | succ left ih =>
      obtain ⟨sentence, rest, made, message, remains⟩ := gsvSentence_eq platform
        named constellation total_small (by omega : number < 10 ^ 2) count_small svs
      unfold gsvLoop
      rw [made]
      dsimp only
      rw [ih (by omega), message, remains, chunks, gsvMessages_cons]
      rfl

/-- What is sent for a constellation. -/
def gsvReport (platform : Platform) (talker : List Char) (constellation : GnssConstellationType)
    (svs : List GnssSvInfo) : List Message :=
  let count := (inView constellation svs).length
  if count = 0 then [ofFields [talker, ['1'], ['1'], ['0'], []]]
  else gsvMessages platform talker (gsvCount count) count 1
    (chunks 4 (gsvCount count) (inView constellation svs))

theorem gsv_eq {talker : List Char} (named : Printed 5 talker)
    (constellation : GnssConstellationType) {svs : List GnssSvInfo}
    (within : svs.length ≤ GNSS_MAX_SVS) (data : LocEngData) (next : LocEngData → LocEngData) :
    gsv platform ('$' :: talker) constellation (inView constellation svs).length svs data next =
      next (data.sends (gsvReport platform talker constellation svs)) := by
  have count_small : (inView constellation svs).length ≤ 64 :=
    Nat.le_trans (List.length_filter_le _ _) within
  have total_small : gsvCount (inView constellation svs).length < 100 := by
    unfold gsvCount
    split <;> omega
  unfold gsv gsvReport
  dsimp only
  by_cases empty : (inView constellation svs).length = 0
  · have short := named.short
    rw [if_pos empty, if_pos empty]
    have room : (talker ++ ",1,1,0,".toList).length + 6 < NMEA_SENTENCE_MAX_LENGTH := by
      rw [List.length_append]
      change talker.length + 7 + 6 < 200
      omega
    rw [blank_eq]
    exact congrArg next (data.sendText_eq room)
  · rw [if_neg empty, if_neg empty]
    exact gsvLoop_eq named constellation total_small (by omega) next _ (by omega) svs data

theorem partitions_gsvReport (talker : List Char) (constellation : GnssConstellationType)
    (svs : List GnssSvInfo) :
    Partitions platform talker constellation svs
      (gsvReport platform talker constellation svs) := by
  unfold gsvReport
  dsimp only
  by_cases empty : (inView constellation svs).length = 0
  · rw [if_pos empty]
    exact .inl ⟨List.length_eq_zero_iff.mp empty, rfl⟩
  · have counted : gsvCount (inView constellation svs).length =
        ((inView constellation svs).length + 3) / 4 := by
      unfold gsvCount
      split <;> omega
    rw [if_neg empty]
    refine .inr ⟨fun none => empty (List.length_eq_zero_iff.mpr none), _,
      (length_chunks ..).trans counted, flatten_chunks (by omega),
      fun _ => length_le_of_mem_chunks, fun _ => length_of_mem_dropLast_chunks (by omega), ?_⟩
    rw [length_chunks]
    rfl

/-- A mask with the bits of the satellites of a constellation that are used. -/
def usedMasks (platform : Platform) (constellation : GnssConstellationType)
    (svs : List GnssSvInfo) (mask : BitVec 32) : BitVec 32 :=
  (inView constellation svs).foldl (fun mask sv => usedMask platform sv mask) mask

theorem usedMasks_cons_same {constellation : GnssConstellationType} {sv : GnssSvInfo}
    (same : sv.constellation = constellation) (svs : List GnssSvInfo) (mask : BitVec 32) :
    usedMasks platform constellation (sv :: svs) mask =
      usedMasks platform constellation svs (usedMask platform sv mask) := by
  unfold usedMasks
  rw [inView_cons_same same, List.foldl_cons]

theorem usedMasks_cons_other {constellation : GnssConstellationType} {sv : GnssSvInfo}
    (other : sv.constellation ≠ constellation) (svs : List GnssSvInfo) (mask : BitVec 32) :
    usedMasks platform constellation (sv :: svs) mask =
      usedMasks platform constellation svs mask := by
  unfold usedMasks
  rw [inView_cons_other other]

theorem foldl_countSv (svs : List GnssSvInfo) (counts : SvCounts) :
    svs.foldl (countSv platform) counts =
      ⟨{ counts.data with
          gps_used_mask := usedMasks platform .gps svs counts.data.gps_used_mask
          glo_used_mask := usedMasks platform .glonass svs counts.data.glo_used_mask },
        counts.gpsCount + (inView .gps svs).length,
        counts.glnCount + (inView .glonass svs).length⟩ := by
  induction svs generalizing counts with
  | nil => rfl
  | cons sv svs ih =>
      rw [List.foldl_cons, ih]
      by_cases is_gps : sv.constellation = .gps
      · have not_glonass : sv.constellation ≠ .glonass := is_gps ▸ by decide
        unfold countSv
        rw [is_gps, usedMasks_cons_same is_gps, usedMasks_cons_other not_glonass,
          inView_cons_same is_gps, inView_cons_other not_glonass, List.length_cons,
          Nat.add_right_comm, Nat.add_assoc]
      · by_cases is_glonass : sv.constellation = .glonass
        · unfold countSv
          rw [is_glonass, usedMasks_cons_other is_gps, usedMasks_cons_same is_glonass,
            inView_cons_other is_gps, inView_cons_same is_glonass, List.length_cons,
            Nat.add_right_comm counts.glnCount, Nat.add_assoc]
        · rw [usedMasks_cons_other is_gps, usedMasks_cons_other is_glonass,
            inView_cons_other is_gps, inView_cons_other is_glonass]
          unfold countSv
          split
          · contradiction
          · contradiction
          · rfl

/-- The data after the loop that counts the satellites. -/
def cacheUsed (platform : Platform) (svs : List GnssSvInfo) (data : LocEngData) : LocEngData :=
  { data with
    gps_used_mask := usedMasks platform .gps svs 0
    glo_used_mask := usedMasks platform .glonass svs 0 }

theorem printed_gpgsv : Printed 5 "GPGSV".toList := .literal (by decide) (by decide)
theorem printed_glgsv : Printed 5 "GLGSV".toList := .literal (by decide) (by decide)

theorem generateSv_eq (platform : Platform) (svStatus : GnssSvStatus)
    (locationExtended : GpsLocationExtended) (data : LocEngData) :
    generateSv platform svStatus locationExtended data =
      cacheDop locationExtended (((cacheUsed platform svStatus.svs data).sends
        (gsvReport platform "GPGSV".toList .gps svStatus.svs)).sends
        (gsvReport platform "GLGSV".toList .glonass svStatus.svs)) := by
  unfold generateSv
  rw [foldl_countSv]
  dsimp only
  rw [Nat.zero_add, Nat.zero_add]
  unfold gpgsv glgsv
  exact (gsv_eq printed_gpgsv .gps svStatus.within _ _).trans
    (gsv_eq printed_glgsv .glonass svStatus.within _ _)

theorem nmea_cacheDop (locationExtended : GpsLocationExtended) (data : LocEngData) :
    (cacheDop locationExtended data).nmea = data.nmea := by
  unfold cacheDop
  split <;> rfl

theorem nmea_generateSv (platform : Platform) (svStatus : GnssSvStatus)
    (locationExtended : GpsLocationExtended) {data : LocEngData} (registered : data.nmea_cb) :
    (generateSv platform svStatus locationExtended data).nmea =
      data.nmea ++ gsvReport platform "GPGSV".toList .gps svStatus.svs ++
        gsvReport platform "GLGSV".toList .glonass svStatus.svs := by
  have cached : (cacheUsed platform svStatus.svs data).nmea_cb := registered
  rw [generateSv_eq, nmea_cacheDop, LocEngData.nmea_sends, LocEngData.nmea_sends _ cached]
  · rfl
  · rw [LocEngData.nmea_cb_sends, cached]

theorem nmea_generateSv_unregistered (platform : Platform) (svStatus : GnssSvStatus)
    (locationExtended : GpsLocationExtended) {data : LocEngData}
    (unregistered : ¬data.nmea_cb) :
    (generateSv platform svStatus locationExtended data).nmea = data.nmea := by
  have cached : ¬(cacheUsed platform svStatus.svs data).nmea_cb := unregistered
  rw [generateSv_eq, nmea_cacheDop, LocEngData.nmea_sends_unregistered,
    LocEngData.nmea_sends_unregistered _ cached]
  · rfl
  · rw [LocEngData.nmea_cb_sends]
    exact cached

/-- A report of satellites sends those of GPS and then those of GLONASS. -/
theorem generateSv_partitions (platform : Platform) (svStatus : GnssSvStatus)
    (locationExtended : GpsLocationExtended) {data : LocEngData} (registered : data.nmea_cb) :
    ∃ gps glonass,
      (generateSv platform svStatus locationExtended data).nmea = data.nmea ++ gps ++ glonass ∧
        Partitions platform "GPGSV".toList .gps svStatus.svs gps ∧
        Partitions platform "GLGSV".toList .glonass svStatus.svs glonass :=
  ⟨_, _, nmea_generateSv platform svStatus locationExtended registered, partitions_gsvReport _ _ _,
    partitions_gsvReport _ _ _⟩

theorem generateSv_partitions_six :
    ∃ gps glonass,
      (generateSv epoch ⟨List.replicate 5 (usedSv 7 .gps) ++ [usedSv 9 .glonass], by decide⟩
        unextended idle).nmea = idle.nmea ++ gps ++ glonass ∧
        Partitions epoch "GPGSV".toList .gps
          (List.replicate 5 (usedSv 7 .gps) ++ [usedSv 9 .glonass]) gps ∧
        Partitions epoch "GLGSV".toList .glonass
          (List.replicate 5 (usedSv 7 .gps) ++ [usedSv 9 .glonass]) glonass :=
  generateSv_partitions epoch ⟨List.replicate 5 (usedSv 7 .gps) ++ [usedSv 9 .glonass], by decide⟩
    unextended rfl

end A5Common.Nmea
