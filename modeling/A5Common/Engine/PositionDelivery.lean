import A5Common.Nmea.Position

set_option autoImplicit false

namespace A5Common.Engine

/-- The satellites that a position was computed from, a bit each. -/
structure GnssSvUsedInPosition where
  gps_sv_used_ids_mask : BitVec 64
  glo_sv_used_ids_mask : BitVec 64
  gal_sv_used_ids_mask : BitVec 64
  bds_sv_used_ids_mask : BitVec 64
deriving DecidableEq

def GPS_LOCATION_HAS_ACCURACY : BitVec 16 := 0x10

def GPS_LOCATION_EXTENDED_HAS_GNSS_SV_USED_DATA : BitVec 16 := 0x1000

/-- A location and its accuracy, in numbers that can be compared. -/
structure UlpLocation (R : Type) where
  gpsLocation : Nmea.GpsLocation
  accuracy : R

/-- A position with all that its report reads. -/
structure PositionReport (R : Type) where
  mLocation : UlpLocation R
  mLocationExtended : Nmea.GpsLocationExtended
  gnss_sv_used_ids : GnssSvUsedInPosition
  mStatus : LocSessStatus
  mTechMask : LocPosTechMask

/-- The engine with what its reports use. The last two lists are what `location_cb`, with
none for NULL, and `gnss_sv_status_cb` have been given. -/
structure Reporting (R : Type) where
  session : SessionData
  generateNmea : Bool
  gnss_sv_status_cb : Bool
  mGnssSvIdUsedInPosition : GnssSvUsedInPosition
  mGnssSvIdUsedInPosAvail : Bool
  nmea : Nmea.LocEngData
  located : List (Option (UlpLocation R))
  satellites : List Nmea.GnssSvStatus

namespace Reporting

variable {R : Type}

def setGnssSvUsedListData (gnssSvUsedIds : GnssSvUsedInPosition) (σ : Reporting R) : Reporting R :=
  { σ with mGnssSvIdUsedInPosAvail := true, mGnssSvIdUsedInPosition := gnssSvUsedIds }

/-- A fix ends the session of a single shot. -/
def endSingleShot (mStatus : LocSessStatus) (σ : Reporting R) : Reporting R :=
  if σ.session.mFixCriteria.recurrence = GPS_POSITION_RECURRENCE_SINGLE then
    -- the modem could be still working for a final fix
    let session := if mStatus = .intermediate then σ.session.stopFix else σ.session
    { σ with session := session.setInSession false }
  else σ

/-- The sentences, which read the mode of the adapter. -/
def generatePos (platform : Nmea.Platform) (report : PositionReport R) (generate_nmea : Bool)
    (σ : Reporting R) : Reporting R :=
  if σ.generateNmea && σ.session.eng.mNavigating then
    { σ with
      nmea := Nmea.generatePos platform report.mLocation.gpsLocation report.mLocationExtended
        generate_nmea { σ.nmea with positionMode := σ.session.mFixCriteria.mode } }
  else σ

variable (platform : Nmea.Platform) (report : PositionReport R) (σ : Reporting R)

theorem endSingleShot_session (mStatus : LocSessStatus) :
    (σ.endSingleShot mStatus).session =
      if σ.session.mFixCriteria.recurrence = GPS_POSITION_RECURRENCE_SINGLE then
        (if mStatus = .intermediate then σ.session.stopFix else σ.session).setInSession false
      else σ.session := by
  unfold endSingleShot
  split <;> rfl

theorem endSingleShot_located (mStatus : LocSessStatus) :
    (σ.endSingleShot mStatus).located = σ.located := by
  unfold endSingleShot
  split <;> rfl

theorem generatePos_session (generate_nmea : Bool) :
    (σ.generatePos platform report generate_nmea).session = σ.session := by
  unfold generatePos
  split <;> rfl

theorem generatePos_located (generate_nmea : Bool) :
    (σ.generatePos platform report generate_nmea).located = σ.located := by
  unfold generatePos
  split <;> rfl

end Reporting

section

variable {R : Type} [LT R] [DecidableLT R] (float : BitVec 32 → R)

namespace PositionReport

variable (report : PositionReport R) (conf : SessionConf)

/-- By the satellites, the sensors, or both. -/
def technology : Bool :=
  (LOC_POS_TECH_MASK_SATELLITE ||| LOC_POS_TECH_MASK_SENSORS ||| LOC_POS_TECH_MASK_HYBRID) &&&
    report.mTechMask ≠ 0

/-- There is inaccuracy, we care about it, and it exceeds our tolerance. -/
def inaccurate : Bool :=
  report.mLocation.gpsLocation.has GPS_LOCATION_HAS_ACCURACY && conf.ACCURACY_THRES ≠ 0 &&
    float conf.ACCURACY_THRES < report.mLocation.accuracy

/-- The second condition is tested of every report, an intermediate one or not. -/
def accepted : Bool :=
  report.mStatus = .success && report.technology ||
    conf.intermediateFix = 1 && !report.inaccurate float conf

end PositionReport

namespace Reporting

/-- The calls of `location_cb`, and whether there was one. -/
def callLocation (report : PositionReport R) (σ : Reporting R) : Reporting R × Bool :=
  if σ.session.conf.location_cb then
    if report.mStatus = .failure then ({ σ with located := σ.located ++ [none] }, true)
    else if report.accepted float σ.session.conf then
      let σ :=
        if report.mLocationExtended.has GPS_LOCATION_EXTENDED_HAS_GNSS_SV_USED_DATA then
          σ.setGnssSvUsedListData report.gnss_sv_used_ids
        else σ
      ({ σ with located := σ.located ++ [some report.mLocation] }, true)
    else (σ, false)
  else (σ, false)

/-- `LocEngReportPosition::proc` -/
def reportPosition (platform : Nmea.Platform) (report : PositionReport R) (σ : Reporting R) :
    Reporting R :=
  if σ.session.eng.mute_session_state ≠ .inSession then
    let (σ, reported) := σ.callLocation float report
    let σ := if reported then σ.endSingleShot report.mStatus else σ
    σ.generatePos platform report (reported && report.mStatus ≠ .failure)
  else σ

end Reporting

/-- What the session has of a report. -/
def PositionReport.outline (report : PositionReport R) (conf : SessionConf) :
    LocEngReportPosition where
  mStatus := report.mStatus
  mTechMask := report.mTechMask
  hasAccuracy := report.mLocation.gpsLocation.has GPS_LOCATION_HAS_ACCURACY
  exceedsThreshold := float conf.ACCURACY_THRES < report.mLocation.accuracy

namespace Reporting

variable (platform : Nmea.Platform) (report : PositionReport R) (σ : Reporting R)

theorem callLocation_session : (σ.callLocation float report).1.session = σ.session := by
  unfold callLocation setGnssSvUsedListData
  split
  · split
    · rfl
    · split
      · dsimp only
        split <;> rfl
      · rfl
  · rfl

theorem callLocation_silent (silent : (σ.callLocation float report).2 = false) :
    (σ.callLocation float report).1 = σ := by
  unfold callLocation at silent ⊢
  split at silent
  · rename_i registered
    rw [if_pos registered]
    split at silent
    · cases silent
    · rename_i kept
      rw [if_neg kept]
      split at silent
      · cases silent
      · rename_i dropped
        rw [if_neg dropped]
  · rename_i unregistered
    rw [if_neg unregistered]

theorem reports_outline :
    σ.session.reports (report.outline float σ.session.conf) =
      (σ.session.conf.location_cb &&
        (report.mStatus = .failure || report.accepted float σ.session.conf)) := by
  unfold SessionData.reports
  rw [Bool.or_assoc]
  rfl

theorem callLocation_reported :
    (σ.callLocation float report).2 =
      σ.session.reports (report.outline float σ.session.conf) := by
  rw [reports_outline]
  unfold callLocation
  split
  · rename_i registered
    rw [registered, Bool.true_and]
    split
    · rename_i failed
      rw [decide_eq_true failed, Bool.true_or]
    · rename_i kept
      rw [decide_eq_false kept, Bool.false_or]
      split
      · rename_i passed
        exact passed.symm
      · rename_i dropped
        exact (eq_false_of_ne_true dropped).symm
  · rename_i unregistered
    rw [eq_false_of_ne_true unregistered, Bool.false_and]

/-- The session goes on as its own model has it. -/
theorem reportPosition_session :
    (σ.reportPosition float platform report).session =
      σ.session.reportPosition (report.outline float σ.session.conf) := by
  have kept := callLocation_session float report σ
  have told := callLocation_reported float report σ
  unfold reportPosition SessionData.reportPosition
  split
  · dsimp only
    rw [generatePos_session, told]
    by_cases passed : σ.session.reports (report.outline float σ.session.conf) = true
    · rw [if_pos passed, endSingleShot_session, kept]
      simp only [passed, true_and]
      rfl
    · rw [if_neg passed, kept, if_neg (fun both => passed both.1)]
  · rfl

theorem reportPosition_located (unmuted : σ.session.eng.mute_session_state ≠ .inSession) :
    (σ.reportPosition float platform report).located = (σ.callLocation float report).1.located := by
  unfold reportPosition
  rw [if_pos unmuted]
  dsimp only
  rw [generatePos_located]
  split
  · exact endSingleShot_located _ _
  · rfl

/-- Without a fix to pass on, a failure is told and nothing else. -/
theorem callLocation_located (registered : σ.session.conf.location_cb = true) :
    (σ.callLocation float report).1.located =
      σ.located ++
        if report.mStatus = .failure then [none]
        else if report.accepted float σ.session.conf then [some report.mLocation]
        else [] := by
  unfold callLocation setGnssSvUsedListData
  rw [if_pos registered]
  split
  · rfl
  · split
    · dsimp only
      split <;> rfl
    · exact (List.append_nil _).symm

end Reporting

/-- A fix that is to be passed on: a final one by a technology that counts, or an
intermediate one, where these are accepted, that is accurate enough. -/
def PositionReport.Deliverable (report : PositionReport R) (conf : SessionConf) : Prop :=
  report.mStatus = .success ∧ report.technology = true ∨
    report.mStatus = .intermediate ∧ conf.intermediateFix = 1 ∧
      ¬ report.inaccurate float conf = true

/-- What a report is to come to, from the engine before it to the engine after it. -/
structure Delivered (report : PositionReport R) (before after : Reporting R) : Prop where
  failure : report.mStatus = .failure → after.located = before.located ++ [none]
  fix : report.mStatus ≠ .failure → report.Deliverable float before.session.conf →
    after.located = before.located ++ [some report.mLocation]
  nothing : report.mStatus ≠ .failure → ¬ report.Deliverable float before.session.conf →
    after.located = before.located
  singleShot : after.located ≠ before.located →
    before.session.mFixCriteria.recurrence = GPS_POSITION_RECURRENCE_SINGLE →
      after.session.eng.mNavigating = false ∧
        after.session.calls = before.session.calls ++
          (if report.mStatus = .intermediate then [.stopFix] else []) ++ [.setInSession false]

namespace Reporting

variable (platform : Nmea.Platform) (report : PositionReport R) (σ : Reporting R)

/-- Reports are delivered by the rule, unless they are muted or nobody is there. -/
def DeliveryRule : Prop :=
  σ.session.eng.mute_session_state ≠ .inSession → σ.session.conf.location_cb = true →
    Delivered float report σ (σ.reportPosition float platform report)

/-- A final fix by another technology that passes for an intermediate one. -/
def PassesAsIntermediate : Prop :=
  report.mStatus = .success ∧ report.technology = false ∧ σ.session.conf.intermediateFix = 1 ∧
    report.inaccurate float σ.session.conf = false

variable {report} {σ}

theorem accepted_iff :
    report.accepted float σ.session.conf = true ↔
      report.mStatus = .success ∧ report.technology = true ∨
        σ.session.conf.intermediateFix = 1 ∧ ¬ report.inaccurate float σ.session.conf = true := by
  simp [PositionReport.accepted]

/-- What is passed on is what should be, and the final fixes that pass for others. -/
theorem accepted_iff_deliverable (kept : report.mStatus ≠ .failure) :
    report.accepted float σ.session.conf = true ↔
      report.Deliverable float σ.session.conf ∨ σ.PassesAsIntermediate float report := by
  rw [accepted_iff]
  unfold PositionReport.Deliverable PassesAsIntermediate
  cases status : report.mStatus with
  | failure => exact absurd status kept
  | success => cases report.technology <;> simp
  | intermediate => simp

theorem PassesAsIntermediate.not_deliverable (passes : σ.PassesAsIntermediate float report) :
    ¬ report.Deliverable float σ.session.conf := by
  intro deliverable
  obtain ⟨success, other, -⟩ := passes
  rcases deliverable with ⟨-, technology⟩ | ⟨intermediate, -⟩
  · exact Bool.false_ne_true (other.symm.trans technology)
  · exact absurd (success.symm.trans intermediate) (by decide)

theorem reportPosition_fix (unmuted : σ.session.eng.mute_session_state ≠ .inSession)
    (registered : σ.session.conf.location_cb = true) (kept : report.mStatus ≠ .failure) :
    (σ.reportPosition float platform report).located =
      σ.located ++ if report.accepted float σ.session.conf then [some report.mLocation] else [] := by
  rw [reportPosition_located float platform report σ unmuted,
    callLocation_located float report σ registered, if_neg kept]

/-- Whoever has been told something under single shot recurrence has had the session. -/
theorem reportPosition_singleShot (unmuted : σ.session.eng.mute_session_state ≠ .inSession)
    (told : (σ.reportPosition float platform report).located ≠ σ.located)
    (single : σ.session.mFixCriteria.recurrence = GPS_POSITION_RECURRENCE_SINGLE) :
    (σ.reportPosition float platform report).session.eng.mNavigating = false ∧
      (σ.reportPosition float platform report).session.calls = σ.session.calls ++
        (if report.mStatus = .intermediate then [.stopFix] else []) ++ [.setInSession false] := by
  have reported : σ.session.reports (report.outline float σ.session.conf) = true := by
    rw [← callLocation_reported float report σ]
    apply eq_true_of_ne_false
    intro silent
    rw [reportPosition_located float platform report σ unmuted,
      callLocation_silent float report σ silent] at told
    exact told rfl
  rw [reportPosition_session]
  unfold SessionData.reportPosition
  rw [if_pos unmuted, if_pos ⟨reported, single⟩]
  constructor
  · rfl
  · unfold PositionReport.outline
    dsimp only
    split
    · rfl
    · show σ.session.calls ++ _ = _
      rw [List.append_nil]

/-- Reports are delivered by the rule, but for the final fixes that pass for others. -/
theorem deliveryRule_iff :
    σ.DeliveryRule float platform report ↔
      (σ.session.eng.mute_session_state ≠ .inSession → σ.session.conf.location_cb = true →
        ¬ σ.PassesAsIntermediate float report) := by
  constructor
  · intro rule unmuted registered passes
    have kept : report.mStatus ≠ .failure := by
      rw [passes.1]
      decide
    have located := reportPosition_fix float platform unmuted registered kept
    rw [(rule unmuted registered).nothing kept (passes.not_deliverable float),
      if_pos ((accepted_iff_deliverable float kept).mpr (.inr passes))] at located
    simp at located
  · intro never unmuted registered
    refine ⟨fun failed => ?_, fun kept deliverable => ?_, fun kept undeliverable => ?_,
      reportPosition_singleShot float platform unmuted⟩
    · rw [reportPosition_located float platform report σ unmuted,
        callLocation_located float report σ registered, if_pos failed]
    · rw [reportPosition_fix float platform unmuted registered kept,
        if_pos ((accepted_iff_deliverable float kept).mpr (.inl deliverable))]
    · have dropped : ¬ report.accepted float σ.session.conf = true := by
        rw [accepted_iff_deliverable float kept]
        exact fun either => either.elim undeliverable (never unmuted registered)
      rw [reportPosition_fix float platform unmuted registered kept, if_neg dropped,
        List.append_nil]

end Reporting

end

namespace Reporting

/-- A position by its cell, as the final fix of a session that takes intermediate ones. -/
def cellFix : PositionReport Nat :=
  ⟨⟨Nmea.unlocated, 0⟩, Nmea.unextended, ⟨0, 0, 0, 0⟩, .success, 2⟩

def takesIntermediate : Reporting Nat where
  session := .new ⟨0, 0, true, 1⟩ true
  generateNmea := false
  gnss_sv_status_cb := true
  mGnssSvIdUsedInPosition := ⟨0, 0, 0, 0⟩
  mGnssSvIdUsedInPosAvail := false
  nmea := Nmea.idle
  located := []
  satellites := []

/-- The position by the cell is passed on, though its technology does not count for a final fix. -/
theorem deliveryRule_broken :
    ¬ takesIntermediate.DeliveryRule BitVec.toNat Nmea.epoch cellFix := by
  intro rule
  have unmuted : takesIntermediate.session.eng.mute_session_state ≠ .inSession := by decide
  have passes : takesIntermediate.PassesAsIntermediate BitVec.toNat cellFix := by
    unfold PassesAsIntermediate
    decide
  have located := (rule unmuted rfl).nothing (by decide) (passes.not_deliverable _)
  rw [reportPosition_fix BitVec.toNat Nmea.epoch unmuted rfl (by decide)] at located
  exact absurd (congrArg List.length located) (by decide)

end Reporting
end A5Common.Engine
