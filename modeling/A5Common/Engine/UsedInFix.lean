import A5Common.Engine.PositionDelivery
import A5Common.Nmea.Satellites
import Mathlib.Data.List.Forall2

set_option autoImplicit false

namespace A5Common.Engine

open A5Common.Nmea

/-- The mask of a constellation, for those that have one. -/
def GnssSvUsedInPosition.mask (masks : GnssSvUsedInPosition) :
    GnssConstellationType → Option (BitVec 64)
  | .gps => some masks.gps_sv_used_ids_mask
  | .glonass => some masks.glo_sv_used_ids_mask
  | .beidou => some masks.bds_sv_used_ids_mask
  | .galileo => some masks.gal_sv_used_ids_mask
  | .unknown | .sbas | .qzss => none

/-- `svUsedIdMask & (1 << (gnssSvId - 1))`, where the shift is of an `int`. -/
def usedBits (platform : Platform) (svUsedIdMask : BitVec 64) (gnssSvId : Int) : BitVec 64 :=
  svUsedIdMask &&& (platform.shiftOne (gnssSvId - 1)).signExtend 64

/-- A round of the loop over `gnss_sv_list`. -/
def markUsed (platform : Platform) (masks : GnssSvUsedInPosition) (sv : GnssSvInfo) : GnssSvInfo :=
  if usedBits platform ((masks.mask sv.constellation).getD 0) sv.svid.toInt ≠ 0 then
    { sv with flags := sv.flags ||| GNSS_SV_FLAGS_USED_IN_FIX }
  else { sv with flags := sv.flags &&& ~~~GNSS_SV_FLAGS_USED_IN_FIX }

/-- The whole loop. -/
def markAll (platform : Platform) (masks : GnssSvUsedInPosition) (svStatus : GnssSvStatus) :
    GnssSvStatus where
  svs := svStatus.svs.map (markUsed platform masks)
  within := by
    rw [List.length_map]
    exact svStatus.within

structure SvReport where
  mSvStatus : GnssSvStatus
  mLocationExtended : GpsLocationExtended

namespace Reporting

variable {R : Type}

/-- `LocEngReportSv::proc` -/
def reportSv (platform : Platform) (report : SvReport) (σ : Reporting R) : Reporting R :=
  if σ.session.eng.mute_session_state ≠ .inSession then
    let gnssSvStatus :=
      if σ.mGnssSvIdUsedInPosAvail then
        markAll platform σ.mGnssSvIdUsedInPosition report.mSvStatus
      else report.mSvStatus
    let σ :=
      if σ.gnss_sv_status_cb then { σ with satellites := σ.satellites ++ [gnssSvStatus] } else σ
    if σ.generateNmea then
      { σ with nmea := generateSv platform gnssSvStatus report.mLocationExtended σ.nmea }
    else σ
  else σ

end Reporting

/-- A satellite as it should be passed on: the flag tells its bit in the mask of its
constellation, and nothing else changes. -/
structure Marked (masks : GnssSvUsedInPosition) (before after : GnssSvInfo) : Prop where
  others : { after with flags := before.flags } = before
  flags : after.flags &&& ~~~GNSS_SV_FLAGS_USED_IN_FIX =
    before.flags &&& ~~~GNSS_SV_FLAGS_USED_IN_FIX
  used : ∀ mask ∈ masks.mask before.constellation, 1 ≤ before.svid.toInt →
    before.svid.toInt ≤ 64 →
      (after.usedInFix = true ↔ mask.getLsbD (before.svid.toInt - 1).toNat = true)
  unused : masks.mask before.constellation = none → after.usedInFix = false

/-- The masks that the test reads rightly: the constant of the last id of 32 bits has the
sign in all the bits above it, and there is no constant for the ids beyond. -/
def ReadsRightly (mask : BitVec 64) (svid : Int) : Prop :=
  (svid = 32 → mask.getLsbD 31 = true ∨ mask.toNat < 2 ^ 32) ∧
    (33 ≤ svid → svid ≤ 64 → mask = 0)

theorem and_ne_zero_iff (x y : BitVec 64) :
    x &&& y ≠ 0 ↔ ∃ bit, bit < 64 ∧ x.getLsbD bit = true ∧ y.getLsbD bit = true := by
  constructor
  · intro different
    have differs : ∃ bit, bit < 64 ∧ (x &&& y).getLsbD bit ≠ (0#64).getLsbD bit := by
      by_contra same
      push Not at same
      exact different (BitVec.eq_of_getLsbD_eq fun bit small => same bit small)
    obtain ⟨bit, small, set⟩ := differs
    rw [BitVec.getLsbD_zero, BitVec.getLsbD_and] at set
    exact ⟨bit, small, by simpa using set⟩
  · intro ⟨bit, small, left, right⟩ none
    have clear := congrArg (BitVec.getLsbD · bit) none
    simp [left, right] at clear

theorem getLsbD_signExtend_shiftOne (platform : Platform) {svid : Int} (first : 1 ≤ svid)
    (last : svid ≤ 32) {bit : Nat} (small : bit < 64) :
    ((platform.shiftOne (svid - 1)).signExtend 64).getLsbD bit = true ↔
      bit + 1 = svid ∨ svid = 32 ∧ 32 ≤ bit := by
  unfold Platform.shiftOne
  rw [if_pos (by omega), BitVec.getLsbD_signExtend, ← BitVec.twoPow_eq, BitVec.getLsbD_twoPow,
    BitVec.msb_twoPow]
  by_cases low : bit < 32
  · simp only [low, if_true, Bool.and_eq_true, decide_eq_true_eq]
    omega
  · simp only [low, if_false, Bool.and_eq_true, decide_eq_true_eq]
    omega

theorem usedBits_iff (platform : Platform) (mask : BitVec 64) {svid : Int} (first : 1 ≤ svid)
    (last : svid ≤ 32) :
    usedBits platform mask svid ≠ 0 ↔
      mask.getLsbD (svid - 1).toNat = true ∨
        svid = 32 ∧ ∃ bit, 32 ≤ bit ∧ mask.getLsbD bit = true := by
  unfold usedBits
  rw [and_ne_zero_iff]
  constructor
  · intro ⟨bit, small, set, constant⟩
    rw [getLsbD_signExtend_shiftOne platform first last small] at constant
    rcases constant with own | above
    · left
      have place : (svid - 1).toNat = bit := by omega
      rw [place]
      exact set
    · exact .inr ⟨above.1, bit, above.2, set⟩
  · intro either
    rcases either with own | ⟨last_id, bit, above, set⟩
    · exact ⟨(svid - 1).toNat, by omega, own,
        (getLsbD_signExtend_shiftOne platform first last (by omega)).mpr (by omega)⟩
    · have small : bit < 64 := BitVec.lt_of_getLsbD set
      exact ⟨bit, small, set,
        (getLsbD_signExtend_shiftOne platform first last small).mpr (.inr ⟨last_id, above⟩)⟩

/-- Bits above the lowest 32 are there in the numbers that do not fit into these. -/
theorem exists_high_iff (mask : BitVec 64) :
    (∃ bit, 32 ≤ bit ∧ mask.getLsbD bit = true) ↔ 2 ^ 32 ≤ mask.toNat := by
  constructor
  · intro ⟨bit, above, set⟩
    by_contra small
    have clear := Nat.testBit_lt_two_pow (Nat.lt_of_lt_of_le (Nat.not_le.mp small)
      (Nat.pow_le_pow_right (by decide) above))
    rw [BitVec.testBit_toNat, set] at clear
    exact absurd clear (by decide)
  · intro large
    by_contra none
    push Not at none
    have small := Nat.lt_pow_two_of_testBit mask.toNat (n := 32) fun bit above =>
      eq_false_of_ne_true (none bit above)
    omega

/-- Whatever a shift out of range gives, the test is right exactly where it reads the mask
rightly. -/
theorem usedBits_right_iff (mask : BitVec 64) {svid : Int} :
    (∀ platform, 1 ≤ svid → svid ≤ 64 →
      (usedBits platform mask svid ≠ 0 ↔ mask.getLsbD (svid - 1).toNat = true)) ↔
      ReadsRightly mask svid := by
  constructor
  · intro right
    refine ⟨fun last_id => ?_, fun beyond last => ?_⟩
    · subst last_id
      have test := right epoch (by decide) (by decide)
      rw [usedBits_iff epoch mask (by decide) (by decide), exists_high_iff] at test
      by_cases small : mask.toNat < 2 ^ 32
      · exact .inr small
      · exact .inl (test.mp (.inr ⟨rfl, Nat.not_lt.mp small⟩))
    · -- once a shift that leaves nothing, once one that leaves every bit
      have nothing := right epoch (by omega) last
      have all := right { epoch with shifted := fun _ => .allOnes 32 } (by omega) last
      have outside : ¬ (0 ≤ svid - 1 ∧ svid - 1 < 32) := by omega
      unfold usedBits Platform.shiftOne at nothing all
      rw [if_neg outside] at nothing all
      have clear : ¬ mask.getLsbD (svid - 1).toNat = true := by
        intro set
        exact nothing.mpr set (by simp [epoch])
      by_contra some_bit
      apply clear
      apply all.mp
      have ones : (BitVec.allOnes 32).signExtend 64 = BitVec.allOnes 64 := by decide
      dsimp only
      rw [ones, BitVec.and_allOnes]
      exact some_bit
  · intro ⟨last_id, beyond⟩ platform first last
    by_cases within : svid ≤ 32
    · rw [usedBits_iff platform mask first within, exists_high_iff]
      constructor
      · intro either
        rcases either with own | ⟨thirty_two, high⟩
        · exact own
        · subst thirty_two
          exact (last_id rfl).elim id fun small => absurd high (Nat.not_le.mpr small)
      · exact .inl
    · rw [beyond (by omega) last]
      simp [usedBits]

theorem markUsed_usedInFix (platform : Platform) (masks : GnssSvUsedInPosition)
    (sv : GnssSvInfo) :
    (markUsed platform masks sv).usedInFix = true ↔
      usedBits platform ((masks.mask sv.constellation).getD 0) sv.svid.toInt ≠ 0 := by
  unfold markUsed GnssSvInfo.usedInFix
  rw [decide_eq_true_iff]
  split
  · rename_i used
    have set : (sv.flags ||| GNSS_SV_FLAGS_USED_IN_FIX) &&& GNSS_SV_FLAGS_USED_IN_FIX =
        GNSS_SV_FLAGS_USED_IN_FIX := by
      ext bit
      simp +contextual
    exact iff_of_true set used
  · rename_i unused
    have complement : ~~~GNSS_SV_FLAGS_USED_IN_FIX &&& GNSS_SV_FLAGS_USED_IN_FIX = 0#8 := by decide
    have clear : (sv.flags &&& ~~~GNSS_SV_FLAGS_USED_IN_FIX) &&& GNSS_SV_FLAGS_USED_IN_FIX ≠
        GNSS_SV_FLAGS_USED_IN_FIX := by
      rw [BitVec.and_assoc, complement, BitVec.and_zero]
      decide
    exact iff_of_false clear unused

theorem markUsed_others (platform : Platform) (masks : GnssSvUsedInPosition) (sv : GnssSvInfo) :
    { markUsed platform masks sv with flags := sv.flags } = sv := by
  unfold markUsed
  split <;> rfl

theorem markUsed_flags (platform : Platform) (masks : GnssSvUsedInPosition) (sv : GnssSvInfo) :
    (markUsed platform masks sv).flags &&& ~~~GNSS_SV_FLAGS_USED_IN_FIX =
      sv.flags &&& ~~~GNSS_SV_FLAGS_USED_IN_FIX := by
  unfold markUsed
  split
  · ext bit
    simp [Bool.and_or_distrib_right]
  · rw [BitVec.and_assoc, BitVec.and_self]

/-- All that can go wrong with a satellite is the test of its bit. -/
theorem marked_iff (platform : Platform) (masks : GnssSvUsedInPosition) (sv : GnssSvInfo) :
    Marked masks sv (markUsed platform masks sv) ↔
      ∀ mask ∈ masks.mask sv.constellation, 1 ≤ sv.svid.toInt → sv.svid.toInt ≤ 64 →
        (usedBits platform mask sv.svid.toInt ≠ 0 ↔
          mask.getLsbD (sv.svid.toInt - 1).toNat = true) := by
  have flag := markUsed_usedInFix platform masks sv
  constructor
  · intro marked mask own first last
    have told := marked.used mask own first last
    rw [flag, Option.mem_def.mp own, Option.getD_some] at told
    exact told
  · intro right
    refine ⟨markUsed_others platform masks sv, markUsed_flags platform masks sv, ?_, ?_⟩
    · intro mask own first last
      rw [flag, Option.mem_def.mp own, Option.getD_some]
      exact right mask own first last
    · intro none
      rw [← Bool.not_eq_true, flag, none, Option.getD_none]
      simp [usedBits]

namespace Reporting

variable {R : Type} (platform : Platform) (report : SvReport) (σ : Reporting R)

/-- A report is passed on as it is but for the flags, to the callback and to the sentences,
unless it is muted, there is nothing to mark it by, or nobody is there. -/
def MarkingRule : Prop :=
  σ.session.eng.mute_session_state ≠ .inSession → σ.mGnssSvIdUsedInPosAvail = true →
    σ.gnss_sv_status_cb = true → ∃ passed : GnssSvStatus,
      List.Forall₂ (Marked σ.mGnssSvIdUsedInPosition) report.mSvStatus.svs passed.svs ∧
      (σ.reportSv platform report).satellites = σ.satellites ++ [passed] ∧
      (σ.reportSv platform report).nmea =
        if σ.generateNmea then generateSv platform passed report.mLocationExtended σ.nmea
        else σ.nmea

variable {report} {σ}

theorem reportSv_satellites (unmuted : σ.session.eng.mute_session_state ≠ .inSession)
    (avail : σ.mGnssSvIdUsedInPosAvail = true) (registered : σ.gnss_sv_status_cb = true) :
    (σ.reportSv platform report).satellites =
      σ.satellites ++ [markAll platform σ.mGnssSvIdUsedInPosition report.mSvStatus] := by
  unfold reportSv
  rw [if_pos unmuted]
  simp only [avail, registered, if_true]
  split <;> rfl

theorem reportSv_nmea (unmuted : σ.session.eng.mute_session_state ≠ .inSession)
    (avail : σ.mGnssSvIdUsedInPosAvail = true) (registered : σ.gnss_sv_status_cb = true) :
    (σ.reportSv platform report).nmea =
      if σ.generateNmea then
        generateSv platform (markAll platform σ.mGnssSvIdUsedInPosition report.mSvStatus)
          report.mLocationExtended σ.nmea
      else σ.nmea := by
  unfold reportSv
  rw [if_pos unmuted]
  simp only [avail, registered, if_true]
  split <;> rfl

/-- The rule is about each satellite for itself. -/
theorem markingRule_iff_marked :
    σ.MarkingRule platform report ↔
      (σ.session.eng.mute_session_state ≠ .inSession → σ.mGnssSvIdUsedInPosAvail = true →
        σ.gnss_sv_status_cb = true → ∀ sv ∈ report.mSvStatus.svs,
          Marked σ.mGnssSvIdUsedInPosition sv
            (markUsed platform σ.mGnssSvIdUsedInPosition sv)) := by
  have each : List.Forall₂ (Marked σ.mGnssSvIdUsedInPosition) report.mSvStatus.svs
      (markAll platform σ.mGnssSvIdUsedInPosition report.mSvStatus).svs ↔
      ∀ sv ∈ report.mSvStatus.svs, Marked σ.mGnssSvIdUsedInPosition sv
        (markUsed platform σ.mGnssSvIdUsedInPosition sv) := by
    unfold markAll
    rw [List.forall₂_map_right_iff, List.forall₂_same]
  constructor
  · intro rule unmuted avail registered
    obtain ⟨passed, marked, told, -⟩ := rule unmuted avail registered
    rw [reportSv_satellites platform unmuted avail registered] at told
    have same := List.singleton_inj.mp (List.append_cancel_left told)
    rw [← same] at marked
    exact each.mp marked
  · intro marked unmuted avail registered
    exact ⟨markAll platform σ.mGnssSvIdUsedInPosition report.mSvStatus,
      each.mpr (marked unmuted avail registered),
      reportSv_satellites platform unmuted avail registered,
      reportSv_nmea platform unmuted avail registered⟩

/-- Whatever a shift out of range gives, the satellites are marked by their bits exactly if
every one of them has a mask that the test reads rightly. -/
theorem markingRule_iff :
    (∀ platform, σ.MarkingRule platform report) ↔
      (σ.session.eng.mute_session_state ≠ .inSession → σ.mGnssSvIdUsedInPosAvail = true →
        σ.gnss_sv_status_cb = true → ∀ sv ∈ report.mSvStatus.svs,
          ∀ mask ∈ σ.mGnssSvIdUsedInPosition.mask sv.constellation,
            ReadsRightly mask sv.svid.toInt) := by
  simp only [markingRule_iff_marked, marked_iff]
  constructor
  · intro rule unmuted avail registered sv listed mask own
    rw [← usedBits_right_iff]
    exact fun platform => rule platform unmuted avail registered sv listed mask own
  · intro right platform unmuted avail registered sv listed mask own
    exact (usedBits_right_iff mask).mpr (right unmuted avail registered sv listed mask own)
      platform

/-- The position was computed from Galileo's satellite 36, and satellite 32 is in view. -/
def galileoUsed : Reporting Nat :=
  { takesIntermediate with
    mGnssSvIdUsedInPosAvail := true, mGnssSvIdUsedInPosition := ⟨0, 0, 0x800000000, 0⟩ }

def galileoInView : SvReport := ⟨⟨[usedSv 32 .galileo], by decide⟩, unextended⟩

/-- Satellite 32 is marked for satellite 36. -/
theorem markingRule_broken : ¬ galileoUsed.MarkingRule epoch galileoInView := by
  intro rule
  have marked := (markingRule_iff_marked epoch).mp rule (by decide) rfl rfl (usedSv 32 .galileo)
    (List.mem_singleton.mpr rfl)
  have told := (marked_iff epoch _ _).mp marked 0x800000000 rfl (by decide) (by decide)
  exact absurd (told.mp (by decide)) (by decide)

end Reporting
end A5Common.Engine
