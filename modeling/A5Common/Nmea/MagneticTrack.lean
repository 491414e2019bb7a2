import A5Common.Nmea.Position
import A5Common.Number.Represents
import Mathlib.Data.Int.ModEq

set_option autoImplicit false

namespace A5Common.Nmea

open A5Common.Number

/-- The bearing of a report and its magnetic deviation, where it has one, as exact numbers. -/
structure Heading where
  bearing : ℚ
  magneticDeviation : Option ℚ

namespace Heading

/-- The `magTrack` of the inner block. -/
def innerMagTrack (bearing magneticDeviation : ℚ) : ℚ :=
  let magTrack := bearing - magneticDeviation
  if magTrack < 0 then magTrack + 360
  else if 360 < magTrack then magTrack - 360
  else magTrack

/-- The `magTrack` that is printed. The inner block declares another of the name. -/
def magTrack (heading : Heading) : ℚ :=
  let magTrack := heading.bearing
  let _ := heading.magneticDeviation.map (innerMagTrack heading.bearing)
  magTrack

/-- The true and the magnetic track of `$GPVTG`, in tenths. -/
def gpvtgTracks (heading : Heading) : ℤ × ℤ :=
  (units 1 heading.bearing, units 1 heading.magTrack)

/-- The variation of `$GPRMC` in tenths, and its direction. -/
def gprmcVariation (magneticDeviation : ℚ) : ℤ × Char :=
  if magneticDeviation < 0 then (units 1 (magneticDeviation * -1), 'W')
  else (units 1 magneticDeviation, 'E')

/-- A variation as it is read, positive to the east. -/
def readVariation : ℤ × Char → ℤ
  | (variation, direction) => if direction = 'W' then -variation else variation

/-- The two sentences tell the same magnetic direction: that of the bearing less the
deviation, and, but for the last digit, that of the track and the variation they print. -/
structure Agrees (heading : Heading) : Prop where
  plain : heading.magneticDeviation = none → heading.gpvtgTracks.2 = heading.gpvtgTracks.1
  magnetic : ∀ deviation ∈ heading.magneticDeviation,
    heading.gpvtgTracks.2 ≡ units 1 (heading.bearing - deviation) [ZMOD 3600]
  consistent : ∀ deviation ∈ heading.magneticDeviation, ∃ turns : ℤ,
    |heading.gpvtgTracks.2 -
      (heading.gpvtgTracks.1 - readVariation (gprmcVariation deviation)) - 3600 * turns| ≤ 1

/-- The deviation does not show in tenths: the bearing and the bearing less the deviation,
but for whole turns, are next to the same one. -/
def Hides (bearing deviation : ℚ) : Prop :=
  ∃ tenth turns : ℤ, IsNearest (bearing * 10) tenth ∧
    IsNearest ((bearing - deviation - 360 * turns) * 10) tenth

theorem readVariation_gprmcVariation (deviation : ℚ) :
    readVariation (gprmcVariation deviation) = units 1 deviation := by
  unfold gprmcVariation
  split
  · show -units 1 (deviation * -1) = _
    rw [mul_neg_one, units_neg, neg_neg]
  · rfl

theorem units_nonneg {x : ℚ} (natural : 0 ≤ x) : 0 ≤ units 1 x := by
  have above : ¬ nearest (x * 10 ^ 1) < 0 := by
    rw [nearest_lt_iff Even.zero, not_lt]
    have more : 0 ≤ x * 10 ^ 1 := by positivity
    push_cast
    linarith
  exact not_lt.mp above

theorem isNearest_units (x : ℚ) : IsNearest (x * 10) (units 1 x) := by
  unfold units
  rw [pow_one]
  exact isNearest_nearest _

/-- Whole turns are even counts of tenths, and move the nearest tenth along. -/
theorem units_turns (x : ℚ) (turns : ℤ) :
    units 1 (x - 360 * turns) = units 1 x - 3600 * turns := by
  have even : Even (-(3600 * turns)) := ⟨-(1800 * turns), by ring⟩
  have moved := (isNearest_units x).add_even even
  have place : x * 10 + ((-(3600 * turns) : ℤ) : ℚ) = (x - 360 * turns) * 10 := by
    push_cast
    ring
  rw [place] at moved
  exact (isNearest_units _).unique moved

theorem hides_iff (bearing deviation : ℚ) :
    Hides bearing deviation ↔ units 1 bearing ≡ units 1 (bearing - deviation) [ZMOD 3600] := by
  constructor
  · intro ⟨tenth, turns, own, turned⟩
    have first := own.unique (isNearest_units bearing)
    have second := turned.unique (isNearest_units _)
    rw [units_turns] at second
    rw [Int.modEq_iff_add_fac]
    exact ⟨turns, by omega⟩
  · intro same
    obtain ⟨turns, offset⟩ := Int.modEq_iff_add_fac.mp same
    refine ⟨units 1 bearing, turns, isNearest_units bearing, ?_⟩
    have place : units 1 bearing = units 1 (bearing - deviation - 360 * turns) := by
      rw [units_turns]
      omega
    rw [place]
    exact isNearest_units _

/-- Three roundings to tenths add up to less than two of them. -/
theorem abs_units_sub_le (x y : ℚ) : |units 1 (x - y) - (units 1 x - units 1 y)| ≤ 1 := by
  have difference := abs_le.mp (isNearest_units (x - y)).error_le
  have left := abs_le.mp (isNearest_units x).error_le
  have right := abs_le.mp (isNearest_units y).error_le
  have small : (|units 1 (x - y) - (units 1 x - units 1 y)| : ℚ) < 2 := by
    rw [abs_lt]
    constructor <;> linarith
  have whole : |units 1 (x - y) - (units 1 x - units 1 y)| < 2 := by exact_mod_cast small
  omega

/-- The sentences agree exactly if there is no deviation or none that shows. -/
theorem agrees_iff (heading : Heading) :
    heading.Agrees ↔ ∀ deviation ∈ heading.magneticDeviation, Hides heading.bearing deviation := by
  constructor
  · intro agrees deviation given
    exact (hides_iff _ _).mpr (agrees.magnetic deviation given)
  · intro hides
    have same : ∀ deviation ∈ heading.magneticDeviation,
        heading.gpvtgTracks.2 ≡ units 1 (heading.bearing - deviation) [ZMOD 3600] :=
      fun deviation given => (hides_iff _ _).mp (hides deviation given)
    refine ⟨fun _ => rfl, same, fun deviation given => ?_⟩
    obtain ⟨turns, offset⟩ := Int.modEq_iff_add_fac.mp (same deviation given)
    have near := abs_units_sub_le heading.bearing deviation
    have true_track : heading.gpvtgTracks.1 = units 1 heading.bearing := rfl
    refine ⟨-turns, ?_⟩
    rw [offset] at near
    rw [readVariation_gprmcVariation, true_track]
    calc |heading.gpvtgTracks.2 - (units 1 heading.bearing - units 1 deviation) - 3600 * -turns|
        = |heading.gpvtgTracks.2 + 3600 * turns -
            (units 1 heading.bearing - units 1 deviation)| := congrArg abs (by ring)
      _ ≤ 1 := near

/-- A deviation of more than a tenth shows, but for whole turns. -/
theorem not_hides_of_far {bearing deviation : ℚ}
    (far : ∀ turns : ℤ, 1 / 10 < |deviation - 360 * turns|) : ¬ Hides bearing deviation := by
  intro ⟨tenth, turns, own, turned⟩
  have left := abs_le.mp own.error_le
  have right := abs_le.mp turned.error_le
  have near : |deviation - 360 * (-turns : ℤ)| ≤ 1 / 10 := by
    push_cast
    rw [abs_le]
    constructor <;> linarith
  exact absurd (far (-turns)) (not_lt.mpr near)

/-- A bearing of 90 degrees with a deviation of 10 to the east has a magnetic track of 80,
and `$GPVTG` prints 90. -/
theorem agrees_broken : ¬ (⟨90, some 10⟩ : Heading).Agrees := by
  intro agrees
  have same := agrees.magnetic 10 rfl
  revert same
  decide +kernel

end Heading

/-- The report whose bearing and deviation the heading has. -/
structure Heading.Of (heading : Heading) (location : GpsLocation)
    (locationExtended : GpsLocationExtended) : Prop where
  has_bearing : location.has GPS_LOCATION_HAS_BEARING = true
  bearing : location.bearing.value.Represents heading.bearing
  has_deviation : locationExtended.has GPS_LOCATION_EXTENDED_HAS_MAG_DEV =
    heading.magneticDeviation.isSome
  deviation : ∀ deviation ∈ heading.magneticDeviation,
    locationExtended.magneticDeviation.value.Represents deviation

namespace Heading.Of

variable {heading : Heading} {location : GpsLocation} {locationExtended : GpsLocationExtended}

/-- `$GPVTG` prints the tracks of the exact numbers. -/
theorem gpvtg_eq (heads : heading.Of location locationExtended) (data : LocEngData) :
    gpvtg data location = compose
      ["$GPVTG,".toList ++ printed 1 heading.bearing ++ ",T,".toList ++
          printed 1 heading.magTrack ++ ",M,".toList,
        if location.has GPS_LOCATION_HAS_SPEED then
          tenths (speedKnots location) ++ ",N,".toList ++ tenths (speedKmPerHour location) ++
            ",K,".toList
        else ",N,,K,".toList]
      [fixQuality data location 'N' 'A' 'D'] := by
  have text : tenths location.bearing = printed 1 heading.bearing := heads.bearing.fixed_eq 1
  unfold gpvtg
  rw [if_pos heads.has_bearing, text]
  rfl

/-- `$GPRMC` prints the variation of the exact numbers. -/
theorem magneticText_eq (heads : heading.Of location locationExtended) :
    magneticText locationExtended =
      match heading.magneticDeviation.map gprmcVariation with
      | some (variation, direction) => unitsText 1 variation.toNat ++ [',', direction, ',']
      | none => ",,".toList := by
  unfold magneticText
  rw [heads.has_deviation]
  cases given : heading.magneticDeviation with
  | none => rfl
  | some deviation =>
      have represents := heads.deviation deviation given
      rw [Option.isSome_some, if_pos rfl, Option.map_some]
      unfold gprmcVariation
      by_cases west : deviation < 0
      · have text : tenths locationExtended.magneticDeviation.negate = printed 1 (-deviation) :=
          (represents.negate west.ne).fixed_eq 1
        rw [printed_of_nonneg 1 (neg_nonneg.mpr west.le)] at text
        rw [if_pos (represents.isNegative_iff.mpr west), if_pos west, mul_neg_one]
        dsimp only
        rw [text]
      · have text : tenths locationExtended.magneticDeviation = printed 1 deviation :=
          represents.fixed_eq 1
        rw [printed_of_nonneg 1 (not_lt.mp west)] at text
        rw [if_neg (fun negative => west (represents.isNegative_iff.mp negative)), if_neg west]
        dsimp only
        rw [text]

/-- The track that `$GPVTG` prints as magnetic and the deviation that `$GPRMC` prints, as
they are read: the track is the bearing less the deviation exactly if that does not show. -/
theorem printed_track_iff (heads : heading.Of location locationExtended)
    (natural : 0 ≤ heading.bearing) {deviation : ℚ}
    (given : heading.magneticDeviation = some deviation) (data : LocEngData) :
    ∃ (track variation : ℕ) (direction : Char) (speed : List Char),
      gpvtg data location = compose
        ["$GPVTG,".toList ++ printed 1 heading.bearing ++ ",T,".toList ++ unitsText 1 track ++
          ",M,".toList, speed] [fixQuality data location 'N' 'A' 'D'] ∧
      magneticText locationExtended = unitsText 1 variation ++ [',', direction, ','] ∧
      readVariation (variation, direction) = units 1 deviation ∧
      ((track : ℤ) ≡ units 1 (heading.bearing - deviation) [ZMOD 3600] ↔
        Hides heading.bearing deviation) := by
  have whole {x : ℚ} (positive : 0 ≤ x) : ((units 1 x).toNat : ℤ) = units 1 x :=
    Int.toNat_of_nonneg (units_nonneg positive)
  have variation : 0 ≤ (gprmcVariation deviation).1 := by
    unfold gprmcVariation
    split
    · rename_i west
      exact units_nonneg (by linarith)
    · rename_i east
      exact units_nonneg (not_lt.mp east)
  have track : printed 1 heading.magTrack = unitsText 1 (units 1 heading.bearing).toNat :=
    printed_of_nonneg 1 natural
  have sentence := heads.gpvtg_eq data
  have text := heads.magneticText_eq
  rw [track] at sentence
  rw [given] at text
  refine ⟨(units 1 heading.bearing).toNat, (gprmcVariation deviation).1.toNat,
    (gprmcVariation deviation).2, _, sentence, text, ?_, ?_⟩
  · rw [Int.toNat_of_nonneg variation]
    exact readVariation_gprmcVariation deviation
  · rw [whole natural, hides_iff]

end Heading.Of
end A5Common.Nmea
