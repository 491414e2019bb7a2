import A5Common.Nmea.Position
import A5Common.Number.Represents

set_option autoImplicit false

namespace A5Common.Nmea

open A5Common.Number

/-- The fields of a position: whole degrees, and millionths of minutes. -/
structure PositionFields where
  latDegrees : ℕ
  latMinutes : ℤ
  latHemisphere : Char
  lonDegrees : ℕ
  lonMinutes : ℤ
  lonHemisphere : Char
deriving DecidableEq

/-- `(uint8_t)floor(x)` -/
def degrees (x : ℚ) : ℕ := ⌊x⌋.toNat % 256

/-- `fmod(x * 60.0, 60.0)` -/
def minutesOf (x : ℚ) : ℚ := remainder (x * 60) 60

/-- The latitude and the longitude in a hemisphere each. -/
def hemispheres (latitude longitude : ℚ) : (Char × ℚ) × (Char × ℚ) :=
  (if 0 < latitude then ('N', latitude) else ('S', latitude * -1),
    if longitude < 0 then ('W', longitude * -1) else ('E', longitude))

/-- What is computed from a latitude and a longitude for a sentence. -/
def positionFields (latitude longitude : ℚ) : PositionFields :=
  let ((latHemisphere, latitude), (lonHemisphere, longitude)) := hemispheres latitude longitude
  let latMinutes := minutesOf latitude
  let lonMinutes := minutesOf longitude
  { latDegrees := degrees latitude
    latMinutes := units 6 latMinutes
    latHemisphere := latHemisphere
    lonDegrees := degrees longitude
    lonMinutes := units 6 lonMinutes
    lonHemisphere := lonHemisphere }

def gprmcPosition := positionFields

def gpggaPosition := positionFields

/-- Degrees and minutes as they are read, negative in the south and in the west. -/
def readDegrees (hemisphere : Char) (degrees : ℕ) (minutes : ℤ) : ℚ :=
  (if hemisphere = 'S' ∨ hemisphere = 'W' then -1 else 1) * (degrees + minutes / 10 ^ 6 / 60)

/-- Half a unit of the last digit, a millionth of a minute. -/
def halfUnit : ℚ := 1 / 2 / 10 ^ 6 / 60

/-- The fields of a position that reads back. -/
structure PositionFields.Encodes (fields : PositionFields) (latitude longitude : ℚ) : Prop where
  latMinutes : fields.latMinutes < 60 * 10 ^ 6
  lonMinutes : fields.lonMinutes < 60 * 10 ^ 6
  latitude : |readDegrees fields.latHemisphere fields.latDegrees fields.latMinutes - latitude| ≤
    halfUnit
  longitude : |readDegrees fields.lonHemisphere fields.lonDegrees fields.lonMinutes - longitude| ≤
    halfUnit

/-- The two sentences have the same fields, which encode the position. -/
def EncodedAlike (latitude longitude : ℚ) : Prop :=
  gprmcPosition latitude longitude = gpggaPosition latitude longitude ∧
    (gprmcPosition latitude longitude).Encodes latitude longitude ∧
    (gpggaPosition latitude longitude).Encodes latitude longitude

/-- The number is not so close below a whole one that it is printed with sixty minutes. -/
def ClearOfCarry (x : ℚ) : Prop := Int.fract |x| < 1 - halfUnit

theorem minutesOf_eq {x : ℚ} (natural : 0 ≤ x) : minutesOf x = 60 * Int.fract x := by
  unfold minutesOf
  rw [remainder_of_nonneg (by positivity) (by norm_num), mul_div_cancel_right₀ _ (by norm_num)]

/-- The minutes are rounded on their own, up to sixty where little is missing. -/
theorem units_minutesOf_lt_iff {x : ℚ} (natural : 0 ≤ x) :
    units 6 (minutesOf x) < 60 * 10 ^ 6 ↔ Int.fract x < 1 - halfUnit := by
  unfold units halfUnit
  rw [minutesOf_eq natural, nearest_lt_iff ⟨30 * 10 ^ 6, by norm_num⟩]
  push_cast
  constructor <;> intro less <;> linarith

theorem degrees_eq {x : ℚ} (natural : 0 ≤ x) (small : x < 256) : (degrees x : ℚ) = ⌊x⌋ := by
  have floor := Int.floor_nonneg.mpr natural
  have bounded : ⌊x⌋ < 256 := by
    rw [Int.floor_lt]
    exact_mod_cast small
  unfold degrees
  rw [Nat.mod_eq_of_lt (by omega)]
  exact_mod_cast Int.toNat_of_nonneg floor

/-- Degrees and minutes are near the number, with sixty minutes or with less. -/
theorem abs_read_sub_le {x : ℚ} (natural : 0 ≤ x) (small : x < 256) :
    |degrees x + units 6 (minutesOf x) / 10 ^ 6 / 60 - x| ≤ halfUnit := by
  have near := abs_le.mp (abs_sub_units_le 6 (minutesOf x))
  have split := Int.floor_add_fract x
  have minutes := minutesOf_eq natural
  unfold halfUnit
  rw [degrees_eq natural small, abs_le]
  constructor <;> linarith

theorem hemispheres_eq (latitude longitude : ℚ) :
    hemispheres latitude longitude =
      ((if 0 < latitude then 'N' else 'S', |latitude|),
        (if longitude < 0 then 'W' else 'E', |longitude|)) := by
  unfold hemispheres
  apply Prod.ext
  · dsimp only
    split
    · rename_i north
      rw [abs_of_pos north]
    · rename_i south
      rw [abs_of_nonpos (not_lt.mp south), mul_neg_one]
  · dsimp only
    split
    · rename_i west
      rw [abs_of_neg west, mul_neg_one]
    · rename_i east
      rw [abs_of_nonneg (not_lt.mp east)]

theorem positionFields_eq (latitude longitude : ℚ) :
    positionFields latitude longitude =
      { latDegrees := degrees |latitude|
        latMinutes := units 6 (minutesOf |latitude|)
        latHemisphere := if 0 < latitude then 'N' else 'S'
        lonDegrees := degrees |longitude|
        lonMinutes := units 6 (minutesOf |longitude|)
        lonHemisphere := if longitude < 0 then 'W' else 'E' } := by
  unfold positionFields
  rw [hemispheres_eq]

theorem abs_readLatitude_sub_le {latitude : ℚ} (small : |latitude| < 256) :
    |readDegrees (if 0 < latitude then 'N' else 'S') (degrees |latitude|)
      (units 6 (minutesOf |latitude|)) - latitude| ≤ halfUnit := by
  have near := abs_read_sub_le (abs_nonneg latitude) small
  unfold readDegrees
  by_cases north : 0 < latitude
  · rw [abs_of_pos north] at near ⊢
    rw [if_pos north, if_neg (by decide), one_mul]
    exact near
  · rw [abs_of_nonpos (not_lt.mp north)] at near ⊢
    rw [if_neg north, if_pos (by decide), neg_one_mul, ← neg_add', abs_neg]
    rwa [sub_neg_eq_add] at near

theorem abs_readLongitude_sub_le {longitude : ℚ} (small : |longitude| < 256) :
    |readDegrees (if longitude < 0 then 'W' else 'E') (degrees |longitude|)
      (units 6 (minutesOf |longitude|)) - longitude| ≤ halfUnit := by
  have near := abs_read_sub_le (abs_nonneg longitude) small
  unfold readDegrees
  by_cases west : longitude < 0
  · rw [abs_of_neg west] at near ⊢
    rw [if_pos west, if_pos (by decide), neg_one_mul, ← neg_add', abs_neg]
    rwa [sub_neg_eq_add] at near
  · rw [abs_of_nonneg (not_lt.mp west)] at near ⊢
    rw [if_neg west, if_neg (by decide), one_mul]
    exact near

/-- A position reads back wherever it is; what can be wrong are sixty minutes. -/
theorem encodes_iff {latitude longitude : ℚ} (lat : |latitude| ≤ 90) (lon : |longitude| ≤ 180) :
    (positionFields latitude longitude).Encodes latitude longitude ↔
      ClearOfCarry latitude ∧ ClearOfCarry longitude := by
  have latClear := units_minutesOf_lt_iff (abs_nonneg latitude)
  have lonClear := units_minutesOf_lt_iff (abs_nonneg longitude)
  rw [positionFields_eq]
  constructor
  · intro encodes
    exact ⟨latClear.mp encodes.latMinutes, lonClear.mp encodes.lonMinutes⟩
  · intro ⟨latitude_clear, longitude_clear⟩
    exact ⟨latClear.mpr latitude_clear, lonClear.mpr longitude_clear,
      abs_readLatitude_sub_le (by linarith), abs_readLongitude_sub_le (by linarith)⟩

/-- The position is encoded, alike in the two sentences, exactly if neither number is just
below a whole degree. -/
theorem encodedAlike_iff {latitude longitude : ℚ} (lat : |latitude| ≤ 90)
    (lon : |longitude| ≤ 180) :
    EncodedAlike latitude longitude ↔ ClearOfCarry latitude ∧ ClearOfCarry longitude := by
  have encodes := encodes_iff lat lon
  constructor
  · intro ⟨_, gprmc, _⟩
    exact encodes.mp gprmc
  · intro clear
    exact ⟨rfl, encodes.mpr clear, encodes.mpr clear⟩

/-- Half a degree to the north and to the west. -/
theorem encodedAlike_half : EncodedAlike (1 / 2) (-1 / 2) :=
  (encodedAlike_iff (by decide +kernel) (by decide +kernel)).mpr
    ⟨by unfold ClearOfCarry; decide +kernel, by unfold ClearOfCarry; decide +kernel⟩

/-- A thousand-millionth of a degree below one is printed as 0 degrees and 60.000000 minutes. -/
theorem encodedAlike_broken : ¬ EncodedAlike (1 - 1 / 10 ^ 9) 0 := by
  intro ⟨_, gprmc, _⟩
  have minutes := gprmc.latMinutes
  revert minutes
  decide +kernel

/-- The fields as they are printed. -/
def PositionFields.text (fields : PositionFields) : List Char :=
  decimal 2 fields.latDegrees ++ zeroUnitsText 9 6 fields.latMinutes.toNat ++
      [',', fields.latHemisphere, ','] ++
    (decimal 3 fields.lonDegrees ++ zeroUnitsText 9 6 fields.lonMinutes.toNat ++
      [',', fields.lonHemisphere, ','])

/-- The number is that of the `double`, and so is sixty times it: nothing is rounded. -/
structure Exactly (number : Double) (x : ℚ) : Prop where
  natural : 0 ≤ x
  represents : number.value.Represents x
  product : (number.mul sixty).value.Represents (x * 60)

theorem Exactly.minutes_eq {number : Double} {x : ℚ} (exactly : Exactly number x) :
    minutes number = zeroUnitsText 9 6 (units 6 (minutesOf x)).toNat := by
  have natural : 0 ≤ x * 60 := mul_nonneg exactly.natural (by norm_num)
  have sixty_positive : 0 < 60 := by decide
  have rest := represents_fmod sixty_positive (by decide) exactly.product natural
  have shown : 0 ≤ remainder (x * 60) (60 : ℕ) := by
    rw [remainder_of_nonneg natural (by norm_num)]
    positivity
  unfold minutes
  rw [rest.zeroFixed_eq shown]
  rfl

theorem Exactly.toByte_eq {number : Double} {x : ℚ} (exactly : Exactly number x) (small : x < 256)
    (platform : Platform) : platform.toByte number = degrees x := by
  have floor := exactly.represents.floor_eq exactly.natural
  have nonneg := Int.floor_nonneg.mpr exactly.natural
  have bounded : ⌊x⌋ < 256 := by
    rw [Int.floor_lt]
    exact_mod_cast small
  obtain ⟨n, whole⟩ := Int.eq_ofNat_of_zero_le nonneg
  unfold Platform.toByte degrees
  rw [floor, whole]
  dsimp only
  rw [if_pos (by omega), Int.toNat_natCast, Nat.mod_eq_of_lt (by omega)]

/-- The latitude and the longitude that a location has, which nothing is rounded of. The
equator is left out: its zero gets a sign. -/
structure Locates (location : GpsLocation) (latitude longitude : ℚ) : Prop where
  given : location.has GPS_LOCATION_HAS_LAT_LONG = true
  of_latitude : location.latitude.value.Represents latitude
  of_longitude : location.longitude.value.Represents longitude
  off_equator : latitude ≠ 0
  exact_latitude : ∀ number : Double, number.value.Represents |latitude| → Exactly number |latitude|
  exact_longitude : ∀ number : Double, number.value.Represents |longitude| →
    Exactly number |longitude|

theorem positionText_split (platform : Platform) {location : GpsLocation}
    (given : location.has GPS_LOCATION_HAS_LAT_LONG = true) :
    positionText platform location =
      let north := location.latitude.isPositive
      let west := location.longitude.isNegative
      let latitude := if north then location.latitude else location.latitude.negate
      let longitude := if west then location.longitude.negate else location.longitude
      decimal 2 (platform.toByte latitude) ++ minutes latitude ++
          [',', if north then 'N' else 'S', ','] ++
        (decimal 3 (platform.toByte longitude) ++ minutes longitude ++
          [',', if west then 'W' else 'E', ',']) := by
  unfold positionText
  rw [if_pos given]
  cases location.latitude.isPositive <;> cases location.longitude.isNegative <;> rfl

/-- Off the equator the text of the position is that of its fields. -/
theorem positionText_eq (platform : Platform) {location : GpsLocation} {latitude longitude : ℚ}
    (locates : Locates location latitude longitude) (small_latitude : |latitude| < 256)
    (small_longitude : |longitude| < 256) :
    positionText platform location = (positionFields latitude longitude).text := by
  have lat := locates.exact_latitude _ (locates.of_latitude.abs_positive locates.off_equator)
  have lon := locates.exact_longitude _ locates.of_longitude.abs_negative
  rw [positionText_split platform locates.given, positionFields_eq]
  dsimp only
  rw [lat.toByte_eq small_latitude, lat.minutes_eq, lon.toByte_eq small_longitude, lon.minutes_eq]
  unfold PositionFields.text
  simp only [locates.of_latitude.isPositive_iff, locates.of_longitude.isNegative_iff]

/-- The text that the two sentences print of a position reads back, but for sixty minutes. -/
theorem positionText_encodes (platform : Platform) {location : GpsLocation}
    {latitude longitude : ℚ} (locates : Locates location latitude longitude)
    (lat : |latitude| ≤ 90) (lon : |longitude| ≤ 180) :
    ∃ fields : PositionFields, positionText platform location = fields.text ∧
      (fields.Encodes latitude longitude ↔ ClearOfCarry latitude ∧ ClearOfCarry longitude) :=
  ⟨_, positionText_eq platform locates (by linarith) (by linarith), encodes_iff lat lon⟩

end A5Common.Nmea
