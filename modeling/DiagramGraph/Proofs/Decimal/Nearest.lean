import DiagramGraph.Proofs.Decimal.Fraction

/-!
# The nearest double

Rounding a fraction to a double changes it by at most half a unit in the last
place, leaves small integers as they are, and fails only for fractions beyond
the largest double.
-/

namespace DiagramGraph.Decimal.Magnitude

/-- The rational number that a magnitude is. -/
def value (magnitude : Magnitude) : ℚ :=
  magnitude.significand * 2 ^ magnitude.exponent

theorem ratio_fraction (magnitude : Magnitude) : ratio magnitude.fraction = magnitude.value := by
  rw [fraction, ratio_scaleFraction _ _ (by decide), value]
  simp

theorem fraction_pos (magnitude : Magnitude) : 0 < magnitude.fraction.2 :=
  scaleFraction_pos _ (by decide) (by decide) _

/-- Half a unit above the largest double: from here on fractions are too
large. -/
def limit : ℚ :=
  (2 ^ 53 - 1 / 2) * 2 ^ greatestExponent

/-! ## The parts of the nearest double -/

section Parts

variable (numerator denominator : Nat)

/-- The exponent with which a fraction is rounded. -/
def unit : Int :=
  max leastExponent (floorLog2 numerator denominator - 52)

/-- How many units a fraction is rounded to. -/
def units : Nat :=
  roundDiv (scaleFraction 2 numerator denominator (-unit numerator denominator)).1
    (scaleFraction 2 numerator denominator (-unit numerator denominator)).2

/-- So many units as a double, if they are not too many. -/
def ofUnits (significand : Nat) (exponent : Int) : Magnitude :=
  if significand = 0 then zero
  else if significand = 2 * leastSignificand then ⟨leastSignificand, exponent + 1⟩
  else ⟨significand, exponent⟩

end Parts

variable {numerator denominator : Nat}

theorem nearest?_eq (positive : 0 < numerator) :
    nearest? numerator denominator =
      if greatestExponent <
          (ofUnits (units numerator denominator) (unit numerator denominator)).exponent then none
      else some (ofUnits (units numerator denominator) (unit numerator denominator)) := by
  rw [nearest?, if_neg (by omega)]
  rfl

/-- Normalizing the units does not change the number. -/
theorem value_ofUnits (significand : Nat) (exponent : Int) :
    (ofUnits significand exponent).value = significand * 2 ^ exponent := by
  unfold ofUnits
  split
  · next none => simp [value, zero, none]
  · split
    · next full =>
        rw [value, full, leastSignificand, zpow_add₀ (by norm_num)]
        push_cast
        ring
    · rfl

theorem lt_exponent_ofUnits {significand : Nat} {exponent : Int}
    (large : greatestExponent < (ofUnits significand exponent).exponent) :
    greatestExponent < exponent ∨
      significand = 2 ^ 53 ∧ greatestExponent ≤ exponent := by
  unfold ofUnits at large
  split at large
  · contradiction
  · split at large
    · next full =>
        right
        refine ⟨full, ?_⟩
        change greatestExponent < exponent + 1 at large
        omega
    · exact .inl large

theorem significand_ofUnits_le {significand : Nat} (exponent : Int)
    (few : significand ≤ 2 ^ 53) : (ofUnits significand exponent).significand ≤ 2 ^ 53 := by
  unfold ofUnits
  split
  · decide
  · split
    · exact (by decide : leastSignificand ≤ 2 ^ 53)
    · exact few

/-! ## Bounds -/

/-- Rounding changes a fraction by at most half a unit. -/
theorem units_spec (numerator : Nat) (positiveDenominator : 0 < denominator) :
    (units numerator denominator * 2 ^ unit numerator denominator : ℚ) ≤
        numerator / denominator + 2 ^ unit numerator denominator / 2 ∧
      (numerator / denominator - 2 ^ unit numerator denominator / 2 : ℚ) ≤
        units numerator denominator * 2 ^ unit numerator denominator := by
  have pos := scaleFraction_pos numerator (show 0 < 2 by decide) positiveDenominator
    (-unit numerator denominator)
  have scaled := ratio_scaleFraction numerator denominator (show 0 < 2 by decide)
    (-unit numerator denominator)
  have upper := roundDiv_le
    (scaleFraction 2 numerator denominator (-unit numerator denominator)).1 pos
  have lower := le_roundDiv
    (scaleFraction 2 numerator denominator (-unit numerator denominator)).1 pos
  rw [← ratio, scaled] at upper lower
  rw [← units, Nat.cast_ofNat, zpow_neg] at upper lower
  have pos : (0 : ℚ) < 2 ^ unit numerator denominator := by positivity
  constructor
  · calc
      (units numerator denominator * 2 ^ unit numerator denominator : ℚ)
          ≤ (numerator / denominator * (2 ^ unit numerator denominator)⁻¹ + 1 / 2) *
              2 ^ unit numerator denominator := by gcongr
      _ = numerator / denominator + 2 ^ unit numerator denominator / 2 := by field_simp
  · calc
      (numerator / denominator - 2 ^ unit numerator denominator / 2 : ℚ)
          = (numerator / denominator * (2 ^ unit numerator denominator)⁻¹ - 1 / 2) *
              2 ^ unit numerator denominator := by field_simp
      _ ≤ units numerator denominator * 2 ^ unit numerator denominator := by gcongr

section Bounds

variable (positive : 0 < numerator) (positiveDenominator : 0 < denominator)

include positive positiveDenominator in
/-- A fraction has less than `2 ^ 53` units, and at least half as many unless
the unit is the smallest. -/
theorem unit_spec :
    (numerator / denominator : ℚ) < 2 ^ (unit numerator denominator + 53) ∧
      (unit numerator denominator = leastExponent ∨
        (2 : ℚ) ^ (unit numerator denominator + 52) ≤ numerator / denominator) := by
  obtain ⟨low, high⟩ := floorLog2_spec positive positiveDenominator
  constructor
  · apply lt_of_lt_of_le high
    apply zpow_le_zpow_right₀ (by norm_num)
    unfold unit
    omega
  · by_cases least : unit numerator denominator = leastExponent
    · exact .inl least
    · right
      have shape : unit numerator denominator + 52 = floorLog2 numerator denominator := by
        unfold unit at least ⊢
        omega
      rwa [shape]

include positive positiveDenominator in
theorem units_le : units numerator denominator ≤ 2 ^ 53 := by
  have few := (unit_spec positive positiveDenominator).1
  have rounded := (units_spec numerator positiveDenominator).1
  have pos : (0 : ℚ) < 2 ^ unit numerator denominator := by positivity
  rw [zpow_add₀ (by norm_num)] at few
  have less : (units numerator denominator : ℚ) < 2 ^ 53 + 1 := by
    rw [← mul_lt_mul_iff_left₀ pos]
    have exact : (2 : ℚ) ^ (53 : Int) = 2 ^ 53 := by norm_cast
    rw [exact] at few
    linarith
  have cast : units numerator denominator < 2 ^ 53 + 1 := by exact_mod_cast less
  omega

/-! ## What rounding guarantees -/

include positive positiveDenominator in
/-- Fractions below the limit are rounded to a double. -/
theorem exists_nearest? (small : (numerator / denominator : ℚ) < limit) :
    ∃ rounded, nearest? numerator denominator = some rounded := by
  rw [nearest?_eq positive]
  refine ⟨_, if_neg fun large => ?_⟩
  have pos : (0 : ℚ) < 2 ^ unit numerator denominator := by positivity
  rcases lt_exponent_ofUnits large with large | ⟨full, large⟩
  · rcases (unit_spec positive positiveDenominator).2 with least | low
    · rw [least] at large
      contradiction
    · have beyond : limit < 2 ^ (unit numerator denominator + 52) := by
        have next : (2 : ℚ) ^ (greatestExponent + 53) ≤ 2 ^ (unit numerator denominator + 52) := by
          apply zpow_le_zpow_right₀ (by norm_num)
          omega
        apply lt_of_lt_of_le _ next
        rw [zpow_add₀ (by norm_num), limit, mul_comm]
        gcongr
        norm_num
      linarith
  · have rounded := (units_spec numerator positiveDenominator).1
    have unitLarge : (2 : ℚ) ^ greatestExponent ≤ 2 ^ unit numerator denominator :=
      zpow_le_zpow_right₀ (by norm_num) large
    rw [full, limit] at *
    push_cast at rounded
    nlinarith

include positive in
theorem value_of_nearest? {rounded : Magnitude}
    (nearest : nearest? numerator denominator = some rounded) :
    rounded.value = units numerator denominator * 2 ^ unit numerator denominator := by
  rw [nearest?_eq positive] at nearest
  split at nearest
  · contradiction
  · rw [← Option.some_inj.1 nearest, value_ofUnits]

include positive positiveDenominator in
/-- Rounding to a double changes a fraction by at most half a unit. -/
theorem value_nearest? {rounded : Magnitude}
    (nearest : nearest? numerator denominator = some rounded) {power : Int}
    (normal : -1022 ≤ power) (below : (numerator / denominator : ℚ) < 2 ^ (power + 1)) :
    rounded.value ≤ numerator / denominator + 2 ^ (power - 53) ∧
      numerator / denominator - 2 ^ (power - 53) ≤ rounded.value := by
  have exponent : unit numerator denominator ≤ power - 52 := by
    rcases (unit_spec positive positiveDenominator).2 with least | low
    · rw [least]
      unfold leastExponent
      omega
    · have less := (zpow_lt_zpow_iff_right₀ (by norm_num)).1 (lt_of_le_of_lt low below)
      omega
  have half : (2 : ℚ) ^ unit numerator denominator / 2 ≤ 2 ^ (power - 53) := by
    calc
      (2 : ℚ) ^ unit numerator denominator / 2 = 2 ^ (unit numerator denominator - 1) := by
        rw [zpow_sub₀ (by norm_num), zpow_one]
      _ ≤ 2 ^ (power - 53) := by
        apply zpow_le_zpow_right₀ (by norm_num)
        omega
  obtain ⟨upper, lower⟩ := units_spec numerator positiveDenominator
  rw [value_of_nearest? positive nearest]
  constructor
  · linarith
  · linarith

include positive positiveDenominator in
/-- A double is below `2 ^ 1024`. -/
theorem value_nearest?_le {rounded : Magnitude}
    (nearest : nearest? numerator denominator = some rounded) :
    rounded.value ≤ 2 ^ (1024 : Int) := by
  have few := significand_ofUnits_le (unit numerator denominator)
    (units_le positive positiveDenominator)
  rw [nearest?_eq positive] at nearest
  split at nearest
  · contradiction
  · next small =>
      rw [Option.some_inj.1 nearest] at few small
      have significand : (rounded.significand : ℚ) ≤ 2 ^ (53 : Int) := by exact_mod_cast few
      have exponent : (2 : ℚ) ^ rounded.exponent ≤ 2 ^ (971 : Int) :=
        zpow_le_zpow_right₀ (by norm_num) (not_lt.1 small)
      calc
        rounded.value ≤ 2 ^ (53 : Int) * 2 ^ (971 : Int) := by
          unfold value
          gcongr
        _ = 2 ^ (1024 : Int) := by
          rw [← zpow_add₀ (by norm_num)]
          norm_num

end Bounds

/-- Integers of few digits are doubles. -/
theorem value_ofNat? {value : Nat} (positive : 0 < value) (small : value < 2 ^ 53)
    {rounded : Magnitude} (nearest : ofNat? value = some rounded) : rounded.value = value := by
  have unitSmall : unit value 1 ≤ 0 := by
    rcases (unit_spec positive (show 0 < 1 by decide)).2 with least | low
    · rw [least]
      decide
    · have below : (value / (1 : Nat) : ℚ) < 2 ^ (53 : Int) := by
        simp only [Nat.cast_one, div_one]
        exact_mod_cast small
      have less := (zpow_lt_zpow_iff_right₀ (by norm_num)).1 (lt_of_le_of_lt low below)
      omega
  obtain ⟨count, shape⟩ := Int.eq_ofNat_of_zero_le (show 0 ≤ -unit value 1 by omega)
  have exponent : unit value 1 = -(count : Int) := by omega
  rw [value_of_nearest? positive nearest, units, shape, exponent]
  simp [scaleFraction]

end DiagramGraph.Decimal.Magnitude
