import DiagramGraph.Proofs.Decimal.Nearest

/-!
# Scaling by powers of ten

A written number is read by rounding its digits and a power of ten to doubles
and rounding once more. All of that stays within the doubles for numbers that
lie at least a unit below the limit.
-/

namespace DiagramGraph.Decimal.Magnitude

/-! ## Relative precision -/

/-- Rounding changes a fraction by at most this part of it. -/
def precision : ℚ :=
  2 ^ (-53 : Int)

theorem precision_pos : 0 < precision := by
  unfold precision
  positivity

theorem precision_le : precision ≤ 1 / 8 := by
  rw [precision]
  norm_num

section Relative

variable {numerator denominator : Nat} {rounded : Magnitude}

theorem value_nearest?_relative (positive : 0 < numerator) (positiveDenominator : 0 < denominator)
    (large : (1 : ℚ) ≤ numerator / denominator)
    (nearest : nearest? numerator denominator = some rounded) :
    rounded.value ≤ numerator / denominator * (1 + precision) ∧
      numerator / denominator * (1 - precision) ≤ rounded.value := by
  obtain ⟨low, high⟩ := floorLog2_spec positive positiveDenominator
  have normal : -1022 ≤ floorLog2 numerator denominator := by
    have one : (2 : ℚ) ^ (0 : Int) < 2 ^ (floorLog2 numerator denominator + 1) := by
      rw [zpow_zero]
      exact lt_of_le_of_lt large high
    have less := (zpow_lt_zpow_iff_right₀ (by norm_num)).1 one
    omega
  have change : (2 : ℚ) ^ (floorLog2 numerator denominator - 53) ≤
      numerator / denominator * precision := by
    calc
      (2 : ℚ) ^ (floorLog2 numerator denominator - 53)
          = 2 ^ floorLog2 numerator denominator * precision := by
            rw [precision, ← zpow_add₀ (by norm_num)]
            rfl
      _ ≤ numerator / denominator * precision := by
            have pos := precision_pos
            gcongr
  obtain ⟨upper, lower⟩ := value_nearest? positive positiveDenominator nearest normal high
  constructor
  · linarith
  · linarith

theorem value_ofNat?_relative {value : Nat} (positive : 0 < value)
    (nearest : ofNat? value = some rounded) :
    rounded.value ≤ value * (1 + precision) ∧ value * (1 - precision) ≤ rounded.value := by
  have large : (1 : ℚ) ≤ value / (1 : Nat) := by
    rw [Nat.cast_one, div_one]
    exact_mod_cast positive
  have bounds := value_nearest?_relative positive (by decide) large nearest
  rwa [Nat.cast_one, div_one] at bounds

end Relative

/-! ## The limit -/

/-- The limit as a natural number. -/
def naturalLimit : Nat :=
  (2 ^ 54 - 1) * 2 ^ 970

theorem limit_eq : limit = naturalLimit := by
  have split : (2 : ℚ) ^ greatestExponent = 2 * 2 ^ 970 := by
    rw [greatestExponent, show (971 : Int) = 1 + (970 : Nat) by norm_num,
      zpow_add₀ (by norm_num), zpow_natCast, zpow_one]
  rw [limit, split, naturalLimit, Nat.cast_mul, Nat.cast_pow, Nat.cast_ofNat]
  generalize (2 : ℚ) ^ 970 = power
  norm_num
  ring

theorem lt_two_mul_limit : (2 : ℚ) ^ (1024 : Int) < 2 * limit := by
  have unit : (0 : ℚ) < 2 ^ greatestExponent := by positivity
  have split : (2 : ℚ) ^ (1024 : Int) = 2 ^ 53 * 2 ^ greatestExponent := by
    rw [greatestExponent, ← zpow_natCast, ← zpow_add₀ (by norm_num)]
    rfl
  rw [split, limit]
  generalize (2 : ℚ) ^ greatestExponent = power at unit ⊢
  linarith

theorem limit_pos : 0 < limit :=
  mul_pos (by norm_num) (by positivity)

/-- The limit with a unit less, which is as large as a number can be that is not
rounded to the largest double. -/
def innerLimit : ℚ :=
  limit - 2 ^ greatestExponent

/-- The inner limit as a natural number. -/
def naturalInnerLimit : Nat :=
  (2 ^ 54 - 3) * 2 ^ 970

theorem innerLimit_eq : innerLimit = naturalInnerLimit := by
  have split : (2 : ℚ) ^ greatestExponent = 2 * 2 ^ 970 := by
    rw [greatestExponent, show (971 : Int) = 1 + (970 : Nat) by norm_num,
      zpow_add₀ (by norm_num), zpow_natCast, zpow_one]
  rw [innerLimit, limit, split, naturalInnerLimit, Nat.cast_mul, Nat.cast_pow, Nat.cast_ofNat]
  generalize (2 : ℚ) ^ 970 = power
  norm_num
  ring

attribute [irreducible] naturalLimit naturalInnerLimit

/-- A number below the inner limit stays below the limit when it is rounded
once. -/
theorem innerLimit_mul_lt : innerLimit * (1 + precision) < limit := by
  have unit : (0 : ℚ) < 2 ^ greatestExponent := by positivity
  have part : innerLimit * precision < 2 ^ greatestExponent := by
    have less : innerLimit < 2 ^ 53 * 2 ^ greatestExponent := by
      unfold innerLimit limit
      linarith
    calc
      innerLimit * precision < 2 ^ 53 * 2 ^ greatestExponent * precision := by
        have pos := precision_pos
        gcongr
      _ = 2 ^ greatestExponent := by
        rw [precision]
        generalize (2 : ℚ) ^ greatestExponent = power
        norm_num
        ring
  have whole : innerLimit + 2 ^ greatestExponent = limit := by
    unfold innerLimit
    ring
  linarith

/-! ## Dividing by a power of ten -/

theorem exists_factor {count : Nat} (bounded : count ≤ greatestPower) :
    ∃ factor, ofNat? (Nat.pow 10 count) = some factor := by
  have positive : 0 < 10 ^ count := by positivity
  apply exists_nearest? positive (by decide)
  have largest : 10 ^ greatestPower < naturalLimit := by decide +kernel
  have below : 10 ^ count < naturalLimit :=
    Nat.lt_of_le_of_lt (Nat.pow_le_pow_right (by decide) bounded) largest
  rw [limit_eq, Nat.cast_one, div_one]
  exact Nat.cast_lt.2 below

theorem scaleOnce?_of_nonneg (magnitude : Magnitude) {factor : Magnitude} {power : Int}
    (nonnegative : 0 ≤ power) (found : ofNat? (Nat.pow 10 power.natAbs) = some factor) :
    magnitude.scaleOnce? power =
      nearest? (magnitude.fraction.1 * factor.fraction.1)
        (magnitude.fraction.2 * factor.fraction.2) := by
  rw [scaleOnce?, found, Option.bind_eq_bind, Option.bind_some]
  exact if_pos nonnegative

theorem scaleOnce?_of_neg (magnitude : Magnitude) {factor : Magnitude} {power : Int}
    (negative : power < 0) (found : ofNat? (Nat.pow 10 power.natAbs) = some factor) :
    magnitude.scaleOnce? power =
      nearest? (magnitude.fraction.1 * factor.fraction.2)
        (magnitude.fraction.2 * factor.fraction.1) := by
  rw [scaleOnce?, found, Option.bind_eq_bind, Option.bind_some]
  exact if_neg (by omega)

/-- Fractions of doubles that are not too large are rounded to doubles. -/
theorem exists_double {numerator denominator : Nat} (positiveDenominator : 0 < denominator)
    (small : (numerator / denominator : ℚ) < limit) :
    ∃ rounded, nearest? numerator denominator = some rounded ∧
      rounded.value ≤ 2 ^ (1024 : Int) := by
  by_cases positive : 0 < numerator
  · obtain ⟨rounded, nearest⟩ := exists_nearest? positive positiveDenominator small
    exact ⟨rounded, nearest, value_nearest?_le positive positiveDenominator nearest⟩
  · have none : numerator = 0 := by omega
    refine ⟨zero, if_pos none, ?_⟩
    rw [value, zero]
    norm_num

/-- Dividing a double by a power of ten gives a double. -/
theorem exists_scaleOnce?_of_neg {magnitude : Magnitude}
    (double : magnitude.value ≤ 2 ^ (1024 : Int))
    {power : Int} (negative : power < 0) (bounded : power.natAbs ≤ greatestPower) :
    ∃ scaled, magnitude.scaleOnce? power = some scaled ∧ scaled.value ≤ 2 ^ (1024 : Int) := by
  obtain ⟨factor, found⟩ := exists_factor bounded
  rw [scaleOnce?_of_neg magnitude negative found]
  have factorLarge : 8 ≤ factor.value := by
    have lower := (value_ofNat?_relative (Nat.pow_pos (by decide)) found).2
    have ten : ((10 : Nat) : ℚ) ≤ ((10 ^ power.natAbs : Nat) : ℚ) :=
      Nat.cast_le.2 (Nat.le_self_pow (by omega) 10)
    rw [Nat.cast_ofNat] at ten
    have precise := precision_le
    generalize ((10 ^ power.natAbs : Nat) : ℚ) = scale at lower ten
    nlinarith
  have factorRatio := factor.ratio_fraction
  have factorPositive : 0 < factor.fraction.1 := by
    by_contra none
    have : factor.fraction.1 = 0 := by omega
    rw [ratio, this] at factorRatio
    simp at factorRatio
    linarith
  apply exists_double (Nat.mul_pos magnitude.fraction_pos factorPositive)
  have quotient : ((magnitude.fraction.1 * factor.fraction.2 : Nat) /
      (magnitude.fraction.2 * factor.fraction.1 : Nat) : ℚ) = magnitude.value / factor.value := by
    rw [← magnitude.ratio_fraction, ← factorRatio, ratio, ratio, div_div_div_eq]
    push_cast
    rfl
  rw [quotient, div_lt_iff₀ (by linarith)]
  have large := lt_two_mul_limit
  have pos := limit_pos
  generalize (2 : ℚ) ^ (1024 : Int) = bound at double large
  nlinarith

/-- Dividing in several steps gives a double, too. -/
theorem exists_shrink? (steps : Nat) {magnitude : Magnitude}
    (double : magnitude.value ≤ 2 ^ (1024 : Int)) :
    ∃ scaled, magnitude.shrink? steps = some scaled ∧ scaled.value ≤ 2 ^ (1024 : Int) := by
  induction steps generalizing magnitude with
  | zero => exact ⟨magnitude, rfl, double⟩
  | succ steps ih =>
      unfold shrink?
      split
      · exact ⟨magnitude, rfl, double⟩
      · obtain ⟨smaller, once, stillDouble⟩ :=
          exists_scaleOnce?_of_neg double (show -(greatestPower : Int) < 0 by decide) (by decide)
        rw [once, Option.bind_some]
        exact ih stillDouble

theorem exists_scale?_of_neg {magnitude : Magnitude} (double : magnitude.value ≤ 2 ^ (1024 : Int))
    {power : Int} (negative : power < 0) : ∃ scaled, magnitude.scale? power = some scaled := by
  unfold scale?
  split
  · next bounded =>
      obtain ⟨scaled, once, -⟩ := exists_scaleOnce?_of_neg double negative bounded
      exact ⟨scaled, once⟩
  · next unbounded =>
      split
      · exact ⟨magnitude, rfl⟩
      · rw [if_neg (by omega)]
        obtain ⟨smaller, shrunk, stillDouble⟩ :=
          exists_shrink? ((power.natAbs - 1) / greatestPower) double
        unfold greatestPower at unbounded shrunk ⊢
        obtain ⟨scaled, once, -⟩ := exists_scaleOnce?_of_neg stillDouble
          (show power + (308 * ((power.natAbs - 1) / 308) : Nat) < 0 by omega)
          (by unfold greatestPower; omega)
        exact ⟨scaled, Option.bind_eq_some_iff.2 ⟨smaller, shrunk, once⟩⟩

/-! ## Multiplying by a power of ten -/

theorem exists_scale?_of_mul_lt {magnitude factor : Magnitude} {count : Nat}
    (bounded : count ≤ greatestPower) (found : ofNat? (Nat.pow 10 count) = some factor)
    (small : magnitude.value * factor.value < limit) :
    ∃ scaled, magnitude.scale? count = some scaled := by
  have product : ((magnitude.fraction.1 * factor.fraction.1 : Nat) /
      (magnitude.fraction.2 * factor.fraction.2 : Nat) : ℚ) = magnitude.value * factor.value := by
    rw [← magnitude.ratio_fraction, ← factor.ratio_fraction, ratio, ratio, div_mul_div_comm]
    push_cast
    rfl
  obtain ⟨scaled, nearest, -⟩ := exists_double
    (Nat.mul_pos magnitude.fraction_pos factor.fraction_pos) (product ▸ small)
  refine ⟨scaled, ?_⟩
  rw [scale?, Int.natAbs_natCast, if_pos bounded,
    scaleOnce?_of_nonneg magnitude (Int.natCast_nonneg count) found]
  exact nearest

/-- The power of ten that turns seventeen digits into the largest doubles. -/
def criticalPower : Nat :=
  292

section Multiply

variable {value count : Nat} {rounded factor : Magnitude}

theorem value_factor_le (found : ofNat? (Nat.pow 10 count) = some factor) :
    factor.value ≤ ((10 ^ count : Nat) : ℚ) * (1 + precision) :=
  (value_ofNat?_relative (Nat.pow_pos (by decide)) found).1

theorem value_nonneg (magnitude : Magnitude) : 0 ≤ magnitude.value := by
  unfold value
  positivity

/-- Small powers of ten leave room for two roundings. -/
theorem mul_lt_limit_of_small (positive : 0 < value) (few : value ≤ 10 ^ 17)
    (nearest : ofNat? value = some rounded) (found : ofNat? (Nat.pow 10 count) = some factor)
    (small : count < criticalPower) : rounded.value * factor.value < limit := by
  have upper := (value_ofNat?_relative positive nearest).1
  have factorUpper := value_factor_le found
  have product : value * 10 ^ count * 10 ≤ 10 ^ 17 * 10 ^ criticalPower := by
    rw [Nat.mul_assoc, ← Nat.pow_succ]
    exact Nat.mul_le_mul few (Nat.pow_le_pow_right (by decide) small)
  have room : 81 * (10 ^ 17 * 10 ^ criticalPower) < 640 * naturalLimit := by
    decide +kernel
  have total : 81 * (value * 10 ^ count) < 64 * naturalLimit := by omega
  have cast : (81 : ℚ) * (value * ((10 ^ count : Nat) : ℚ)) < 64 * limit := by
    rw [limit_eq]
    exact_mod_cast total
  have precise : (1 + precision) * (1 + precision) ≤ 81 / 64 := by
    have less := precision_le
    have pos := precision_pos
    nlinarith
  have twice : rounded.value * factor.value ≤
      value * (1 + precision) * (((10 ^ count : Nat) : ℚ) * (1 + precision)) :=
    mul_le_mul upper factorUpper factor.value_nonneg
      (le_trans rounded.value_nonneg upper)
  have pos : (0 : ℚ) ≤ value * ((10 ^ count : Nat) : ℚ) := by positivity
  generalize ((10 ^ count : Nat) : ℚ) = scale at cast twice pos
  nlinarith

/-- Behind a large power of ten there are few digits, which are not rounded. -/
theorem mul_lt_limit_of_large (positive : 0 < value)
    (bounded : value * 10 ^ count ≤ naturalInnerLimit)
    (nearest : ofNat? value = some rounded) (found : ofNat? (Nat.pow 10 count) = some factor)
    (large : criticalPower < count) : rounded.value * factor.value < limit := by
  have few : value < 2 ^ 53 := by
    by_contra many
    have excess : naturalInnerLimit < 2 ^ 53 * 10 ^ (criticalPower + 1) := by decide +kernel
    have product : 2 ^ 53 * 10 ^ (criticalPower + 1) ≤ value * 10 ^ count :=
      Nat.mul_le_mul (Nat.not_lt.1 many) (Nat.pow_le_pow_right (by decide) large)
    omega
  have factorUpper := value_factor_le found
  have cast : (value : ℚ) * ((10 ^ count : Nat) : ℚ) ≤ innerLimit := by
    rw [innerLimit_eq, ← Nat.cast_mul]
    exact Nat.cast_le.2 bounded
  calc
    rounded.value * factor.value = value * factor.value := by
      rw [value_ofNat? positive few nearest]
    _ ≤ value * (((10 ^ count : Nat) : ℚ) * (1 + precision)) := by gcongr
    _ = value * ((10 ^ count : Nat) : ℚ) * (1 + precision) := by ring
    _ ≤ innerLimit * (1 + precision) := by
      have pos := precision_pos
      gcongr
    _ < limit := innerLimit_mul_lt

/-- In between, the digits are rounded to even numbers. -/
theorem mul_lt_limit_of_critical (positive : 0 < value)
    (bounded : value * 10 ^ criticalPower ≤ naturalInnerLimit)
    (nearest : ofNat? value = some rounded)
    (found : ofNat? (Nat.pow 10 criticalPower) = some factor) :
    rounded.value * factor.value < limit := by
  have few : value < 17976931348623157 := by
    by_contra many
    have excess : naturalInnerLimit < 17976931348623157 * 10 ^ criticalPower := by
      decide +kernel
    have product : 17976931348623157 * 10 ^ criticalPower ≤ value * 10 ^ criticalPower :=
      Nat.mul_le_mul_right _ (Nat.not_lt.1 many)
    omega
  have known : ofNat? (Nat.pow 10 criticalPower) = some ⟨4512985939662074, 918⟩ := by
    decide +kernel
  have factorValue : factor.value = ((4512985939662074 * 2 ^ 918 : Nat) : ℚ) := by
    rw [known] at found
    rw [← Option.some_inj.1 found, Magnitude.value, Nat.cast_mul, Nat.cast_pow, Nat.cast_ofNat]
    exact congrArg _ (zpow_ofNat 2 918)
  have upper : rounded.value ≤ 17976931348623157 := by
    have below : (value / (1 : Nat) : ℚ) < 2 ^ ((53 : Int) + 1) := by
      rw [Nat.cast_one, div_one]
      have cast : (value : ℚ) < 17976931348623157 := by exact_mod_cast few
      norm_num
      linarith
    have bound := (value_nearest? positive (by decide) nearest (by decide) below).1
    have cast : (value : ℚ) + 1 ≤ 17976931348623157 := by exact_mod_cast few
    rw [Nat.cast_one, div_one, sub_self, zpow_zero] at bound
    linarith
  have room : 17976931348623157 * (4512985939662074 * 2 ^ 918) < naturalLimit := by
    decide +kernel
  calc
    rounded.value * factor.value ≤ 17976931348623157 * factor.value := by
      have pos := factor.value_nonneg
      gcongr
    _ < limit := by
      rw [factorValue, limit_eq]
      exact_mod_cast room

end Multiply

/-- Seventeen digits and a power of ten are read as a double, if the number is
within the inner limit. -/
theorem exists_scale? {value : Nat} (positive : 0 < value) (few : value ≤ 10 ^ 17) {power : Int}
    (bounded : (value : ℚ) * 10 ^ power ≤ innerLimit) :
    ∃ scaled, ((ofNat? value).bind fun magnitude => magnitude.scale? power) = some scaled := by
  have room : 10 ^ 17 < naturalLimit := by decide +kernel
  obtain ⟨rounded, nearest, double⟩ : ∃ rounded, ofNat? value = some rounded ∧
      rounded.value ≤ 2 ^ (1024 : Int) := by
    apply exists_double (by decide)
    rw [limit_eq, Nat.cast_one, div_one]
    exact Nat.cast_lt.2 (Nat.lt_of_le_of_lt few room)
  rw [nearest, Option.bind_some]
  by_cases negative : power < 0
  · exact exists_scale?_of_neg double negative
  · obtain ⟨count, rfl⟩ := Int.eq_ofNat_of_zero_le (not_lt.1 negative)
    have natural : value * 10 ^ count ≤ naturalInnerLimit := by
      rw [innerLimit_eq, zpow_natCast] at bounded
      exact_mod_cast bounded
    have possible : count ≤ greatestPower := by
      by_contra beyond
      have excess : naturalInnerLimit < 10 ^ (greatestPower + 1) := by decide +kernel
      have product : 1 * 10 ^ (greatestPower + 1) ≤ value * 10 ^ count :=
        Nat.mul_le_mul positive (Nat.pow_le_pow_right (by decide) (Nat.not_le.1 beyond))
      omega
    obtain ⟨factor, found⟩ := exists_factor possible
    apply exists_scale?_of_mul_lt possible found
    rcases Nat.lt_trichotomy count criticalPower with small | rfl | large
    · exact mul_lt_limit_of_small positive few nearest found small
    · exact mul_lt_limit_of_critical positive natural nearest found
    · exact mul_lt_limit_of_large positive natural nearest found large

/-! ## Finite doubles -/

/-- A magnitude in the range of the finite doubles. -/
structure Finite (magnitude : Magnitude) : Prop where
  significand : magnitude.significand < 2 ^ 53
  exponent : magnitude.exponent ≤ greatestExponent

/-- The largest double. -/
def largest : Magnitude :=
  ⟨2 ^ 53 - 1, greatestExponent⟩

/-- All doubles but the largest stay within the inner limit even if half a unit
is added. -/
theorem value_add_half_le {magnitude : Magnitude} (finite : magnitude.Finite)
    (smaller : magnitude ≠ largest) :
    magnitude.value + 2 ^ magnitude.exponent / 2 ≤ innerLimit := by
  have scale : (0 : ℚ) < 2 ^ greatestExponent := by positivity
  unfold innerLimit limit value
  by_cases greatest : magnitude.exponent = greatestExponent
  · have below : magnitude.significand + 2 ≤ 2 ^ 53 := by
      have few := finite.significand
      have other : magnitude.significand ≠ 2 ^ 53 - 1 := by
        intro full
        apply smaller
        cases magnitude
        simp_all [largest]
      omega
    have cast : (magnitude.significand + 2 : ℚ) ≤ 2 ^ 53 := by exact_mod_cast below
    rw [greatest]
    generalize (2 : ℚ) ^ greatestExponent = unit at scale
    nlinarith
  · have half : (2 : ℚ) ^ magnitude.exponent ≤ 2 ^ greatestExponent / 2 := by
      calc
        (2 : ℚ) ^ magnitude.exponent ≤ 2 ^ (greatestExponent - 1) := by
          have bound := finite.exponent
          exact zpow_le_zpow_right₀ (by norm_num) (by omega)
        _ = 2 ^ greatestExponent / 2 := by rw [zpow_sub_one₀ (by norm_num)]; ring
    have few : (magnitude.significand + 1 : ℚ) ≤ 2 ^ 53 := by exact_mod_cast finite.significand
    have positive : (0 : ℚ) < 2 ^ magnitude.exponent := by positivity
    generalize (2 : ℚ) ^ greatestExponent = unit at scale half
    generalize (2 : ℚ) ^ magnitude.exponent = step at positive half
    calc
      magnitude.significand * step + step / 2 ≤ (2 ^ 53 - 1) * step + step / 2 := by
        gcongr
        linarith
      _ ≤ (2 ^ 53 - 1 / 2) * unit - unit := by
        norm_num at scale half ⊢
        linarith

end DiagramGraph.Decimal.Magnitude
