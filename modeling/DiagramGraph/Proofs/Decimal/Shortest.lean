import DiagramGraph.Proofs.Decimal.Nearest

/-!
# The search for the shortest digits ends

Seventeen digits are always enough: the numbers that round to a double lie
further apart from each other than the decimals of seventeen digits. So the
search finds a decimal, and that decimal rounds to the double.
-/

namespace DiagramGraph.Decimal

open Magnitude

/-! ## The interval of a double -/

namespace Interval

/-- The lower bound as a rational number. -/
def bottom (interval : Interval) : ℚ :=
  interval.lower / interval.denominator

/-- The upper bound as a rational number. -/
def top (interval : Interval) : ℚ :=
  interval.upper / interval.denominator

/-- The double as a rational number. -/
def middle (interval : Interval) : ℚ :=
  interval.value / interval.denominator

section Contains

variable {interval : Interval} (positive : 0 < interval.denominator) (point : Nat) (power : Int)

/-- A grid point as a rational number. -/
theorem ratio_point (point : Nat) (power : Int) :
    ratio (scaleFraction 10 point 1 power) = point * 10 ^ power := by
  rw [ratio_scaleFraction _ _ (by decide), Nat.cast_one, div_one, Nat.cast_ofNat]

theorem scaled_point_pos (point : Nat) (power : Int) :
    (0 : ℚ) < (scaleFraction 10 point 1 power).2 := by
  exact_mod_cast scaleFraction_pos point (by decide) (by decide) power

include positive in
/-- Cross multiplication decides on which side of a bound a grid point lies. -/
theorem mul_le_mul_iff_bound (bound : Nat) :
    (bound * (scaleFraction 10 point 1 power).2 ≤
          (scaleFraction 10 point 1 power).1 * interval.denominator ↔
        (bound / interval.denominator : ℚ) ≤ point * 10 ^ power) ∧
      ((scaleFraction 10 point 1 power).1 * interval.denominator ≤
          bound * (scaleFraction 10 point 1 power).2 ↔
        point * 10 ^ power ≤ (bound / interval.denominator : ℚ)) := by
  have pos : (0 : ℚ) < interval.denominator := by exact_mod_cast positive
  rw [← ratio_point, ratio, div_le_div_iff₀ pos (scaled_point_pos point power),
    div_le_div_iff₀ (scaled_point_pos point power) pos]
  norm_cast

/-- The comparisons that decide whether a grid point lies in the interval. -/
theorem contains_iff :
    interval.contains point power = true ↔
      if interval.closed = true then
        interval.lower * (scaleFraction 10 point 1 power).2 ≤
            (scaleFraction 10 point 1 power).1 * interval.denominator ∧
          (scaleFraction 10 point 1 power).1 * interval.denominator ≤
            interval.upper * (scaleFraction 10 point 1 power).2
      else
        interval.lower * (scaleFraction 10 point 1 power).2 <
            (scaleFraction 10 point 1 power).1 * interval.denominator ∧
          (scaleFraction 10 point 1 power).1 * interval.denominator <
            interval.upper * (scaleFraction 10 point 1 power).2 := by
  unfold contains
  cases interval.closed with
  | true => simp
  | false => simp

include positive in
theorem bounds_of_contains (inside : interval.contains point power = true) :
    interval.bottom ≤ point * 10 ^ power ∧ point * 10 ^ power ≤ interval.top := by
  have lower := (mul_le_mul_iff_bound positive point power interval.lower).1
  have upper := (mul_le_mul_iff_bound positive point power interval.upper).2
  rw [contains_iff] at inside
  rw [bottom, top, ← lower, ← upper]
  split at inside
  · exact inside
  · exact ⟨le_of_lt inside.1, le_of_lt inside.2⟩

include positive in
theorem contains_of_bounds (above : interval.bottom < point * 10 ^ power)
    (below : point * 10 ^ power < interval.top) : interval.contains point power = true := by
  have lower := (mul_le_mul_iff_bound positive point power interval.lower).2
  have upper := (mul_le_mul_iff_bound positive point power interval.upper).1
  rw [bottom, ← not_le, ← lower, not_le] at above
  rw [top, ← not_le, ← upper, not_le] at below
  rw [contains_iff]
  split
  · exact ⟨le_of_lt above, le_of_lt below⟩
  · exact ⟨above, below⟩

end Contains

end Interval

/-- Below a power of two the doubles lie twice as close, and the lower half of
the interval is half as wide. -/
theorem ofMagnitude_spec {magnitude : Magnitude} (positive : 0 < magnitude.significand) :
    0 < (Interval.ofMagnitude magnitude).denominator ∧
      (Interval.ofMagnitude magnitude).middle = magnitude.value ∧
      (Interval.ofMagnitude magnitude).top = magnitude.value + 2 ^ magnitude.exponent / 2 ∧
      ∃ step : Nat, (step = 2 ∨ step = 1 ∧ magnitude.significand = leastSignificand) ∧
        (Interval.ofMagnitude magnitude).bottom =
          magnitude.value - step * 2 ^ magnitude.exponent / 4 := by
  have unit := ratio_scaleFraction 1 4 (show 0 < 2 by decide) magnitude.exponent
  have denominator := scaleFraction_pos 1 (show 0 < 2 by decide) (show 0 < 4 by decide)
    magnitude.exponent
  rw [ratio, Nat.cast_one, Nat.cast_ofNat, Nat.cast_ofNat] at unit
  refine ⟨denominator, ?_, ?_, ?_⟩
  · calc
      (Interval.ofMagnitude magnitude).middle =
          4 * magnitude.significand * ((scaleFraction 2 1 4 magnitude.exponent).1 /
            (scaleFraction 2 1 4 magnitude.exponent).2) := by
        simp only [Interval.middle, Interval.ofMagnitude]
        push_cast
        ring
      _ = magnitude.value := by
        rw [unit, value]
        ring
  · calc
      (Interval.ofMagnitude magnitude).top =
          (4 * magnitude.significand + 2) * ((scaleFraction 2 1 4 magnitude.exponent).1 /
            (scaleFraction 2 1 4 magnitude.exponent).2) := by
        simp only [Interval.top, Interval.ofMagnitude]
        push_cast
        ring
      _ = magnitude.value + 2 ^ magnitude.exponent / 2 := by
        rw [unit, value]
        ring
  · -- the lower bound for either width of the lower half
    have low (step : Nat) (small : step ≤ 2) :
        (((4 * magnitude.significand - step) * (scaleFraction 2 1 4 magnitude.exponent).1 : Nat) /
          (scaleFraction 2 1 4 magnitude.exponent).2 : ℚ) =
            magnitude.value - step * 2 ^ magnitude.exponent / 4 := by
      rw [Nat.cast_mul, Nat.cast_sub (by omega), mul_div_assoc, unit, value]
      push_cast
      ring
    by_cases narrow : (magnitude.significand = leastSignificand &&
        leastExponent < magnitude.exponent) = true
    · refine ⟨1, .inr ⟨rfl, ?_⟩, ?_⟩
      · simp only [Bool.and_eq_true, decide_eq_true_eq] at narrow
        exact narrow.1
      · rw [← low 1 (by decide)]
        simp only [Interval.bottom, Interval.ofMagnitude, narrow, if_true]
    · refine ⟨2, .inl rfl, ?_⟩
      rw [← low 2 (by decide)]
      simp only [Interval.bottom, Interval.ofMagnitude, narrow, Bool.false_eq_true, if_false]

/-! ## The grid -/

/-- The whole part of a double in units of a grid. -/
def Interval.below (interval : Interval) (power : Int) : Nat :=
  (scaleFraction 10 interval.value interval.denominator (-power)).1 /
    (scaleFraction 10 interval.value interval.denominator (-power)).2

section Grid

variable {interval : Interval} {power : Int}

/-- The double lies between two neighbours on the grid. -/
theorem Interval.below_spec (positive : 0 < interval.denominator) (power : Int) :
    (interval.below power : ℚ) * 10 ^ power ≤ interval.middle ∧
      interval.middle < (interval.below power + 1 : Nat) * 10 ^ power := by
  have pos := scaleFraction_pos interval.value (show 0 < 10 by decide) positive (-power)
  have scaled := ratio_scaleFraction interval.value interval.denominator (show 0 < 10 by decide)
    (-power)
  rw [Nat.cast_ofNat, ← Interval.middle, zpow_neg, ← div_eq_mul_inv] at scaled
  have unit : (0 : ℚ) < 10 ^ power := by positivity
  have cast : (0 : ℚ) < (scaleFraction 10 interval.value interval.denominator (-power)).2 := by
    exact_mod_cast pos
  rw [← le_div_iff₀ unit, ← div_lt_iff₀ unit, ← scaled, ratio, le_div_iff₀ cast, div_lt_iff₀ cast]
  unfold Interval.below
  constructor
  · exact_mod_cast Nat.div_mul_le_self _ _
  · exact_mod_cast Nat.lt_mul_of_div_lt (Nat.lt_succ_self _) pos

theorem gridPoint?_eq_none (missed : interval.gridPoint? power = none) :
    interval.contains (interval.below power) power = false ∧
      interval.contains (interval.below power + 1) power = false := by
  unfold Interval.gridPoint? at missed
  unfold Interval.below
  dsimp only at missed
  split at missed
  · next first second => exact ⟨first, second⟩
  · contradiction
  · contradiction
  · contradiction

/-- A grid point that represents the interval is one of the two neighbours of the
double. -/
theorem gridPoint?_eq_some {point : Nat} (found : interval.gridPoint? power = some point) :
    interval.contains point power = true ∧ point ≤ interval.below power + 1 := by
  unfold Interval.gridPoint? at found
  unfold Interval.below
  dsimp only at found
  split at found
  · contradiction
  · next first second =>
      cases found
      exact ⟨first, Nat.le_succ _⟩
  · next first second =>
      cases found
      exact ⟨second, Nat.le_refl _⟩
  · next first second =>
      cases found
      rw [Nat.div_add_mod']
      rcases roundDiv_eq_or (scaleFraction 10 interval.value interval.denominator (-power)).1
        (scaleFraction 10 interval.value interval.denominator (-power)).2 with down | up
      · rw [down]
        exact ⟨first, Nat.le_succ _⟩
      · rw [up]
        exact ⟨second, Nat.le_refl _⟩

end Grid

/-! ## The search -/

/-- The doubles lie further apart than the decimals of seventeen digits. -/
theorem exists_gridPoint? {magnitude : Magnitude} (positive : 0 < magnitude.significand)
    (few : magnitude.significand < 2 ^ 53) {power : Int}
    (fine : (10 : ℚ) ^ power * 10 ^ 16 ≤ magnitude.value) :
    ∃ point, (Interval.ofMagnitude magnitude).gridPoint? power = some point := by
  obtain ⟨denominator, middle, top, step, width, bottom⟩ := ofMagnitude_spec positive
  cases missed : (Interval.ofMagnitude magnitude).gridPoint? power with
  | some point => exact ⟨point, rfl⟩
  | none =>
      exfalso
      obtain ⟨belowOutside, aboveOutside⟩ := gridPoint?_eq_none missed
      obtain ⟨belowLow, aboveHigh⟩ := Interval.below_spec denominator power
      have unit : (0 : ℚ) < 2 ^ magnitude.exponent := by positivity
      -- both neighbours of the double lie outside, so the interval is narrower than the grid
      have belowBottom : ((Interval.ofMagnitude magnitude).below power : ℚ) * 10 ^ power ≤
          (Interval.ofMagnitude magnitude).bottom := by
        by_contra inside
        rw [Interval.contains_of_bounds denominator _ _ (not_le.1 inside) (by linarith)]
          at belowOutside
        contradiction
      have topAbove : (Interval.ofMagnitude magnitude).top ≤
          ((Interval.ofMagnitude magnitude).below power + 1 : Nat) * 10 ^ power := by
        by_contra inside
        rw [Interval.contains_of_bounds denominator _ _ ?_ (not_le.1 inside)] at aboveOutside
        · contradiction
        · have nonneg : (0 : ℚ) ≤ step * 2 ^ magnitude.exponent / 4 := by positivity
          linarith
      push_cast at topAbove
      have wide : (step / 4 + 1 / 2 : ℚ) * 10 ^ 16 ≤ magnitude.significand := by
        rw [← mul_le_mul_iff_left₀ unit]
        unfold value at fine bottom top
        nlinarith
      have cast : (magnitude.significand : ℚ) < 2 ^ 53 := by exact_mod_cast few
      rcases width with rfl | ⟨rfl, least⟩
      · norm_num at wide cast
        linarith
      · rw [least, leastSignificand] at wide
        norm_num at wide

theorem Interval.search_spec (interval : Interval) (lead : Int) {last : Nat}
    (hit : ∃ point, interval.gridPoint? (lead - last) = some point) (remaining count : Nat)
    (from_count : count ≤ last) (within : last < count + remaining) :
    ∃ tries point, tries ≤ last ∧ interval.gridPoint? (lead - tries) = some point ∧
      interval.search lead remaining count = (point, lead - tries) := by
  induction remaining generalizing count with
  | zero => omega
  | succ remaining ih =>
      cases found : interval.gridPoint? (lead - count) with
      | some point =>
          refine ⟨count, point, from_count, found, ?_⟩
          rw [search, found]
      | none =>
          have further : count ≠ last := by
            rintro rfl
            obtain ⟨point, some⟩ := hit
            rw [found] at some
            contradiction
          obtain ⟨tries, point, early, some, result⟩ := ih (count + 1) (by omega) (by omega)
          refine ⟨tries, point, early, some, ?_⟩
          rw [search, found]
          exact result

section Found

variable {magnitude : Magnitude} (positive : 0 < magnitude.significand)

include positive in
theorem value_ofMagnitude_pos : 0 < (Interval.ofMagnitude magnitude).value := by
  obtain ⟨denominator, middle, -⟩ := ofMagnitude_spec positive
  have large : 0 < (Interval.ofMagnitude magnitude).middle := by
    have cast : (0 : ℚ) < magnitude.significand := by exact_mod_cast positive
    rw [middle, value]
    positivity
  by_contra none
  have zero : (Interval.ofMagnitude magnitude).value = 0 := by omega
  rw [Interval.middle, zero] at large
  simp at large

include positive in
/-- The interval of a positive double does not reach down to zero. -/
theorem pos_of_contains {point : Nat} {power : Int}
    (inside : (Interval.ofMagnitude magnitude).contains point power = true) : 0 < point := by
  obtain ⟨denominator, -, -, step, width, bottom⟩ := ofMagnitude_spec positive
  have above := (Interval.bounds_of_contains denominator _ _ inside).1
  by_contra none
  have zero : point = 0 := by omega
  rw [zero, Nat.cast_zero, zero_mul, bottom, value] at above
  have unit : (0 : ℚ) < 2 ^ magnitude.exponent := by positivity
  have one : (1 : ℚ) ≤ magnitude.significand := by exact_mod_cast positive
  have narrow : (step : ℚ) ≤ 2 := by
    have natural : step ≤ 2 := by omega
    exact_mod_cast natural
  nlinarith

include positive in
/-- Below the leading power of a double, its neighbours on a grid have few
digits. -/
theorem below_lt_pow {lead : Int} (high : magnitude.value < 10 ^ (lead + 1)) (tries : Nat) :
    (Interval.ofMagnitude magnitude).below (lead - tries) < 10 ^ (tries + 1) := by
  obtain ⟨denominator, middle, -⟩ := ofMagnitude_spec positive
  have neighbour := (Interval.below_spec denominator (lead - tries)).1
  have grid : (0 : ℚ) < 10 ^ (lead - (tries : Int)) := by positivity
  have short : ((Interval.ofMagnitude magnitude).below (lead - tries) : ℚ) <
      10 ^ ((tries + 1 : Nat) : Int) := by
    rw [← mul_lt_mul_iff_left₀ grid, ← zpow_add₀ (by norm_num)]
    calc
      ((Interval.ofMagnitude magnitude).below (lead - tries) : ℚ) * 10 ^ (lead - (tries : Int))
          ≤ magnitude.value := by rwa [middle] at neighbour
      _ < 10 ^ (lead + 1) := high
      _ = 10 ^ (((tries + 1 : Nat) : Int) + (lead - (tries : Int))) := by
        congr 1
        push_cast
        ring
  rw [zpow_natCast] at short
  exact_mod_cast short

end Found

/-- The shortest digits of a double come from at most seventeen digits that lie
in its interval. -/
theorem shortest_spec {magnitude : Magnitude} (positive : 0 < magnitude.significand)
    (few : magnitude.significand < 2 ^ 53) :
    ∃ (point : Nat) (power : Int), 0 < point ∧ point ≤ 10 ^ 17 ∧
      (point : ℚ) * 10 ^ power ≤ magnitude.value + 2 ^ magnitude.exponent / 2 ∧
      shortest magnitude =
        { digits := dropTrailingZeros (Nat.toDigits 10 point)
          exponent := power + ((Nat.toDigits 10 point).length - 1 : Nat) } := by
  obtain ⟨denominator, middle, top, -⟩ := ofMagnitude_spec positive
  obtain ⟨low, high⟩ := floorLog10_spec (value_ofMagnitude_pos positive) denominator
  rw [← Interval.middle, middle] at low high
  generalize leading : floorLog10 (Interval.ofMagnitude magnitude).value
    (Interval.ofMagnitude magnitude).denominator = lead at low high
  have hit : ∃ point, (Interval.ofMagnitude magnitude).gridPoint? (lead - (16 : Nat)) =
      some point := by
    apply exists_gridPoint? positive few
    calc
      (10 : ℚ) ^ (lead - (16 : Nat)) * 10 ^ 16 = 10 ^ lead := by
        rw [← zpow_natCast, ← zpow_add₀ (by norm_num)]
        simp
      _ ≤ magnitude.value := low
  obtain ⟨tries, point, early, found, result⟩ :=
    Interval.search_spec _ lead hit 17 0 (by decide) (by decide)
  obtain ⟨inside, near⟩ := gridPoint?_eq_some found
  refine ⟨point, lead - tries, pos_of_contains positive inside, ?_, ?_, ?_⟩
  · have short := below_lt_pow positive high tries
    have most : 10 ^ (tries + 1) ≤ 10 ^ 17 := Nat.pow_le_pow_right (by decide) (by omega)
    omega
  · rw [← top]
    exact (Interval.bounds_of_contains denominator _ _ inside).2
  · rw [shortest, leading, result]

end DiagramGraph.Decimal
