import DiagramGraph.Decimal.Shortest
import Mathlib.Algebra.Order.Field.Power
import Mathlib.Data.Rat.Cast.Order
import Mathlib.Tactic.FieldSimp
import Mathlib.Tactic.GCongr
import Mathlib.Tactic.Linarith
import Mathlib.Tactic.Positivity
import Mathlib.Tactic.Ring

/-!
# Fractions as rational numbers

Scaling, rounding and the search for the leading power are done on pairs of
natural numbers. Here it is stated what they mean for the rational numbers that
the pairs stand for.
-/

namespace DiagramGraph.Decimal

/-- The rational number that a fraction stands for. -/
def ratio (fraction : Nat × Nat) : ℚ :=
  fraction.1 / fraction.2

/-! ## Scaling -/

variable {base numerator denominator : Nat}

theorem ratio_scaleFraction (numerator denominator : Nat) (positive : 0 < base) (power : Int) :
    ratio (scaleFraction base numerator denominator power) =
      numerator / denominator * (base : ℚ) ^ power := by
  cases power with
  | ofNat count =>
      simp [ratio, scaleFraction]
      ring
  | negSucc count =>
      have nonzero : (base : ℚ) ≠ 0 := by positivity
      simp [ratio, scaleFraction]
      field_simp

theorem scaleFraction_pos (numerator : Nat) (positive : 0 < base)
    (positiveDenominator : 0 < denominator) (power : Int) :
    0 < (scaleFraction base numerator denominator power).2 := by
  have powers (count : Nat) : 0 < Nat.pow base count := Nat.pow_pos positive
  unfold scaleFraction
  split
  · exact positiveDenominator
  · exact Nat.mul_pos positiveDenominator (powers _)

/-! ## Rounding -/

theorem roundDiv_spec (numerator : Nat) (positive : 0 < denominator) :
    2 * (roundDiv numerator denominator * denominator) ≤ 2 * numerator + denominator ∧
      2 * numerator ≤ 2 * (roundDiv numerator denominator * denominator) + denominator := by
  have whole := Nat.div_add_mod numerator denominator
  have small := Nat.mod_lt numerator positive
  rw [Nat.mul_comm] at whole
  have up : (numerator / denominator + 1) * denominator =
      numerator / denominator * denominator + denominator := by ring
  unfold roundDiv
  simp only [Bool.or_eq_true, decide_eq_true_eq, Bool.and_eq_true, beq_iff_eq]
  split
  · rw [up]
    omega
  · omega

theorem roundDiv_le (numerator : Nat) (positive : 0 < denominator) :
    (roundDiv numerator denominator : ℚ) ≤ numerator / denominator + 1 / 2 := by
  have spec := (roundDiv_spec numerator positive).1
  have cast : (2 * (roundDiv numerator denominator * denominator) : ℚ) ≤
      2 * numerator + denominator := by exact_mod_cast spec
  have pos : (0 : ℚ) < denominator := by exact_mod_cast positive
  rw [← sub_nonneg]
  have shape : (numerator / denominator + 1 / 2 - roundDiv numerator denominator : ℚ) =
      (2 * numerator + denominator - 2 * (roundDiv numerator denominator * denominator)) /
        (2 * denominator) := by
    field_simp
  rw [shape]
  apply div_nonneg
  · linarith
  · positivity

theorem le_roundDiv (numerator : Nat) (positive : 0 < denominator) :
    (numerator / denominator - 1 / 2 : ℚ) ≤ roundDiv numerator denominator := by
  have spec := (roundDiv_spec numerator positive).2
  have cast : (2 * numerator : ℚ) ≤
      2 * (roundDiv numerator denominator * denominator) + denominator := by exact_mod_cast spec
  have pos : (0 : ℚ) < denominator := by exact_mod_cast positive
  rw [← sub_nonneg]
  have shape : (roundDiv numerator denominator - (numerator / denominator - 1 / 2) : ℚ) =
      (2 * (roundDiv numerator denominator * denominator) + denominator - 2 * numerator) /
        (2 * denominator) := by
    field_simp
    ring
  rw [shape]
  apply div_nonneg
  · linarith
  · positivity

/-- A quotient is rounded to one of the two integers around it. -/
theorem roundDiv_eq_or (numerator denominator : Nat) :
    roundDiv numerator denominator = numerator / denominator ∨
      roundDiv numerator denominator = numerator / denominator + 1 := by
  unfold roundDiv
  dsimp only
  split
  · exact .inr rfl
  · exact .inl rfl

@[simp]
theorem roundDiv_one (numerator : Nat) : roundDiv numerator 1 = numerator := by
  simp [roundDiv, Nat.mod_one]

/-! ## The leading power -/

section Leading

variable {above below : Nat} (large : 1 < base)
  (numeratorLow : base ^ above ≤ numerator) (numeratorHigh : numerator < base ^ (above + 1))
  (denominatorLow : base ^ below ≤ denominator) (denominatorHigh : denominator < base ^ (below + 1))

include large numeratorLow numeratorHigh denominatorLow denominatorHigh in
/-- From the leading powers of numerator and denominator, the leading power of
the fraction is known up to one. -/
theorem leadingPower_bounds :
    (base : ℚ) ^ ((above : Int) - below - 1) < numerator / denominator ∧
      (numerator / denominator : ℚ) < (base : ℚ) ^ ((above : Int) - below + 1) := by
  have large' : (1 : ℚ) < base := by exact_mod_cast large
  have positive : (0 : ℚ) < denominator := by
    have natural : 0 < denominator := Nat.lt_of_lt_of_le (Nat.pow_pos (by omega)) denominatorLow
    exact_mod_cast natural
  constructor
  · rw [lt_div_iff₀ positive]
    have behind : (denominator : ℚ) < base ^ ((below + 1 : Nat) : Int) := by
      exact_mod_cast denominatorHigh
    calc
      (base : ℚ) ^ ((above : Int) - below - 1) * denominator
          < base ^ ((above : Int) - below - 1) * base ^ ((below + 1 : Nat) : Int) := by gcongr
      _ = base ^ (above : Int) := by
            rw [← zpow_add₀ (by positivity)]
            congr 1
            push_cast
            ring
      _ ≤ numerator := by exact_mod_cast numeratorLow
  · rw [div_lt_iff₀ positive]
    have behind : (base : ℚ) ^ (below : Int) ≤ denominator := by exact_mod_cast denominatorLow
    calc
      (numerator : ℚ) < base ^ ((above + 1 : Nat) : Int) := by exact_mod_cast numeratorHigh
      _ = base ^ ((above : Int) - below + 1) * base ^ (below : Int) := by
            rw [← zpow_add₀ (by positivity)]
            congr 1
            push_cast
            ring
      _ ≤ base ^ ((above : Int) - below + 1) * denominator := by gcongr

/-- Scaling the other way compares a fraction with a power. -/
theorem scaleFraction_neg_lt_iff (large : 1 < base) (numerator : Nat)
    (positive : 0 < denominator) (power : Int) :
    (scaleFraction base numerator denominator (-power)).1 <
        (scaleFraction base numerator denominator (-power)).2 ↔
      (numerator / denominator : ℚ) < (base : ℚ) ^ power := by
  have large' : (0 : ℚ) < base := by exact_mod_cast Nat.lt_of_succ_lt large
  have pos := scaleFraction_pos numerator (Nat.lt_of_succ_lt large) positive (-power)
  have shape := ratio_scaleFraction numerator denominator (Nat.lt_of_succ_lt large) (-power)
  have unit : ratio (scaleFraction base numerator denominator (-power)) < 1 ↔
      (scaleFraction base numerator denominator (-power)).1 <
        (scaleFraction base numerator denominator (-power)).2 := by
    rw [ratio, div_lt_one (by exact_mod_cast pos)]
    exact Nat.cast_lt
  rw [← unit, shape, zpow_neg, ← div_eq_mul_inv, div_lt_one (by positivity)]

include large numeratorLow numeratorHigh denominatorLow denominatorHigh in
/-- One comparison settles the leading power. -/
theorem leadingPower_spec {guess power : Int} (guessed : guess = above - below)
    (settled : power =
      if (scaleFraction base numerator denominator (-guess)).1 <
          (scaleFraction base numerator denominator (-guess)).2 then guess - 1
      else guess) :
    (base : ℚ) ^ power ≤ numerator / denominator ∧
      (numerator / denominator : ℚ) < (base : ℚ) ^ (power + 1) := by
  obtain ⟨low, high⟩ := leadingPower_bounds large numeratorLow numeratorHigh denominatorLow
    denominatorHigh
  rw [← guessed] at low high
  have positive : 0 < denominator :=
    Nat.lt_of_lt_of_le (Nat.pow_pos (Nat.lt_of_succ_lt large)) denominatorLow
  have scaled := scaleFraction_neg_lt_iff large numerator positive guess
  by_cases smaller : (numerator / denominator : ℚ) < (base : ℚ) ^ guess
  · rw [settled, if_pos (scaled.2 smaller), sub_add_cancel]
    exact ⟨le_of_lt low, smaller⟩
  · rw [settled, if_neg fun less => smaller (scaled.1 less)]
    exact ⟨not_lt.1 smaller, high⟩

end Leading

theorem floorLog2_spec (positive : 0 < numerator) (positiveDenominator : 0 < denominator) :
    (2 : ℚ) ^ floorLog2 numerator denominator ≤ numerator / denominator ∧
      (numerator / denominator : ℚ) < 2 ^ (floorLog2 numerator denominator + 1) := by
  exact leadingPower_spec (by decide) (Nat.log2_self_le (by omega)) Nat.lt_log2_self
    (Nat.log2_self_le (by omega)) Nat.lt_log2_self rfl rfl

/-- A number has as many digits as its leading power tells. -/
theorem pow_length_toDigits {value : Nat} (positive : 0 < value) :
    10 ^ ((Nat.toDigits 10 value).length - 1) ≤ value ∧
      value < 10 ^ ((Nat.toDigits 10 value).length - 1 + 1) := by
  have digits : 0 < (Nat.toDigits 10 value).length := Nat.length_toDigits_pos
  constructor
  · by_cases single : (Nat.toDigits 10 value).length = 1
    · rw [single]
      exact positive
    · rw [← Nat.not_lt, ← Nat.length_toDigits_le_iff (by decide) (by omega)]
      omega
  · rw [Nat.sub_add_cancel digits, ← Nat.length_toDigits_le_iff (by decide) digits]

theorem floorLog10_spec (positive : 0 < numerator) (positiveDenominator : 0 < denominator) :
    (10 : ℚ) ^ floorLog10 numerator denominator ≤ numerator / denominator ∧
      (numerator / denominator : ℚ) < 10 ^ (floorLog10 numerator denominator + 1) := by
  have above := pow_length_toDigits positive
  have below := pow_length_toDigits positiveDenominator
  have digitsAbove : 0 < (Nat.toDigits 10 numerator).length := Nat.length_toDigits_pos
  have digitsBelow : 0 < (Nat.toDigits 10 denominator).length := Nat.length_toDigits_pos
  exact leadingPower_spec (by decide) above.1 above.2 below.1 below.2 (by omega) rfl

end DiagramGraph.Decimal
