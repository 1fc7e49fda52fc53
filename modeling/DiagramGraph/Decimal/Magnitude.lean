/-!
# Double-precision magnitudes

A finite double without its sign is a significand below `2 ^ 53` times a power
of two, the power being at least `2 ^ -1074`. Everything here is exact
arithmetic on natural numbers: a quotient is rounded once, to the nearest
double, and a tie goes to the even significand.
-/

namespace DiagramGraph.Decimal

/-- The number `significand · 2 ^ exponent`. -/
structure Magnitude where
  significand : Nat
  exponent : Int
  deriving DecidableEq, Repr

/-- The quotient rounded to the nearest integer, a tie to the even one. -/
def roundDiv (numerator denominator : Nat) : Nat :=
  let quotient := numerator / denominator
  let rest := numerator % denominator
  if denominator < 2 * rest || (denominator == 2 * rest && quotient % 2 == 1) then quotient + 1
  else quotient

/-- The fraction `numerator / denominator · base ^ power` as a pair of natural
numbers. -/
def scaleFraction (base numerator denominator : Nat) (power : Int) : Nat × Nat :=
  if 0 ≤ power then (numerator * Nat.pow base power.toNat, denominator)
  else (numerator, denominator * Nat.pow base (-power).toNat)

/-- The largest `power` with `2 ^ power ≤ numerator / denominator`. -/
def floorLog2 (numerator denominator : Nat) : Int :=
  let guess : Int := (Nat.log2 numerator : Int) - Nat.log2 denominator
  let (scaledNumerator, scaledDenominator) := scaleFraction 2 numerator denominator (-guess)
  if scaledNumerator < scaledDenominator then guess - 1 else guess

namespace Magnitude

/-- The magnitude zero. -/
def zero : Magnitude :=
  ⟨0, 0⟩

/-- The least significand `2 ^ 52` of a double above the smallest ones. -/
def leastSignificand : Nat :=
  0x10000000000000

/-- The exponent of the smallest positive double. -/
def leastExponent : Int :=
  -1074

/-- The exponent of the largest finite doubles. -/
def greatestExponent : Int :=
  971

/-- The double nearest to a fraction; nothing when the fraction is too large
for a finite double. -/
def nearest? (numerator denominator : Nat) : Option Magnitude :=
  if numerator = 0 then some zero
  else
    let exponent := max leastExponent (floorLog2 numerator denominator - 52)
    let (scaledNumerator, scaledDenominator) :=
      scaleFraction 2 numerator denominator (-exponent)
    let significand := roundDiv scaledNumerator scaledDenominator
    let rounded : Magnitude :=
      if significand = 0 then zero
      else if significand = 2 * leastSignificand then ⟨leastSignificand, exponent + 1⟩
      else ⟨significand, exponent⟩
    if greatestExponent < rounded.exponent then none else some rounded

/-- The magnitude as an exact fraction. -/
def fraction (magnitude : Magnitude) : Nat × Nat :=
  scaleFraction 2 magnitude.significand 1 magnitude.exponent

/-- The double nearest to a natural number. -/
def ofNat? (value : Nat) : Option Magnitude :=
  nearest? value 1

/-- The double nearest to `magnitude · 10 ^ power`, where the power of ten is
itself rounded to a double first. -/
def scaleOnce? (magnitude : Magnitude) (power : Int) : Option Magnitude := do
  let factor ← ofNat? (Nat.pow 10 power.natAbs)
  let (numerator, denominator) := magnitude.fraction
  let (factorNumerator, factorDenominator) := factor.fraction
  if 0 ≤ power then
    nearest? (numerator * factorNumerator) (denominator * factorDenominator)
  else nearest? (numerator * factorDenominator) (denominator * factorNumerator)

/-- The largest power of ten used in one scaling step. -/
def greatestPower : Nat :=
  308

/-- Divide by `10 ^ greatestPower` a number of times, as long as anything is
left to divide. -/
def shrink? : Nat → Magnitude → Option Magnitude
  | 0, magnitude => some magnitude
  | steps + 1, magnitude =>
      if magnitude.significand = 0 then some magnitude
      else (magnitude.scaleOnce? (-(greatestPower : Int))).bind (shrink? steps)

/-- Scale by a power of ten. A negative power beyond `greatestPower` is applied
in steps, each of which rounds; a positive one is out of range unless the
magnitude is zero. -/
def scale? (magnitude : Magnitude) (power : Int) : Option Magnitude :=
  if power.natAbs ≤ greatestPower then magnitude.scaleOnce? power
  else if magnitude.significand = 0 then some magnitude
  else if 0 ≤ power then none
  else
    let steps := (power.natAbs - 1) / greatestPower
    (magnitude.shrink? steps).bind fun smaller =>
      smaller.scaleOnce? (power + (greatestPower * steps : Nat))

end Magnitude

end DiagramGraph.Decimal
