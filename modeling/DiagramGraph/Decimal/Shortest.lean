import DiagramGraph.Decimal.Magnitude

/-!
# Shortest decimal digits

A double is written with the fewest decimal digits that still read back as the
same double, and among the decimals of that length with the one nearest to it.
The decimals of a given length form a grid; if any grid point lies in the
interval of numbers that round to the double, so does one of the two grid
points around it. So the grids for one, two, … seventeen digits are tried in
turn, looking at those two points only.
-/

namespace DiagramGraph.Decimal

/-- The decimal `d₁.d₂… · 10 ^ exponent`, by its digits `d₁ d₂ …` and its
exponent. -/
structure Digits where
  digits : List Char
  exponent : Int
  deriving DecidableEq, Repr

/-- The largest `power` with `10 ^ power ≤ numerator / denominator`. -/
def floorLog10 (numerator denominator : Nat) : Int :=
  let guess : Int :=
    ((Nat.toDigits 10 numerator).length : Int) - (Nat.toDigits 10 denominator).length
  let (scaledNumerator, scaledDenominator) := scaleFraction 10 numerator denominator (-guess)
  if scaledNumerator < scaledDenominator then guess - 1 else guess

/-- The numbers that round to one double, with both bounds and the double
itself as multiples of `1 / denominator`. The bounds belong to the interval
iff the significand is even. -/
structure Interval where
  lower : Nat
  value : Nat
  upper : Nat
  denominator : Nat
  closed : Bool
  deriving DecidableEq, Repr

/-- The interval of a positive magnitude. Below a power of two the doubles lie
twice as close. -/
def Interval.ofMagnitude (magnitude : Magnitude) : Interval :=
  let significand := magnitude.significand
  let step :=
    if significand = Magnitude.leastSignificand && Magnitude.leastExponent < magnitude.exponent
    then 1 else 2
  let (unit, denominator) := scaleFraction 2 1 4 magnitude.exponent
  { lower := (4 * significand - step) * unit
    value := 4 * significand * unit
    upper := (4 * significand + 2) * unit
    denominator := denominator
    closed := significand % 2 == 0 }

/-- Whether the grid point `point · 10 ^ power` lies in the interval. -/
def Interval.contains (interval : Interval) (point : Nat) (power : Int) : Bool :=
  let (numerator, denominator) := scaleFraction 10 point 1 power
  let scaled := numerator * interval.denominator
  let lower := interval.lower * denominator
  let upper := interval.upper * denominator
  if interval.closed then lower ≤ scaled && scaled ≤ upper
  else lower < scaled && scaled < upper

/-- The grid point with unit `10 ^ power` that represents the interval, if one
of the two neighbours of the double does: the nearer one of two, the even one
of two equally near. -/
def Interval.gridPoint? (interval : Interval) (power : Int) : Option Nat :=
  let (numerator, denominator) :=
    scaleFraction 10 interval.value interval.denominator (-power)
  let below := numerator / denominator
  let rest := numerator % denominator
  match interval.contains below power, interval.contains (below + 1) power with
  | false, false => none
  | true, false => some below
  | false, true => some (below + 1)
  | true, true => some (roundDiv (below * denominator + rest) denominator)

/-- Try the grids with `count` digits and more; `remaining` bounds the tries. -/
def Interval.search (interval : Interval) (lead : Int) : Nat → Nat → Nat × Int
  | 0, count => (0, lead - count)
  | remaining + 1, count =>
      let power := lead - count
      match interval.gridPoint? power with
      | some point => (point, power)
      | none => interval.search lead remaining (count + 1)

/-- Drop the zeros at the end of a digit list, keeping the first digit. -/
def dropTrailingZeros : List Char → List Char
  | [] => []
  | first :: rest => first :: (rest.reverse.dropWhile (· == '0')).reverse

/-- The shortest digits of a positive magnitude. -/
def shortest (magnitude : Magnitude) : Digits :=
  let interval := Interval.ofMagnitude magnitude
  let lead := floorLog10 interval.value interval.denominator
  let (point, power) := interval.search lead 17 0
  let digits := Nat.toDigits 10 point
  { digits := dropTrailingZeros digits
    exponent := power + (digits.length - 1 : Nat) }

end DiagramGraph.Decimal
