import DiagramGraph.Decimal.Shortest
import DiagramGraph.Json.Value

/-!
# JSON numbers

Reading keeps an integer exact if it was written without fraction and exponent
and fits 64 bits, with or without sign. Every other number becomes a double:
the first digits, as long as they stay below `2 ^ 64`, are scaled by a power of
ten. Writing gives the integer as it is and the double by its shortest digits,
plainly if the exponent is moderate and in scientific notation otherwise.
-/

namespace DiagramGraph.Json

open DiagramGraph.Decimal

/-! ## Reading -/

/-- The parts of a number as it is written. -/
structure NumberParts where
  negative : Bool
  whole : List Char
  fraction : List Char
  power : Option Int
  deriving DecidableEq, Repr

/-- The digits at the start of a text, of which there must be at least one. -/
def digits? (text : List Char) : Option (List Char × List Char) :=
  match text.takeWhile Char.isDigit with
  | [] => none
  | first :: more => some (first :: more, text.dropWhile Char.isDigit)

/-- The whole part: a zero that stands alone or digits that begin with another
digit. -/
def whole? (text : List Char) : Option (List Char × List Char) :=
  match text with
  | '0' :: rest => some (['0'], rest)
  | text => digits? text

/-- The fraction, which is empty if there is no point. A point needs digits. -/
def fraction? (text : List Char) : Option (List Char × List Char) :=
  match text with
  | '.' :: rest => digits? rest
  | text => some ([], text)

/-- The sign of an exponent, and the text behind it. -/
def powerSign : List Char → Bool × List Char
  | '-' :: rest => (true, rest)
  | '+' :: rest => (false, rest)
  | text => (false, text)

/-- The digits of an exponent with an optional sign. -/
def powerDigits? (text : List Char) : Option (Int × List Char) :=
  let (negative, rest) := powerSign text
  (digits? rest).map fun (digits, rest) =>
    let value : Int := Nat.ofDigitChars 10 digits 0
    (if negative then -value else value, rest)

/-- The exponent, if there is one. -/
def power? (text : List Char) : Option (Option Int × List Char) :=
  match text with
  | 'e' :: rest => (powerDigits? rest).map fun (power, rest) => (some power, rest)
  | 'E' :: rest => (powerDigits? rest).map fun (power, rest) => (some power, rest)
  | text => some (none, text)

/-- The sign of a number, and the text behind it. -/
def numberSign : List Char → Bool × List Char
  | '-' :: rest => (true, rest)
  | text => (false, text)

/-- The number at the start of a text, in parts. -/
def numberParts? (text : List Char) : Option (NumberParts × List Char) := do
  let (negative, rest) := numberSign text
  let (whole, rest) ← whole? rest
  let (fraction, rest) ← fraction? rest
  let (power, rest) ← power? rest
  return (⟨negative, whole, fraction, power⟩, rest)

/-- The bound `2 ^ 64` of unsigned 64-bit integers. -/
def wordBound : Nat :=
  0x10000000000000000

/-- Append digits to a significand as long as it stays below `wordBound`.
Returns the significand and how many digits were left over. -/
def significand (start : Nat) : List Char → Nat × Nat
  | [] => (start, 0)
  | digit :: rest =>
      let longer := start * 10 + (digit.toNat - '0'.toNat)
      if longer < wordBound then significand longer rest else (start, rest.length + 1)

/-- The double that a written number stands for. -/
def NumberParts.magnitude? (parts : NumberParts) : Option Magnitude :=
  let (leading, skipped) := significand 0 parts.whole
  let (digits, dropped) := significand leading parts.fraction
  let power : Int := skipped - (parts.fraction.length - dropped : Nat) + parts.power.getD 0
  (Magnitude.ofNat? digits).bind fun magnitude => magnitude.scale? power

/-- Whether a number that is written as an integer is kept exactly: it fits an
unsigned or, with a sign, a signed 64-bit integer. -/
def fitsInteger (negative : Bool) (magnitude : Nat) : Bool :=
  if negative then 0 < magnitude && 2 * magnitude ≤ wordBound else magnitude < wordBound

/-- The number that the parts stand for, unless it is too large. -/
def NumberParts.number? (parts : NumberParts) : Option Number :=
  let whole := Nat.ofDigitChars 10 parts.whole 0
  if parts.fraction.isEmpty && parts.power.isNone && fitsInteger parts.negative whole then
    some (.integer (if parts.negative then -(whole : Int) else whole))
  else parts.magnitude?.map (Number.double parts.negative)

/-- The number at the start of a text. -/
def number? (text : List Char) : Option (Number × List Char) := do
  let (parts, rest) ← numberParts? text
  let number ← parts.number?
  return (number, rest)

/-! ## Writing -/

/-- An integer in decimal digits. -/
def integerText : Int → List Char
  | .ofNat value => Nat.toDigits 10 value
  | .negSucc value => '-' :: Nat.toDigits 10 (value + 1)

/-- The smallest exponent of a double that is written plainly. -/
def leastPlainExponent : Int :=
  -5

/-- The largest exponent of a double that is written plainly. -/
def greatestPlainExponent : Int :=
  15

/-- Digits written plainly; there is always a fraction. -/
def plainText (digits : List Char) (exponent : Int) : List Char :=
  if exponent < 0 then
    ['0', '.'] ++ List.replicate ((-exponent).toNat - 1) '0' ++ digits
  else
    let wholeLength := exponent.toNat + 1
    let whole := digits.take wholeLength ++ List.replicate (wholeLength - digits.length) '0'
    match digits.drop wholeLength with
    | [] => whole ++ ['.', '0']
    | fraction => whole ++ '.' :: fraction

/-- Digits in scientific notation; the exponent always has its sign. -/
def scientificText (digits : List Char) (exponent : Int) : List Char :=
  let mantissa :=
    match digits with
    | [] => []
    | [digit] => [digit]
    | first :: rest => first :: '.' :: rest
  let sign := if exponent < 0 then '-' else '+'
  mantissa ++ 'e' :: sign :: Nat.toDigits 10 exponent.natAbs

/-- A magnitude by its shortest digits. -/
def magnitudeText (magnitude : Magnitude) : List Char :=
  if magnitude.significand = 0 then ['0', '.', '0']
  else
    let decimal := shortest magnitude
    if leastPlainExponent ≤ decimal.exponent && decimal.exponent ≤ greatestPlainExponent then
      plainText decimal.digits decimal.exponent
    else scientificText decimal.digits decimal.exponent

/-- The text of a number. -/
def Number.text : Number → List Char
  | .integer value => integerText value
  | .double true magnitude => '-' :: magnitudeText magnitude
  | .double false magnitude => magnitudeText magnitude

end DiagramGraph.Json
