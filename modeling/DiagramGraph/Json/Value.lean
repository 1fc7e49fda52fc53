import DiagramGraph.Decimal.Magnitude

/-!
# JSON values

Objects keep their keys in the order in which they first appeared. A number is
an exact integer where it was written as one and fits 64 bits, and a double
otherwise; the double's sign is kept apart, so that there is a negative zero.
-/

namespace DiagramGraph.Json

open DiagramGraph.Decimal

/-- A number. -/
inductive Number where
  | integer (value : Int)
  | double (negative : Bool) (magnitude : Magnitude)
  deriving DecidableEq, Repr

/-- A JSON value. -/
inductive Value where
  | null
  | boolean (value : Bool)
  | number (value : Number)
  | string (text : String)
  | array (items : List Value)
  | object (fields : List (String × Value))

/-- Set a key: the last value given for a key stands at the place where the key
first appeared. -/
def put (fields : List (String × Value)) (key : String) (value : Value) :
    List (String × Value) :=
  match fields with
  | [] => [(key, value)]
  | (other, old) :: rest =>
      if other = key then (key, value) :: rest else (other, old) :: put rest key value

namespace Value

/-- The value of a natural number. -/
def natural (value : Nat) : Value :=
  .number (.integer value)

/-- The text of a string. -/
def text? : Value → Option String
  | .string text => some text
  | _ => none

/-- The value of a boolean. -/
def boolean? : Value → Option Bool
  | .boolean value => some value
  | _ => none

/-- The items of an array. -/
def items? : Value → Option (List Value)
  | .array items => some items
  | _ => none

end Value

end DiagramGraph.Json
