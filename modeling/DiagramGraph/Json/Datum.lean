import DiagramGraph.Json.Writer

/-!
# Data that are to be written

What a writer is given need not be a JSON value, for the key of an entry can be data
of any sort. A truth value or a number that is a key is written as a string. A key of
any other sort that is no string cannot be written, and then nothing is.
-/

namespace DiagramGraph.Json

/-- Data as a writer is given them. -/
inductive Datum where
  | null
  | boolean (value : Bool)
  | number (value : Number)
  | string (text : String)
  | sequence (items : List Datum)
  | map (entries : List (Datum × Datum))

namespace Datum

/-- Why data cannot be written. -/
inductive Fault where
  | keyNotText
  deriving DecidableEq, Repr

/-- How the fault is reported. -/
def Fault.message : Fault → String
  | .keyNotText => "key must be a string"

/-- The text that a key is written as. -/
def keyText : Datum → Except Fault String
  | .string text => .ok text
  | .boolean value => .ok (toString value)
  | .number value => .ok (String.ofList value.text)
  | .null | .sequence _ | .map _ => .error .keyNotText

mutual

/-- The value that data are written as. -/
def toValue : Datum → Except Fault Value
  | .null => .ok .null
  | .boolean value => .ok (.boolean value)
  | .number value => .ok (.number value)
  | .string text => .ok (.string text)
  | .sequence items => do
      let values ← itemValues items
      return .array values
  | .map entries => do
      let fields ← entryFields entries
      return .object fields

/-- The values of some items. -/
def itemValues : List Datum → Except Fault (List Value)
  | [] => .ok []
  | item :: rest => do
      let value ← item.toValue
      let values ← itemValues rest
      return value :: values

/-- The fields that some entries are written as. -/
def entryFields : List (Datum × Datum) → Except Fault (List (String × Value))
  | [] => .ok []
  | (key, item) :: rest => do
      let text ← key.keyText
      let value ← item.toValue
      let fields ← entryFields rest
      return (text, value) :: fields

end

/-- The text of data with one item per line. -/
def indented (datum : Datum) : Except Fault String :=
  datum.toValue.map Value.indented

end Datum

namespace Value

mutual

/-- The data that a value gives a writer. -/
def toDatum : Value → Datum
  | .null => .null
  | .boolean value => .boolean value
  | .number value => .number value
  | .string text => .string text
  | .array items => .sequence (itemData items)
  | .object fields => .map (fieldEntries fields)

/-- The data of some items. -/
def itemData : List Value → List Datum
  | [] => []
  | item :: rest => item.toDatum :: itemData rest

/-- The entries of some fields, whose keys are strings. -/
def fieldEntries : List (String × Value) → List (Datum × Datum)
  | [] => []
  | (key, value) :: rest => (.string key, value.toDatum) :: fieldEntries rest

end

end Value

end DiagramGraph.Json
