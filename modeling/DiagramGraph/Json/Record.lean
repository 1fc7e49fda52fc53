import DiagramGraph.Json.Value

/-!
# Records in JSON

A record is written as an object that leaves out the fields that are not set.
It is read from an object in which unknown keys are ignored, or from an array
that gives the fields in their declared order. A name from a fixed set is a
string, or an object with that name as its only key and null as its value.
-/

namespace DiagramGraph.Json

/-! ## Writing -/

/-- The object of the fields that are set. -/
def sparse (fields : List (String × Option Value)) : Value :=
  .object (fields.filterMap fun (name, value) => value.map fun value => (name, value))

/-- An array, unless it is empty. -/
def nonEmptyArray : List Value → Option Value
  | [] => none
  | item :: rest => some (.array (item :: rest))

/-! ## Reading -/

/-- The named fields of a record. -/
def fields? (names : List String) : Value → Option (List (String × Value))
  | .object fields => some fields
  | .array items => if items.length ≤ names.length then some (names.zip items) else none
  | _ => none

/-- The name of a choice from a fixed set. -/
def choice? : Value → Option String
  | .string name => some name
  | .object [(name, .null)] => some name
  | _ => none

/-- The value of a field, looked up in a list of named values. -/
def field? (fields : List (String × Value)) (name : String) : Option Value :=
  fields.lookup name

/-- A field that must be there. -/
def required {α : Type} (read : Value → Option α) (fields : List (String × Value))
    (name : String) : Option α :=
  (field? fields name).bind read

/-- A field that may be missing or null. -/
def optional {α : Type} (read : Value → Option α) (fields : List (String × Value))
    (name : String) : Option (Option α) :=
  match field? fields name with
  | none => some none
  | some .null => some none
  | some value => (read value).map some

/-- The items of an array, each read in the same way. -/
def readItems {α : Type} (read : Value → Option α) : List Value → Option (List α)
  | [] => some []
  | item :: rest => do
      let first ← read item
      let others ← readItems read rest
      return first :: others

/-- A list of items. -/
def listOf {α : Type} (read : Value → Option α) (value : Value) : Option (List α) :=
  value.items?.bind (readItems read)

/-- A list field that is empty when missing; null is refused. -/
def listOrEmpty {α : Type} (read : Value → Option α) (fields : List (String × Value))
    (name : String) : Option (List α) :=
  match field? fields name with
  | none => some []
  | some value => listOf read value

end DiagramGraph.Json
