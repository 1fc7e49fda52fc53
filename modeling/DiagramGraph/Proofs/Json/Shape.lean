import DiagramGraph.Json.Writer
import DiagramGraph.Proofs.Json.NumberText

/-!
# The shape of values

A value that stands for a JSON text has distinct keys in every object, and
numbers that can be read. A number may come back different from what was
written, since a double is read with less care than it is printed; what comes
back is called the settled form of the number, and of the value that holds it.
-/

namespace DiagramGraph.Json

/-! ## Numbers once read -/

/-- What the text of a number is read as. -/
def Number.settled (number : Number) : Number :=
  match number? number.text with
  | some (settled, _) => settled
  | none => number

/-- The text of the number is read as one number, whatever follows it. -/
def Number.Legible (number : Number) : Prop :=
  ∀ rest, continuesNumber rest = false →
    number? (number.text ++ rest) = some (number.settled, rest)

/-- A number that is an integer of 64 bits. -/
inductive Number.Exact : Number → Prop where
  | integer {value : Int} (exact : ExactInteger value) : Exact (.integer value)

/-- An exact number is read back as itself. -/
theorem Number.Exact.settled {number : Number} (exact : number.Exact) :
    number.settled = number := by
  cases exact with
  | @integer value exact =>
      have read : number? (integerText value ++ []) = _ := number?_integerText exact rfl
      rw [List.append_nil] at read
      simp [Number.settled, Number.text, read]

theorem Number.Exact.legible {number : Number} (exact : number.Exact) : number.Legible := by
  intro rest stop
  rw [exact.settled]
  cases exact with
  | integer exact => exact number?_integerText exact stop

namespace Value

/-! ## Well-formed values -/

/-- The keys of every object are distinct, and all numbers are of a certain
sort. -/
inductive WellFormed (sort : Number → Prop) : Value → Prop where
  | null : WellFormed sort .null
  | boolean (value : Bool) : WellFormed sort (.boolean value)
  | number {value : Number} (accepted : sort value) : WellFormed sort (.number value)
  | string (text : String) : WellFormed sort (.string text)
  | array {items : List Value} (each : ∀ item ∈ items, WellFormed sort item) :
      WellFormed sort (.array items)
  | object {fields : List (String × Value)} (distinct : (fields.map Prod.fst).Nodup)
      (each : ∀ field ∈ fields, WellFormed sort field.2) : WellFormed sort (.object fields)

mutual

/-- The value with all numbers replaced. -/
def mapNumbers (change : Number → Number) : Value → Value
  | .number value => .number (change value)
  | .array items => .array (mapItems change items)
  | .object fields => .object (mapFields change fields)
  | .null => .null
  | .boolean value => .boolean value
  | .string text => .string text

/-- The items with all numbers replaced. -/
def mapItems (change : Number → Number) : List Value → List Value
  | [] => []
  | item :: rest => item.mapNumbers change :: mapItems change rest

/-- The fields with all numbers replaced. -/
def mapFields (change : Number → Number) : List (String × Value) → List (String × Value)
  | [] => []
  | (key, value) :: rest => (key, value.mapNumbers change) :: mapFields change rest

end

/-- The value with its numbers as they are read back. -/
def settled (value : Value) : Value :=
  value.mapNumbers Number.settled

/-! ## Depth -/

mutual

/-- How many containers a value opens at once. -/
def depth : Value → Nat
  | .array items => itemsDepth items + 1
  | .object fields => fieldsDepth fields + 1
  | _ => 0

/-- The greatest depth of some items. -/
def itemsDepth : List Value → Nat
  | [] => 0
  | item :: rest => max item.depth (itemsDepth rest)

/-- The greatest depth of the values of some fields. -/
def fieldsDepth : List (String × Value) → Nat
  | [] => 0
  | (_, value) :: rest => max value.depth (fieldsDepth rest)

end

theorem itemsDepth_le_iff {items : List Value} {bound : Nat} :
    itemsDepth items ≤ bound ↔ ∀ item ∈ items, item.depth ≤ bound := by
  induction items with
  | nil => simp [itemsDepth]
  | cons item items ih =>
      rw [itemsDepth, Nat.max_le, ih]
      simp

theorem fieldsDepth_le_iff {fields : List (String × Value)} {bound : Nat} :
    fieldsDepth fields ≤ bound ↔ ∀ field ∈ fields, field.2.depth ≤ bound := by
  induction fields with
  | nil => simp [fieldsDepth]
  | cons field fields ih =>
      obtain ⟨key, value⟩ := field
      rw [fieldsDepth, Nat.max_le, ih]
      simp

/-! ## Replacing numbers -/

theorem mapItems_eq_map (change : Number → Number) (items : List Value) :
    mapItems change items = items.map (mapNumbers change) := by
  induction items with
  | nil => rfl
  | cons item items ih => rw [mapItems, ih, List.map_cons]

theorem mapFields_eq_map (change : Number → Number) (fields : List (String × Value)) :
    mapFields change fields = fields.map fun field => (field.1, field.2.mapNumbers change) := by
  induction fields with
  | nil => rfl
  | cons field fields ih => rw [mapFields, ih, List.map_cons]

theorem keys_mapFields (change : Number → Number) (fields : List (String × Value)) :
    (mapFields change fields).map Prod.fst = fields.map Prod.fst := by
  simp [mapFields_eq_map, Function.comp_def]

/-- Well-formedness in one sort of numbers implies it in a wider one. -/
theorem WellFormed.mono {narrow wide : Number → Prop} (imp : ∀ number, narrow number → wide number)
    {value : Value} (wellFormed : value.WellFormed narrow) : value.WellFormed wide := by
  induction wellFormed with
  | null => exact .null
  | boolean value => exact .boolean value
  | number accepted => exact .number (imp _ accepted)
  | string text => exact .string text
  | array _ ih => exact .array ih
  | object distinct _ ih => exact .object distinct ih

/-- A value whose numbers stay the same stays the same. -/
theorem mapNumbers_eq_self {sort : Number → Prop} {change : Number → Number}
    (fixed : ∀ number, sort number → change number = number) {value : Value}
    (wellFormed : value.WellFormed sort) : value.mapNumbers change = value := by
  induction wellFormed with
  | null => rfl
  | boolean value => rfl
  | number accepted => rw [mapNumbers, fixed _ accepted]
  | string text => rfl
  | array _ ih =>
      rw [mapNumbers, mapItems_eq_map, List.map_congr_left ih, List.map_id']
  | object _ _ ih =>
      rw [mapNumbers, mapFields_eq_map]
      congr 1
      calc
        _ = List.map id _ := List.map_congr_left fun field member => by rw [ih field member, id]
        _ = _ := List.map_id _

/-- Replacing numbers keeps a value well-formed. -/
theorem WellFormed.mapNumbers {sort : Number → Prop} (change : Number → Number) {value : Value}
    (wellFormed : value.WellFormed sort) :
    (value.mapNumbers change).WellFormed fun _ => True := by
  induction wellFormed with
  | null => exact .null
  | boolean value => exact .boolean value
  | number accepted => exact .number trivial
  | string text => exact .string text
  | array _ ih =>
      rw [Value.mapNumbers, mapItems_eq_map]
      apply WellFormed.array
      intro item member
      obtain ⟨original, known, rfl⟩ := List.mem_map.1 member
      exact ih original known
  | object distinct _ ih =>
      rw [Value.mapNumbers]
      apply WellFormed.object
      · rwa [keys_mapFields]
      · rw [mapFields_eq_map]
        intro field member
        obtain ⟨original, known, rfl⟩ := List.mem_map.1 member
        exact ih original known

mutual

/-- Replacing numbers keeps the depth of a value. -/
theorem depth_mapNumbers (change : Number → Number) :
    ∀ value : Value, (value.mapNumbers change).depth = value.depth
  | .null => rfl
  | .boolean _ => rfl
  | .number _ => rfl
  | .string _ => rfl
  | .array items => by rw [Value.mapNumbers, depth, depth, itemsDepth_mapItems change items]
  | .object fields => by rw [Value.mapNumbers, depth, depth, fieldsDepth_mapFields change fields]

theorem itemsDepth_mapItems (change : Number → Number) :
    ∀ items : List Value, itemsDepth (mapItems change items) = itemsDepth items
  | [] => rfl
  | item :: rest => by
      rw [mapItems, itemsDepth, itemsDepth, depth_mapNumbers change item,
        itemsDepth_mapItems change rest]

theorem fieldsDepth_mapFields (change : Number → Number) :
    ∀ fields : List (String × Value), fieldsDepth (mapFields change fields) = fieldsDepth fields
  | [] => rfl
  | (_, value) :: rest => by
      rw [mapFields, fieldsDepth, fieldsDepth, depth_mapNumbers change value,
        fieldsDepth_mapFields change rest]

end

end Value

end DiagramGraph.Json
