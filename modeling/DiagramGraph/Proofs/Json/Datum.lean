import DiagramGraph.Json.Datum

/-!
# A value can always be written

The keys of a value are strings, so nothing hinders a writer, and what it writes is
the value itself.
-/

namespace DiagramGraph.Json

namespace Datum

open Value

mutual

/-- The data of a value are written as the value. -/
theorem toValue_toDatum : ∀ value : Value, value.toDatum.toValue = .ok value
  | .null => rfl
  | .boolean _ => rfl
  | .number _ => rfl
  | .string _ => rfl
  | .array items => by
      rw [toDatum, toValue, itemValues_itemData items]
      rfl
  | .object fields => by
      rw [toDatum, toValue, entryFields_fieldEntries fields]
      rfl

theorem itemValues_itemData : ∀ items : List Value, itemValues (itemData items) = .ok items
  | [] => rfl
  | item :: rest => by
      rw [itemData, itemValues, toValue_toDatum item, itemValues_itemData rest]
      rfl

theorem entryFields_fieldEntries :
    ∀ fields : List (String × Value), entryFields (fieldEntries fields) = .ok fields
  | [] => rfl
  | (_, value) :: rest => by
      rw [fieldEntries, entryFields, toValue_toDatum value, entryFields_fieldEntries rest]
      rfl

end

/-- Writing a value never fails. -/
theorem indented_toDatum (value : Value) : value.toDatum.indented = .ok value.indented := by
  rw [indented, toValue_toDatum]
  rfl

-- It does fail if there is nothing to write for a key.
example : (map [(.string "a", .null), (.null, .null)]).indented = .error .keyNotText :=
  rfl

end Datum

end DiagramGraph.Json
