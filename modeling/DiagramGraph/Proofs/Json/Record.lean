import DiagramGraph.Json.Record
import DiagramGraph.Proofs.Json.Shape

/-!
# Records read back

A record holds exactly the fields that are set, in their declared order. A
field is found again under its name, since the names of a record are distinct;
so a reader that undoes the writer of every field undoes the writer of the
whole record.
-/

namespace DiagramGraph.Json

/-! ## The fields of a record -/

/-- The fields that are set. -/
def present (fields : List (String × Option Value)) : List (String × Value) :=
  fields.filterMap fun (name, value) => value.map fun value => (name, value)

theorem sparse_eq (fields : List (String × Option Value)) :
    sparse fields = .object (present fields) :=
  rfl

theorem present_cons_some (name : String) (value : Value) (fields : List (String × Option Value)) :
    present ((name, some value) :: fields) = (name, value) :: present fields :=
  rfl

theorem present_cons_none (name : String) (fields : List (String × Option Value)) :
    present ((name, none) :: fields) = present fields :=
  rfl

/-- The names of the fields that are set stand in the declared order. -/
theorem keys_present_sublist (fields : List (String × Option Value)) :
    ((present fields).map Prod.fst).Sublist (fields.map Prod.fst) := by
  induction fields with
  | nil => exact .slnil
  | cons field fields ih =>
      obtain ⟨name, value⟩ := field
      cases value with
      | none =>
          rw [present_cons_none]
          exact ih.cons name
      | some value =>
          rw [present_cons_some]
          exact ih.cons_cons name

/-- A field that is set is found under its name, and no other is. -/
theorem lookup_present {fields : List (String × Option Value)} (name : String)
    (distinct : (fields.map Prod.fst).Nodup) :
    (present fields).lookup name = (fields.lookup name).join := by
  induction fields with
  | nil => rfl
  | cons field fields ih =>
      obtain ⟨other, value⟩ := field
      rw [List.map_cons, List.nodup_cons] at distinct
      have rest := ih distinct.2
      by_cases same : name = other
      · subst same
        cases value with
        | some value => simp [present_cons_some]
        | none =>
            have absent : fields.lookup name = none := by
              rw [List.lookup_eq_none_iff]
              intro field member
              have other : name ≠ field.1 := by
                rintro rfl
                exact distinct.1 (List.mem_map.2 ⟨field, member, rfl⟩)
              simpa using other
            rw [present_cons_none, rest, absent]
            simp
      · have different : (name == other) = false := by simpa using same
        cases value with
        | some value => rw [present_cons_some, List.lookup_cons, List.lookup_cons, different, rest]
        | none => rw [present_cons_none, List.lookup_cons, different, rest]

/-! ## Reading fields -/

section Reading

variable {α : Type} {read : Value → Option α} {fields : List (String × Value)} {name : String}

theorem required_of_lookup {value : Value} {result : α} (found : fields.lookup name = some value)
    (inverse : read value = some result) : required read fields name = some result := by
  rw [required, field?, found, Option.bind_some, inverse]

/-- A field is read as the change that reading makes to what was written, if
nothing is written as null. -/
theorem optional_of_lookup {β : Type} {write : β → Value} {change : β → α} {field : Option β}
    (found : fields.lookup name = field.map write)
    (inverse : ∀ item, read (write item) = some (change item))
    (notNull : ∀ item, write item ≠ .null) :
    optional read fields name = some (field.map change) := by
  cases field with
  | none =>
      rw [optional, field?, found]
      rfl
  | some item =>
      rw [optional, field?, found]
      have written := notNull item
      simp only [Option.map_some, inverse]

/-- A reader of records may rely on nothing but what it finds under the names of
the fields. -/
theorem read_sparse {reader : Value → Option α} {declared : List (String × Option Value)}
    {result : α} (distinct : (declared.map Prod.fst).Nodup)
    (reading : ∀ found : List (String × Value),
      (∀ name, found.lookup name = (declared.lookup name).join) →
        reader (.object found) = some result) :
    reader (sparse declared) = some result :=
  reading _ fun name => lookup_present name distinct

/-- Items are read as the changes that reading makes to them. -/
theorem readItems_map {β : Type} {write : β → Value} {change : β → α}
    (inverse : ∀ item, read (write item) = some (change item)) (items : List β) :
    readItems read (items.map write) = some (items.map change) := by
  induction items with
  | nil => rfl
  | cons item items ih => simp [readItems, inverse, ih]

theorem listOrEmpty_of_lookup {β : Type} {write : β → Value} {change : β → α} {items : List β}
    (found : fields.lookup name = nonEmptyArray (items.map write))
    (inverse : ∀ item, read (write item) = some (change item)) :
    listOrEmpty read fields name = some (items.map change) := by
  cases items with
  | nil =>
      rw [listOrEmpty, field?, found]
      rfl
  | cons item items =>
      rw [listOrEmpty, field?, found]
      exact readItems_map inverse (item :: items)

/-- Whatever is read as items has been read from items. -/
theorem mem_of_readItems {values : List Value} {results : List α} {result : α}
    (reading : readItems read values = some results) (member : result ∈ results) :
    ∃ value ∈ values, read value = some result := by
  induction values generalizing results with
  | nil =>
      simp only [readItems, Option.some.injEq] at reading
      subst reading
      contradiction
  | cons value values ih =>
      simp only [readItems, Option.bind_eq_bind, Option.bind_eq_some_iff, Option.pure_def,
        Option.some.injEq] at reading
      obtain ⟨first, firstRead, others, othersRead, rfl⟩ := reading
      rcases List.mem_cons.1 member with rfl | member
      · exact ⟨value, by simp, firstRead⟩
      · obtain ⟨other, otherMember, otherRead⟩ := ih othersRead member
        exact ⟨other, by simp [otherMember], otherRead⟩

/-- Whatever is read from a field that may be missing satisfies what reading
guarantees. -/
theorem optional_eq_some {property : α → Prop} {result : Option α}
    (guarantee : ∀ value item, read value = some item → property item)
    (reading : optional read fields name = some result) : ∀ item ∈ result, property item := by
  rintro item rfl
  unfold optional at reading
  split at reading
  · simp at reading
  · simp at reading
  · next value _ _ =>
      obtain ⟨other, itemRead, same⟩ := Option.map_eq_some_iff.1 reading
      cases same
      exact guarantee value item itemRead

end Reading

/-! ## Records as values -/

namespace Value

section Written

variable {property : Value → Prop}

/-- What holds for every written item holds for what is written for a field. -/
theorem each_map {α : Type} {write : α → Value} {field : Option α}
    (each : ∀ item, property (write item)) : ∀ value ∈ field.map write, property value := by
  intro value member
  obtain ⟨item, -, rfl⟩ := Option.map_eq_some_iff.1 member
  exact each item

theorem each_some {value : Value} (holds : property value) :
    ∀ other ∈ some value, property other := by
  rintro other ⟨⟩
  exact holds

theorem each_nonEmptyArray {items : List Value}
    (holds : items ≠ [] → property (.array items)) :
    ∀ value ∈ nonEmptyArray items, property value := by
  cases items with
  | nil => nofun
  | cons item items => exact each_some (holds (List.cons_ne_nil item items))

end Written

/-- The value is well-formed and opens at most so many containers at once. -/
def Fits (sort : Number → Prop) (bound : Nat) (value : Value) : Prop :=
  value.WellFormed sort ∧ value.depth ≤ bound

variable {sort : Number → Prop} {bound : Nat}

theorem Fits.mono {value : Value} {wider : Nat} (fits : value.Fits sort bound)
    (le : bound ≤ wider) : value.Fits sort wider :=
  ⟨fits.1, Nat.le_trans fits.2 le⟩

theorem fits_string (text : String) : (Value.string text).Fits sort bound :=
  ⟨.string text, Nat.zero_le bound⟩

theorem fits_boolean (value : Bool) : (Value.boolean value).Fits sort bound :=
  ⟨.boolean value, Nat.zero_le bound⟩

theorem fits_array {items : List Value} (each : ∀ item ∈ items, item.Fits sort bound) :
    (Value.array items).Fits sort (bound + 1) := by
  constructor
  · exact .array fun item member => (each item member).1
  · rw [depth]
    exact Nat.succ_le_succ (itemsDepth_le_iff.2 fun item member => (each item member).2)

theorem fits_object {fields : List (String × Value)} (distinct : (fields.map Prod.fst).Nodup)
    (each : ∀ field ∈ fields, field.2.Fits sort bound) :
    (Value.object fields).Fits sort (bound + 1) := by
  constructor
  · exact .object distinct fun field member => (each field member).1
  · rw [depth]
    exact Nat.succ_le_succ (fieldsDepth_le_iff.2 fun field member => (each field member).2)

/-- A record fits if the fields do that are set. -/
theorem fits_sparse {fields : List (String × Option Value)}
    (distinct : (fields.map Prod.fst).Nodup)
    (each : ∀ field ∈ fields, ∀ value ∈ field.2, value.Fits sort bound) :
    (sparse fields).Fits sort (bound + 1) := by
  rw [sparse_eq]
  apply fits_object ((keys_present_sublist fields).nodup distinct)
  intro field member
  obtain ⟨⟨name, value⟩, known, found⟩ := List.mem_filterMap.1 member
  obtain ⟨value, rfl, rfl⟩ := Option.map_eq_some_iff.1 found
  exact each _ known value rfl

end Value

end DiagramGraph.Json
