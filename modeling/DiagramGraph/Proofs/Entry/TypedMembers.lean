import DiagramGraph.Proofs.Entry.Blocks
import DiagramGraph.Proofs.Written.TypeExpression

/-!
# Members with type expressions

A member of a class may have any type expression for its type. It is recorded with what is
read of that, and what is left of it stands in the way of the default value. So an attribute
is recorded as it is written if no argument of its type has arguments, and otherwise with a
type that is cut and without its default value. A method is recorded with its return type in
the same way.
-/

namespace DiagramGraph.Written

open DiagramGraph.Text DiagramGraph.ClassLine

/-! ## Attributes -/

/-- An attribute with any type expression. -/
structure TypedField where
  visibility : Visibility
  name : Word
  colonApart : Bool
  type : TypeExpression
  default : Option (Phrase [])

namespace TypedField

/-- The line of the attribute. -/
def text (field : TypedField) : List Char :=
  field.visibility.marker ::
    (field.name.text ++
      (colon field.colonApart ++ spaced (field.type.text :: Field.defaultPieces field.default)))

/-- The attribute that is written. -/
def stated (field : TypedField) : Attribute :=
  { name := String.ofList field.name.text
    datatype := some (String.ofList field.type.text)
    visibility := some field.visibility
    defaultValue := field.default.map fun phrase => String.ofList phrase.text }

/-- The attribute that is recorded. -/
def recorded (field : TypedField) : Attribute :=
  { field.stated with
    datatype := some (String.ofList field.type.recorded)
    defaultValue := if field.type.isFlat then field.stated.defaultValue else none }

/-- The default value is read if nothing is left of the type. -/
theorem default?_behind {type : TypeExpression} {back : List Char} (leaves : type.Leaves back)
    (default : Option (Phrase [])) :
    default? (back ++ spaced (Field.defaultPieces default)) =
      if type.isFlat then default.map Phrase.text else none := by
  cases back with
  | nil => rw [if_pos (leaves.isFlat.1 rfl), List.nil_append, Field.default?_spaced]
  | cons first more =>
      have nested : ¬ type.isFlat = true := fun flat => by simpa using leaves.isFlat.2 flat
      have stop := leaves.stop first rfl
      have visible : isBlank first = false := by
        rcases stop with rfl | rfl <;> decide
      rw [if_neg nested, List.cons_append, default?, trimStart_eq_self (by simpa using visible)]
      rcases stop with rfl | rfl <;> rfl

theorem attribute?_text (field : TypedField) : attribute? field.text = some field.recorded := by
  rcases field.type.exists_leaves with ⟨back, leaves⟩
  have read := Field.attribute?_piece field.visibility field.name field.colonApart field.type.tidy
    (Field.defaultPieces field.default) (leaves.read (Field.defaultPieces field.default))
  rw [text, read, default?_behind leaves, recorded, stated]
  cases field.type.isFlat with
  | true => simp [Function.comp_def]
  | false => simp

/-- The line makes the attribute. -/
theorem entryOf?_text (field : TypedField) :
    entryOf? field.text = some (.field field.recorded) := by
  have noWord : leadingWord? field.text = none := by
    apply leadingWord?_eq_none
    rintro char ⟨⟩
    exact isWord_marker field.visibility
  rw [entryOf?_of_leadingWord? noWord, member?, field.attribute?_text]
  rfl

/-- An attribute is recorded as it is written if no argument of its type has arguments. -/
theorem recorded_eq_stated_iff (field : TypedField) :
    field.recorded = field.stated ↔ field.type.isFlat = true := by
  constructor
  · intro same
    have datatype := congrArg Attribute.datatype same
    simp only [recorded, stated, Option.some.injEq, String.ofList_inj] at datatype
    exact field.type.recorded_eq_text_iff.1 datatype
  · intro flat
    rw [recorded, field.type.recorded_eq_text_iff.2 flat, if_pos flat]
    rfl

end TypedField

/-! ## Methods -/

/-- A method with any type expression for its return type. -/
structure TypedOperation where
  visibility : Visibility
  name : Word
  parameters : List Char
  closed : ')' ∉ parameters
  colonApart : Bool
  type : TypeExpression

namespace TypedOperation

/-- The line of the method. -/
def text (operation : TypedOperation) : List Char :=
  operation.visibility.marker ::
    (operation.name.text ++
      ('(' :: (operation.parameters ++
        ')' :: (colon operation.colonApart ++ spaced [operation.type.text]))))

/-- The method that is written. -/
def stated (operation : TypedOperation) : Method :=
  { name := String.ofList operation.name.text
    parameters := (nonBlank? operation.parameters).map String.ofList
    returnType := some (String.ofList operation.type.text)
    visibility := some operation.visibility }

/-- The method that is recorded. -/
def recorded (operation : TypedOperation) : Method :=
  { operation.stated with returnType := some (String.ofList operation.type.recorded) }

theorem attribute?_text (operation : TypedOperation) : attribute? operation.text = none :=
  Operation.attribute?_parenthesis operation.visibility none true operation.name _

theorem method?_text (operation : TypedOperation) :
    method? operation.text = some operation.recorded := by
  rcases operation.type.exists_leaves with ⟨back, leaves⟩
  have read := Operation.method?_parenthesis operation.visibility none true operation.name
    operation.closed (colon operation.colonApart ++ spaced [operation.type.text])
  have type := leaves.read []
  rw [afterColon?_colon operation.colonApart operation.type.tidy, Option.bind_some, type] at read
  exact read

/-- The line makes the method. -/
theorem entryOf?_text (operation : TypedOperation) :
    entryOf? operation.text = some (.method operation.recorded) := by
  have noWord : leadingWord? operation.text = none := by
    apply leadingWord?_eq_none
    rintro char ⟨⟩
    exact isWord_marker operation.visibility
  rw [entryOf?_of_leadingWord? noWord, member?, operation.attribute?_text, operation.method?_text]
  rfl

/-- A method is recorded as it is written if no argument of its return type has arguments. -/
theorem recorded_eq_stated_iff (operation : TypedOperation) :
    operation.recorded = operation.stated ↔ operation.type.isFlat = true := by
  constructor
  · intro same
    have returnType := congrArg Method.returnType same
    simp only [recorded, stated, Option.some.injEq, String.ofList_inj] at returnType
    exact operation.type.recorded_eq_text_iff.1 returnType
  · intro flat
    rw [recorded, operation.type.recorded_eq_text_iff.2 flat]
    rfl

end TypedOperation

end DiagramGraph.Written

namespace DiagramGraph

open DiagramGraph.Text DiagramGraph.Written

/-! ## The main statement -/

/-- Type expressions have balanced brackets. A member is recorded with its type up to the first
closing bracket, and under the declaration that its line follows. That is the whole type, and
a type with balanced brackets, and leaves the default value, exactly if no argument of the
type has arguments. -/
theorem types_recorded_until_closed (source : String) :
    (∀ type : TypeExpression, Balanced type.text ∧ type.recorded <+: type.text ∧
        (type.recorded = type.text ↔ type.isFlat = true) ∧
        (Balanced type.recorded ↔ type.isFlat = true)) ∧
      (∀ field : TypedField, ClassLine.entryOf? field.text = some (.field field.recorded) ∧
        (field.recorded = field.stated ↔ field.type.isFlat = true)) ∧
      (∀ operation : TypedOperation,
        ClassLine.entryOf? operation.text = some (.method operation.recorded) ∧
          (operation.recorded = operation.stated ↔ operation.type.isFlat = true)) ∧
      ∀ block ∈ DiagramKind.classes.rules.blocks (contentLines source.toList),
        ∃ element ∈ (Model.ofSource .classes source).elements,
          element.type = block.1.type ∧ element.name = block.1.name ∧
            (∀ field : TypedField, field.text ∈ block.2 → field.recorded ∈ element.attributes) ∧
            ∀ operation : TypedOperation, operation.text ∈ block.2 →
              operation.recorded ∈ element.methods := by
  refine ⟨?types, ?fields, ?operations, ?blocks⟩
  case types =>
    exact fun type => ⟨type.balanced, type.recorded_prefix, type.recorded_eq_text_iff,
      type.balanced_recorded_iff⟩
  case fields => exact fun field => ⟨field.entryOf?_text, field.recorded_eq_stated_iff⟩
  case operations =>
    exact fun operation => ⟨operation.entryOf?_text, operation.recorded_eq_stated_iff⟩
  case blocks =>
    intro block listed
    refine ⟨DiagramKind.classes.rules.blockElement block, ?_, rfl, rfl, ?_, ?_⟩
    · rw [Model.elements_eq_blocks]
      exact List.mem_map_of_mem listed
    · exact fun field member => DiagramKind.mem_attributes_of_entryOf? member field.entryOf?_text
    · exact fun operation member =>
        DiagramKind.mem_methods_of_entryOf? member operation.entryOf?_text

/-- The type `List<Title>`, of an array or not. -/
def titleList (array : Bool) : TypeExpression :=
  .generic ⟨"List".toList, by decide, List.all_iff_forall_prop.1 (by decide)⟩
    (.last (.plain ⟨"Title".toList, by decide, List.all_iff_forall_prop.1 (by decide)⟩ false)) array

/-- The type `Map<String, List<Title>>`. -/
def titleMap : TypeExpression :=
  .generic ⟨"Map".toList, by decide, List.all_iff_forall_prop.1 (by decide)⟩
    (.more (.plain ⟨"String".toList, by decide, List.all_iff_forall_prop.1 (by decide)⟩ false)
      (.last (titleList false))) false

/-- An attribute with a list in a map for its type. -/
def shelfField : TypedField where
  visibility := .publicAccess
  name := ⟨"titles".toList, by decide, List.all_iff_forall_prop.1 (by decide)⟩
  colonApart := false
  type := titleMap
  default := some ⟨"none".toList, tidy_iff.2 (by decide), by simp⟩

/-- A method that returns an array of lists. -/
def shelfOperation : TypedOperation where
  visibility := .privateAccess
  name := ⟨"find".toList, by decide, List.all_iff_forall_prop.1 (by decide)⟩
  parameters := " key ".toList
  closed := by decide
  colonApart := true
  type := titleList true

/-- A class with the attribute and the method. -/
def shelfSource : String :=
  "class Shelf\n+titles: Map<String, List<Title>> = none\n-find( key ) : List<Title>[]"

theorem mem_blocks_shelfSource :
    ({ type := "Class", name := "Shelf", isAbstract := some false },
        [shelfField.text, shelfOperation.text]) ∈
      DiagramKind.classes.rules.blocks (contentLines shelfSource.toList) := by
  decide +kernel

theorem types_recorded_of_shelf :
    ∃ element ∈ (Model.ofSource .classes shelfSource).elements, element.name = "Shelf" ∧
      { name := "titles", datatype := some "Map<String, List<Title>"
        visibility := some .publicAccess } ∈ element.attributes ∧
      { name := "find", parameters := some "key", returnType := some "List<Title>[]"
        visibility := some .privateAccess } ∈ element.methods := by
  have field : shelfField.recorded =
      { name := "titles", datatype := some "Map<String, List<Title>"
        visibility := some .publicAccess } := by decide +kernel
  have operation : shelfOperation.recorded =
      { name := "find", parameters := some "key", returnType := some "List<Title>[]"
        visibility := some .privateAccess } := by decide +kernel
  rcases types_recorded_until_closed shelfSource with ⟨-, -, -, blocks⟩
  rcases blocks _ mem_blocks_shelfSource with ⟨element, member, -, name, fields, operations⟩
  rw [← field, ← operation]
  exact ⟨element, member, name, fields shelfField (by simp),
    operations shelfOperation (by simp)⟩

/-- So not every attribute is recorded with the type and the default value that it is written
with. -/
theorem exists_type_cut :
    ¬ ∀ source, ∀ block ∈ DiagramKind.classes.rules.blocks (contentLines source.toList),
      ∀ field : TypedField, field.text ∈ block.2 →
        ∃ element ∈ (Model.ofSource .classes source).elements,
          field.stated ∈ element.attributes := by
  intro whole
  have lost : ∀ element ∈ (Model.ofSource .classes shelfSource).elements,
      shelfField.stated ∉ element.attributes := by decide +kernel
  rcases whole shelfSource _ mem_blocks_shelfSource shelfField (by simp) with
    ⟨element, member, stated⟩
  exact lost element member stated

end DiagramGraph
