import DiagramGraph.Diagram.Json
import DiagramGraph.Proofs.Json.Record

/-!
# Models read back

A model that is written as a record is read back unchanged, up to its
cardinalities: a cardinality is written as its text, and a text that has a name
of its own is read as the cardinality of that name. What is read back is the
settled form of the model. It has the same text as the model, and it is the
model itself exactly if no cardinality spells out a text that has a name.
-/

namespace DiagramGraph

open DiagramGraph.Json

/-! ## Settled models -/

/-- The cardinality as it is read back from its text. -/
def Cardinality.settled (cardinality : Cardinality) : Cardinality :=
  ofText cardinality.text

/-- The relationship with its cardinalities read back. -/
def Relationship.settled (relationship : Relationship) : Relationship :=
  { relationship with
    sourceCardinality := relationship.sourceCardinality.map Cardinality.settled
    targetCardinality := relationship.targetCardinality.map Cardinality.settled }

/-- The model with all cardinalities read back. -/
def Model.settled (model : Model) : Model :=
  { model with relationships := model.relationships.map Relationship.settled }

/-! ## Canonical models -/

/-- The texts that have a cardinality of their own. -/
def Cardinality.wellKnownTexts : List String :=
  ["1", "0..1", "0..*", "1..*", "*"]

/-- The cardinality spells out a text only if that text has no name. -/
def Cardinality.Canonical (cardinality : Cardinality) : Prop :=
  ∀ text ∈ wellKnownTexts, cardinality ≠ .custom text

/-- Both cardinalities of the relationship are canonical. -/
def Relationship.Canonical (relationship : Relationship) : Prop :=
  (∀ cardinality ∈ relationship.sourceCardinality, cardinality.Canonical) ∧
    ∀ cardinality ∈ relationship.targetCardinality, cardinality.Canonical

/-- All cardinalities of the model are canonical. -/
def Model.Canonical (model : Model) : Prop :=
  ∀ relationship ∈ model.relationships, relationship.Canonical

theorem Cardinality.canonical_ofText (text : String) : (ofText text).Canonical := by
  unfold ofText
  repeat' split
  all_goals
    intro known member
    simp only [wellKnownTexts, List.mem_cons, List.not_mem_nil, or_false] at member
  iterate 5 exact nofun
  · rintro ⟨⟩
    rcases member with rfl | rfl | rfl | rfl | rfl <;> contradiction

theorem Cardinality.settled_of_canonical {cardinality : Cardinality}
    (canonical : cardinality.Canonical) : cardinality.settled = cardinality := by
  cases cardinality with
  | one => rfl
  | zeroOrOne => rfl
  | zeroOrMany => rfl
  | oneOrMany => rfl
  | many => rfl
  | custom text =>
      have other : text ∉ wellKnownTexts := fun known => canonical text known rfl
      simp only [wellKnownTexts, List.mem_cons, List.not_mem_nil, or_false, not_or] at other
      simp [settled, Cardinality.text, ofText, other]

theorem Relationship.settled_of_canonical {relationship : Relationship}
    (canonical : relationship.Canonical) : relationship.settled = relationship := by
  obtain ⟨kind, source, target, label, sourceCardinality, targetCardinality, message,
    synchronous⟩ := relationship
  obtain ⟨sourceCanonical, targetCanonical⟩ := canonical
  simp only at sourceCanonical targetCanonical
  have sourceSame : sourceCardinality.map Cardinality.settled = sourceCardinality := by
    cases sourceCardinality with
    | none => rfl
    | some cardinality =>
        rw [Option.map_some, Cardinality.settled_of_canonical (sourceCanonical cardinality rfl)]
  have targetSame : targetCardinality.map Cardinality.settled = targetCardinality := by
    cases targetCardinality with
    | none => rfl
    | some cardinality =>
        rw [Option.map_some, Cardinality.settled_of_canonical (targetCanonical cardinality rfl)]
  simp [Relationship.settled, sourceSame, targetSame]

/-- A canonical model is settled. -/
theorem Model.settled_of_canonical {model : Model} (canonical : model.Canonical) :
    model.settled = model := by
  have same : model.relationships.map Relationship.settled = model.relationships := by
    calc
      _ = model.relationships.map id :=
        List.map_congr_left fun relationship member =>
          Relationship.settled_of_canonical (canonical relationship member)
      _ = model.relationships := List.map_id _
  rw [Model.settled, same]

/-! ## Reading parts -/

theorem text?_string (text : String) : (Value.string text).text? = some text :=
  rfl

theorem boolean?_boolean (value : Bool) : (Value.boolean value).boolean? = some value :=
  rfl

theorem Visibility.ofJson?_name (visibility : Visibility) :
    Visibility.ofJson? (.string visibility.name) = some visibility := by
  rw [Visibility.ofJson?, choice?, Option.bind_some, Visibility.ofName?_name]

theorem Cardinality.ofJson?_text (cardinality : Cardinality) :
    Cardinality.ofJson? (.string cardinality.text) = some cardinality.settled :=
  rfl

theorem RelationshipKind.ofJson?_name (kind : RelationshipKind) :
    RelationshipKind.ofJson? (.string kind.name) = some kind := by
  rw [RelationshipKind.ofJson?, choice?, Option.bind_some, RelationshipKind.ofName?_name]

theorem DiagramKind.ofJson?_name (kind : DiagramKind) :
    DiagramKind.ofJson? (.string kind.name) = some kind := by
  rw [DiagramKind.ofJson?, choice?, Option.bind_some, DiagramKind.ofName?_name]

section Fields

variable {fields : List (String × Value)} {name : String}

theorem optional_textValue {text : Option String}
    (found : fields.lookup name = textValue text) :
    optional Value.text? fields name = some text := by
  have read := optional_of_lookup found text?_string (by simp)
  rw [read, Option.map_id']

theorem optional_flagValue {flag : Option Bool}
    (found : fields.lookup name = flagValue flag) :
    optional Value.boolean? fields name = some flag := by
  have read := optional_of_lookup found boolean?_boolean (by simp)
  rw [read, Option.map_id']

theorem optional_visibilityValue {visibility : Option Visibility}
    (found : fields.lookup name = visibilityValue visibility) :
    optional Visibility.ofJson? fields name = some visibility := by
  have read := optional_of_lookup found Visibility.ofJson?_name (by simp)
  rw [read, Option.map_id']

theorem optional_cardinalityValue {cardinality : Option Cardinality}
    (found : fields.lookup name = cardinalityValue cardinality) :
    optional Cardinality.ofJson? fields name = some (cardinality.map Cardinality.settled) :=
  optional_of_lookup found Cardinality.ofJson?_text (by simp)

end Fields

/-! ## Reading records -/

/-- An attribute is read back unchanged. -/
theorem Attribute.ofJson?_toJson (field : Attribute) : ofJson? field.toJson = some field := by
  apply read_sparse (by simp)
  intro found find
  have name : required Value.text? found "name" = some field.name :=
    required_of_lookup (find "name") (text?_string field.name)
  have datatype : optional Value.text? found "datatype" = some field.datatype :=
    optional_textValue (find "datatype")
  have visibility : optional Visibility.ofJson? found "visibility" = some field.visibility :=
    optional_visibilityValue (find "visibility")
  have defaultValue : optional Value.text? found "defaultValue" = some field.defaultValue :=
    optional_textValue (find "defaultValue")
  simp [ofJson?, fields?, name, datatype, visibility, defaultValue]

/-- A method is read back unchanged. -/
theorem Method.ofJson?_toJson (method : Method) : ofJson? method.toJson = some method := by
  apply read_sparse (by simp)
  intro found find
  have name : required Value.text? found "name" = some method.name :=
    required_of_lookup (find "name") (text?_string method.name)
  have parameters : optional Value.text? found "parameters" = some method.parameters :=
    optional_textValue (find "parameters")
  have returnType : optional Value.text? found "returnType" = some method.returnType :=
    optional_textValue (find "returnType")
  have visibility : optional Visibility.ofJson? found "visibility" = some method.visibility :=
    optional_visibilityValue (find "visibility")
  have isAbstract : optional Value.boolean? found "abstract" = some method.isAbstract :=
    optional_flagValue (find "abstract")
  have isStatic : optional Value.boolean? found "static" = some method.isStatic :=
    optional_flagValue (find "static")
  simp [ofJson?, fields?, name, parameters, returnType, visibility, isAbstract, isStatic]

/-- A list of texts is read back unchanged. -/
theorem listOf_string (texts : List String) :
    listOf Value.text? (.array (texts.map Value.string)) = some texts := by
  have read := readItems_map text?_string texts
  rw [List.map_id'] at read
  rw [listOf, Value.items?, Option.bind_some, read]

/-- An element is read back unchanged; in particular an empty list of values
stays apart from a missing one. -/
theorem Element.ofJson?_toJson (element : Element) : ofJson? element.toJson = some element := by
  apply read_sparse (by simp)
  intro found find
  have type : required Value.text? found "type" = some element.type :=
    required_of_lookup (find "type") (text?_string element.type)
  have name : required Value.text? found "name" = some element.name :=
    required_of_lookup (find "name") (text?_string element.name)
  have aliasName : optional Value.text? found "alias" = some element.aliasName :=
    optional_textValue (find "alias")
  have isAbstract : optional Value.boolean? found "abstract" = some element.isAbstract :=
    optional_flagValue (find "abstract")
  have stereotype : optional Value.text? found "stereotype" = some element.stereotype :=
    optional_textValue (find "stereotype")
  have attributes : listOrEmpty Attribute.ofJson? found "attributes" = some element.attributes := by
    rw [listOrEmpty_of_lookup (find "attributes") Attribute.ofJson?_toJson, List.map_id']
  have methods : listOrEmpty Method.ofJson? found "methods" = some element.methods := by
    rw [listOrEmpty_of_lookup (find "methods") Method.ofJson?_toJson, List.map_id']
  have values : optional (listOf Value.text?) found "values" = some element.values := by
    rw [optional_of_lookup (find "values") listOf_string (by simp), Option.map_id']
  simp [ofJson?, fields?, type, name, aliasName, isAbstract, stereotype, attributes, methods,
    values]

/-- A relationship is read back with its cardinalities settled. -/
theorem Relationship.ofJson?_toJson (relationship : Relationship) :
    ofJson? relationship.toJson = some relationship.settled := by
  apply read_sparse (by simp)
  intro found find
  have kind : required RelationshipKind.ofJson? found "type" = some relationship.kind :=
    required_of_lookup (find "type") (RelationshipKind.ofJson?_name relationship.kind)
  have source : required Value.text? found "source" = some relationship.source :=
    required_of_lookup (find "source") (text?_string relationship.source)
  have target : required Value.text? found "target" = some relationship.target :=
    required_of_lookup (find "target") (text?_string relationship.target)
  have label : optional Value.text? found "label" = some relationship.label :=
    optional_textValue (find "label")
  have sourceCardinality :
      optional Cardinality.ofJson? found "sourceCardinality" =
        some (relationship.sourceCardinality.map Cardinality.settled) :=
    optional_cardinalityValue (find "sourceCardinality")
  have targetCardinality :
      optional Cardinality.ofJson? found "targetCardinality" =
        some (relationship.targetCardinality.map Cardinality.settled) :=
    optional_cardinalityValue (find "targetCardinality")
  have message : optional Value.text? found "message" = some relationship.message :=
    optional_textValue (find "message")
  have synchronous : optional Value.boolean? found "synchronous" = some relationship.synchronous :=
    optional_flagValue (find "synchronous")
  simp [ofJson?, fields?, kind, source, target, label, sourceCardinality, targetCardinality,
    message, synchronous, settled]

/-- A model is read back with its cardinalities settled. -/
theorem Model.ofJson?_toJson (model : Model) : ofJson? model.toJson = some model.settled := by
  apply read_sparse (by simp)
  intro found find
  have kind : required DiagramKind.ofJson? found "diagramType" = some model.kind :=
    required_of_lookup (find "diagramType") (DiagramKind.ofJson?_name model.kind)
  have elements : required (listOf Element.ofJson?) found "elements" = some model.elements := by
    apply required_of_lookup (find "elements")
    rw [listOf, Value.items?, Option.bind_some, readItems_map Element.ofJson?_toJson, List.map_id']
  have relationships :
      required (listOf Relationship.ofJson?) found "relationships" =
        some (model.relationships.map Relationship.settled) := by
    apply required_of_lookup (find "relationships")
    rw [listOf, Value.items?, Option.bind_some, readItems_map Relationship.ofJson?_toJson]
  simp [ofJson?, fields?, kind, elements, relationships, settled]

/-- A settled model is written like the model itself. -/
theorem Model.toJson_settled (model : Model) : model.settled.toJson = model.toJson := by
  have same : ∀ cardinality : Option Cardinality,
      cardinalityValue (cardinality.map Cardinality.settled) = cardinalityValue cardinality := by
    intro cardinality
    cases cardinality with
    | none => rfl
    | some cardinality => simp [cardinalityValue, Cardinality.settled]
  have each : ∀ relationship : Relationship, relationship.settled.toJson = relationship.toJson := by
    intro relationship
    simp [Relationship.settled, Relationship.toJson, same]
  simp [settled, toJson, Function.comp_def, each]

end DiagramGraph
