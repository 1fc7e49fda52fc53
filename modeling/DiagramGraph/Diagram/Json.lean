import DiagramGraph.Diagram.Model
import DiagramGraph.Json.Record

/-!
# Diagram models in JSON

A model is written as nested records. Fields that are not set, and empty lists
of attributes and methods, are left out; the list of literals of an enumeration
is written even when it is empty. Reading accepts whatever the record rules
accept, and a field of the wrong type makes the whole model unreadable.
-/

namespace DiagramGraph

open DiagramGraph.Json

/-! ## Writing -/

/-- An optional text as a value. -/
def textValue (text : Option String) : Option Value :=
  text.map Value.string

/-- An optional truth value as a value. -/
def flagValue (flag : Option Bool) : Option Value :=
  flag.map Value.boolean

/-- An optional visibility as a value. -/
def visibilityValue (visibility : Option Visibility) : Option Value :=
  visibility.map fun visibility => .string visibility.name

/-- An optional cardinality as a value. -/
def cardinalityValue (cardinality : Option Cardinality) : Option Value :=
  cardinality.map fun cardinality => .string cardinality.text

/-- An attribute as a record. -/
def Attribute.toJson (field : Attribute) : Value :=
  sparse
    [ ("name", some (.string field.name)),
      ("datatype", textValue field.datatype),
      ("visibility", visibilityValue field.visibility),
      ("defaultValue", textValue field.defaultValue) ]

/-- A method as a record. -/
def Method.toJson (method : Method) : Value :=
  sparse
    [ ("name", some (.string method.name)),
      ("parameters", textValue method.parameters),
      ("returnType", textValue method.returnType),
      ("visibility", visibilityValue method.visibility),
      ("abstract", flagValue method.isAbstract),
      ("static", flagValue method.isStatic) ]

/-- An element as a record. -/
def Element.toJson (element : Element) : Value :=
  sparse
    [ ("type", some (.string element.type)),
      ("name", some (.string element.name)),
      ("alias", textValue element.aliasName),
      ("abstract", flagValue element.isAbstract),
      ("stereotype", textValue element.stereotype),
      ("attributes", nonEmptyArray (element.attributes.map Attribute.toJson)),
      ("methods", nonEmptyArray (element.methods.map Method.toJson)),
      ("values", element.values.map fun values => .array (values.map Value.string)) ]

/-- A relationship as a record. -/
def Relationship.toJson (relationship : Relationship) : Value :=
  sparse
    [ ("type", some (.string relationship.kind.name)),
      ("source", some (.string relationship.source)),
      ("target", some (.string relationship.target)),
      ("label", textValue relationship.label),
      ("sourceCardinality", cardinalityValue relationship.sourceCardinality),
      ("targetCardinality", cardinalityValue relationship.targetCardinality),
      ("message", textValue relationship.message),
      ("synchronous", flagValue relationship.synchronous) ]

/-- A model as a record. -/
def Model.toJson (model : Model) : Value :=
  sparse
    [ ("diagramType", some (.string model.kind.name)),
      ("elements", some (.array (model.elements.map Element.toJson))),
      ("relationships", some (.array (model.relationships.map Relationship.toJson))) ]

/-! ## Reading -/

/-- A visibility by its name. -/
def Visibility.ofJson? (value : Value) : Option Visibility :=
  (choice? value).bind Visibility.ofName?

/-- A cardinality by its text. -/
def Cardinality.ofJson? (value : Value) : Option Cardinality :=
  value.text?.map Cardinality.ofText

/-- A kind of relationship by its name. -/
def RelationshipKind.ofJson? (value : Value) : Option RelationshipKind :=
  (choice? value).bind RelationshipKind.ofName?

/-- A kind of diagram by its name. -/
def DiagramKind.ofJson? (value : Value) : Option DiagramKind :=
  (choice? value).bind DiagramKind.ofName?

/-- The attribute that a record describes. -/
def Attribute.ofJson? (value : Value) : Option Attribute := do
  let fields ← fields? ["name", "datatype", "visibility", "defaultValue"] value
  let name ← required Value.text? fields "name"
  let datatype ← optional Value.text? fields "datatype"
  let visibility ← optional Visibility.ofJson? fields "visibility"
  let defaultValue ← optional Value.text? fields "defaultValue"
  return { name, datatype, visibility, defaultValue }

/-- The method that a record describes. -/
def Method.ofJson? (value : Value) : Option Method := do
  let fields ←
    fields? ["name", "parameters", "returnType", "visibility", "abstract", "static"] value
  let name ← required Value.text? fields "name"
  let parameters ← optional Value.text? fields "parameters"
  let returnType ← optional Value.text? fields "returnType"
  let visibility ← optional Visibility.ofJson? fields "visibility"
  let isAbstract ← optional Value.boolean? fields "abstract"
  let isStatic ← optional Value.boolean? fields "static"
  return { name, parameters, returnType, visibility, isAbstract, isStatic }

/-- The element that a record describes. -/
def Element.ofJson? (value : Value) : Option Element := do
  let fields ←
    fields?
      ["type", "name", "alias", "abstract", "stereotype", "attributes", "methods", "values"]
      value
  let type ← required Value.text? fields "type"
  let name ← required Value.text? fields "name"
  let aliasName ← optional Value.text? fields "alias"
  let isAbstract ← optional Value.boolean? fields "abstract"
  let stereotype ← optional Value.text? fields "stereotype"
  let attributes ← listOrEmpty Attribute.ofJson? fields "attributes"
  let methods ← listOrEmpty Method.ofJson? fields "methods"
  let values ← optional (listOf Value.text?) fields "values"
  return { type, name, aliasName, isAbstract, stereotype, attributes, methods, values }

/-- The relationship that a record describes. -/
def Relationship.ofJson? (value : Value) : Option Relationship := do
  let fields ←
    fields?
      ["type", "source", "target", "label", "sourceCardinality", "targetCardinality", "message",
        "synchronous"]
      value
  let kind ← required RelationshipKind.ofJson? fields "type"
  let source ← required Value.text? fields "source"
  let target ← required Value.text? fields "target"
  let label ← optional Value.text? fields "label"
  let sourceCardinality ← optional Cardinality.ofJson? fields "sourceCardinality"
  let targetCardinality ← optional Cardinality.ofJson? fields "targetCardinality"
  let message ← optional Value.text? fields "message"
  let synchronous ← optional Value.boolean? fields "synchronous"
  return {
    kind, source, target, label, sourceCardinality, targetCardinality, message, synchronous }

/-- The model that a record describes. -/
def Model.ofJson? (value : Value) : Option Model := do
  let fields ← fields? ["diagramType", "elements", "relationships"] value
  let kind ← required DiagramKind.ofJson? fields "diagramType"
  let elements ← required (listOf Element.ofJson?) fields "elements"
  let relationships ← required (listOf Relationship.ofJson?) fields "relationships"
  return { kind, elements, relationships }

end DiagramGraph
