import DiagramGraph.Diagram.Json
import DiagramGraph.Graph.Identifier

/-!
# Nodes of a graph

A graph has a node for the diagram, one for each element and one for each
relationship. An element node carries members only if its type has such
members, and empty lists are left out. The node of a participant other than an
actor repeats its type.
-/

namespace DiagramGraph

open DiagramGraph.Json

/-! ## Nodes -/

/-- The node of the diagram as a whole. -/
structure DiagramNode where
  id : String
  type : String
  elementCount : Nat
  relationshipCount : Nat
  deriving DecidableEq, Repr

/-- The node of an element. -/
structure ElementNode where
  id : String
  type : String
  name : Option String
  aliasName : Option String
  isAbstract : Option Bool
  stereotype : Option String
  attributes : List Attribute
  methods : List Method
  values : List String
  participantType : Option String
  deriving DecidableEq, Repr

/-- The node of a relationship. Both ends are identifiers. -/
structure RelationshipNode where
  id : String
  kind : RelationshipKind
  source : String
  target : String
  label : Option String
  message : Option String
  sourceCardinality : Option Cardinality
  targetCardinality : Option Cardinality
  synchronous : Option Bool
  deriving DecidableEq, Repr

/-! ## From the model -/

/-- The types of elements whose nodes carry attributes and methods. -/
def memberTypes : List String :=
  ["Class", "Interface", "Entity"]

/-- The type of elements whose nodes carry values. -/
def valueType : String :=
  "Enum"

/-- The types of elements whose nodes repeat the type as a participant type. -/
def participantTypes : List String :=
  ["Participant", "Boundary", "Control", "Database"]

/-- The identifier that a name gets under a base. -/
def mint (base name : String) : String :=
  String.ofList (Identifier.mint base.toList name.toList)

/-- The identifier of the relationship at a position. -/
def relationshipName (index : Nat) : String :=
  String.ofList (Identifier.numbered "relationship" index)

/-- What an element is identified by: its alias, else its name, else its
position. -/
def Element.localName (element : Element) (index : Nat) : String :=
  match element.aliasName with
  | some aliasName => aliasName
  | none =>
      if element.name = "" then String.ofList (Identifier.numbered "element" index)
      else element.name

/-- The node of the element at a position. -/
def ElementNode.ofElement (base : String) (index : Nat) (element : Element) : ElementNode :=
  { id := mint base (element.localName index)
    type := element.type
    name := if element.name = "" then none else some element.name
    aliasName := element.aliasName
    isAbstract := element.isAbstract
    stereotype := element.stereotype
    attributes := if element.type ∈ memberTypes then element.attributes else []
    methods := if element.type ∈ memberTypes then element.methods else []
    values := if element.type = valueType then element.values.getD [] else []
    participantType := if element.type ∈ participantTypes then some element.type else none }

/-- The node of the relationship at a position. -/
def RelationshipNode.ofRelationship (base : String) (index : Nat)
    (relationship : Relationship) : RelationshipNode :=
  { id := mint base (relationshipName index)
    kind := relationship.kind
    source := mint base relationship.source
    target := mint base relationship.target
    label := relationship.label
    message := relationship.message
    sourceCardinality := relationship.sourceCardinality
    targetCardinality := relationship.targetCardinality
    synchronous := relationship.synchronous }

/-- The node of the diagram that a model describes. -/
def DiagramNode.ofModel (base : String) (model : Model) : DiagramNode :=
  { id := String.ofList (Identifier.diagram base.toList)
    type := model.kind.name ++ "Diagram"
    elementCount := model.elements.length
    relationshipCount := model.relationships.length }

/-! ## In JSON -/

/-- A record with a type in front of its fields. -/
def typed (type : String) : Value → Value
  | .object fields => .object (("@type", .string type) :: fields)
  | value => value

/-- The node of a diagram as a record. -/
def DiagramNode.toJson (node : DiagramNode) : Value :=
  sparse
    [ ("@id", some (.string node.id)),
      ("@type", some (.string node.type)),
      ("elementCount", some (.natural node.elementCount)),
      ("relationshipCount", some (.natural node.relationshipCount)) ]

/-- The node of an element as a record. -/
def ElementNode.toJson (node : ElementNode) : Value :=
  sparse
    [ ("@id", some (.string node.id)),
      ("@type", some (.string node.type)),
      ("name", textValue node.name),
      ("alias", textValue node.aliasName),
      ("abstract", flagValue node.isAbstract),
      ("stereotype", textValue node.stereotype),
      ("attributes",
        nonEmptyArray (node.attributes.map fun field => typed "Attribute" field.toJson)),
      ("methods",
        nonEmptyArray (node.methods.map fun method => typed "Method" method.toJson)),
      ("values", nonEmptyArray (node.values.map Value.string)),
      ("participantType", textValue node.participantType) ]

/-- The node of a relationship as a record. -/
def RelationshipNode.toJson (node : RelationshipNode) : Value :=
  sparse
    [ ("@id", some (.string node.id)),
      ("@type", some (.string node.kind.name)),
      ("source", some (.string node.source)),
      ("target", some (.string node.target)),
      ("label", textValue node.label),
      ("message", textValue node.message),
      ("sourceCardinality", cardinalityValue node.sourceCardinality),
      ("targetCardinality", cardinalityValue node.targetCardinality),
      ("synchronous", flagValue node.synchronous) ]

end DiagramGraph
