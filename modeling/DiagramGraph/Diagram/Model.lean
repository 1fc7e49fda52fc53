import DiagramGraph.Diagram.Kind
import DiagramGraph.Diagram.Visibility
import DiagramGraph.Diagram.Cardinality

/-!
# The diagram model

What a diagram says, apart from how it is written: its kind, its elements with
their members, and the relationships between them. Elements and relationships
stand in the order of the source. A relationship names its ends by the text of
the source, whether or not an element has that name.
-/

namespace DiagramGraph

/-- The kind of a relationship. -/
inductive RelationshipKind where
  | association
  | extension
  | implementation
  | composition
  | aggregation
  | dependency
  | message
  | inclusion
  | entityRelation
  deriving DecidableEq, Repr

namespace RelationshipKind

/-- All kinds. -/
def all : List RelationshipKind :=
  [.association, .extension, .implementation, .composition, .aggregation, .dependency, .message,
    .inclusion, .entityRelation]

/-- The name of a kind. -/
def name : RelationshipKind → String
  | .association => "Association"
  | .extension => "Extension"
  | .implementation => "Implementation"
  | .composition => "Composition"
  | .aggregation => "Aggregation"
  | .dependency => "Dependency"
  | .message => "Message"
  | .inclusion => "Include"
  | .entityRelation => "Relationship"

/-- The kind with exactly this name. -/
def ofName? (text : String) : Option RelationshipKind :=
  all.find? fun kind => kind.name == text

/-- The name determines the kind. -/
theorem ofName?_name (kind : RelationshipKind) : ofName? kind.name = some kind := by
  cases kind <;> decide

end RelationshipKind

/-- A field of an element. -/
structure Attribute where
  name : String
  datatype : Option String := none
  visibility : Option Visibility := none
  defaultValue : Option String := none
  deriving DecidableEq, Repr

/-- An operation of an element. The parameters are the text between the
parentheses. -/
structure Method where
  name : String
  parameters : Option String := none
  returnType : Option String := none
  visibility : Option Visibility := none
  isAbstract : Option Bool := none
  isStatic : Option Bool := none
  deriving DecidableEq, Repr

/-- A named thing in a diagram. The values are the literals of an enumeration;
an element that is none has no such list at all. -/
structure Element where
  type : String
  name : String
  aliasName : Option String := none
  isAbstract : Option Bool := none
  stereotype : Option String := none
  attributes : List Attribute := []
  methods : List Method := []
  values : Option (List String) := none
  deriving DecidableEq, Repr

/-- A link between two elements. -/
structure Relationship where
  kind : RelationshipKind
  source : String
  target : String
  label : Option String := none
  sourceCardinality : Option Cardinality := none
  targetCardinality : Option Cardinality := none
  message : Option String := none
  synchronous : Option Bool := none
  deriving DecidableEq, Repr

/-- What one source says. -/
structure Model where
  kind : DiagramKind
  elements : List Element := []
  relationships : List Relationship := []
  deriving DecidableEq, Repr

end DiagramGraph
