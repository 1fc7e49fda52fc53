import DiagramGraph.Diagram.Model

/-!
# Entries and their assembly

Each content line of a source makes at most one entry: an element, a
relationship, or a member of an element. Entries are assembled into a model by
giving every member to the element declared last before it. A member that comes
before all declarations is dropped, and so is a literal behind an element that
is no enumeration.
-/

namespace DiagramGraph

/-- What one line contributes to a model. -/
inductive Entry where
  | element (element : Element)
  | relationship (relationship : Relationship)
  | field (field : Attribute)
  | method (method : Method)
  | literal (text : String)
  deriving DecidableEq, Repr

/-- Members in the order of their lines. -/
structure Members where
  attributes : List Attribute := []
  methods : List Method := []
  literals : List String := []
  deriving DecidableEq, Repr

/-- The element with further members. -/
def Element.addMembers (element : Element) (members : Members) : Element :=
  { element with
    attributes := element.attributes ++ members.attributes
    methods := element.methods ++ members.methods
    values := element.values.map fun values => values ++ members.literals }

/-- What the end of a source contributes. The pending members are those before
its first declaration; they belong to whatever was declared earlier. -/
structure Assembly where
  pending : Members := {}
  elements : List Element := []
  relationships : List Relationship := []
  deriving DecidableEq, Repr

namespace Assembly

/-- Put one more entry in front. -/
def push (entry : Entry) (later : Assembly) : Assembly :=
  match entry with
  | .element element =>
      { later with
        pending := {}
        elements := element.addMembers later.pending :: later.elements }
  | .relationship relationship =>
      { later with relationships := relationship :: later.relationships }
  | .field field =>
      { later with
        pending := { later.pending with attributes := field :: later.pending.attributes } }
  | .method method =>
      { later with
        pending := { later.pending with methods := method :: later.pending.methods } }
  | .literal text =>
      { later with
        pending := { later.pending with literals := text :: later.pending.literals } }

/-- What a list of entries contributes. -/
def ofEntries : List Entry → Assembly
  | [] => {}
  | entry :: rest => push entry (ofEntries rest)

end Assembly

/-- The model of the given kind that a list of entries makes. -/
def Model.ofEntries (kind : DiagramKind) (entries : List Entry) : Model :=
  let assembly := Assembly.ofEntries entries
  { kind, elements := assembly.elements, relationships := assembly.relationships }

end DiagramGraph
