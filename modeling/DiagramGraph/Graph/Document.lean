import DiagramGraph.Graph.Context
import DiagramGraph.Graph.Node
import DiagramGraph.Json.Datum
import DiagramGraph.Source

/-!
# Graph documents

A graph document is a JSON object with a context and a graph. The graph lists
the node of the diagram, then those of the elements, then those of the
relationships, in the order of the model.
-/

namespace DiagramGraph

open DiagramGraph.Json

/-- The nodes made from a model. -/
structure Graph where
  diagram : DiagramNode
  elements : List ElementNode
  relationships : List RelationshipNode
  deriving DecidableEq, Repr

namespace Graph

/-- The graph of a model, with identifiers under a base. -/
def ofModel (base : String) (model : Model) : Graph :=
  { diagram := DiagramNode.ofModel base model
    elements := model.elements.mapIdx (ElementNode.ofElement base)
    relationships := model.relationships.mapIdx (RelationshipNode.ofRelationship base) }

/-- The nodes of a graph as a list. -/
def toJson (graph : Graph) : Value :=
  .array
    (graph.diagram.toJson ::
      graph.elements.map ElementNode.toJson ++ graph.relationships.map RelationshipNode.toJson)

/-- The document with a given context. -/
def document (graph : Graph) (context : Context) : Value :=
  .object [("@context", context.toJson), ("@graph", graph.toJson)]

end Graph

/-- The text of the document for a model. -/
def Model.documentText (model : Model) (context : Context) (base : String) : String :=
  ((Graph.ofModel base model).document context).indented

/-- The document for a model as a writer puts it down, or why it cannot. -/
def Model.writtenDocument (model : Model) (context : Context) (base : String) :
    Except SourceError String :=
  ((Graph.ofModel base model).document context).toDatum.indented.mapError fun fault =>
    .conversion fault.message

/-- The text of the document for a source. -/
def convert (source : String) (context : Context) (base : String) :
    Except SourceError String := do
  let model ← parse source
  model.writtenDocument context base

end DiagramGraph
