import DiagramGraph.Graph.Document
import DiagramGraph.Proofs.Json.Record

/-!
# What can be seen in a document

A document is looked at from outside, as the JSON value that it is: the entries
of its graph, the keys of an entry in their order, and the value or text that
stands under a key.
-/

namespace DiagramGraph

open DiagramGraph.Json

namespace Json.Value

/-- The value under a key of an object. -/
def at? : Value → String → Option Value
  | .object fields, key => fields.lookup key
  | _, _ => none

/-- The text under a key of an object. -/
def textAt? (value : Value) (key : String) : Option String :=
  (value.at? key).bind text?

/-- The keys of an object, in order. -/
def keys : Value → List String
  | .object fields => fields.map Prod.fst
  | _ => []

/-- The entries of the graph in a document. -/
def entries (document : Value) : List Value :=
  ((document.at? "@graph").bind items?).getD []

theorem at?_sparse {fields : List (String × Option Value)} (key : String)
    (distinct : (fields.map Prod.fst).Nodup) :
    (sparse fields).at? key = (fields.lookup key).join :=
  lookup_present key distinct

theorem keys_sparse_sublist (fields : List (String × Option Value)) :
    (sparse fields).keys.Sublist (fields.map Prod.fst) :=
  keys_present_sublist fields

end Json.Value

/-- The entries of a document are the nodes of its graph. -/
theorem Graph.entries_document (graph : Graph) (context : Context) :
    (graph.document context).entries =
      graph.diagram.toJson ::
        (graph.elements.map ElementNode.toJson ++
          graph.relationships.map RelationshipNode.toJson) :=
  rfl

end DiagramGraph
