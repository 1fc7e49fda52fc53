import DiagramGraph.Json.Reader
import DiagramGraph.Text.Blank

/-!
# Contexts

The context of a graph document is given by the user, either as the address of
a remote context or as an inline JSON value. It is neither fetched nor checked,
but copied into the document as it is.
-/

namespace DiagramGraph

open DiagramGraph.Json DiagramGraph.Text

/-- The context of a graph document. -/
inductive Context where
  | iri (text : String)
  | inline (value : Value)

namespace Context

/-- How many containers an inline context may open at once. -/
def depthLimit : Nat :=
  127

/-- The openings that make a text an address. -/
def schemes : List (List Char) :=
  ["http://".toList, "https://".toList]

/-- The context that a text denotes: an address if it begins like one, and JSON
otherwise. Blanks around it do not count. -/
def ofText? (text : String) : Option Context :=
  let trimmed := trim text.toList
  if schemes.any fun scheme => scheme.isPrefixOf trimmed then some (.iri (String.ofList trimmed))
  else (read? depthLimit trimmed).map Context.inline

/-- The context that a JSON value denotes: a string is an address, whatever it
holds. -/
def ofJson : Value → Context
  | .string text => .iri text
  | value => .inline value

/-- The context as it stands in a document. -/
def toJson : Context → Value
  | .iri text => .string text
  | .inline value => value

end Context

end DiagramGraph
