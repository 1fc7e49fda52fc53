import DiagramGraph.Connector.Arrow
import DiagramGraph.Entry.Declaration

/-!
# Lines of use-case diagrams

A line declares an actor or a use case, or holds a link between two of them. A
dotted link is an inclusion, any other an association. A link may stand
anywhere in a line, at the first word from which it can be read.
-/

namespace DiagramGraph.UseCaseLine

open DiagramGraph.Text

/-- The keywords of declarations, with the type of element that each makes. -/
def keywords : List (String × String) :=
  [("actor", "Actor"), ("usecase", "UseCase")]

/-- The actor or use case that a line declares. -/
def declaration? (line : List Char) : Option Element :=
  (Declaration.readAny? keywords line).map fun (type, declaration) => declaration.element type

/-- The link at the start of a text. -/
def linkAt? (text : List Char) : Option Relationship := do
  let (source, rest) ← leadingWord? text
  let (link, rest) ← Link.read? rest
  let rest ← gap? rest
  let (target, rest) ← word? rest
  return {
    kind := if Link.isDotted link then .inclusion else .association
    source := String.ofList source
    target := String.ofList target
    label := (label? rest).map String.ofList }

/-- The link that a line holds. -/
def link? (line : List Char) : Option Relationship :=
  firstAtWord linkAt? false line

/-- The entry that a line makes. -/
def entryOf? (line : List Char) : Option Entry :=
  (declaration? line).map Entry.element <|> (link? line).map Entry.relationship

end DiagramGraph.UseCaseLine
