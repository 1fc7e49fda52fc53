import DiagramGraph.Connector.Arrow
import DiagramGraph.Entry.Declaration

/-!
# Lines of sequence diagrams

A line declares a participant in one of six roles, or holds a message between
two participants. A message may stand anywhere in a line, at the first word
from which it can be read.
-/

namespace DiagramGraph.SequenceLine

open DiagramGraph.Text

/-- The roles of participants, with the type of element that each makes. -/
def roles : List (String × String) :=
  [ ("participant", "Participant"),
    ("actor", "Actor"),
    ("boundary", "Boundary"),
    ("control", "Control"),
    ("entity", "Entity"),
    ("database", "Database") ]

/-- The participant that a line declares. -/
def participant? (line : List Char) : Option Element :=
  (Declaration.readAny? roles line).map fun (type, declaration) => declaration.element type

/-- The message at the start of a text. Blanks around the arrow are optional. -/
def messageAt? (text : List Char) : Option Relationship := do
  let (source, rest) ← word? text
  let (arrow, rest) ← Arrow.read? (trimStart rest)
  let (target, rest) ← word? (trimStart rest)
  return {
    kind := .message
    source := String.ofList source
    target := String.ofList target
    message := (label? rest).map String.ofList
    synchronous := some (!Arrow.isDashed arrow) }

/-- The message that a line holds. -/
def message? (line : List Char) : Option Relationship :=
  firstAtWord messageAt? false line

/-- The entry that a line makes. -/
def entryOf? (line : List Char) : Option Entry :=
  (participant? line).map Entry.element <|> (message? line).map Entry.relationship

end DiagramGraph.SequenceLine
