import DiagramGraph.Text.Casing
import DiagramGraph.Text.Quoted

/-!
# Kinds of diagrams

A diagram is of one of nine specific kinds or of the generic kind. A kind has a
canonical name, which a user may spell in any case, and the specific kinds have
a directive word that opens a diagram of that kind.
-/

namespace DiagramGraph

open DiagramGraph.Text

/-- The kind of a diagram. -/
inductive DiagramKind where
  | classes
  | sequence
  | useCase
  | entityRelationship
  | object
  | activity
  | component
  | state
  | deployment
  | generic
  deriving DecidableEq, Repr

namespace DiagramKind

/-- All kinds, in the order in which they are offered. -/
def all : List DiagramKind :=
  [.classes, .sequence, .useCase, .entityRelationship, .object, .activity, .component, .state,
    .deployment, .generic]

/-- The canonical name. -/
def name : DiagramKind → String
  | .classes => "Class"
  | .sequence => "Sequence"
  | .useCase => "UseCase"
  | .entityRelationship => "ERD"
  | .object => "Object"
  | .activity => "Activity"
  | .component => "Component"
  | .state => "State"
  | .deployment => "Deployment"
  | .generic => "Generic"

/-- The kind with exactly this canonical name. -/
def ofName? (text : String) : Option DiagramKind :=
  all.find? fun kind => kind.name == text

/-- The canonical name in lower case. -/
def lowerName (kind : DiagramKind) : List Char :=
  asciiLower kind.name.toList

/-- The kind whose canonical name is spelled like this in some case. -/
def ofSpelling? (text : String) : Option DiagramKind :=
  all.find? fun kind => kind.lowerName == asciiLower text.toList

/-- What is said about a text that spells no kind. -/
def unknownMessage (text : String) : String :=
  "unknown diagram type " ++ String.ofList (quoted text.toList) ++ "; expected one of: " ++
    ", ".intercalate (all.map fun kind => String.ofList kind.lowerName)

/-- The directive words of the specific kinds, in lower case. -/
def directiveWords : List (String × DiagramKind) :=
  [ ("class", .classes),
    ("sequence", .sequence),
    ("usecase", .useCase),
    ("entity", .entityRelationship),
    ("object", .object),
    ("activity", .activity),
    ("component", .component),
    ("state", .state),
    ("deployment", .deployment) ]

/-- The kind that a directive word opens; a word outside the table opens a
generic diagram. -/
def ofDirective (word : String) : DiagramKind :=
  (directiveWords.lookup word).getD .generic

/-- The canonical name determines the kind. -/
theorem ofName?_name (kind : DiagramKind) : ofName? kind.name = some kind := by
  cases kind <;> decide

end DiagramKind

end DiagramGraph
