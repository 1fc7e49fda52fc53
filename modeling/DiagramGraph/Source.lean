import DiagramGraph.Detection
import DiagramGraph.Entry.ClassLine
import DiagramGraph.Entry.EntityLine
import DiagramGraph.Entry.PairLine
import DiagramGraph.Entry.SequenceLine
import DiagramGraph.Entry.UseCaseLine
import DiagramGraph.Text.Line

/-!
# From a source to its model

The kind of diagram decides how a content line is read. Lines that make no
entry are dropped without complaint, so a model can be read from any source
whatever; only a source in which no directive opens a diagram is refused.
-/

namespace DiagramGraph

open DiagramGraph.Text

/-- Why there is no document for a source: it has no model, or the document of its model
cannot be written. -/
inductive SourceError where
  | missingDirective
  | conversion (description : String)
  deriving DecidableEq, Repr

/-- How the error is reported. -/
def SourceError.message : SourceError → String
  | .missingDirective =>
      "not a valid PlantUML document (missing @startuml or @start* directive)"
  | .conversion description => "failed to convert to JSON-LD: " ++ description

/-- The entry that a content line makes in a diagram of the given kind. -/
def DiagramKind.entryOf? (kind : DiagramKind) : List Char → Option Entry :=
  match kind with
  | .classes => ClassLine.entryOf?
  | .sequence => SequenceLine.entryOf?
  | .useCase => UseCaseLine.entryOf?
  | .entityRelationship => EntityLine.entryOf?
  | .object | .activity | .component | .state | .deployment | .generic => PairLine.entryOf?

/-- The entries of a source that is read as a diagram of the given kind. -/
def entries (kind : DiagramKind) (source : List Char) : List Entry :=
  (contentLines source).filterMap kind.entryOf?

/-- The model of a source that is read as a diagram of the given kind. -/
def Model.ofSource (kind : DiagramKind) (source : String) : Model :=
  Model.ofEntries kind (entries kind source.toList)

/-- The kind of diagram that a source holds. -/
def detect (source : String) : Except SourceError DiagramKind :=
  match Detection.kind? source.toList with
  | some kind => .ok kind
  | none => .error .missingDirective

/-- The model of a source. -/
def parse (source : String) : Except SourceError Model :=
  (detect source).map fun kind => Model.ofSource kind source

end DiagramGraph
