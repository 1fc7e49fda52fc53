import DiagramGraph.CommandLine.Arguments
import DiagramGraph.Graph.Document
import DiagramGraph.Report
import DiagramGraph.Service.Rejection
import DiagramGraph.Storage.Folder

/-!
# Running a command

A command reads its file, or the standard input if the file is a dash, and
prints its result. The exit status tells whether there was a result, whether
the source gave none, or whether the program was misused or could not read its
input. Without a result nothing is printed but the reason.
-/

namespace DiagramGraph.CommandLine

open DiagramGraph.Storage

/-- What a run leaves behind. -/
structure Outcome where
  exit : Nat
  output : String := ""
  errors : String := ""
  deriving DecidableEq, Repr

namespace Outcome

/-- A run with a result. -/
def success (output : String) : Outcome :=
  { exit := 0, output }

/-- The reason of a failure as it is printed. -/
def reason (message : String) : String :=
  "pumlld: " ++ message ++ "\n"

/-- A run on a source that gave no result. -/
def failed (error : SourceError) : Outcome :=
  { exit := 1, errors := reason error.message }

/-- A run that could not read what it was given. -/
def unusable (message : String) : Outcome :=
  { exit := 2, errors := reason message }

/-- A run with arguments that make no sense. -/
def misuse : Outcome :=
  { exit := 2, errors := "<usage error>" }

end Outcome

/-- What a run can read: files by path and the standard input. -/
structure Inputs where
  file : String → Except ReadFault String
  standardInput : Except ReadFault String

/-- The source that a file argument stands for, or why it cannot be read. -/
def Inputs.source (inputs : Inputs) (file : String) : Except String String :=
  if file = "-" then
    inputs.standardInput.mapError fun fault => "failed to read stdin: " ++ fault.message
  else
    (inputs.file file).mapError fun fault =>
      "failed to read " ++ file ++ ": " ++ fault.message

/-- The outcome of a step that only the source can make fail. -/
def printed {α : Type} (result : Except SourceError α) (print : α → String) : Outcome :=
  match result with
  | .ok value => .success (print value)
  | .error error => .failed error

/-- The outcome of printing a model as JSON. -/
def modelOutcome (model : Model) : Outcome :=
  match model.toJson.toDatum.indented with
  | .ok text => .success (text ++ "\n")
  | .error fault => .unusable ("failed to serialise model: " ++ fault.message)

/-- The outcome of a conversion of a source. -/
def conversionOutcome (source context base : String) : Outcome :=
  match Context.ofText? context with
  | none => .unusable ("invalid --context: " ++ Service.Rejection.malformedJson)
  | some context => printed (convert source context base) fun document => document ++ "\n"

/-- The outcome of a command whose source has been read. -/
def Command.outcomeOn (command : Command) (source : String) : Outcome :=
  match command with
  | .detect _ => printed (DiagramGraph.detect source) fun kind => kind.name ++ "\n"
  | .parse _ =>
      match DiagramGraph.parse source with
      | .ok model => modelOutcome model
      | .error error => .failed error
  | .inspect _ => printed (DiagramGraph.parse source) Report.text
  | .convert _ context base => conversionOutcome source context base

/-- The file of a command. -/
def Command.file : Command → String
  | .detect file => file
  | .parse file => file
  | .inspect file => file
  | .convert file _ _ => file

/-- The outcome of a command. -/
def Command.outcome (command : Command) (inputs : Inputs) : Outcome :=
  match inputs.source command.file with
  | .ok source => command.outcomeOn source
  | .error message => .unusable message

/-- What the program says about its own version. -/
def versionText : String :=
  "pumlld 0.1.0\n"

/-- What the program says about its use. -/
def helpText : String :=
  "\n".intercalate
    [ "Usage: pumlld <COMMAND>",
      "",
      "Commands:",
      "  detect   Print the diagram type of a PlantUML document",
      "  parse    Extract the diagram model and print it as JSON",
      "  inspect  Print a human-readable summary of the diagram model",
      "  convert  Convert a PlantUML document to a JSON-LD graph document",
      "  help     Print this message",
      "",
      "Options of convert:",
      "  -c, --context <IRI_OR_JSON>  JSON-LD context: an http(s):// IRI or inline JSON",
      "  -i, --id <IRI>               Base IRI for minted node identifiers",
      "",
      "Options:",
      "  -h, --help     Print help",
      "  -V, --version  Print version",
      "" ]

/-- The outcome of a request. -/
def Request.outcome (request : Request) (inputs : Inputs) : Outcome :=
  match request with
  | .run command => command.outcome inputs
  | .version => .success versionText
  | .help => .success helpText
  | .misuse => .misuse

end DiagramGraph.CommandLine
