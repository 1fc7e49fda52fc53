import DiagramGraph.Service.Conversion
import DiagramGraph.Service.Target

/-!
# The service

Four paths are served. Each has one method; where that method is `GET`, `HEAD`
gives the same answer without its body. A path that is none of the four is not
found, whatever the method.
-/

namespace DiagramGraph.Service

/-- What the service needs to answer requests: where shapes come from, its own
name, and the time. -/
structure Environment where
  shape : String → Except Shape.Missing String
  name : String
  now : String

/-- The version of the service. -/
def version : String :=
  "0.1.0"

/-- The type of shape texts. -/
def shapeType : String :=
  "text/turtle"

/-- An answer that is a JSON record. -/
def jsonResponse (value : Json.Value) : Response :=
  { status := 200, contentType := some Rejection.jsonType, body := value.compact }

/-! ## Shapes -/

/-- The answer to a query that names its field twice. -/
def duplicateNameResponse : Response :=
  { status := 400
    contentType := some "text/plain; charset=utf-8"
    body := "Failed to deserialize query string: duplicate field \x60name\x60" }

/-- The values that a query gives for the name of a shape. -/
def queriedNames (query : List Char) : List String :=
  (queryPairs query).filterMap fun (name, value) =>
    if name = "name".toList then some (String.ofList value) else none

/-- The answer to a request for the shape with a given name. -/
def namedShapeResponse (environment : Environment) (name : String) : Response :=
  match environment.shape name with
  | .ok text => { status := 200, contentType := some shapeType, body := text }
  | .error missing => (Rejection.ofMissing missing).response

/-- The answer to a request for a shape. -/
def shapeResponse (environment : Environment) (query : List Char) : Response :=
  match queriedNames query with
  | [] => Rejection.missingName.response
  | [name] => namedShapeResponse environment name
  | _ => duplicateNameResponse

/-! ## Routes -/

/-- The paths that are served. -/
inductive Route where
  | description
  | health
  | shape
  | conversion
  deriving DecidableEq, Repr

namespace Route

/-- All routes with their paths. -/
def paths : List (String × Route) :=
  [("/", .description), ("/health", .health), ("/shacl", .shape), ("/convert", .conversion)]

/-- The route of a path, which is compared as it is. -/
def ofPath? (path : List Char) : Option Route :=
  paths.lookup (String.ofList path)

/-- The methods of a route, as an answer lists them. -/
def allowed : Route → String
  | .conversion => "PUT"
  | _ => "GET,HEAD"

/-- The answer to a request by the method of the route. -/
def respond (route : Route) (environment : Environment) (request : Request)
    (target : Target) : Response :=
  match route with
  | .description => jsonResponse (Info.describe environment.name version).toJson
  | .health => jsonResponse (Health.ok environment.now).toJson
  | .shape => shapeResponse environment (target.query.getD [])
  | .conversion => boundedConversionResponse request

/-- The answer to a request by any method. -/
def answer (route : Route) (environment : Environment) (request : Request)
    (target : Target) : Response :=
  match route with
  | .conversion =>
      if request.method = "PUT" then route.respond environment request target
      else { status := 405, allow := some route.allowed }
  | route =>
      if request.method = "GET" then route.respond environment request target
      else if request.method = "HEAD" then
        { route.respond environment request target with body := "" }
      else { status := 405, allow := some route.allowed }

end Route

/-- The answer to a request whose target has been read. -/
def answerTarget (environment : Environment) (request : Request) (target : Target) : Response :=
  match Route.ofPath? target.path with
  | some route => route.answer environment request target
  | none => { status := 404 }

/-- The answer to a request; nothing if it cannot be sent in the first place. -/
def answer? (environment : Environment) (request : Request) : Option Response :=
  match Target.ofText? request.target.toList with
  | some target =>
      if isToken request.method && request.headers.all Header.isWellFormed then
        some (answerTarget environment request target)
      else none
  | none => none

end DiagramGraph.Service
