import DiagramGraph.Json.Record
import DiagramGraph.Json.Writer

/-!
# What the service sends

The bodies of the answers that are JSON records, and the query of a request for
a shape. Maps from names to texts are written in the order of the names.
-/

namespace DiagramGraph.Service

open DiagramGraph.Json

/-! ## Errors and health -/

/-- The body of an answer that reports an error. -/
structure ErrorBody where
  error : String
  code : String
  deriving DecidableEq, Repr

namespace ErrorBody

/-- The body as a record. -/
def toJson (body : ErrorBody) : Value :=
  sparse [("error", some (.string body.error)), ("code", some (.string body.code))]

/-- The body that a record describes. -/
def ofJson? (value : Value) : Option ErrorBody := do
  let fields ← fields? ["error", "code"] value
  let error ← required Value.text? fields "error"
  let code ← required Value.text? fields "code"
  return { error, code }

end ErrorBody

/-- The body of an answer about the health of the service. -/
structure Health where
  status : String
  timestamp : String
  deriving DecidableEq, Repr

namespace Health

/-- A service that answers is well. -/
def ok (timestamp : String) : Health :=
  { status := "ok", timestamp }

/-- The body as a record. -/
def toJson (health : Health) : Value :=
  sparse
    [("status", some (.string health.status)), ("timestamp", some (.string health.timestamp))]

/-- The body that a record describes. -/
def ofJson? (value : Value) : Option Health := do
  let fields ← fields? ["status", "timestamp"] value
  let status ← required Value.text? fields "status"
  let timestamp ← required Value.text? fields "timestamp"
  return { status, timestamp }

end Health

/-! ## Maps of texts -/

/-- Texts by name. -/
abbrev TextMap := List (String × String)

namespace TextMap

/-- The map in the order of its names. -/
def sorted (map : TextMap) : TextMap :=
  map.mergeSort fun first second => decide (first.1 ≤ second.1)

/-- The map as an object, unless it is empty. -/
def toJson? (map : TextMap) : Option Value :=
  match sorted map with
  | [] => none
  | first :: rest => some (.object ((first :: rest).map fun (name, text) => (name, .string text)))

/-- The map that an object of strings describes. -/
def ofJson? : Value → Option TextMap
  | .object fields => readItems (fun value => value.text?) (fields.map Prod.snd) |>.map
      fun texts => (fields.map Prod.fst).zip texts
  | _ => none

end TextMap

/-! ## The description of the service -/

/-- The description of one endpoint. -/
structure Endpoint where
  method : String
  path : String
  description : String
  parameters : TextMap := []
  headers : TextMap := []
  body : Option String := none
  sample : String
  deriving DecidableEq, Repr

namespace Endpoint

/-- The description as a record. -/
def toJson (endpoint : Endpoint) : Value :=
  sparse
    [ ("method", some (.string endpoint.method)),
      ("path", some (.string endpoint.path)),
      ("description", some (.string endpoint.description)),
      ("parameters", endpoint.parameters.toJson?),
      ("headers", endpoint.headers.toJson?),
      ("body", endpoint.body.map Value.string),
      ("example", some (.string endpoint.sample)) ]

/-- A map that is empty when missing; null is refused. -/
def mapOrEmpty (fields : List (String × Value)) (name : String) : Option TextMap :=
  match field? fields name with
  | none => some []
  | some value => TextMap.ofJson? value

/-- The description that a record gives. -/
def ofJson? (value : Value) : Option Endpoint := do
  let fields ←
    fields? ["method", "path", "description", "parameters", "headers", "body", "example"] value
  let method ← required Value.text? fields "method"
  let path ← required Value.text? fields "path"
  let description ← required Value.text? fields "description"
  let parameters ← mapOrEmpty fields "parameters"
  let headers ← mapOrEmpty fields "headers"
  let body ← optional Value.text? fields "body"
  let sample ← required Value.text? fields "example"
  return { method, path, description, parameters, headers, body, sample }

/-- The endpoint for shapes. -/
def shapes : Endpoint :=
  { method := "GET"
    path := "/shacl"
    description := "Retrieve SHACL shape definitions by diagram type"
    parameters := [("name", "Diagram type (ERD, Sequence, Class, UseCase, etc.)")]
    sample := "/shacl?name=Class" }

/-- The endpoint for conversions. -/
def conversion : Endpoint :=
  { method := "PUT"
    path := "/convert"
    description := "Convert PlantUML document to JSON-LD"
    headers :=
      [ ("Context", "JSON-LD context URL or inline JSON"),
        ("Id", "Base IRI for generated resources") ]
    body := some "PlantUML source code (text/plain)"
    sample := "PUT /convert with PlantUML in body" }

end Endpoint

/-- The description of the service. -/
structure Info where
  name : String
  version : String
  description : String
  shapes : Endpoint
  conversion : Endpoint
  deriving DecidableEq, Repr

namespace Info

/-- The description of a service with a given name and version. -/
def describe (name version : String) : Info :=
  { name
    version
    description := "Converts PlantUML documents to JSON-LD format"
    shapes := Endpoint.shapes
    conversion := Endpoint.conversion }

/-- The description as a record. -/
def toJson (info : Info) : Value :=
  sparse
    [ ("name", some (.string info.name)),
      ("version", some (.string info.version)),
      ("description", some (.string info.description)),
      ("endpoints",
        some
          (sparse
            [ ("shacl", some info.shapes.toJson),
              ("convert", some info.conversion.toJson) ])) ]

/-- The description that a record gives. -/
def ofJson? (value : Value) : Option Info := do
  let fields ← fields? ["name", "version", "description", "endpoints"] value
  let name ← required Value.text? fields "name"
  let version ← required Value.text? fields "version"
  let description ← required Value.text? fields "description"
  let endpoints ← required (fields? ["shacl", "convert"]) fields "endpoints"
  let shapes ← required Endpoint.ofJson? endpoints "shacl"
  let conversion ← required Endpoint.ofJson? endpoints "convert"
  return { name, version, description, shapes, conversion }

end Info

/-! ## Queries -/

/-- The query of a request for a shape. -/
structure ShapeQuery where
  name : Option String
  deriving DecidableEq, Repr

namespace ShapeQuery

/-- The query as a record. -/
def toJson (query : ShapeQuery) : Value :=
  sparse [("name", query.name.map Value.string)]

/-- The query that a record describes. As an array it has its one field. -/
def ofJson? (value : Value) : Option ShapeQuery :=
  match value with
  | .array [] => none
  | value => do
      let fields ← fields? ["name"] value
      let name ← optional Value.text? fields "name"
      return { name }

end ShapeQuery

end DiagramGraph.Service
