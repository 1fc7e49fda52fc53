import DiagramGraph.Service.Message
import DiagramGraph.Service.Wire
import DiagramGraph.Shape.Name
import DiagramGraph.Source

/-!
# Rejected requests

The reasons for which a request is answered with an error, each with the status
and the code that go with it. The body of such an answer is a JSON record of
the message and the code.
-/

namespace DiagramGraph.Service

open DiagramGraph.Text

/-- Why a request is rejected. -/
inductive Rejection where
  | missingHeaders
  | emptyBody
  | bodyNotText (fault : Utf8.Fault)
  | contextUnreadable
  | contextMalformed
  | idUnreadable
  | source (error : SourceError)
  | missingName
  | shapeNotFound (name : String)
  | shapeUnreadable (detail : String)
  deriving DecidableEq, Repr

namespace Rejection

/-- The status of the answer. -/
def status : Rejection → Nat
  | .missingHeaders => 400
  | .emptyBody => 400
  | .bodyNotText _ => 400
  | .contextUnreadable => 400
  | .contextMalformed => 400
  | .idUnreadable => 400
  | .source .missingDirective => 422
  | .source (.conversion _) => 500
  | .missingName => 400
  | .shapeNotFound _ => 404
  | .shapeUnreadable _ => 500

/-- The code of the error. -/
def code : Rejection → String
  | .missingHeaders => "missing_headers"
  | .emptyBody => "empty_body"
  | .bodyNotText _ => "invalid_parameter"
  | .contextUnreadable => "invalid_context"
  | .contextMalformed => "invalid_context"
  | .idUnreadable => "invalid_parameter"
  | .source .missingDirective => "parse_failed"
  | .source (.conversion _) => "conversion_failed"
  | .missingName => "invalid_parameter"
  | .shapeNotFound _ => "not_found"
  | .shapeUnreadable _ => "internal_error"

/-- What has failed with a source. -/
def failedStep : SourceError → String
  | .missingDirective => "PlantUML parsing failed: "
  | .conversion _ => "JSON-LD conversion failed: "

/-- What is said about a header value that is no text. -/
def unreadableHeader : String :=
  "failed to convert header to a str"

/-- What stands in the place of a reason why a text is no JSON. -/
def malformedJson : String :=
  "<json error>"

/-- The message of the error. -/
def message : Rejection → String
  | .missingHeaders =>
      "Missing required headers: Context (JSON-LD context URL or inline JSON) " ++
        "and Id (base IRI for generated resources)"
  | .emptyBody => "Request body is empty. PlantUML source required."
  | .bodyNotText fault => "Request body is not valid UTF-8: " ++ fault.message
  | .contextUnreadable => "Invalid Context header: " ++ unreadableHeader
  | .contextMalformed => "Invalid Context header: " ++ malformedJson
  | .idUnreadable => "Invalid Id header: " ++ unreadableHeader
  | .source error => failedStep error ++ error.message
  | .missingName => "Missing required parameter: name"
  | .shapeNotFound name => "SHACL shape not found for diagram type: " ++ name
  | .shapeUnreadable detail => detail

/-- The rejection of a request for a shape that there is none of. -/
def ofMissing : Shape.Missing → Rejection
  | .notFound name => .shapeNotFound name
  | .unreadable detail => .shapeUnreadable detail

/-- The type of JSON bodies. -/
def jsonType : String :=
  "application/json"

/-- The answer to a rejected request. -/
def response (rejection : Rejection) : Response :=
  { status := rejection.status
    contentType := some jsonType
    body := (ErrorBody.toJson ⟨rejection.message, rejection.code⟩).compact }

end Rejection

end DiagramGraph.Service
