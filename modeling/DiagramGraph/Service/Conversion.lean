import DiagramGraph.Graph.Document
import DiagramGraph.Service.Rejection

/-!
# Conversion requests

A conversion takes its source from the body and its context and base from two
headers. The body is read in full first, and one that is too long is refused as
it is. Then the request is checked in a fixed order, and the first check that
fails decides the answer.
-/

namespace DiagramGraph.Service

open DiagramGraph.Text

/-- The name of the header with the context. -/
def contextHeader : String :=
  "context"

/-- The name of the header with the base. -/
def idHeader : String :=
  "id"

/-- What an optional value is, or the error that its absence is. -/
def orReject {α : Type} (value : Option α) (rejection : Rejection) : Except Rejection α :=
  match value with
  | some value => .ok value
  | none => .error rejection

/-- The source in a body. -/
def bodyText (body : List UInt8) : Except Rejection String :=
  match Utf8.decode body with
  | .ok text => .ok (String.ofList text)
  | .error fault => .error (.bodyNotText fault)

/-- The document that a conversion request asks for. -/
def conversionDocument (request : Request) : Except Rejection String := do
  let contextValue ← orReject (request.header? contextHeader) .missingHeaders
  let idValue ← orReject (request.header? idHeader) .missingHeaders
  if request.body.isEmpty then throw .emptyBody
  let source ← bodyText request.body
  let contextText ← orReject (headerText? contextValue) .contextUnreadable
  let context ← orReject (Context.ofText? contextText) .contextMalformed
  let base ← orReject (headerText? idValue) .idUnreadable
  match convert source context base with
  | .ok document => return document
  | .error error => throw (.source error)

/-- The type of graph documents. -/
def documentType : String :=
  "application/ld+json"

/-- The answer to a conversion request whose body has been read. -/
def conversionResponse (request : Request) : Response :=
  match conversionDocument request with
  | .ok document => { status := 200, contentType := some documentType, body := document }
  | .error rejection => rejection.response

/-! ## The length of the body -/

/-- The greatest number of bytes that are read of a body. -/
def bodyLimit : Nat :=
  2097152

/-- The answer to a request whose body has more bytes. -/
def oversizedResponse : Response :=
  { status := 413
    contentType := some "text/plain; charset=utf-8"
    body := "Failed to buffer the request body: length limit exceeded" }

/-- The answer to a conversion request. -/
def boundedConversionResponse (request : Request) : Response :=
  if request.body.length ≤ bodyLimit then conversionResponse request else oversizedResponse

end DiagramGraph.Service
