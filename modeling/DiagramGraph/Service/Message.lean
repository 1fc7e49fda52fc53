import DiagramGraph.Text.Casing
import DiagramGraph.Text.Utf8

/-!
# Requests and responses

A request has a method, a target, headers and a body. Header names do not
depend on case, and of several headers with one name the first counts. A header
value is bytes; it is readable as text only if all of them are visible ASCII
characters, blanks or tabs.
-/

namespace DiagramGraph.Service

open DiagramGraph.Text

/-- A header as it is sent. -/
structure Header where
  name : String
  value : List UInt8
  deriving DecidableEq, Repr

/-- A request as it is sent. -/
structure Request where
  method : String
  target : String
  headers : List Header := []
  body : List UInt8 := []
  deriving DecidableEq, Repr

/-- A response. -/
structure Response where
  status : Nat
  contentType : Option String := none
  allow : Option String := none
  body : String := ""
  deriving DecidableEq, Repr

/-! ## Well-formed requests -/

/-- Whether a character may stand in a method or in the name of a header. -/
def isTokenChar (char : Char) : Bool :=
  char.isAlphanum || "!#$%&'*+-.^_\x60|~".toList.contains char

/-- Whether a text is a method or the name of a header. -/
def isToken (text : String) : Bool :=
  text.toList != [] && text.toList.all isTokenChar

/-- Whether a byte may be sent in a header value at all. -/
def isSendable (byte : UInt8) : Bool :=
  (0x20 ≤ byte.toNat && byte.toNat != 0x7f) || byte.toNat == 0x09

/-- Whether a byte of a header value is readable as text. -/
def isReadable (byte : UInt8) : Bool :=
  (0x20 ≤ byte.toNat && byte.toNat < 0x7f) || byte.toNat == 0x09

/-- Whether a header can be sent. -/
def Header.isWellFormed (header : Header) : Bool :=
  isToken header.name && header.value.all isSendable

/-! ## Headers -/

/-- The value of the first header with a name, which is given in lower case. -/
def Request.header? (request : Request) (name : String) : Option (List UInt8) :=
  (request.headers.find? fun header => asciiLower header.name.toList == name.toList).map
    Header.value

/-- The text of a header value. -/
def headerText? (value : List UInt8) : Option String :=
  if value.all isReadable then
    some (String.ofList (value.map fun byte => Char.ofNat byte.toNat))
  else none

end DiagramGraph.Service
