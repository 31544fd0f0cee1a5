import CommandRelay.Fault
import CommandRelay.Json.Canonical

/-!
# Message envelopes

The wrapper in which every message travels, on the external broker and on the internal bus alike.
The payload is opaque octets.  Query parameters are a mapping from names to arbitrary JSON values,
kept in the order of the names.
-/

namespace CommandRelay

/-- Query parameters: the fields of a canonical object. -/
structure Params where
  fields : List (String × Json)
  canonical : Json.Canonical (.object fields)
  deriving DecidableEq

namespace Params

/-- No parameters. -/
def empty : Params := ⟨[], List.Pairwise.nil, trivial⟩

instance : Inhabited Params := ⟨empty⟩

/-- The value of a parameter. -/
def get? (p : Params) (name : String) : Option Json := Json.field? p.fields name

/-- The value of a parameter that is a text. -/
def text? (p : Params) (name : String) : Option String := (p.get? name).bind Json.asText?

/-- The parameters that a document spells: its fields if it is an object, none if it is null. -/
def ofDocument? (d : Json.Document) : Option Params :=
  match d with
  | .null => some empty
  | .object fields =>
    match h : (Json.Document.object fields).value? with
    | some (.object fs) => some ⟨fs, Json.canonical_of_value? _ h⟩
    | _ => none
  | _ => none

end Params

/-- A message: a request, a response or a report of a fault. -/
structure Envelope where
  apiVersion : String := ""
  receivedTopic : String := ""
  correlationId : String := ""
  requestId : String := ""
  errorCode : Int32 := 0
  payload : List UInt8 := []
  contentType : String := ""
  queryParams : Params := Params.empty
  deriving DecidableEq, Inhabited

namespace Envelope

/-- The version that every envelope made here carries. -/
def currentVersion : String := "v3"

/-- The content type of JSON payloads. -/
def jsonContent : String := "application/json"

/-- The content type of plain text payloads. -/
def textContent : String := "text/plain"

/-- The error code of a message that reports a fault. -/
def failedCode : Int32 := 1

/-- A successful response to a request. -/
def response (request : Envelope) (payload : List UInt8) (contentType : String) : Envelope :=
  { apiVersion := currentVersion
    correlationId := request.correlationId
    requestId := request.requestId
    payload
    contentType }

/-- A report of a fault under the given IDs. -/
def failure (requestId correlationId message : String) : Envelope :=
  { apiVersion := currentVersion
    correlationId
    requestId
    errorCode := failedCode
    payload := Utf8.encode message
    contentType := textContent }

/-- A report of a fault to whoever sent a request. -/
def failureOf (request : Envelope) (message : String) : Envelope :=
  failure request.requestId request.correlationId message

/-- Whether the envelope reports a fault. -/
def isFailure (e : Envelope) : Bool := e.errorCode == failedCode

/-- The payload as text; octets that are not UTF-8 become replacement characters. -/
def payloadText (e : Envelope) : String := Utf8.decodeLossy e.payload

end Envelope

end CommandRelay
