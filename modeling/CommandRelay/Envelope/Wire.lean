import CommandRelay.Envelope.Basic
import CommandRelay.Text.Base64
import CommandRelay.Wording

/-!
# Envelopes on the wire

An envelope is written as a JSON object with its eight fields in a fixed order, the payload in
Base64 and empty query parameters left out.  It is read from an object in which each known field
occurs at most once, every other field being ignored, or from an array that holds the fields in
their order and may stop early.  A missing field has its default.  Only the payload and the query
parameters may be null.  An envelope without a correlation ID gets a fresh one when it is received.
-/

namespace CommandRelay.Envelope

/-- The fields of an envelope, in their order. -/
inductive Field where
  | apiVersion | receivedTopic | correlationId | requestId | errorCode | payload | contentType
  | queryParams
  deriving DecidableEq, Repr

namespace Field

/-- All fields, in their order. -/
def all : List Field :=
  [apiVersion, receivedTopic, correlationId, requestId, errorCode, payload, contentType,
   queryParams]

/-- The name of a field on the wire. -/
def name : Field → String
  | apiVersion => "apiVersion"
  | receivedTopic => "receivedTopic"
  | correlationId => "correlationID"
  | requestId => "requestID"
  | errorCode => "errorCode"
  | payload => "payload"
  | contentType => "contentType"
  | queryParams => "queryParams"

/-- The field with a name. -/
def ofName? (s : String) : Option Field := all.find? (·.name == s)

end Field

/-! ## Writing -/

/-- The value of a field as JSON. -/
def fieldJson (e : Envelope) : Field → Json
  | .apiVersion => .text e.apiVersion
  | .receivedTopic => .text e.receivedTopic
  | .correlationId => .text e.correlationId
  | .requestId => .text e.requestId
  | .errorCode => .ofInt e.errorCode.toInt
  | .payload => .text (Base64.encodeText e.payload)
  | .contentType => .text e.contentType
  | .queryParams => .object e.queryParams.fields

/-- The fields that are written: all, but no empty query parameters. -/
def writtenFields (e : Envelope) : List Field :=
  Field.all.filter fun f => f ≠ .queryParams || !e.queryParams.fields.isEmpty

/-- An envelope as JSON. -/
def toJson (e : Envelope) : Json :=
  .object (e.writtenFields.map fun f => (f.name, e.fieldJson f))

/-- The octets of an envelope on the wire. -/
def toWire (e : Envelope) : List UInt8 := e.toJson.toOctets

/-! ## Reading -/

/-- The text that a document spells. -/
def textOf? : Json.Document → Option String
  | .text units => Json.unitText? units
  | _ => none

/-- The 32-bit integer that a document spells. -/
def codeOf? : Json.Document → Option Int32
  | .number n =>
    match n.number? with
    | some (.int k) => if -0x80000000 ≤ k ∧ k < 0x80000000 then some (Int32.ofInt k) else none
    | _ => none
  | _ => none

/-- The octets that a document spells in Base64; null spells none. -/
def payloadOf? : Json.Document → Option (List UInt8)
  | .null => some []
  | .text units => (Json.unitText? units).bind Base64.decodeText?
  | _ => none

/-- The query parameters that a document spells, which is nested in the envelope. -/
def paramsOf? (d : Json.Document) : Option Params :=
  if d.depth < Json.maxDepth then Params.ofDocument? d else none

/-- An envelope with one field read from a document. -/
def readField? (e : Envelope) (f : Field) (d : Json.Document) : Option Envelope :=
  match f with
  | .apiVersion => (textOf? d).map fun s => { e with apiVersion := s }
  | .receivedTopic => (textOf? d).map fun s => { e with receivedTopic := s }
  | .correlationId => (textOf? d).map fun s => { e with correlationId := s }
  | .requestId => (textOf? d).map fun s => { e with requestId := s }
  | .errorCode => (codeOf? d).map fun n => { e with errorCode := n }
  | .payload => (payloadOf? d).map fun bs => { e with payload := bs }
  | .contentType => (textOf? d).map fun s => { e with contentType := s }
  | .queryParams => (paramsOf? d).map fun p => { e with queryParams := p }

/-- Reads the fields of an object; those in `seen` must not come again. -/
def readFields? (seen : List Field) (e : Envelope) :
    List (List Json.TextUnit × Json.Document) → Option Envelope
  | [] => some e
  | (units, d) :: rest => do
    let name ← Json.unitText? units
    match Field.ofName? name with
    | none => readFields? seen e rest
    | some f =>
      if f ∈ seen then none
      else
        let e ← e.readField? f d
        readFields? (f :: seen) e rest

/-- Reads the items of an array into the given fields, one each. -/
def readItems? (e : Envelope) : List Field → List Json.Document → Option Envelope
  | _, [] => some e
  | [], _ :: _ => none
  | f :: fs, d :: ds => do
    let e ← e.readField? f d
    readItems? e fs ds

/-- The envelope that a document spells. -/
def ofDocument? : Json.Document → Option Envelope
  | .object fields => readFields? [] {} fields
  | .list items => readItems? {} Field.all items
  | _ => none

/-- The envelope that octets spell, as it is: a missing correlation ID stays missing. -/
def ofWire? (bs : List UInt8) : Option Envelope :=
  (Json.Document.ofOctets? bs).bind ofDocument?

/-- An envelope with `fresh` for its correlation ID if it has none. -/
def correlated (fresh : String) (e : Envelope) : Envelope :=
  if e.correlationId = "" then { e with correlationId := fresh } else e

/-- Receives an envelope; `fresh` is the correlation ID it gets if it has none. -/
def receive (fresh : String) (bs : List UInt8) (words : Wording := {}) : Except Fault Envelope :=
  match ofWire? bs with
  | some e => .ok (e.correlated fresh)
  | none => .error (.undecodable (words.envelope bs))

end CommandRelay.Envelope
