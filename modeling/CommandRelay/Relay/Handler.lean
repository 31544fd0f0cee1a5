import CommandRelay.Envelope.Check
import CommandRelay.Envelope.Wire
import CommandRelay.Relay.Program
import CommandRelay.Relay.Settings
import CommandRelay.Topic.Address
import CommandRelay.Topic.Filter

/-!
# Handlers

A message from the external broker is a command or a query.  Either is answered exactly once, on the
topic that its kind gives it, with the response or with a report of the first fault.  A message that
can not be answered is reported on the fallback topic, if there is one.
-/

namespace CommandRelay.Relay

/-- Publishes an envelope to the external broker and logs what went wrong. -/
def deliver (s : Settings) (topic : String) (envelope : Envelope) : Program Unit := do
  if envelope.isFailure then
    Program.log (.failed envelope.payloadText [("request_id", .text envelope.requestId)])
  match ← Program.once (.publish topic s.delivery envelope.toWire) with
  | .ok () => return ()
  | .error f =>
    Program.log (.failed "Could not publish to external message broker"
      [("topic", .text topic), ("error", .fault f)])

/-- The report of a fault to whoever sent a request, if the request is known. -/
def report (request : Option Envelope) (f : Fault) : Envelope :=
  match request with
  | some r => r.failureOf f.message
  | none => .failure "" "" f.message

/-- Reports a fault of a message that has no topic to answer on. -/
def unanswerable (s : Settings) (request : Option Envelope) (f : Fault) : Program Unit :=
  match s.fallback? with
  | none =>
    Program.log (.warning
      "Not publishing error message back due to insufficient information on response topic" [])
  | some topic => do
    Program.log (.warning "Reporting unanswerable request on fallback topic"
      [("fallback_topic", .text topic)])
    deliver s topic (report request f)

/-- Logs why a message can not be answered, and reports it. -/
def giveUp (s : Settings) (message : String) (request : Option Envelope) (f : Fault) :
    Program Unit := do
  Program.log (.failed message [("error", .fault f)])
  unanswerable s request f

/-- Receives an envelope and goes on with it, or gives up. -/
def receiving (s : Settings) (payload : List UInt8) (k : Envelope → Program Unit) :
    Program Unit := do
  let fresh ← Program.once .fresh
  match Envelope.receive fresh payload s.wording with
  | .ok request => k request
  | .error f => giveUp s "Failed to decode request MessageEnvelope" none f

/-- Answers a query. -/
def handleQuery (s : Settings) (topic : String) (payload : List UInt8) : Program Unit :=
  receiving s payload fun request => do
    match s.topic? .external Keys.queryResponse with
    | none =>
      giveUp s "Query response topic is unknown" (some request)
        (.missingTopic Keys.queryResponse .external)
    | some responseTopic =>
      match ← Program.once (.query request (Topic.queriedDevice topic)) with
      | .ok response => deliver s responseTopic response
      | .error f => deliver s responseTopic (request.failureOf f.message)

/-- Has a command executed: its method is looked at first, then the internal topics, its route and
its parameters, and at last the request is made on the internal bus. -/
def execute (s : Settings) (request : Envelope) (a : Topic.Address) :
    Program (Except Fault Envelope) :=
  match Method.parse a.method with
  | .error f => return .error f
  | .ok method =>
    match s.topic? .internal Keys.deviceRequest with
    | none => return .error (.missingTopic Keys.deviceRequest .internal)
    | some base => do
      match ← Program.once (.resolve base a.device a.command method) with
      | .error f => return .error f
      | .ok route =>
        match request.queryParams.check method with
        | .error f => return .error f
        | .ok () =>
          let r : Bus.Request :=
            { service := route.service, topic := route.topic, envelope := request }
          match ← Program.once (.request r s.requestTimeout) with
          | .ok response => return .ok response
          | .error f => return .error (.commandFailed f)

/-- Answers a command. -/
def handleCommand (s : Settings) (topic : String) (payload : List UInt8) : Program Unit :=
  receiving s payload fun request => do
    match Topic.address topic with
    | .error f =>
      giveUp s "Failed to parse and construct response topic scheme" (some request) f
    | .ok a =>
      match s.topic? .external Keys.commandResponse with
      | none =>
        giveUp s "Command response topic prefix is unknown" (some request)
          (.missingTopic Keys.commandResponse .external)
      | some base =>
        match ← execute s request a with
        | .ok response => deliver s (Topic.reply base a) response
        | .error f => deliver s (Topic.reply base a) (request.failureOf f.message)

/-- Whether a topic is matched by the filter under a key. -/
def wants (s : Settings) (key topic : String) : Bool :=
  match s.topic? .external key with
  | some filter => Topic.accepts filter topic
  | none => false

/-- Hands a message to the handler whose filter matches its topic; queries come first. -/
def dispatch (s : Settings) (topic : String) (payload : List UInt8) : Program Unit :=
  if wants s Keys.queryRequest topic then handleQuery s topic payload
  else if wants s Keys.commandRequest topic then handleCommand s topic payload
  else return ()

/-- Subscribes to the requests under one key. -/
def subscribeTo (s : Settings) (key : String) : Program Unit :=
  match s.topic? .external key with
  | none =>
    Program.log (.failed "request topic not provided in external topics, not subscribing"
      [("key", .text key)])
  | some filter => do
    match ← Program.once (.subscribe filter s.delivery.qos) with
    | .ok () => return ()
    | .error f =>
      Program.log (.failed "could not subscribe to topic"
        [("topic", .text filter), ("error", .fault f)])

/-- Subscribes to all requests, queries first. -/
def connect (s : Settings) : Program Unit := do
  subscribeTo s Keys.queryRequest
  subscribeTo s Keys.commandRequest

end CommandRelay.Relay
