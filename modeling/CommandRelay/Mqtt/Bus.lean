import CommandRelay.Correlation.Desk
import CommandRelay.Event
import CommandRelay.Mqtt.Client
import CommandRelay.Topic.Filter
import CommandRelay.Bus.Local

/-!
# The bus over a broker link

A request is registered and published on its topic; services answer on topics below the response
prefix.  A request that finds the queue of the client full waits for room first: only then does its
timeout begin.
-/

namespace CommandRelay.Mqtt

/-- A request that waits for room: its call, where it goes, and its timeout. -/
structure Sender where
  call : CallId
  service : String
  topic : String
  timeout : Duration
  deriving DecidableEq, Repr

/-- The bus. -/
structure Bus where
  client : Client Sender
  responsePrefix : String
  qos : Qos := .atMostOnce
  desk : Correlation.Desk := {}

namespace Bus

/-- The filter of the topics on which responses arrive. -/
def responseFilter (b : Bus) : String := Topic.join [b.responsePrefix, "#"]

/-- Subscribes to the responses. -/
def subscription (b : Bus) : Packet := .subscribe b.responseFilter b.qos

/-- The packet of a request. -/
def requestPacket (b : Bus) (r : CommandRelay.Bus.Request) : Packet :=
  .publish r.topic { qos := b.qos, retain := false } r.envelope.toWire

/-- Starts a request.  A result at once is a refusal. -/
def request (b : Bus) (call : CallId) (r : CommandRelay.Bus.Request) (timeout : Duration)
    (now : Instant) : Except Fault Unit × Bus :=
  match b.desk.register call r.envelope.requestId with
  | (.error f, desk) => (.error f, { b with desk })
  | (.ok (), desk) =>
    let sender : Sender := { call, service := r.service, topic := r.topic, timeout }
    match b.client.send sender (b.requestPacket r) with
    | (.sent, client) => (.ok (), { b with client, desk := desk.await call timeout now })
    | (.blocked, client) => (.ok (), { b with client, desk })
    | (.refused, client) =>
      (.error (.notSent r.service r.topic refusal), { b with client, desk := desk.drop call })

/-- A request has found room: its wait begins. -/
def begin (b : Bus) (now : Instant) (s : Sender) : Bus :=
  { b with desk := b.desk.await s.call s.timeout now }

/-- The link takes all packets. -/
def drain (b : Bus) (now : Instant) : List Packet × Bus :=
  let (packets, senders, client) := b.client.drain
  (packets, senders.foldl (fun b s => b.begin now s) { b with client })

/-- The link takes one packet. -/
def take? (b : Bus) (now : Instant) : Option (Packet × Bus) :=
  b.client.take?.map fun (p, sender, client) =>
    (p, sender.toList.foldl (fun b s => b.begin now s) { b with client })

/-- The link goes away: requests that waited for room fail. -/
def close (b : Bus) : List (CallId × CallResult) × Bus :=
  let (senders, client) := b.client.close
  (senders.map fun s => (s.call, .error (.notSent s.service s.topic refusal)),
    { b with client, desk := senders.foldl (fun d s => d.drop s.call) b.desk })

/-- Gives up a request. -/
def cancel (b : Bus) (call : CallId) : Bus :=
  { b with client := b.client.withdraw (·.call != call), desk := b.desk.drop call }

/-- Takes a message that arrived on the link; tells whether it completed a request.  `fresh` is the
correlation ID it gets if it has none. -/
def incoming (b : Bus) (words : Wording) (fresh : String) (topic : String)
    (payload : List UInt8) : Bool × List Event × Bus :=
  if !Topic.accepts b.responseFilter topic then (false, [], b)
  else match Envelope.receive fresh payload words with
    | .ok response =>
      let (taken, desk) := b.desk.complete response
      (taken, [], { b with desk })
    | .error f =>
      (false, [.warning "dropping undecodable internal response"
        [("topic", .text topic), ("error", .fault f)]], b)

/-- Ends the waits that end by an instant. -/
def settle (b : Bus) (now : Instant) : List (CallId × CallResult) × Bus :=
  let (ended, desk) := b.desk.settle now
  (ended, { b with desk })

end Bus

end CommandRelay.Mqtt
