import CommandRelay.Relay.World

/-!
# Sessions of a relay

A session is a sequence of steps: messages for the handlers, alone or several at once, responses
that arrive on the internal link, and the clock.  A step with messages ends when their handlers
have returned, unless they are left to run in the background.
-/

namespace CommandRelay.Relay

/-- What a handler is asked to do. -/
inductive Message where
  | connect
  | dispatch (topic : String) (payload : List UInt8)
  | query (topic : String) (payload : List UInt8)
  | command (topic : String) (payload : List UInt8)

/-- The program that handles a message. -/
def Message.program (s : Settings) : Message → Program Unit
  | .connect => Relay.connect s
  | .dispatch topic payload => Relay.dispatch s topic payload
  | .query topic payload => handleQuery s topic payload
  | .command topic payload => handleCommand s topic payload

/-- A step of a session. -/
inductive Step where
  | messages (ms : List Message) (background : Bool)
  | advance (d : Duration)
  /-- A message arrives on the internal link. -/
  | incoming (topic : String) (payload : List UInt8)

/-- What a step brought about. -/
structure Outcome where
  external : List Sent
  /-- What the internal link took, if the bus has one. -/
  internal : Option (List Mqtt.Packet)
  log : List Event
  /-- The number of requests in flight on a bus without a link. -/
  inFlight : Option Nat
  notes : List (Nat × Note)
  /-- Whether an incoming message completed a request. -/
  accepted : Option Bool

namespace World

/-- A relay at rest, with its services subscribed. -/
def start (settings : Settings) (devices : Catalogue) (broker : Broker) (bus : InternalBus)
    (services : List Service) (fresh : Nat → String) : World :=
  let bus := match bus with
    | .process b =>
      .process (services.zipIdx.foldl (fun b (s, i) => b.subscribe i s.base) b)
    | other => other
  { settings, devices, broker, bus, services, fresh }

/-- Hands messages to new handlers. -/
def launchAll (w : World) : List Message → List CallId × World
  | [] => ([], w)
  | m :: ms =>
    let (call, w) := w.launch (m.program w.settings)
    let (calls, w) := w.launchAll ms
    (call :: calls, w)

/-- Takes a message that arrived on the internal link. -/
def incoming (w : World) (topic : String) (payload : List UInt8) : Bool × World :=
  match w.bus with
  | .process _ | .broken _ => (false, w)
  | .link b =>
    let waiter := (Envelope.ofWire? payload).bind fun e => b.desk.waiter? e.requestId
    let (taken, log, b) := b.incoming w.settings.wording (w.fresh w.made) topic payload
    let w := { w with bus := .link b, made := w.made + 1, log := w.log ++ log }
    match waiter, taken with
    | some v, true => (true, w.enqueue (.wake v.caller))
    | _, taken => (taken, w)

/-- Makes one step. -/
def act (w : World) : Step → Option Bool × World
  | .messages ms background =>
    let (calls, w) := w.launchAll ms
    let w := w.settle
    (none, if background then w else w.await calls)
  | .advance d => (none, w.advance d)
  | .incoming topic payload =>
    let (taken, w) := w.incoming topic payload
    (some taken, w.settle)

/-- Makes one step; tells what it brought about. -/
def step (w : World) (a : Step) : Outcome × World :=
  let (accepted, w) := act { w with sent := [], log := [], notes := [] } a
  let (external, w) := w.drainExternal
  let (internal, w) := w.drainInternal
  let sent := w.sent ++ external.map fun packet => { packet, refused := false }
  ({ external := sent
     internal := match w.bus with
       | .link _ => some internal
       | .process _ | .broken _ => none
     log := w.log
     inFlight := match w.bus with
       | .process b => some b.inFlight
       | .link _ | .broken _ => none
     notes := w.notes
     accepted }, w)

end World

end CommandRelay.Relay
