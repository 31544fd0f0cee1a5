import CommandRelay.Config.Store
import CommandRelay.Daemon.Drive
import CommandRelay.Mqtt.Options
import CommandRelay.Relay.Session

/-!
# The running daemon

The daemon drives two links, each with a client of its own: the handlers publish through the
external one, the internal bus lives on the other.  Each link tries to connect to its broker; a
broker that can not be reached fails at once, one that can be reached may take its time to answer.
Once shutdown is signalled both drives stop and their links are gone; only then are the clients
asked to disconnect.
-/

namespace CommandRelay.Daemon

open Relay

/-- The number of packets that wait for a link at most. -/
def queueCapacity : Nat := 64

/-- How long a broker may take to answer. -/
def connectTimeout : Duration := .ofMillis 5000

/-- The connection below a drive. -/
inductive Wire where
  /-- The broker has not answered; the attempt ends at the deadline. -/
  | connecting (deadline : Instant)
  | connected
  /-- There is none until the pause is over. -/
  | down (resume : Instant)
  | gone
  deriving DecidableEq, Repr

/-- A link: its drive, its connection, its options, and what the broker received in this step. -/
structure Link where
  options : Mqtt.Options
  drive : Drive := .polling
  wire : Wire := .gone
  received : List Mqtt.Packet := []
  /-- Whether the daemon closed the connection in this step. -/
  hungUp : Bool := false
  /-- What became of the request to disconnect. -/
  farewell : Option Mqtt.Sending := none

/-- How the daemon stands. -/
inductive Standing where
  | running
  | finished
  | over

/-- The daemon. -/
structure State where
  world : World
  external : Link
  internal : Link
  /-- Whether the brokers can be reached. -/
  reachable : Bool
  /-- Whether shutdown can still be signalled. -/
  armed : Bool := true
  standing : Standing := .running

namespace State

/-- A link of the daemon. -/
def link (s : State) : LinkId → Link
  | .external => s.external
  | .internal => s.internal

/-- The daemon with a link replaced. -/
def setLink (s : State) (id : LinkId) (l : Link) : State :=
  match id with
  | .external => { s with external := l }
  | .internal => { s with internal := l }

/-- The link of the internal bus takes what is queued. -/
def takeInternal (s : State) : List Mqtt.Packet × State :=
  let (packets, world) := s.world.drainInternal
  (packets, { s with world })

/-- The external link takes what is queued. -/
def takeExternal (s : State) : List Mqtt.Packet × State :=
  let (packets, world) := s.world.drainExternal
  (packets, { s with world })

/-- An open link sends what is queued. -/
def flush (s : State) (id : LinkId) : State :=
  if (s.link id).wire = .connected then
    let (packets, s) := match id with
      | .external => s.takeExternal
      | .internal => s.takeInternal
    let l := s.link id
    s.setLink id { l with received := l.received ++ packets }
  else s

/-- Logs an event. -/
def log (s : State) (e : Event) : State :=
  { s with world := { s.world with log := s.world.log ++ [e] } }

/-- What the log says where the client of the bus refuses to subscribe to the responses. -/
def refusedResponses (bus : Mqtt.Bus) : Event :=
  .failed "could not subscribe to internal response topic"
    [("error", .fault (.notSubscribed bus.responseFilter Mqtt.refusal))]

/-- Subscribes on a new connection.  The link has sent what was queued before, so there is room for
the subscription to the responses: it never waits. -/
def subscribe (s : State) : LinkId → State
  | .external =>
    let (_, world) := s.world.launch (Relay.connect s.world.settings)
    { s with world := world.settle }
  | .internal =>
    match s.world.bus with
    | .link bus =>
      let (sending, client) := bus.client.offer bus.subscription
      let s := { s with world := { s.world with bus := .link { bus with client } } }
      if sending = .refused then s.log (refusedResponses bus) else s
    | .process _ | .broken _ => s

/-- Forwards a message. -/
def forward (s : State) (topic : String) (payload : List UInt8) : LinkId → State
  | .external =>
    let (_, world) := s.world.launch (Relay.dispatch s.world.settings topic payload)
    { s with world := world.settle }
  | .internal =>
    let (_, world) := s.world.incoming topic payload
    { s with world := world.settle }

/-- Does what a drive says. -/
def obey (s : State) (id : LinkId) : Action → State
  | .subscribe => (s.flush id).subscribe id
  | .forward topic payload => s.forward topic payload id
  | .log e => s.log e

/-- Hands a signal to the drive of a link. -/
def signal (s : State) (id : LinkId) (g : Signal) : State :=
  let l := s.link id
  let (actions, drive) := l.drive.step id g
  actions.foldl (fun s a => s.obey id a) (s.setLink id { l with drive })

/-- Sets the connection of a link. -/
def setWire (s : State) (id : LinkId) (w : Wire) : State :=
  s.setLink id { s.link id with wire := w }

/-- The connection of a link is lost, or was never made. -/
def lose (s : State) (id : LinkId) : State :=
  (s.signal id (.polled .failed)).setWire id (.down (s.world.now + reconnectPause.nanos))

/-- A link tries to connect. -/
def connect (s : State) (id : LinkId) : State :=
  if s.reachable then s.setWire id (.connecting (s.world.now + connectTimeout.nanos))
  else s.lose id

/-- What a link does when its deadline has come. -/
def wake (s : State) (id : LinkId) : State :=
  match (s.link id).wire with
  | .connecting deadline => if deadline ≤ s.world.now then s.lose id else s
  | .down pause =>
    if pause ≤ s.world.now then (s.signal id .pauseOver).connect id else s
  | .connected | .gone => s

/-- Lets open links send what is queued. -/
def flushAll (s : State) : State := (s.flush .external).flush .internal

/-- Lets the clock jump by a duration at once.  A link whose deadline was passed on the way acts
only then, and a new pause counts from there. -/
def advance (s : State) (d : Duration) : State :=
  let s := { s with world := s.world.advance d }
  ((s.wake .external).wake .internal).flushAll

/-- The event loop of a link is gone, and its client is closed. -/
def release (s : State) (id : LinkId) : State :=
  let s := s.signal id .shutdown
  let l := s.link id
  let s := s.setLink id { l with wire := .gone, hungUp := l.wire = .connected }
  match id with
  | .external =>
    match s.world.broker with
    | .link client => { s with world := { s.world with broker := .link client.close.2 } }
    | .recording _ _ => s
  | .internal =>
    match s.world.bus with
    | .link bus => { s with world := { s.world with bus := .link bus.close.2 } }
    | .process _ | .broken _ => s

/-- Asks a client to take the request to disconnect. -/
def offerDisconnect (s : State) : LinkId → Mqtt.Sending × State
  | .external =>
    match s.world.broker with
    | .link client =>
      let (sending, client) := client.offer .disconnect
      (sending, { s with world := { s.world with broker := .link client } })
    | .recording _ _ => (.refused, s)
  | .internal =>
    match s.world.bus with
    | .link bus =>
      let (sending, client) := bus.client.offer .disconnect
      (sending, { s with world := { s.world with bus := .link { bus with client } } })
    | .process _ | .broken _ => (.refused, s)

/-- Asks a client to disconnect; nothing depends on whether it was taken. -/
def disconnect (s : State) (id : LinkId) : State :=
  let (sending, s) := s.offerDisconnect id
  s.setLink id { s.link id with farewell := some sending }

/-- Shuts down: both drives stop, and then both clients are asked to disconnect. -/
def stop (s : State) : State :=
  let s := (s.release .internal).release .external
  { (s.disconnect .external).disconnect .internal with standing := .finished }

/-- The daemon at its start, before it has connected. -/
def initial (c : Config) (responsePrefix : String) (reachable : Bool) (fresh : Nat → String)
    (wording : Wording) : State :=
  let bus : Mqtt.Bus :=
    { client := { capacity := queueCapacity }, responsePrefix, qos := c.internal.qos }
  let world :=
    World.start { c.settings with wording } c.devices (.link { capacity := queueCapacity })
    (.link bus) [] fresh
  { world := { world with made := 2 }
    internal := { options := .of c.internal.connection "cmdbridge-internal" (fresh 0) }
    external := { options := .of c.external.connection "cmdbridge-external" (fresh 1) }
    reachable }

/-- Starts the daemon; without a prefix for responses it fails at once. -/
def start (c : Config) (reachable : Bool) (fresh : Nat → String) (wording : Wording := {}) :
    Except Fault State :=
  match c.settings.topic? .internal Keys.commandResponse with
  | none => .error .missingResponsePrefix
  | some base =>
    .ok (((initial c base reachable fresh wording).connect .internal).connect .external)

end State

/-- A step of a run. -/
inductive Step where
  /-- The broker of a link answers the connection attempt, with zero to accept it. -/
  | answer (link : LinkId) (code : Nat)
  /-- The broker of a link delivers a message. -/
  | deliver (link : LinkId) (topic : String) (payload : List UInt8)
  /-- The broker of a link closes the connection. -/
  | hangUp (link : LinkId)
  | advance (d : Duration)
  | shutdown
  /-- Whoever could signal shutdown goes away. -/
  | disarm

namespace State

/-- Makes a step of a running daemon; an answered connection attempt shows the options. -/
def act (s : State) : Step → Option Mqtt.Options × State
  | .answer id code =>
    match (s.link id).wire with
    | .connecting _ =>
      let options := (s.link id).options
      if code = 0 then
        let s := (s.setWire id .connected).signal id (.polled .accepted)
        (some options, s.flushAll)
      else (some options, s.lose id)
    | .connected | .down _ | .gone => (none, s)
  | .deliver id topic payload =>
    if (s.link id).wire = .connected then
      (none, (s.signal id (.polled (.message topic payload))).flushAll)
    else (none, s)
  | .hangUp id => (none, if (s.link id).wire = .connected then s.lose id else s)
  | .advance d => (none, s.advance d)
  | .shutdown => (none, if s.armed then s.stop else s)
  | .disarm =>
    (none, { (s.signal .external .abandoned).signal .internal .abandoned with armed := false })

/-- Forgets what the last step brought about. -/
def clear (s : State) : State :=
  { s with
    world := { s.world with log := [] }
    external := { s.external with received := [], hungUp := false }
    internal := { s.internal with received := [], hungUp := false } }

/-- Makes a step.  A daemon that has returned does nothing more. -/
def step (s : State) (a : Step) : Option Mqtt.Options × State :=
  match s.standing with
  | .running => s.clear.act a
  | .finished | .over => (none, { s.clear with standing := .over })

end State

end CommandRelay.Daemon
