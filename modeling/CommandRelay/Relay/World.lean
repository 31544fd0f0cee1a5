import CommandRelay.Catalogue.Listing
import CommandRelay.Mqtt.Bus
import CommandRelay.Relay.Handler

/-!
# A relay among its collaborators

Handlers run against an external broker, an internal bus and scripted device services, on a clock
that moves only when it is told to.  What can run waits in one queue and runs in turn, each until
it has to wait itself.  Services note every request they receive and answer by their scripts;
scripts and timeouts wake up by timers, which fire in the order of their deadlines, equal ones in
the order in which they were set.
-/

namespace CommandRelay.Relay

/-- A packet that an external broker got to see. -/
structure Sent where
  packet : Mqtt.Packet
  refused : Bool
  deriving DecidableEq, Repr

/-- The external broker. -/
inductive Broker where
  /-- A broker that notes what it gets; it may refuse all messages, and some subscriptions. -/
  | recording (refusesMessages : Bool) (refusedFilters : List String)
  /-- A broker behind the client of a link. -/
  | link (client : Mqtt.Client CallId)

/-- The internal bus. -/
inductive InternalBus where
  | process (bus : Bus.LocalBus)
  | link (bus : Mqtt.Bus)
  /-- A bus on which every request fails. -/
  | broken (f : Fault)

namespace InternalBus

/-- The correlation desk of a bus. -/
def desk : InternalBus → Correlation.Desk
  | .process b => b.desk
  | .link b => b.desk
  | .broken _ => {}

/-- A bus with another state of its desk. -/
def withDesk (b : InternalBus) (desk : Correlation.Desk) : InternalBus :=
  match b with
  | .process b => .process { b with desk }
  | .link b => .link { b with desk }
  | .broken f => .broken f

end InternalBus

/-- One reply of a scripted service: a pause, if any, and what the reply is made of the request. -/
structure Reply where
  pause : Option Duration
  edit : Envelope → Envelope

/-- A scripted service: the topics it listens to and its replies to each request. -/
structure Service where
  base : String
  replies : List Reply

/-- What a service notes. -/
inductive Note where
  | request (r : Bus.Request)
  /-- A reply was made; it may have found nobody waiting. -/
  | reply (delivered : Bool)

/-- A script in progress. -/
structure Script where
  number : Nat
  service : Nat
  request : Envelope
  rest : List Reply

/-- Something that can run. -/
inductive Job where
  /-- A handler that has not started. -/
  | start (call : CallId)
  /-- A handler whose request may have ended. -/
  | wake (call : CallId)
  /-- All services look for requests. -/
  | services
  /-- A script that does not pause. -/
  | script (number : Nat)
  deriving DecidableEq, Repr

/-- A job that becomes ready at an instant. -/
structure Timer where
  deadline : Instant
  job : Job
  deriving DecidableEq, Repr

/-- Everything there is. -/
structure World where
  settings : Settings
  devices : Catalogue
  broker : Broker
  bus : InternalBus
  services : List Service
  /-- The correlation IDs that are made up. -/
  fresh : Nat → String
  now : Instant := 0
  queue : List Job := []
  timers : List Timer := []
  /-- Handlers that have not started. -/
  starting : List (CallId × Program Unit) := []
  /-- Handlers that wait for the internal bus. -/
  requesting : List (CallId × (CallResult → Program Unit)) := []
  /-- Handlers that wait for room in the queue of the external link. -/
  publishing : List (CallId × (Except Fault Unit → Program Unit)) := []
  scripts : List Script := []
  /-- How many correlation IDs were made up. -/
  made : Nat := 0
  nextNumber : Nat := 0
  sent : List Sent := []
  log : List Event := []
  /-- What the services noted, each under the number of its service. -/
  notes : List (Nat × Note) := []

namespace World

/-- Puts a job at the end of the queue, unless it is there already. -/
def enqueue (w : World) (j : Job) : World :=
  if j ∈ w.queue then w else { w with queue := w.queue ++ [j] }

/-- Sets a timer. -/
def setTimer (w : World) (deadline : Instant) (job : Job) : World :=
  { w with timers := w.timers ++ [{ deadline, job }] }

/-- Sets the timers of the waits that have begun since. -/
def setWaitTimers (w : World) : World :=
  w.bus.desk.guards.foldl (fun w g =>
    match g.wait with
    | some wait =>
      if w.timers.any (·.job == .wake g.caller) then w
      else w.setTimer wait.deadline (.wake g.caller)
    | none => w) w

/-- A refusal of the recording broker. -/
def refusedMessage (topic : String) : Fault := .notPublished topic "broker unavailable"

/-- A refusal of a subscription by the recording broker. -/
def refusedSubscription : Fault := .reported .transport "subscription refused"

/-- Hands a message to the external broker; no answer means that it waits for room. -/
def publish (w : World) (call : CallId) (topic : String) (delivery : Delivery)
    (payload : List UInt8) : Option (Except Fault Unit) × World :=
  let packet : Mqtt.Packet := .publish topic delivery payload
  match w.broker with
  | .recording refused _ =>
    (some (if refused then .error (refusedMessage topic) else .ok ()),
      { w with sent := w.sent ++ [{ packet, refused }] })
  | .link client =>
    match client.send call packet with
    | (.sent, client) => (some (.ok ()), { w with broker := .link client })
    | (.refused, client) =>
      (some (.error (.notPublished topic Mqtt.refusal)), { w with broker := .link client })
    | (.blocked, client) => (none, { w with broker := .link client })

/-- Subscribes at the external broker; no answer means that it waits for room. -/
def subscribe (w : World) (call : CallId) (filter : String) (qos : Qos) :
    Option (Except Fault Unit) × World :=
  let packet : Mqtt.Packet := .subscribe filter qos
  match w.broker with
  | .recording _ refusedFilters =>
    let refused := refusedFilters.contains filter
    (some (if refused then .error refusedSubscription else .ok ()),
      { w with sent := w.sent ++ [{ packet, refused }] })
  | .link client =>
    match client.send call packet with
    | (.sent, client) => (some (.ok ()), { w with broker := .link client })
    | (.refused, client) =>
      (some (.error (.notSubscribed filter Mqtt.refusal)), { w with broker := .link client })
    | (.blocked, client) => (none, { w with broker := .link client })

/-- Ends the wait of a call if it is over. -/
def conclude (w : World) (call : CallId) : Option CallResult × World :=
  let desk := w.bus.desk
  match (desk.guard? call).bind fun g => desk.outcome? w.now g with
  | none => (none, w)
  | some r =>
    (some r, { w with
      bus := w.bus.withDesk (desk.drop call)
      timers := w.timers.filter (·.job != .wake call) })

/-- Makes a request on the internal bus; no answer means that it waits. -/
def request (w : World) (call : CallId) (r : Bus.Request) (timeout : Duration) :
    Option CallResult × World :=
  match w.bus with
  | .broken f => (some (.error f), w)
  | .process b =>
    match b.request call r timeout w.now with
    | (.error f, b) => (some (.error f), { w with bus := .process b })
    | (.ok (), b) => (enqueue { w with bus := .process b } .services).conclude call
  | .link b =>
    match b.request call r timeout w.now with
    | (.error f, b) => (some (.error f), { w with bus := .link b })
    | (.ok (), b) => conclude { w with bus := .link b } call

/-- Runs a handler until it is done or has to wait. -/
def runHandler (call : CallId) : Program Unit → World → World
  | .done (), w => w
  | .perform .fresh next, w =>
    runHandler call (next (w.fresh w.made)) { w with made := w.made + 1 }
  | .perform (.log e) next, w => runHandler call (next ()) { w with log := w.log ++ [e] }
  | .perform (.resolve base device command method) next, w =>
    runHandler call (next (w.devices.resolve base device command method)) w
  | .perform (.query request device) next, w =>
    runHandler call (next (w.devices.query request device)) w
  | .perform (.request r timeout) next, w =>
    match w.request call r timeout with
    | (some result, w) => runHandler call (next result) w
    | (none, w) => { w with requesting := w.requesting ++ [(call, next)] }
  | .perform (.publish topic delivery payload) next, w =>
    match w.publish call topic delivery payload with
    | (some result, w) => runHandler call (next result) w
    | (none, w) => { w with publishing := w.publishing ++ [(call, next)] }
  | .perform (.subscribe filter qos) next, w =>
    match w.subscribe call filter qos with
    | (some result, w) => runHandler call (next result) w
    | (none, w) => { w with publishing := w.publishing ++ [(call, next)] }

/-- Starts the script of a service for a request it has noted. -/
def startScript (w : World) (index : Nat) (service : Service) (r : Bus.Request) : World :=
  let number := w.nextNumber
  let script : Script :=
    { number, service := index, request := r.envelope, rest := service.replies }
  enqueue { w with
    nextNumber := number + 1
    notes := w.notes ++ [(index, .request r)]
    scripts := w.scripts ++ [script] } (.script number)

/-- The requests that a subscriber still finds, at most `fuel` of them, and what the log says. -/
def receiveAll (fuel : Nat) (index : Nat) (b : Bus.LocalBus) :
    List Bus.Request × List Event × Bus.LocalBus :=
  match fuel, b.subscriber? index with
  | 0, _ | _, none => ([], [], b)
  | fuel + 1, some s =>
    let (got, b) := b.receive index
    let lag := if got.lost = 0 then [] else [Bus.LocalBus.lagEvent s got.lost]
    match got.request with
    | none => ([], lag, b)
    | some r =>
      let (rs, log, b) := receiveAll fuel index b
      (r :: rs, lag ++ log, b)

/-- A service takes all requests it finds. -/
def serve (w : World) (index : Nat) (service : Service) : World :=
  match w.bus with
  | .process b =>
    let (rs, log, b) := receiveAll (b.channel.kept.length + 1) index b
    rs.foldl (fun w r => w.startScript index service r)
      { w with bus := .process b, log := w.log ++ log }
  | .link _ | .broken _ => w

/-- Hands a response to the internal bus; whoever waited for it is woken. -/
def respond (w : World) (response : Envelope) : Bool × World :=
  let desk := w.bus.desk
  let caller := (desk.waiter? response.requestId).map (·.caller)
  let (taken, desk) := desk.complete response
  let w := { w with bus := w.bus.withDesk desk }
  match caller, taken with
  | some c, true => (true, w.enqueue (.wake c))
  | _, taken => (taken, w)

/-- Makes the replies of a script up to its next pause, which is over when the script runs again.  A
pause of no length is none. -/
def runReplies (script : Script) : List Reply → World → World
  | [], w => { w with scripts := w.scripts.filter (·.number != script.number) }
  | reply :: rest, w =>
    match reply.pause.filter (0 < ·.nanos) with
    | some d =>
      let waiting : Script := { script with rest := { reply with pause := none } :: rest }
      let scripts := w.scripts.map fun s => if s.number = script.number then waiting else s
      setTimer { w with scripts } (w.now + d.nanos) (.script script.number)
    | none =>
      let (delivered, w) := w.respond (reply.edit script.request)
      runReplies script rest { w with notes := w.notes ++ [(script.service, .reply delivered)] }

/-- Runs a script up to its next pause. -/
def runScript (w : World) (number : Nat) : World :=
  match w.scripts.find? (·.number == number) with
  | none => w
  | some script => runReplies script script.rest w

/-- Runs a job. -/
def perform (w : World) : Job → World
  | .start call =>
    match w.starting.find? (·.1 == call) with
    | none => w
    | some (_, p) =>
      runHandler call p { w with starting := w.starting.filter (·.1 != call) }
  | .wake call =>
    match w.requesting.find? (·.1 == call) with
    | none => w
    | some (_, next) =>
      match w.conclude call with
      | (none, w) => w
      | (some r, w) =>
        runHandler call (next r) { w with requesting := w.requesting.filter (·.1 != call) }
  | .services => w.services.zipIdx.foldl (fun w (s, i) => w.serve i s) w
  | .script number => w.runScript number

/-- Runs what can run, at most `fuel` jobs. -/
def runQueue : (fuel : Nat) → World → World
  | 0, w => w
  | fuel + 1, w =>
    match w.queue with
    | [] => w
    | j :: rest => runQueue fuel (perform { w with queue := rest } j).setWaitTimers

/-- How many jobs can still come about: every handler runs at most twice, every request is noted by
every service once, and every reply wakes its script and one handler. -/
def budget (w : World) : Nat :=
  let handlers := w.starting.length + w.requesting.length + w.publishing.length
  let replies := w.services.length + (w.services.flatMap (·.replies)).length
  let pending := w.scripts.length + (w.scripts.flatMap (·.rest)).length
  (w.queue.length + w.timers.length + (handlers + 1) * (replies + 3) + pending + 1) * 4

/-- Runs everything that can run at this instant. -/
def settle (w : World) : World := runQueue w.budget w

/-- The deadline of the next timer. -/
def nextDeadline? (w : World) : Option Instant := (w.timers.map (·.deadline)).min?

/-- Moves the clock to an instant and fires the timers that are due, in their order. -/
def fire (w : World) (t : Instant) : World :=
  let due := (w.timers.filter (·.deadline ≤ t)).mergeSort fun a b => a.deadline ≤ b.deadline
  let w := { w with now := t, timers := w.timers.filter fun x => t < x.deadline }
  (due.foldl (fun w x => w.enqueue x.job) w).settle

/-- Lets the clock jump from timer to timer as long as `goesOn` says. -/
def runTimers (goesOn : World → Bool) : (fuel : Nat) → World → World
  | 0, w => w
  | fuel + 1, w =>
    match w.nextDeadline? with
    | none => w
    | some t => if goesOn w then runTimers goesOn fuel (w.fire t) else w

/-- Whether a handler has not returned. -/
def running (w : World) (call : CallId) : Bool :=
  w.starting.any (·.1 == call) || w.requesting.any (·.1 == call) || w.publishing.any (·.1 == call)

/-- Lets a new handler run as soon as it is its turn. -/
def launch (w : World) (p : Program Unit) : CallId × World :=
  let call := w.nextNumber
  (call, enqueue { w with
    nextNumber := call + 1
    starting := w.starting ++ [(call, p)] } (.start call))

/-- Lets the clock run until the given handlers have returned. -/
def await (w : World) (calls : List CallId) : World :=
  runTimers (fun w => calls.any w.running) w.budget w

/-- Lets the clock jump by a duration at once.  All that falls due on the way fires only there, and
a pause that begins then counts from there. -/
def advance (w : World) (d : Duration) : World := w.fire (w.now + d.nanos)

/-- A handler that waited for room in the queue of the external link goes on. -/
def goOn (w : World) (call : CallId) : World :=
  match w.publishing.find? (·.1 == call) with
  | none => w
  | some (_, next) =>
    enqueue { w with
      publishing := w.publishing.filter (·.1 != call)
      starting := w.starting ++ [(call, next (.ok ()))] } (.start call)

/-- The external link takes what is queued; handlers that waited for room go on. -/
def drainExternal (w : World) : List Mqtt.Packet × World :=
  match w.broker with
  | .recording _ _ => ([], w)
  | .link client =>
    let (packets, calls, client) := client.drain
    (packets, (calls.foldl goOn { w with broker := .link client }).settle)

/-- The internal link takes what is queued; requests that waited for room begin their wait. -/
def drainInternal (w : World) : List Mqtt.Packet × World :=
  match w.bus with
  | .process _ | .broken _ => ([], w)
  | .link b =>
    let (packets, b) := b.drain w.now
    (packets, setWaitTimers { w with bus := .link b })

end World

end CommandRelay.Relay
