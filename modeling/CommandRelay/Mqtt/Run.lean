import CommandRelay.Mqtt.Bus
import CommandRelay.Bus.Task

/-!
# Runs of the bus over a broker link

A run is a sequence of steps on one bus whose client is also used directly: messages and
subscriptions of its own, requests in tasks, messages that arrive, the link taking what is queued,
and the clock.  After each step every task has gone as far as it can.
-/

namespace CommandRelay.Mqtt

/-- A step of a run. -/
inductive Step where
  | filter
  | subscribeResponses
  | subscribe (filter : String) (qos : Qos)
  | publish (topic : String) (delivery : Delivery) (payload : List UInt8)
  | disconnect
  | request (task : String) (r : CommandRelay.Bus.Request) (timeout : Duration)
  | poll (task : String)
  | cancel (task : String)
  | advance (d : Duration)
  | incoming (topic : String) (payload : List UInt8)
  | drain
  /-- The link goes away. -/
  | close

/-- The answer to a step. -/
inductive Reply where
  | done (ok : Bool)
  | refused (f : Fault)
  /-- The queue was full and the packet given up. -/
  | blocked
  | filter (f : String)
  | standing (s : CommandRelay.Bus.Standing)
  | packets (ps : List Packet)

/-- The state of a run. -/
structure Run where
  bus : Bus
  now : Instant := 0
  tasks : List CommandRelay.Bus.Task := []
  nextCall : CallId := 0
  /-- How many correlation IDs were made up. -/
  made : Nat := 0
  wording : Wording := {}

namespace Run

/-- A run on a fresh bus. -/
def start (capacity : Nat) (responsePrefix : String) (qos : Qos) (wording : Wording := {}) : Run :=
  { bus := { client := { capacity }, responsePrefix, qos }, wording }

/-- Notes the results of calls that have ended. -/
def settle (s : Run) : Run :=
  let (ended, bus) := s.bus.settle s.now
  { s with bus, tasks := CommandRelay.Bus.Task.note s.tasks ended }

/-- Offers a packet of its own to the client; `refused` is what a refusal means. -/
def offer (s : Run) (p : Packet) (refused : Reply) : Reply × Run :=
  match s.bus.client.offer p with
  | (.sent, client) => (.done true, { s with bus := { s.bus with client } })
  | (.blocked, _) => (.blocked, s)
  | (.refused, _) => (refused, s)

/-- Starts a request in a new task. -/
def startTask (s : Run) (name : String) (r : CommandRelay.Bus.Request) (timeout : Duration) : Run :=
  let call := s.nextCall
  let (started, bus) := s.bus.request call r timeout s.now
  let result : Option CallResult := match started with
    | .ok () => none
    | .error f => some (.error f)
  { s with
    bus
    nextCall := call + 1
    tasks := CommandRelay.Bus.Task.add s.tasks { name, call, result } }

/-- Makes one step, before the tasks go on.  `fresh` gives the correlation IDs that are made up. -/
def stepNow (fresh : Nat → String) (s : Run) : Step → Reply × List Event × Run
  | .filter => (.filter s.bus.responseFilter, [], s)
  | .subscribeResponses =>
    let (reply, s) := s.offer s.bus.subscription
      (.refused (.notSubscribed s.bus.responseFilter refusal))
    (reply, [], s)
  | .subscribe filter qos =>
    let (reply, s) := s.offer (.subscribe filter qos) (.refused (.notSubscribed filter refusal))
    (reply, [], s)
  | .publish topic delivery payload =>
    let (reply, s) := s.offer (.publish topic delivery payload)
      (.refused (.notPublished topic refusal))
    (reply, [], s)
  | .disconnect =>
    let (reply, s) := s.offer .disconnect (.done true)
    (reply, [], s)
  | .request name r timeout => (.done true, [], s.startTask name r timeout)
  | .poll name =>
    let (standing, tasks) := CommandRelay.Bus.Task.poll s.tasks name
    (.standing standing, [], { s with tasks })
  | .cancel name =>
    match CommandRelay.Bus.Task.find? s.tasks name with
    | none => (.done true, [], s)
    | some t =>
      (.done true, [], { s with
        bus := s.bus.cancel t.call
        tasks := CommandRelay.Bus.Task.remove s.tasks t.call })
  | .advance d => (.done true, [], { s with now := s.now + d.nanos })
  | .incoming topic payload =>
    let (taken, log, bus) := s.bus.incoming s.wording (fresh s.made) topic payload
    (.done taken, log, { s with bus, made := s.made + 1 })
  | .drain =>
    let (packets, bus) := s.bus.drain s.now
    (.packets packets, [], { s with bus })
  | .close =>
    let (ended, bus) := s.bus.close
    (.done true, [], { s with bus, tasks := CommandRelay.Bus.Task.note s.tasks ended })

/-- Makes one step and lets every task go as far as it can. -/
def step (fresh : Nat → String) (s : Run) (a : Step) : Reply × List Event × Run :=
  let (reply, log, s) := s.stepNow fresh a
  (reply, log, s.settle)

end Run

end CommandRelay.Mqtt
