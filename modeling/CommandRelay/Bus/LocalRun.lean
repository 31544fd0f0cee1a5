import CommandRelay.Bus.Local
import CommandRelay.Bus.Task

/-!
# Runs of the local bus

A run is a sequence of steps on one bus: subscriptions, requests in tasks of their own, responses,
and the clock.  After each step every task has gone as far as it can.
-/

namespace CommandRelay.Bus

/-- A step of a run.  Subscribers and tasks go by names. -/
inductive LocalStep where
  | subscribe (subscriber base : String)
  | unsubscribe (subscriber : String)
  | receive (subscriber : String)
  | request (task : String) (r : Request) (timeout : Duration)
  | respond (response : Envelope)
  | poll (task : String)
  | cancel (task : String)
  | advance (d : Duration)
  /-- Lets go of the bus; it lives on while a task holds it. -/
  | close

/-- The answer to a step. -/
inductive Reply where
  | done (ok : Bool)
  | received (r : Request)
  | empty
  | closed
  | standing (s : Standing)

/-- The state of a run. -/
structure LocalRun where
  bus : LocalBus
  now : Instant := 0
  held : Bool := true
  /-- The numbers of the named subscribers. -/
  names : List (String × Nat) := []
  tasks : List Task := []
  nextNumber : Nat := 0

namespace LocalRun

/-- A run on a fresh bus. -/
def ofCapacity (n : Nat) : LocalRun := { bus := .ofCapacity n }

/-- Notes the results of calls that have ended. -/
def settle (s : LocalRun) : LocalRun :=
  let (ended, bus) := s.bus.settle s.now
  { s with
    bus
    tasks := Task.note s.tasks ended }

/-- Whether a task still waits. -/
def busy (s : LocalRun) : Bool := s.tasks.any (·.result.isNone)

/-- Whether the bus is gone: nobody holds it any more. -/
def closed (s : LocalRun) : Bool := !s.held && !s.busy

/-- The subscriber with a name. -/
def subscriber? (s : LocalRun) (name : String) : Option Subscriber :=
  (s.names.find? (·.1 == name)).bind fun (_, n) => s.bus.subscriber? n

/-- Forgets the subscriber with a name. -/
def unsubscribe (s : LocalRun) (name : String) : LocalRun :=
  match s.names.find? (·.1 == name) with
  | none => s
  | some (_, n) =>
    { s with bus := s.bus.unsubscribe n, names := s.names.filter (·.1 != name) }

/-- Starts a request in a new task. -/
def start (s : LocalRun) (name : String) (r : Request) (timeout : Duration) : LocalRun :=
  let call := s.nextNumber
  let (started, bus) := s.bus.request call r timeout s.now
  let result : Option CallResult := match started with
    | .ok () => none
    | .error f => some (.error f)
  { s with
    bus
    nextNumber := call + 1
    tasks := Task.add s.tasks { name, call, result } }

/-- Makes one step, before the tasks go on. -/
def stepNow (s : LocalRun) : LocalStep → Reply × List Event × LocalRun
  | .subscribe name base =>
    if !s.held then (.done false, [], s)
    else
      let s := s.unsubscribe name
      let n := s.nextNumber
      (.done true, [], { s with
        bus := s.bus.subscribe n base
        names := s.names ++ [(name, n)]
        nextNumber := n + 1 })
  | .unsubscribe name => (.done (s.subscriber? name).isSome, [], s.unsubscribe name)
  | .receive name =>
    match s.subscriber? name with
    | none => (.closed, [], s)
    | some sub =>
      let (got, bus) := s.bus.receive sub.number
      let log := if got.lost = 0 then [] else [LocalBus.lagEvent sub got.lost]
      let reply : Reply := match got.request with
        | some r => .received r
        | none => if s.closed then .closed else .empty
      (reply, log, { s with bus })
  | .request name r timeout =>
    if s.held then (.done true, [], s.start name r timeout) else (.done false, [], s)
  | .respond response =>
    if s.held then
      let (taken, bus) := s.bus.respond response
      (.done taken, [], { s with bus })
    else (.done false, [], s)
  | .poll name =>
    let (standing, tasks) := Task.poll s.tasks name
    (.standing standing, [], { s with tasks })
  | .cancel name =>
    match Task.find? s.tasks name with
    | none => (.done true, [], s)
    | some t =>
      (.done true, [], { s with
        bus := s.bus.cancel t.call
        tasks := Task.remove s.tasks t.call })
  | .advance d => (.done true, [], { s with now := s.now + d.nanos })
  | .close => (.done true, [], { s with held := false })

/-- Makes one step and lets every task go as far as it can. -/
def step (s : LocalRun) (a : LocalStep) : Reply × List Event × LocalRun :=
  let (reply, log, s) := s.stepNow a
  (reply, log, s.settle)

end LocalRun

end CommandRelay.Bus
