import CommandRelay.Proofs.Correlation.Matching
import CommandRelay.Proofs.Relay.Underway

/-!
# Commands side by side

Any number of commands are handled at the same time.  They share one bus in the process, with
services that subscribe, receive and respond as they like, and one clock.

1. **`Invocation`** — a command that is being handled: where its handler stands, and what it has
   performed so far, each effect with the instant of its answer.
2. **`Step`** — one move of one of them: a handler performs an effect, a call of the bus goes on by
   one of its stretches (register, send, end), a service does something, or the clock moves on.  Any
   move may come next, so every interleaving is a sequence of steps.
3. **The clock** — only what waits takes time.  The clock stands still while a handler that has
   called the bus can go on, and it does not pass the deadline of a wait (`State.CanRest`).  At the
   deadline itself a response and the end of the wait may come in either order.

What is answered by collaborators other than the bus is open: each effect may have every answer.
-/

namespace CommandRelay.Relay.Concurrent

open Program

/-- A command that can be answered: its message can be read, and its topic has its three levels. -/
structure Command where
  topic : String
  payload : List UInt8
  request : Envelope
  address : Topic.Address
  decodes : Envelope.ofWire? payload = some request
  addressed : Topic.address topic = .ok address

/-- Every message that can be read, on a topic with three levels, is such a command. -/
theorem Command.exists_of_receive {topic fresh : String} {payload : List UInt8} {words : Wording}
    {q : Envelope} (hq : Envelope.receive fresh payload words = .ok q)
    (hlevels : 3 ≤ (Topic.levels topic).length) :
    ∃ c : Command, c.topic = topic ∧ c.payload = payload ∧ c.request.requestId = q.requestId := by
  obtain ⟨a, ha⟩ := (address_isOk_iff topic).mpr hlevels
  rw [Envelope.receive] at hq
  cases he : Envelope.ofWire? payload with
  | none =>
    rw [he] at hq
    cases hq
  | some e =>
    rw [he] at hq
    obtain rfl := Except.ok.inj hq
    exact ⟨⟨topic, payload, e, a, he, ha⟩, rfl, rfl, (correlated_requestId fresh e).symm⟩

/-- Where the handler of a command stands. -/
inductive Stage where
  /-- It can go on. -/
  | running (p : Program Unit)
  /-- Its request is registered with the bus, and not sent yet. -/
  | entered (r : Bus.Request) (timeout : Duration) (next : Except Fault Envelope → Program Unit)
  /-- Its request was sent, and it waits for the result. -/
  | waiting (r : Bus.Request) (timeout : Duration) (next : Except Fault Envelope → Program Unit)

namespace Stage

/-- What is left to do. -/
def program : Stage → Program Unit
  | .running p => p
  | .entered r timeout next | .waiting r timeout next => .perform (.request r timeout) next

/-- Whether a handler is between its registration and its result. -/
def inBus : Stage → Bool
  | .running _ => false
  | .entered _ _ _ | .waiting _ _ _ => true

end Stage

/-- When a handler called the bus, and how many responses had been handed to the bus by then. -/
structure Call where
  instant : Instant
  heard : Nat

/-- A command that is being handled. -/
structure Invocation where
  command : Command
  stage : Stage
  past : List (Instant × Performed) := []
  called : Option Call := none

namespace Invocation

/-- The effects that were performed so far. -/
def trace (v : Invocation) : List Performed := v.past.map (·.2)

/-- The messages that were published so far, each with its instant. -/
def published (v : Invocation) : List (Instant × String × Delivery × List UInt8) :=
  v.past.filterMap fun (t, p) => p.publication?.map (t, ·)

/-- The responses of the bus that the handler went on with. -/
def forwarded (v : Invocation) : List Envelope := busResponses v.trace

/-- Nothing is left to do. -/
def Finished (v : Invocation) : Prop := v.stage = .running (.done ())

/-- An effect is answered, and the handler goes on. -/
def goOn (v : Invocation) (now : Instant) (p : Performed) (rest : Program Unit) : Invocation :=
  { v with stage := .running rest, past := v.past ++ [(now, p)] }

/-- Whether time may pass for a handler.  What comes behind its call of the bus takes none, except
for the wait. -/
def Rests (v : Invocation) : Prop :=
  match v.stage with
  | .running _ => v.called = none ∨ v.Finished
  | .entered _ _ _ => False
  | .waiting _ _ _ => True

end Invocation

/-- A response that was handed to the bus. -/
structure Response where
  envelope : Envelope
  instant : Instant
  /-- What the bus answered. -/
  taken : Bool
  /-- The handler whose guard the response went into. -/
  recipient : Option CallId

/-- All handlers, the bus that they share, and the responses it got.  Handlers go by their
places. -/
structure State where
  bus : Bus.LocalBus
  now : Instant := 0
  invocations : List Invocation := []
  responses : List Response := []

/-- Whom a bus would hand a response to. -/
def recipient? (b : Bus.LocalBus) (e : Envelope) : Option CallId :=
  if (b.respond e).1 then (b.desk.waiter? e.requestId).map (·.caller) else none

namespace State

/-- A handler and the bus have moved. -/
def update (σ : State) (i : CallId) (v : Invocation) (bus : Bus.LocalBus) : State :=
  { σ with bus, invocations := σ.invocations.set i v }

/-- The mark of a call that is made now. -/
def call (σ : State) : Call := { instant := σ.now, heard := σ.responses.length }

/-- Whether the clock may stand at an instant next. -/
structure CanRest (σ : State) (t : Instant) : Prop where
  forward : σ.now ≤ t
  rests : ∀ v ∈ σ.invocations, v.Rests
  deadlines : ∀ g ∈ σ.bus.desk.guards, ∀ w, g.wait = some w → t ≤ w.deadline

/-- Nobody has done anything yet. -/
def start (capacity : Nat) : State := { bus := .ofCapacity capacity }

end State

/-- One move. -/
inductive Step (s : Settings) (σ : State) : State → Prop
  /-- Another command arrives. -/
  | launch (c : Command) : Step s σ { σ with invocations := σ.invocations ++
      [{ command := c, stage := .running (handleCommand s c.topic c.payload) }] }
  /-- A handler performs an effect that is no request, and gets any answer. -/
  | perform {i : CallId} {v : Invocation} {e : Effect} {next : e.Answer → Program Unit}
      (hv : σ.invocations[i]? = some v) (hs : v.stage = .running (.perform e next))
      (he : e.isRequest = false) (x : e.Answer) :
      Step s σ (σ.update i (v.goOn σ.now ⟨e, x⟩ (next x)) σ.bus)
  /-- The bus does not register a request. -/
  | refuse {i : CallId} {v : Invocation} {r : Bus.Request} {timeout : Duration}
      {next : Except Fault Envelope → Program Unit} {f : Fault} {bus : Bus.LocalBus}
      (hv : σ.invocations[i]? = some v)
        (hs : v.stage = .running (.perform (.request r timeout) next))
      (hb : σ.bus.enter i r = (.error f, bus)) :
      Step s σ (σ.update i ({ v with called := some σ.call }.goOn σ.now
        ⟨.request r timeout, .error f⟩ (next (.error f))) bus)
  /-- The bus registers a request. -/
  | enter {i : CallId} {v : Invocation} {r : Bus.Request} {timeout : Duration}
      {next : Except Fault Envelope → Program Unit} {bus : Bus.LocalBus}
      (hv : σ.invocations[i]? = some v)
        (hs : v.stage = .running (.perform (.request r timeout) next))
      (hb : σ.bus.enter i r = (.ok (), bus)) :
      Step s σ (σ.update i { v with
        stage := .entered r timeout next, called := some σ.call } bus)
  /-- A request finds no listener. -/
  | unheard {i : CallId} {v : Invocation} {r : Bus.Request} {timeout : Duration}
      {next : Except Fault Envelope → Program Unit} {f : Fault} {bus : Bus.LocalBus}
      (hv : σ.invocations[i]? = some v) (hs : v.stage = .entered r timeout next)
      (hb : σ.bus.send i r timeout σ.now = (.error f, bus)) :
      Step s σ (σ.update i (v.goOn σ.now
        ⟨.request r timeout, .error f⟩ (next (.error f))) bus)
  /-- A request is sent, and its wait begins. -/
  | send {i : CallId} {v : Invocation} {r : Bus.Request} {timeout : Duration}
      {next : Except Fault Envelope → Program Unit} {bus : Bus.LocalBus}
      (hv : σ.invocations[i]? = some v) (hs : v.stage = .entered r timeout next)
      (hb : σ.bus.send i r timeout σ.now = (.ok (), bus)) :
      Step s σ (σ.update i { v with stage := .waiting r timeout next } bus)
  /-- A wait is over, and its guard goes. -/
  | conclude {i : CallId} {v : Invocation} {r : Bus.Request} {timeout : Duration}
      {next : Except Fault Envelope → Program Unit} {g : Correlation.Guard} {x : CallResult}
      (hv : σ.invocations[i]? = some v) (hs : v.stage = .waiting r timeout next)
      (hg : σ.bus.desk.guard? i = some g) (hx : σ.bus.desk.outcome? σ.now g = some x) :
      Step s σ (σ.update i (v.goOn σ.now ⟨.request r timeout, x⟩ (next x)) (σ.bus.cancel i))
  /-- A service hands any envelope to the bus. -/
  | respond (e : Envelope) : Step s σ { σ with
      bus := (σ.bus.respond e).2
      responses := σ.responses ++ [{
        envelope := e, instant := σ.now
        taken := (σ.bus.respond e).1, recipient := recipient? σ.bus e }] }
  /-- A service subscribes. -/
  | subscribe (number : Nat) (base : String) :
      Step s σ { σ with bus := σ.bus.subscribe number base }
  /-- A service ends its subscription. -/
  | unsubscribe (number : Nat) : Step s σ { σ with bus := σ.bus.unsubscribe number }
  /-- A service looks for a request. -/
  | receive (number : Nat) : Step s σ { σ with bus := (σ.bus.receive number).2 }
  /-- The clock moves on. -/
  | tick {t : Instant} (ht : σ.CanRest t) : Step s σ { σ with now := t }

/-- One move after the other. -/
abbrev Steps (s : Settings) : State → State → Prop := Relation.ReflTransGen (Step s)

end CommandRelay.Relay.Concurrent
