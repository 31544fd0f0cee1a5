import CommandRelay.Bus.Channel
import CommandRelay.Correlation.Desk
import CommandRelay.Event

/-!
# The bus inside one process

Requests go out on a broadcast channel; a device service subscribes to the requests below a topic
prefix and answers through the correlation desk.  A request that nobody could hear fails at once.
-/

namespace CommandRelay.Bus

/-- A request as services receive it. -/
structure Request where
  service : String
  topic : String
  envelope : Envelope
  deriving DecidableEq, Inhabited

/-- A reader of the channel that sees the topics with a prefix only. -/
structure Subscriber where
  number : Nat
  base : String
  place : Nat
  deriving DecidableEq, Repr

/-- Whether a subscriber wants a request. -/
def Subscriber.wants (s : Subscriber) (r : Request) : Bool :=
  s.base.toList.isPrefixOf r.topic.toList

/-- What a subscriber received: how many requests it had lost before, and the request if there is
one. -/
structure Received where
  lost : Nat
  request : Option Request
  deriving DecidableEq

/-- The bus. -/
structure LocalBus where
  channel : Channel Request
  desk : Correlation.Desk := {}
  subscribers : List Subscriber := []
  deriving DecidableEq

namespace LocalBus

/-- A bus whose channel keeps at least `n` requests. -/
def ofCapacity (n : Nat) : LocalBus := { channel := .ofCapacity n }

/-- The number of requests a bus keeps where nothing else is asked for. -/
def defaultCapacity : Nat := 256

/-- The number of requests that wait for their response. -/
def inFlight (b : LocalBus) : Nat := b.desk.inFlight

/-- Subscribes to the requests that are sent from now on. -/
def subscribe (b : LocalBus) (number : Nat) (base : String) : LocalBus :=
  { b with subscribers := b.subscribers ++ [{ number, base, place := b.channel.sent }] }

/-- Ends a subscription. -/
def unsubscribe (b : LocalBus) (number : Nat) : LocalBus :=
  { b with subscribers := b.subscribers.filter (·.number != number) }

/-- The subscriber with a number. -/
def subscriber? (b : LocalBus) (number : Nat) : Option Subscriber :=
  b.subscribers.find? (·.number == number)

/-- The next request for a subscriber, and the subscriber behind it. -/
def next (b : LocalBus) (s : Subscriber) : Received × Subscriber :=
  let unread := b.channel.unread s.place
  let passed := unread.takeWhile (!s.wants ·)
  let start := max s.place b.channel.oldest
  let lost := b.channel.lost s.place
  match unread.dropWhile (!s.wants ·) with
  | r :: _ => ({ lost, request := some r }, { s with place := start + passed.length + 1 })
  | [] => ({ lost, request := none }, { s with place := start + passed.length })

/-- Receives the next request of a subscriber. -/
def receive (b : LocalBus) (number : Nat) : Received × LocalBus :=
  match b.subscriber? number with
  | none => ({ lost := 0, request := none }, b)
  | some s =>
    let (got, s') := b.next s
    (got, { b with subscribers := b.subscribers.map fun t => if t.number = number then s' else t })

/-- What the log says of a subscriber that lost requests. -/
def lagEvent (s : Subscriber) (lost : Nat) : Event :=
  .warning "ServiceSubscriber lagged"
    [("topic_prefix", .text s.base), ("lagged_by", .number lost)]

/-- Registers a request; its caller holds a guard from then on. -/
def enter (b : LocalBus) (caller : CallId) (r : Request) : Except Fault Unit × LocalBus :=
  let (entered, desk) := b.desk.register caller r.envelope.requestId
  (entered, { b with desk })

/-- Sends a request that is registered and begins its wait; it is given up when nobody listens. -/
def send (b : LocalBus) (caller : CallId) (r : Request) (timeout : Duration) (now : Instant) :
    Except Fault Unit × LocalBus :=
  if b.subscribers.isEmpty then
    (.error (.noListener r.topic), { b with desk := b.desk.drop caller })
  else
    (.ok (), { b with
      channel := b.channel.send r
      desk := b.desk.await caller timeout now })

/-- Starts a request: it is registered, sent, and waited for.  A result at once is a refusal. -/
def request (b : LocalBus) (caller : CallId) (r : Request) (timeout : Duration) (now : Instant) :
    Except Fault Unit × LocalBus :=
  match b.enter caller r with
  | (.error f, b) => (.error f, b)
  | (.ok (), b) => b.send caller r timeout now

/-- Hands a response to the request it answers; tells whether it was taken. -/
def respond (b : LocalBus) (response : Envelope) : Bool × LocalBus :=
  let (taken, desk) := b.desk.complete response
  (taken, { b with desk })

/-- Gives up a request. -/
def cancel (b : LocalBus) (caller : CallId) : LocalBus :=
  { b with desk := b.desk.drop caller }

/-- Ends the waits that end by an instant. -/
def settle (b : LocalBus) (now : Instant) : List (CallId × CallResult) × LocalBus :=
  let (ended, desk) := b.desk.settle now
  (ended, { b with desk })

end LocalBus

end CommandRelay.Bus
