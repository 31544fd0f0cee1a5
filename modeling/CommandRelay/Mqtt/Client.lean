import CommandRelay.Delivery
import CommandRelay.Envelope.Wire

/-!
# The client of a broker link

A client puts packets into a bounded queue that the link empties.  Whoever finds the queue full
waits for room, in order.  A message to a topic with a wildcard is refused, and so is everything
once the link is gone.
-/

namespace CommandRelay.Mqtt

/-- What a client asks its link to send. -/
inductive Packet where
  | subscribe (filter : String) (qos : Qos)
  | publish (topic : String) (delivery : Delivery) (payload : List UInt8)
  | disconnect
  deriving DecidableEq, Repr

/-- Whether a client takes a packet at all: no topic of a message may hold a wildcard.  The filter
of a subscription is for the broker to check. -/
def Packet.allowed : Packet → Bool
  | .publish topic _ _ => topic.toList.all fun c => c != '+' && c != '#'
  | .subscribe _ _ | .disconnect => true

/-- Why a client refuses a packet, in its words. -/
def refusal : String := "Failed to send mqtt requests to eventloop"

/-- A client.  Who waits for room is known by a tag of type `τ`. -/
structure Client (τ : Type) where
  capacity : Nat
  queue : List Packet := []
  blocked : List (τ × Packet) := []
  closed : Bool := false

/-- What happened to a packet. -/
inductive Sending where
  | sent
  | refused
  /-- The queue is full. -/
  | blocked
  deriving DecidableEq, Repr

namespace Client

variable {τ : Type}

/-- Puts a packet into the queue if there is room. -/
def offer (c : Client τ) (p : Packet) : Sending × Client τ :=
  if c.closed || !p.allowed then (.refused, c)
  else if c.queue.length < c.capacity then (.sent, { c with queue := c.queue ++ [p] })
  else (.blocked, c)

/-- Puts a packet into the queue, or waits for room under a tag. -/
def send (c : Client τ) (tag : τ) (p : Packet) : Sending × Client τ :=
  match c.offer p with
  | (.blocked, c) => (.blocked, { c with blocked := c.blocked ++ [(tag, p)] })
  | r => r

/-- Gives up waiting for room. -/
def withdraw (c : Client τ) (keep : τ → Bool) : Client τ :=
  { c with blocked := c.blocked.filter fun (t, _) => keep t }

/-- Takes everything: the packets in their order, and the tags of those that found room on the way.
-/
def drain (c : Client τ) : List Packet × List τ × Client τ :=
  (c.queue ++ c.blocked.map (·.2), c.blocked.map (·.1), { c with queue := [], blocked := [] })

/-- Takes the first packet; whoever waits for room moves up. -/
def take? (c : Client τ) : Option (Packet × Option τ × Client τ) :=
  match c.queue ++ c.blocked.map (·.2) with
  | [] => none
  | p :: _ =>
    let moved := c.blocked.head?
    some (p, moved.map (·.1), { c with
      queue := (c.queue ++ moved.toList.map (·.2)).drop 1
      blocked := c.blocked.drop 1 })

/-- The link goes away, and the queue with it: the tags of those that waited for room. -/
def close (c : Client τ) : List τ × Client τ :=
  (c.blocked.map (·.1), { c with queue := [], blocked := [], closed := true })

end Client

end CommandRelay.Mqtt
