/-!
# Broadcast channels

A channel keeps the last messages that were sent, up to its capacity.  Every reader has a place of
its own and sees each message once, in the order of sending.  A reader that fell behind what is
kept has lost the messages in between and goes on with the oldest one kept.
-/

namespace CommandRelay.Bus

/-- A channel: the messages kept, oldest first, and how many were ever sent. -/
structure Channel (α : Type) where
  capacity : Nat
  kept : List α := []
  sent : Nat := 0
  deriving DecidableEq, Repr

namespace Channel

variable {α : Type}

/-- A channel that keeps at least `n` messages: the capacity is rounded up to a power of two. -/
def ofCapacity (n : Nat) : Channel α := { capacity := n.nextPowerOfTwo }

/-- Sends a message; the oldest one goes when there is no room. -/
def send (c : Channel α) (message : α) : Channel α :=
  let kept := c.kept ++ [message]
  { c with kept := kept.drop (kept.length - c.capacity), sent := c.sent + 1 }

/-- The number of the oldest message kept. -/
def oldest (c : Channel α) : Nat := c.sent - c.kept.length

/-- How many messages a reader at a place has lost. -/
def lost (c : Channel α) (place : Nat) : Nat := c.oldest - place

/-- The messages that a reader at a place has still to see. -/
def unread (c : Channel α) (place : Nat) : List α := c.kept.drop (place - c.oldest)

end Channel

end CommandRelay.Bus
