import CommandRelay.Datum

/-!
# Delivery options

The quality of service at which a message is published or a topic subscribed to, and whether the
broker keeps the last message of a topic.
-/

namespace CommandRelay

/-- The quality of service. -/
inductive Qos where
  | atMostOnce
  | atLeastOnce
  | exactlyOnce
  deriving DecidableEq, Repr

namespace Qos

instance : Inhabited Qos := ⟨.atMostOnce⟩

/-- The number of a quality of service. -/
def level : Qos → Nat
  | .atMostOnce => 0
  | .atLeastOnce => 1
  | .exactlyOnce => 2

/-- The name of a quality of service. -/
def name : Qos → String
  | .atMostOnce => "AtMostOnce"
  | .atLeastOnce => "AtLeastOnce"
  | .exactlyOnce => "ExactlyOnce"

/-- The quality of service with a number. -/
def ofLevel : Nat → Except Fault Qos
  | 0 => .ok .atMostOnce
  | 1 => .ok .atLeastOnce
  | 2 => .ok .exactlyOnce
  | n => .error (.invalidQos n)

/-- Reads a quality of service: its number, which must fit an octet to be looked at. -/
def read (d : Datum) : Reading Qos := do
  let n ← d.readNat UInt8.size
  match ofLevel n with
  | .ok q => .ok q
  | .error f => .error (.meaning f)

/-- The number as JSON. -/
def toJson (q : Qos) : Json := .ofNat q.level

theorem ofLevel_level (q : Qos) : ofLevel q.level = .ok q := by cases q <;> rfl

end Qos

/-- How a message is published. -/
structure Delivery where
  qos : Qos := .atMostOnce
  retain : Bool := false
  deriving DecidableEq, Repr, Inhabited

end CommandRelay
