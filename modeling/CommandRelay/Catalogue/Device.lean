import CommandRelay.Method
import CommandRelay.Datum

/-!
# Devices

A device belongs to a service and has named commands, each of which can be read, written or both.
As data a device or a command is a record; only the names and the service have no default.
-/

namespace CommandRelay

/-- A command of a device. -/
structure Command where
  name : String
  get : Bool := true
  set : Bool := false
  deriving DecidableEq, Repr

namespace Command

/-- Whether a command can be used with a method. -/
def supports (c : Command) : Method → Bool
  | .get => c.get
  | .set => c.set

/-- A command that is being read. -/
structure Draft where
  name : Option String := none
  get : Bool := true
  set : Bool := false

/-- The fields of a command. -/
def fields : List (Datum.FieldReader Draft) :=
  [⟨"name", fun c d => return { c with name := some (← d.readText) }⟩,
   ⟨"get", fun c d => return { c with get := ← d.readBool }⟩,
   ⟨"set", fun c d => return { c with set := ← d.readBool }⟩]

/-- Reads a command. -/
def read (surplus : Bool) (d : Datum) : Reading Command := do
  let c ← d.readRecord surplus fields {}
  match c.name with
  | some name => .ok { name, get := c.get, set := c.set }
  | none => .error .shape

/-- A command as JSON. -/
def toJson (c : Command) : Json :=
  .object [("name", .text c.name), ("get", .bool c.get), ("set", .bool c.set)]

end Command

/-- A device. -/
structure Device where
  name : String
  service : String
  profile : String := ""
  commands : List Command := []
  deriving DecidableEq, Repr

namespace Device

/-- The first command with a name. -/
def command? (d : Device) (name : String) : Option Command :=
  d.commands.find? (·.name == name)

/-- A device that is being read. -/
structure Draft where
  name : Option String := none
  service : Option String := none
  profile : String := ""
  commands : List Command := []

/-- The fields of a device. -/
def fields (surplus : Bool) : List (Datum.FieldReader Draft) :=
  [⟨"name", fun v d => return { v with name := some (← d.readText) }⟩,
   ⟨"service", fun v d => return { v with service := some (← d.readText) }⟩,
   ⟨"profile", fun v d => return { v with profile := ← d.readText }⟩,
   ⟨"commands", fun v d => return { v with commands := ← d.readList (Command.read surplus) }⟩]

/-- Reads a device. -/
def read (surplus : Bool) (d : Datum) : Reading Device := do
  let v ← d.readRecord surplus (fields surplus) {}
  match v.name, v.service with
  | some name, some service => .ok { name, service, profile := v.profile, commands := v.commands }
  | _, _ => .error .shape

/-- A device as JSON. -/
def toJson (d : Device) : Json :=
  .object [("name", .text d.name), ("service", .text d.service), ("profile", .text d.profile),
    ("commands", .list (d.commands.map Command.toJson))]

end Device

end CommandRelay
