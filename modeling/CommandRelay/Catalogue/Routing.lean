import CommandRelay.Catalogue.Device
import CommandRelay.Topic.Level

/-!
# Routing

A command goes to the service that owns its device, on a topic below the prefix and the service that
names device, command and method.  A device with commands takes only these, each with the methods it
allows; a device without takes every command.
-/

namespace CommandRelay

/-- Where a command goes on the internal bus. -/
structure Route where
  service : String
  topic : String
  deriving DecidableEq, Repr

/-- The devices that the relay knows, in the order in which they were given. -/
abbrev Catalogue := List Device

namespace Catalogue

/-- The device with a name to which commands are routed: the last one that was given. -/
def routed? (devices : Catalogue) (name : String) : Option Device :=
  devices.reverse.find? (·.name == name)

/-- The internal topic of a command. -/
def requestTopic (base : String) (service device command : String) (method : Method) : String :=
  Topic.join [base, service, device, command, method.word]

/-- Whether a device takes a command with a method. -/
def permit (d : Device) (command : String) (method : Method) : Except Fault Unit :=
  if d.commands.isEmpty then .ok ()
  else match d.command? command with
    | none => .error (.unknownCommand command d.name)
    | some c =>
      if c.supports method then .ok () else .error (.unsupportedMethod command d.name method)

/-- Routes a command to the service of its device. -/
def resolve (devices : Catalogue) (base device command : String) (method : Method) :
    Except Fault Route :=
  match devices.routed? device with
  | none => .error (.unknownDevice device)
  | some d => do
    permit d command method
    .ok { service := d.service, topic := requestTopic base d.service device command method }

end Catalogue

end CommandRelay
