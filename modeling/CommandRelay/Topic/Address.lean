import CommandRelay.Fault
import CommandRelay.Topic.Level

/-!
# Addresses in topics

A command topic ends in the levels of device, command and method, whatever stands before them; its
reply goes to the same three levels under the response prefix.  A query topic ends in the name of a
device, or in `all` for the whole catalogue.
-/

namespace CommandRelay.Topic

/-- What a command topic addresses, as it is spelled. -/
structure Address where
  device : String
  command : String
  method : String
  deriving DecidableEq, Repr

/-- The name that stands for the whole catalogue. -/
def allDevices : String := "all"

/-- The last three levels of a command topic. -/
def address (topic : String) : Except Fault Address :=
  match (levels topic).reverse with
  | method :: command :: device :: _ => .ok { device, command, method }
  | short => .error (.tooFewLevels topic short.length)

/-- The topic of the reply to a command. -/
def reply (responsePrefix : String) (a : Address) : String :=
  ofLevels [String.ofList (trimSlashesEnd responsePrefix.toList), a.device, a.command, a.method]

/-- The device that a query topic names; `all` counts in any case. -/
def queriedDevice (topic : String) : String :=
  let device := (levels topic).getLastD ""
  if Text.equalIgnoringCase device allDevices then allDevices else device

end CommandRelay.Topic
