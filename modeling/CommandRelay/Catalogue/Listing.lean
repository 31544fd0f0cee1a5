import CommandRelay.Catalogue.Paging
import CommandRelay.Catalogue.Routing
import CommandRelay.Topic.Address

/-!
# Listing the catalogue

A query is answered with the commands of one device, or with those of a page of all devices.
-/

namespace CommandRelay.Catalogue

/-- The path under which a command of a device is found. -/
def commandPath (device command : String) : String :=
  s!"/api/{Envelope.currentVersion}/device/name/{device}/{command}"

/-- A command as it is listed. -/
def listedCommand (device : String) (c : Command) : Json :=
  .object [("name", .text c.name), ("get", .bool c.get), ("set", .bool c.set),
    ("path", .text (commandPath device c.name))]

/-- A device as it is listed. -/
def listedDevice (d : Device) : Json :=
  .object [("deviceName", .text d.name), ("profileName", .text d.profile),
    ("coreCommands", .list (d.commands.map (listedCommand d.name)))]

/-- The device with a name that is listed: the first one that was given. -/
def listed? (devices : Catalogue) (name : String) : Option Device :=
  devices.find? (·.name == name)

/-- The listing of one device. -/
def deviceListing (d : Device) : Json :=
  .object [("apiVersion", .text Envelope.currentVersion), ("statusCode", .ofNat 200),
    ("deviceCoreCommand", listedDevice d)]

/-- The listing of a page of all devices. -/
def pageListing (devices : Catalogue) (p : Paging.Page) : Json :=
  .object [("apiVersion", .text Envelope.currentVersion), ("statusCode", .ofNat 200),
    ("totalCount", .ofNat devices.length),
    ("deviceCoreCommands", .list ((p.of devices).map listedDevice))]

/-- The listing that a query asks for. -/
def listing (devices : Catalogue) (params : Params) (device : String) : Except Fault Json :=
  if device = Topic.allDevices then
    (Paging.page params).map devices.pageListing
  else match devices.listed? device with
    | some d => .ok (deviceListing d)
    | none => .error (.unknownDevice device)

/-- Answers a query. -/
def query (devices : Catalogue) (request : Envelope) (device : String) : Except Fault Envelope :=
  (devices.listing request.queryParams device).map fun body =>
    request.response body.toOctets Envelope.jsonContent

end CommandRelay.Catalogue
