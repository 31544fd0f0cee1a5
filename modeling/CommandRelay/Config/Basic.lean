import CommandRelay.Catalogue.Device
import CommandRelay.Relay.Settings
import CommandRelay.Text.Blank

/-!
# Configuration

What the relay is set up with: how to reach the two brokers, the topics on both sides, how long a
command may take, and the catalogue of devices.  Whatever a configuration leaves out has a default.
-/

namespace CommandRelay

namespace Config

/-- How to reach a broker. -/
structure Connection where
  host : String := "localhost"
  port : UInt16 := 1883
  /-- The name of the client; a blank one is replaced when the client connects. -/
  clientId : String := ""
  keepAliveSecs : UInt64 := 30
  username : String := ""
  password : String := ""
  deriving DecidableEq

/-- The topics on the external side. -/
def defaultExternalTopics : TopicMap :=
  .ofList
    [(Keys.commandRequest, "edgex/command/request/#"),
     (Keys.queryRequest, "edgex/commandquery/request/#"),
     (Keys.commandResponse, "edgex/command/response"),
     (Keys.queryResponse, "edgex/commandquery/response")]

/-- The topics on the internal side. -/
def defaultInternalTopics : TopicMap :=
  .ofList
    [(Keys.deviceRequest, "edgex/device/command/request"),
     (Keys.commandResponse, "edgex/response")]

/-- The broker that clients talk to. -/
structure External where
  connection : Connection := {}
  qos : Qos := .atMostOnce
  retain : Bool := false
  fallbackTopic : Option String := none
  topics : TopicMap := defaultExternalTopics
  deriving DecidableEq

/-- The broker of the internal bus. -/
structure Internal where
  connection : Connection := {}
  qos : Qos := .atMostOnce
  topics : TopicMap := defaultInternalTopics
  deriving DecidableEq

end Config

/-- A configuration. -/
structure Config where
  requestTimeoutMs : UInt64 := 5000
  external : Config.External := {}
  internal : Config.Internal := {}
  devices : List Device := []
  deriving DecidableEq, Inhabited

namespace Config

/-- How long a command may take. -/
def requestTimeout (c : Config) : Duration := .ofMillis c.requestTimeoutMs.toNat

/-- The first device name that is given to an earlier device as well. -/
def repeated? (seen : List String) : List Device → Option String
  | [] => none
  | d :: ds => if d.name ∈ seen then some d.name else repeated? (d.name :: seen) ds

/-- Checks a connection. -/
def checkConnection (table : String) (c : Connection) : Except Fault Unit :=
  if Text.allBlank c.host then .error (.blankHost table)
  else if c.port = 0 then .error (.zeroPort table)
  else .ok ()

/-- Refuses a configuration that the relay can not run with.  Missing topics are no reason: they are
reported for each message that needs one. -/
def check (c : Config) : Except Fault Unit := do
  if c.requestTimeoutMs = 0 then throw .zeroTimeout
  checkConnection "external_mqtt" c.external.connection
  checkConnection "message_bus" c.internal.connection
  match repeated? [] c.devices with
  | some name => throw (.duplicateDevice name)
  | none => return ()

/-- The settings of the relay. -/
def settings (c : Config) : Relay.Settings :=
  { externalTopics := c.external.topics
    internalTopics := c.internal.topics
    delivery := { qos := c.external.qos, retain := c.external.retain }
    requestTimeout := c.requestTimeout
    fallbackTopic := c.external.fallbackTopic }

end Config

end CommandRelay
