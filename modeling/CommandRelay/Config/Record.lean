import CommandRelay.Config.Basic
import CommandRelay.Text.Digits
import CommandRelay.Text.Quoted
import CommandRelay.Toml.Value

/-!
# Configurations as data

A configuration is read from a table in which every field may be missing, and written to one in
which only empty names, passwords and topics are.  The fields of a connection stand beside the
other fields of their link.
-/

namespace CommandRelay.Config

/-! ## Reading -/

/-- Reads a natural number that fits 16 bits. -/
def readUInt16 (d : Datum) : Reading UInt16 := (d.readNat UInt16.size).map UInt16.ofNat

/-- Reads a natural number that fits 64 bits. -/
def readUInt64 (d : Datum) : Reading UInt64 := (d.readNat UInt64.size).map UInt64.ofNat

namespace Connection

/-- The fields of a connection. -/
def fields : List (Datum.FieldReader Connection) :=
  [⟨"host", fun c d => return { c with host := ← d.readText }⟩,
   ⟨"port", fun c d => return { c with port := ← readUInt16 d }⟩,
   ⟨"client_id", fun c d => return { c with clientId := ← d.readText }⟩,
   ⟨"keep_alive_secs", fun c d => return { c with keepAliveSecs := ← readUInt64 d }⟩,
   ⟨"username", fun c d => return { c with username := ← d.readText }⟩,
   ⟨"password", fun c d => return { c with password := ← d.readText }⟩]

/-- Reads a connection on its own. -/
def read (d : Datum) : Reading Connection := d.readRecord false fields {}

end Connection

/-- Reads a topic map. -/
def readTopics (d : Datum) : Reading TopicMap := TopicMap.ofList <$> d.readTextFields

/-- The fields of the external link beside those of its connection. -/
def externalFields : List (Datum.FieldReader External) :=
  [⟨"qos", fun x d => return { x with qos := ← Qos.read d }⟩,
   ⟨"retain", fun x d => return { x with retain := ← d.readBool }⟩,
   ⟨"fallback_topic", fun x d => return { x with fallbackTopic := some (← d.readText) }⟩,
   ⟨"topics", fun x d => return { x with topics := ← readTopics d }⟩]

/-- Reads the external link; the fields of its connection are looked at last. -/
def readExternal : Datum → Reading External
  | .table fields => do
    let x ← Datum.readTable externalFields [] {} fields
    let connection ← Datum.readTable Connection.fields [] {} fields
    return { x with connection }
  | _ => .error .shape

/-- The fields of the internal link beside those of its connection. -/
def internalFields : List (Datum.FieldReader Internal) :=
  [⟨"qos", fun x d => return { x with qos := ← Qos.read d }⟩,
   ⟨"topics", fun x d => return { x with topics := ← readTopics d }⟩]

/-- Reads the internal link; the fields of its connection are looked at last. -/
def readInternal : Datum → Reading Internal
  | .table fields => do
    let x ← Datum.readTable internalFields [] {} fields
    let connection ← Datum.readTable Connection.fields [] {} fields
    return { x with connection }
  | _ => .error .shape

/-- The fields of a configuration. -/
def fields : List (Datum.FieldReader Config) :=
  [⟨"request_timeout_ms", fun c d => return { c with requestTimeoutMs := ← readUInt64 d }⟩,
   ⟨"external_mqtt", fun c d => return { c with external := ← readExternal d }⟩,
   ⟨"message_bus", fun c d => return { c with internal := ← readInternal d }⟩,
   ⟨"devices", fun c d => return { c with devices := ← d.readList (Device.read true) }⟩]

/-- Reads a configuration. -/
def read (d : Datum) : Reading Config := d.readRecord true fields {}

/-! ## Writing -/

/-- A text field, left out if it is empty. -/
def optionalText (name text : String) : List (String × Toml) :=
  if text = "" then [] else [(name, .text text)]

/-- The fields of a written connection. -/
def Connection.written (c : Connection) : List (String × Toml) :=
  [("host", .text c.host), ("port", .int c.port.toNat)] ++ optionalText "client_id" c.clientId ++
    [("keep_alive_secs", .int c.keepAliveSecs.toNat)] ++ optionalText "username" c.username ++
    optionalText "password" c.password

/-- A written topic map. -/
def writtenTopics (topics : TopicMap) : Toml :=
  .table (topics.entries.map fun (k, v) => (k, .text v))

/-- The written external link. -/
def External.written (x : External) : Toml :=
  .table (x.connection.written ++ [("qos", .int x.qos.level), ("retain", .bool x.retain)] ++
    (match x.fallbackTopic with
      | some t => [("fallback_topic", .text t)]
      | none => []) ++
    [("topics", writtenTopics x.topics)])

/-- The written internal link. -/
def Internal.written (x : Internal) : Toml :=
  .table (x.connection.written ++ [("qos", .int x.qos.level), ("topics", writtenTopics x.topics)])

/-- A written command. -/
def writtenCommand (c : Command) : Toml :=
  .table [("name", .text c.name), ("get", .bool c.get), ("set", .bool c.set)]

/-- A written device. -/
def writtenDevice (d : Device) : Toml :=
  .table [("name", .text d.name), ("service", .text d.service), ("profile", .text d.profile),
    ("commands", .list (d.commands.map writtenCommand))]

/-- The written configuration. -/
def written (c : Config) : Toml :=
  .table [("request_timeout_ms", .int c.requestTimeoutMs.toNat),
    ("external_mqtt", c.external.written), ("message_bus", c.internal.written),
    ("devices", .list (c.devices.map writtenDevice))]

/-- Whether all integers of a configuration fit TOML, which has a sign bit. -/
def writable (c : Config) : Bool :=
  Text.FitsSigned c.requestTimeoutMs.toNat &&
    Text.FitsSigned c.external.connection.keepAliveSecs.toNat &&
    Text.FitsSigned c.internal.connection.keepAliveSecs.toNat

/-- A configuration as a TOML document. -/
def toToml (c : Config) (words : Wording) : Except Fault Toml :=
  if c.writable then .ok c.written else .error (.configNotSerialized words.integer)

/-- A connection for inspection: its password is not shown. -/
def Connection.inspect (c : Connection) : String :=
  let number (n : Nat) := String.ofList (Text.decimal n)
  let password := if c.password = "" then "<not set>" else "<redacted>"
  "ConnectionConfig \x7b host: " ++ Text.quote c.host ++ ", port: " ++ number c.port.toNat ++
    ", client_id: " ++ Text.quote c.clientId ++ ", keep_alive_secs: " ++
    number c.keepAliveSecs.toNat ++ ", username: " ++ Text.quote c.username ++ ", password: " ++
    Text.quote password ++ " \x7d"

end CommandRelay.Config
