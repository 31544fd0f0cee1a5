import CommandRelay.Config.Record
import CommandRelay.Storage.FileSystem
import CommandRelay.Toml.Document
import CommandRelay.Toml.Printer

/-!
# Loading and saving configurations

A configuration is loaded from a file, some of its values are replaced by variables of the
environment, and it is checked.  A missing file is no fault.  It is saved into a directory that only
its owner may look into, as a file that only its owner may read.
-/

namespace CommandRelay.Config

open Storage

/-- A look-up of variables. -/
abbrev Variables := String → Option String

/-- Reads a configuration from the text of a TOML document. -/
def ofText (s : String) (words : Wording) : Except Fault Config :=
  match Toml.ofText? s with
  | none => .error (.configMalformed (words.configuration s))
  | some t =>
    match read t.toDatum with
    | .ok c => .ok c
    | .error .shape => .error (.configMalformed (words.configuration s))
    | .error (.meaning f) => .error (.configRefused f (words.configuration s))

/-- The number below `limit` that a variable holds. -/
def number? (vars : Variables) (name : String) (limit : Nat) : Option Nat :=
  (vars name).bind fun s => Text.unsigned? limit s.toList

/-- A connection with its host and port replaced where variables give others. -/
def Connection.overridden (c : Connection) (host : Option String) (port : Option Nat) :
    Connection :=
  { c with host := host.getD c.host, port := (port.map UInt16.ofNat).getD c.port }

/-- A configuration with the values replaced that variables give.  A variable that holds no number
where one is due changes nothing. -/
def overridden (c : Config) (vars : Variables) : Config :=
  { c with
    requestTimeoutMs :=
      ((number? vars "CMDBRIDGE_REQUEST_TIMEOUT_MS" UInt64.size).map UInt64.ofNat).getD
        c.requestTimeoutMs
    external := { c.external with
      connection := c.external.connection.overridden (vars "CMDBRIDGE_EXTERNAL_HOST")
        (number? vars "CMDBRIDGE_EXTERNAL_PORT" UInt16.size) }
    internal := { c.internal with
      connection := c.internal.connection.overridden (vars "CMDBRIDGE_BUS_HOST")
        (number? vars "CMDBRIDGE_BUS_PORT" UInt16.size) } }

/-- A configuration with values replaced by variables, if it can be run with. -/
def effective (c : Config) (vars : Variables) : Except Fault Config := do
  let c := c.overridden vars
  c.check
  return c

/-- Loads the configuration from the content of a file. -/
def load (content : String) (vars : Variables) (words : Wording) : Except Fault Config := do
  (← ofText content words).effective vars

/-- Reads a file as text. -/
def readText (fs : FileSystem) (path : String) : Except Fault String :=
  match fs.read (.ofText path) with
  | .error e => .error (.configNotRead path e.message)
  | .ok bs =>
    match Utf8.decode? bs with
    | some s => .ok s
    | none => .error (.configNotRead path IoFault.notText.message)

/-- Loads the configuration under a path; there is none if nothing is there. -/
def loadFrom (fs : FileSystem) (path : String) (vars : Variables) (words : Wording := {}) :
    Except Fault (Option Config) :=
  if !fs.isThere (.ofText path) then .ok none
  else do
    let content ← readText fs path
    some <$> load content vars words

/-- Makes sure that the directory of a path is there and private to its owner. -/
def prepareDirectory (fs : FileSystem) (path : Path) : Except Fault FileSystem :=
  match path.parent? with
  | none => .ok fs
  | some parent =>
    match fs.createDirectories parent with
    | .error e => .error (.directoryNotCreated e.message)
    | .ok fs =>
      match fs.setMode parent 0o700 with
      | .error e => .error (.permissionsNotSet e.message)
      | .ok fs => .ok fs

/-- Saves a configuration under a path. -/
def saveTo (c : Config) (fs : FileSystem) (path : String) (words : Wording := {}) :
    Except Fault FileSystem := do
  let fs ← prepareDirectory fs (.ofText path)
  let document ← c.toToml words
  match fs.write (.ofText path) 0o600 (Utf8.encode document.render) with
  | .error e => .error (.configNotWritten path e.message)
  | .ok fs => .ok fs

/-- The path of the configuration below a home directory. -/
def pathIn (home : String) : String :=
  Path.join (Path.join home ".cmdbridge") "config.toml"

end CommandRelay.Config
