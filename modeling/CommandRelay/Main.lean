import CommandRelay.Launch.Start
import CommandRelay.Text.Uuid

/-!
# The program

The outermost layer: it looks up the arguments, the environment and the configuration file, does
what the library decides, and writes the log to standard output.  It has no network of its own, so
a relay that runs finds no broker and goes on trying.
-/

namespace CommandRelay.Main

open Launch Storage

/-- What the decoders of this program say. -/
def wording : Wording where
  envelope _ := "the octets are not an envelope"
  configuration _ := "the text is not a configuration"
  integer := "an integer is out of range"

/-- The environment variables that are looked at. -/
def variableNames : List String :=
  ["HOME", "USERPROFILE", "RUST_LOG", "CMDBRIDGE_LOG_FORMAT", "CMDBRIDGE_EXTERNAL_HOST",
   "CMDBRIDGE_EXTERNAL_PORT", "CMDBRIDGE_BUS_HOST", "CMDBRIDGE_BUS_PORT",
   "CMDBRIDGE_REQUEST_TIMEOUT_MS"]

/-- Looks the environment variables up. -/
def environment : IO Config.Variables := do
  let found ← variableNames.mapM fun name => return (name, ← IO.getEnv name)
  return fun name => ((found.find? (·.1 == name)).bind (·.2))

/-- The text of a place. -/
def placeText (place : List String) : String := "/" ++ "/".intercalate place

/-- What is at a place. -/
def probe (place : List String) : IO (Option Entry) := do
  try
    let content ← IO.FS.readBinFile (placeText place)
    return some (.file 0o600 content.toList)
  catch
    | .noFileOrDirectory _ _ _ => return none
    | _ => return some (.directory 0o700)

/-- What is there along the names of a path. -/
def snapshot (path : String) : IO FileSystem := do
  let p := Path.ofText path
  let current := (Path.ofText (← IO.currentDir).toString).names
  let mut place := if p.start = .root then [] else current
  let mut entries := []
  for name in p.names do
    place := if name = ".." then place.dropLast else place ++ [name]
    if let some e ← probe place then
      entries := (place, e) :: entries
  return { current, entries }

/-- The access rights that a mode gives to the owner alone. -/
def ownerRights (mode : Nat) : IO.FileRight :=
  ⟨⟨(mode / 0o400) % 2 = 1, (mode / 0o200) % 2 = 1, (mode / 0o100) % 2 = 1⟩, {}, {}⟩

/-- Makes the entries that the library has put into a file system. -/
def persist (before after : FileSystem) : IO Unit := do
  for (place, e) in after.entries.reverse do
    unless before.entries.contains (place, e) do
      match e with
      | .directory mode =>
        IO.FS.createDirAll (placeText place)
        IO.setAccessRights (placeText place) (ownerRights mode)
      | .file mode content =>
        IO.FS.writeBinFile (placeText place) ⟨content.toArray⟩
        IO.setAccessRights (placeText place) (ownerRights mode)

/-- Writes lines of the log that the filter shows. -/
def report (f : Filter) (vars : Config.Variables) (lines : List Line) : IO Unit := do
  for l in lines do
    if f.shows l.target l.event then
      IO.println (if logsJson vars then l.toJson.render else l.toText)
  (← IO.getStdout).flush

/-- Lets the relay run, a second at a time. -/
partial def keepRunning (f : Filter) (vars : Config.Variables) (s : Daemon.State) : IO Unit := do
  report f vars (s.world.log.map daemonLine)
  IO.sleep 1000
  keepRunning f vars (s.step (.advance (.ofMillis 1000))).2

/-- Runs the relay. -/
def serve (f : Filter) (vars : Config.Variables) (c : Config) : IO UInt32 := do
  let seed ← IO.rand 0 0x3FFFFFFFFFFFFFFF
  match Daemon.State.start c false (Uuid.nth seed) wording with
  | .error e =>
    report f vars [mainLine (.failed "command bridge failed" [faultDetail e])]
    return 1
  | .ok s =>
    report f vars [startingLine c]
    keepRunning f vars s
    return 0

/-- The text that is shown for help. -/
def helpText : String :=
  "Usage: cmdbridge [--config <FILE>] [--check | --init]\n\n" ++
  "  -c, --config <FILE>  configuration file\n" ++
  "      --check          validate the configuration and exit\n" ++
  "      --init           write a default configuration file and exit\n" ++
  "  -h, --help           show this text\n" ++
  "  -V, --version        show the version"

/-- Does what arguments ask for. -/
def perform (args : List String) : IO UInt32 := do
  match Arguments.read args with
  | .error .help =>
    IO.println helpText
    return 0
  | .error .version =>
    IO.println versionText
    return 0
  | .error .usage =>
    IO.eprintln helpText
    return 2
  | .ok a =>
    let vars ← environment
    match Launch.filter vars with
    | .error _ => return UInt32.ofNat abortCode
    | .ok f =>
      let files ← snapshot (a.config.getD (defaultPath vars))
      let s := start a vars files wording
      persist files s.files
      report f vars s.log
      match s.next with
      | .exit code => return UInt32.ofNat code
      | .run c => serve f vars c

end CommandRelay.Main

/-- The program. -/
def main (args : List String) : IO UInt32 := CommandRelay.Main.perform args
