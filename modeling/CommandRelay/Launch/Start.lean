import CommandRelay.Daemon.Run
import CommandRelay.Launch.Arguments
import CommandRelay.Launch.Filter

/-!
# Starting the program

The arguments decide what is done: a default configuration is written, a configuration is checked,
or the relay runs with it.  What is done is reported in the log; a failure ends with a code of its
own.
-/

namespace CommandRelay.Launch

open Storage

/-- The name and version of the program. -/
def versionText : String := "cmdbridge 0.1.0"

/-- A line of the log: the part of the program it comes from, and the event. -/
structure Line where
  target : String
  event : Event
  deriving DecidableEq, Repr

/-- A detail as JSON. -/
def detailJson : Detail → Json
  | .text s => .text s
  | .number n => .ofNat n
  | .fault f => .text f.message

/-- A line as JSON. -/
def Line.toJson (l : Line) : Json :=
  .object [("level", .text l.event.severity.word),
    ("fields", .object (("message", .text l.event.message) ::
      l.event.details.map fun (k, v) => (k, detailJson v))),
    ("target", .text l.target)]

/-- A line for people. -/
def Line.toText (l : Line) : String :=
  l.event.severity.word ++ " " ++ l.target ++ ": " ++ l.event.message ++
    String.join (l.event.details.map fun (k, v) => " " ++ k ++ "=" ++ v.toText)

/-- A line from the start of the program. -/
def mainLine (event : Event) : Line := { target := "cmdbridge", event }

/-- A line from the daemon. -/
def daemonLine (event : Event) : Line := { target := "cmdbridge::daemon", event }

/-- What is left to do after the start. -/
inductive Next where
  /-- Nothing: the program ends with a code. -/
  | exit (code : Nat)
  /-- The relay runs. -/
  | run (c : Config)

/-- What the start brought about. -/
structure Started where
  log : List Line
  files : FileSystem
  next : Next

/-- The detail that names a path. -/
def pathDetail (path : String) : String × Detail := ("path", .text path)

/-- The detail that gives a fault. -/
def faultDetail (f : Fault) : String × Detail := ("error", .fault f)

/-- The path of the configuration where the arguments name none: it is below the home directory. -/
def defaultPath (vars : Config.Variables) : String :=
  Config.pathIn (((vars "HOME").or (vars "USERPROFILE")).getD ".")

/-- Writes a default configuration where there is none. -/
def writeDefault (files : FileSystem) (path : String) (words : Wording) : Started :=
  if files.isThere (.ofText path) then
    { log := [mainLine (.failed "config file already exists, not overwriting" [pathDetail path])]
      files
      next := .exit 1 }
  else match (default : Config).saveTo files path words with
    | .ok files =>
      { log := [mainLine (.notice "wrote default configuration" [pathDetail path])]
        files
        next := .exit 0 }
    | .error f =>
      { log := [mainLine (.failed "could not write configuration" [faultDetail f])]
        files
        next := .exit 1 }

/-- The configuration to run with, and what the log says of it.  Without a file it is the default
one, with the values replaced that variables give. -/
def configuration (files : FileSystem) (path : String) (vars : Config.Variables)
    (words : Wording) : List Line × Option Config :=
  match Config.loadFrom files path vars words with
  | .ok (some c) => ([mainLine (.notice "configuration loaded" [pathDetail path])], some c)
  | .ok none =>
    let missing := mainLine
      (.warning "config file not found, using defaults" [pathDetail path])
    match (default : Config).effective vars with
    | .ok c => ([missing], some c)
    | .error f => ([missing, mainLine (.failed "invalid configuration" [faultDetail f])], none)
  | .error f =>
    ([mainLine (.failed "invalid configuration" [pathDetail path, faultDetail f])], none)

/-- Does what the arguments ask for, up to the run of the relay. -/
def start (a : Arguments) (vars : Config.Variables) (files : FileSystem) (words : Wording) :
    Started :=
  let path := a.config.getD (defaultPath vars)
  if a.init then writeDefault files path words
  else match configuration files path vars words with
    | (log, none) => { log, files, next := .exit 1 }
    | (log, some c) =>
      if a.check then
        let valid := mainLine
          (.notice "configuration is valid" [("devices", .number c.devices.length)])
        { log := log ++ [valid], files, next := .exit 0 }
      else { log, files, next := .run c }

/-- The address of a broker. -/
def address (c : Config.Connection) : String :=
  c.host ++ ":" ++ String.ofList (Text.decimal c.port.toNat)

/-- What the log says when the relay starts to run. -/
def startingLine (c : Config) : Line :=
  daemonLine (.notice "starting command bridge"
    [("external", .text (address c.external.connection)),
     ("message_bus", .text (address c.internal.connection)),
     ("devices", .number c.devices.length),
     ("timeout_ms", .number c.requestTimeoutMs.toNat)])

/-- What the log says of a request to disconnect that was refused. -/
def farewellLines (link : Daemon.Link) (name : String) : List Line :=
  if link.farewell = some .refused then
    [{ target := "cmdbridge_middleware::mqtt"
       event := .remark (name ++ " MQTT disconnect") [("error", .text Mqtt.refusal)] }]
  else []

/-- A run of the relay that is interrupted as soon as it has started: what the log says, and the
code it ends with. -/
def interrupted (c : Config) (fresh : Nat → String) (words : Wording) : List Line × Nat :=
  match Daemon.State.start c false fresh words with
  | .error f => ([mainLine (.failed "command bridge failed" [faultDetail f])], 1)
  | .ok s =>
    let (_, stopped) := s.step .shutdown
    (startingLine c :: s.world.log.map daemonLine ++ mainLine (.notice "shutdown requested" []) ::
      stopped.world.log.map daemonLine ++ farewellLines stopped.external "external" ++
      farewellLines stopped.internal "internal" ++
      [daemonLine (.notice "command bridge stopped" [])], 0)

/-- Whether the log is written as JSON. -/
def logsJson (vars : Config.Variables) : Bool :=
  (vars "CMDBRIDGE_LOG_FORMAT").any fun s => Text.equalIgnoringCase s "json"

/-- The filter of the log. -/
def filter (vars : Config.Variables) : Except Misread Filter :=
  Filter.ofText ((vars "RUST_LOG").getD "info")

/-- The code that the program ends with where its log can not be filtered. -/
def abortCode : Nat := 101

/-- What a whole run of the program brings about. -/
structure Outcome where
  exit : Nat
  version : Option String := none
  log : List Line := []
  files : FileSystem

/-- Runs the program; the relay is interrupted as soon as it has started. -/
def run (args : List String) (vars : Config.Variables) (files : FileSystem)
    (fresh : Nat → String) (words : Wording := {}) : Outcome :=
  match Arguments.read args with
  | .error .help => { exit := 0, files }
  | .error .version => { exit := 0, version := some versionText, files }
  | .error .usage => { exit := 2, files }
  | .ok a =>
    match filter vars with
    | .error _ => { exit := abortCode, files }
    | .ok f =>
      let s := start a vars files words
      let (log, exit) := match s.next with
        | .exit code => (s.log, code)
        | .run c =>
          let (log, code) := interrupted c fresh words
          (s.log ++ log, code)
      { exit, files := s.files, log := log.filter fun l => f.shows l.target l.event }

end CommandRelay.Launch
