/-!
# Command line arguments

The program takes the path of a configuration file and two flags, `--check` and `--init`, which
exclude each other.  Each may be given once.  A request for help or for the version counts as soon
as it is read; anything unknown is refused as soon as it is read.
-/

namespace CommandRelay.Launch

/-- What the arguments ask for. -/
structure Arguments where
  config : Option String := none
  check : Bool := false
  init : Bool := false
  deriving DecidableEq, Repr

/-- Why the arguments lead to no run. -/
inductive Stop where
  | help
  | version
  /-- The arguments are wrong. -/
  | usage
  deriving DecidableEq, Repr

namespace Arguments

/-- Takes the path of the configuration; it may not be empty, nor given twice. -/
def takeConfig (a : Arguments) (path : String) : Except Stop Arguments :=
  if path = "" ∨ a.config.isSome then .error .usage else .ok { a with config := some path }

/-- Takes a flag. -/
def takeFlag (a : Arguments) : String → Except Stop Arguments
  | "--check" => if a.check then .error .usage else .ok { a with check := true }
  | "--init" => if a.init then .error .usage else .ok { a with init := true }
  | "--help" => .error .help
  | "--version" => .error .version
  | _ => .error .usage

/-- Whether an argument can not be the value of an option. -/
def isOption (s : String) : Bool :=
  match s.toList with
  | '-' :: _ :: _ => true
  | _ => false

/-- What stands behind `start` in an argument. -/
def behind? (start : String) (s : String) : Option String :=
  if start.toList.isPrefixOf s.toList then some (String.ofList (s.toList.drop start.length))
  else none

/-- The value that is attached to a short option; an equals sign may stand before it. -/
def attached (cs : List Char) : String :=
  match cs with
  | '=' :: rest => String.ofList rest
  | cs => String.ofList cs

/-- Reads arguments one after the other. -/
def readFrom (a : Arguments) : List String → Except Stop Arguments
  | [] => .ok a
  | "--" :: rest => if rest.isEmpty then .ok a else .error .usage
  | "--config" :: rest | "-c" :: rest =>
    match rest with
    | value :: rest =>
      if isOption value then .error .usage
      else do readFrom (← a.takeConfig value) rest
    | [] => .error .usage
  | s :: rest =>
    match behind? "--config=" s with
    | some value => do readFrom (← a.takeConfig value) rest
    | none =>
      match s.toList with
      | '-' :: 'c' :: value => do readFrom (← a.takeConfig (attached value)) rest
      | '-' :: 'h' :: _ => .error .help
      | '-' :: 'V' :: _ => .error .version
      | _ => do readFrom (← a.takeFlag s) rest

/-- Reads all arguments. -/
def read (args : List String) : Except Stop Arguments := do
  let a ← readFrom {} args
  if a.check && a.init then .error .usage else .ok a

end Arguments

end CommandRelay.Launch
