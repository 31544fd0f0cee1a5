import CommandRelay.Storage.Path

/-!
# File systems

A tree of directories and files with their permissions, all of which belong to the user.  The root
and the current directory are always there.  A path is followed name by name, each looked up in a
directory that must be there, so two points lead up only from what is a directory.
-/

namespace CommandRelay.Storage

/-- What is found under a path. -/
inductive Entry where
  | file (mode : Nat) (content : List UInt8)
  | directory (mode : Nat)
  deriving DecidableEq, Repr

/-- Whether an entry is a directory. -/
def Entry.isDirectory : Entry → Bool
  | .directory _ => true
  | .file _ _ => false

/-- Why an operation fails. -/
inductive IoFault where
  | missing
  | alreadyThere
  | notDirectory
  | isDirectory
  | nameTooLong
  | notText
  deriving DecidableEq, Repr

/-- The text of a failure. -/
def IoFault.message : IoFault → String
  | .missing => "No such file or directory (os error 2)"
  | .alreadyThere => "File exists (os error 17)"
  | .notDirectory => "Not a directory (os error 20)"
  | .isDirectory => "Is a directory (os error 21)"
  | .nameTooLong => "File name too long (os error 36)"
  | .notText => "stream did not contain valid UTF-8"

/-- The greatest number of octets in a name. -/
def longestName : Nat := 255

/-- The greatest number of octets in a path. -/
def longestPath : Nat := 4095

/-- A file system: its entries under their names from the root on.  What lies above an entry or the
current directory is a directory. -/
structure FileSystem where
  current : List String := []
  entries : List (List String × Entry) := []
  deriving Repr

namespace FileSystem

/-- The entry at a place. -/
def entryAt? (fs : FileSystem) (place : List String) : Option Entry :=
  match fs.entries.find? (·.1 == place) with
  | some (_, e) => some e
  | none =>
    if (fs.current :: fs.entries.map (·.1)).any place.isPrefixOf then some (.directory 0o755)
    else none

/-- Follows names from a place.  The last one may lead to nothing; what comes before must be a
directory. -/
def follow (fs : FileSystem) (place : List String) : List String → Except IoFault (List String)
  | [] => .ok place
  | name :: names =>
    match fs.entryAt? place with
    | none => .error .missing
    | some (.file _ _) => .error .notDirectory
    | some (.directory _) =>
      if name = ".." then fs.follow place.dropLast names
      else if longestName < name.utf8ByteSize then .error .nameTooLong
      else fs.follow (place ++ [name]) names

/-- The place that a path leads to, whether anything is there or not; the empty path leads nowhere.
-/
def locate (fs : FileSystem) (p : Path) : Except IoFault (List String) :=
  if longestPath < p.size then .error .nameTooLong
  else if p.isEmpty then .error .missing
  else fs.follow (if p.start = .root then [] else fs.current) p.names

/-- The entry under a path. -/
def entry (fs : FileSystem) (p : Path) : Except IoFault Entry := do
  match fs.entryAt? (← fs.locate p) with
  | none => .error .missing
  | some e => if p.asDirectory && !e.isDirectory then .error .notDirectory else .ok e

/-- Whether a path leads to something. -/
def isThere (fs : FileSystem) (p : Path) : Bool := (fs.entry p).isOk

/-- Whether a path leads to a directory. -/
def isDirectory (fs : FileSystem) (p : Path) : Bool :=
  match fs.entry p with
  | .ok e => e.isDirectory
  | .error _ => false

/-- Puts an entry at a place. -/
def put (fs : FileSystem) (place : List String) (e : Entry) : FileSystem :=
  { fs with entries := (place, e) :: fs.entries.filter (·.1 != place) }

/-- Creates one directory. -/
def createDirectory (fs : FileSystem) (p : Path) : Except IoFault FileSystem := do
  let place ← fs.locate p
  match fs.entryAt? place with
  | some _ => .error .alreadyThere
  | none => .ok (fs.put place (.directory 0o755))

/-- Creates a directory unless it is there. -/
def ensureDirectory (fs : FileSystem) (p : Path) : Except IoFault FileSystem :=
  match fs.createDirectory p with
  | .ok fs => .ok fs
  | .error e => if fs.isDirectory p then .ok fs else .error e

/-- Creates a directory and those it lies in; the empty path is always there. -/
def createDirectories (fs : FileSystem) (p : Path) : Except IoFault FileSystem :=
  if p.isEmpty then .ok fs
  else match fs.createDirectory p with
    | .error .missing =>
      match h : p.parent? with
      | none => .error .missing
      | some parent =>
        have := Path.depth_parent h
        match fs.createDirectories parent with
        | .ok fs => fs.ensureDirectory p
        | .error e => .error e
    | _ => fs.ensureDirectory p
termination_by p.depth

/-- Sets the permissions of what is under a path. -/
def setMode (fs : FileSystem) (p : Path) (mode : Nat) : Except IoFault FileSystem := do
  let place ← fs.locate p
  match ← fs.entry p with
  | .file _ content => .ok (fs.put place (.file mode content))
  | .directory _ => .ok (fs.put place (.directory mode))

/-- The content of a file. -/
def read (fs : FileSystem) (p : Path) : Except IoFault (List UInt8) := do
  match ← fs.entry p with
  | .directory _ => .error .isDirectory
  | .file _ content => .ok content

/-- Writes a file in place of all it held; a new one gets the given permissions. -/
def write (fs : FileSystem) (p : Path) (mode : Nat) (content : List UInt8) :
    Except IoFault FileSystem := do
  let place ← fs.locate p
  if p.asDirectory then .error .isDirectory
  else match fs.entryAt? place with
    | some (.directory _) => .error .isDirectory
    | some (.file old _) => .ok (fs.put place (.file old content))
    | none => .ok (fs.put place (.file mode content))

end FileSystem

end CommandRelay.Storage
