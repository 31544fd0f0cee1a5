import CommandRelay.Text.Blank
import CommandRelay.Text.Split

/-!
# Paths

A path starts at the root or at the current directory and goes through names.  Slashes in a row
count as one, and a point that names the directory itself counts only at the very start; but a path
that ends with either of them can only lead to a directory.  How long a path may be is said of its
text, with all that does not count.
-/

namespace CommandRelay.Storage

/-- Where a path starts. -/
inductive Start where
  /-- At the root. -/
  | root
  /-- At the current directory, which is written as a point. -/
  | here
  /-- At the current directory, which is not written. -/
  | plain
  deriving DecidableEq, Repr

/-- A path. -/
structure Path where
  start : Start
  names : List String
  /-- Whether its end says that it leads to a directory. -/
  asDirectory : Bool
  /-- How it is written. -/
  text : String
  deriving DecidableEq, Repr

namespace Path

/-- Whether a part of the text of a path is a name. -/
def isName (part : List Char) : Bool := part ≠ [] ∧ part ≠ ['.']

/-- The path that a text spells. -/
def ofText (s : String) : Path :=
  let ps := Text.split '/' s.toList
  let names := (ps.filter isName).map String.ofList
  let asDirectory := ps.getLast? = some [] ∨ ps.getLast? = some ['.']
  let start : Start := match s.toList with
    | '/' :: _ => .root
    | _ => if ps.head? = some ['.'] then .here else .plain
  { start, names, asDirectory, text := s }

/-- Whether a path is the empty one. -/
def isEmpty (p : Path) : Bool := p.start == .plain && p.names.isEmpty

/-- The parts of a text up to the last name. -/
def upToName (parts : List (List Char)) : List (List Char) :=
  Text.dropEndWhile (fun part => !isName part) parts

/-- The text of a path up to the name before its last one, or else the slash or the point that it
starts with. -/
def parentText (p : Path) : String :=
  let parts := upToName (upToName (Text.split '/' p.text.toList)).dropLast
  if parts = [] then String.ofList (p.text.toList.take (if p.start = .plain then 0 else 1))
  else String.ofList (Text.unsplit '/' parts)

/-- The directory that a path lies in; the root lies in none, and nor does the empty path. -/
def parent? (p : Path) : Option Path :=
  if p.names = [] then
    match p.start with
    | .here => some { start := .plain, names := [], asDirectory := false, text := "" }
    | .root | .plain => none
  else some
    { start := p.start, names := p.names.dropLast, asDirectory := false, text := p.parentText }

/-- How many times a path has a parent. -/
def depth (p : Path) : Nat := p.names.length + if p.start = .here then 1 else 0

theorem depth_parent {p q : Path} (h : p.parent? = some q) : q.depth < p.depth := by
  obtain ⟨start, names, asDirectory, text⟩ := p
  simp only [parent?] at h
  split at h
  · rename_i hn
    cases start <;> simp_all [depth]
    subst h
    decide
  · rename_i hn
    cases h
    have : 0 < names.length := List.length_pos_iff.2 hn
    simp only [depth, List.length_dropLast]
    omega

/-- The number of octets that a path is written in. -/
def size (p : Path) : Nat := p.text.utf8ByteSize

/-- The text of a directory and a name in it, with one slash between them. -/
def join (directory name : String) : String :=
  if directory = "" then name
  else if directory.toList.getLast? = some '/' then directory ++ name
  else directory ++ "/" ++ name

end Path

end CommandRelay.Storage
