import CommandRelay.Text.Digits
import CommandRelay.Toml.Value

/-!
# Writing TOML documents

The fields of a table that are no tables come first, one on a line; then come its tables and its
lists of tables, each under a header of its own.  All texts are basic ones.
-/

namespace CommandRelay.Toml

/-- A hexadecimal number in eight digits. -/
def eightDigits (n : Nat) : List Char :=
  let ds := Text.hexadecimal n
  List.replicate (8 - ds.length) '0' ++ ds

/-- A character inside a basic text. -/
def printChar (c : Char) : List Char :=
  if c = '\"' then ['\\', '\"']
  else if c = '\\' then ['\\', '\\']
  else if c = '\n' then ['\\', 'n']
  else if c = '\r' then ['\\', 'r']
  else if c.toNat < 0x20 ∨ c.toNat = 0x7F then '\\' :: 'U' :: eightDigits c.toNat
  else [c]

/-- A basic text. -/
def printText (s : String) : List Char :=
  '\"' :: s.toList.flatMap printChar ++ ['\"']

/-- Whether a value gets a header: it is a table, or a list of tables that is not empty. -/
def hasHeader : Toml → Bool
  | .table _ => true
  | .list (.table fields :: items) => (Toml.table fields :: items).all fun
    | .table _ => true
    | _ => false
  | _ => false

mutual

/-- A value on one line. -/
def inline : Toml → List Char
  | .text s => printText s
  | .int n => Text.decimalInt n
  | .float => ['n', 'a', 'n']
  | .bool true => ['t', 'r', 'u', 'e']
  | .bool false => ['f', 'a', 'l', 's', 'e']
  | .date spelling => spelling.toList
  | .list items => '[' :: inlineItems items
  | .table fields => '\x7b' :: inlineFields fields

/-- The items of a list on one line, up to the closing bracket. -/
def inlineItems : List Toml → List Char
  | [] => [']']
  | v :: vs => inline v ++ ',' :: inlineItems vs

/-- The fields of a table on one line, up to the closing brace. -/
def inlineFields : List (String × Toml) → List Char
  | [] => ['\x7d']
  | [(k, v)] => printText k ++ '=' :: inline v ++ ['\x7d']
  | (k, v) :: fields => printText k ++ '=' :: inline v ++ ',' :: inlineFields fields

end

/-- A path of keys. -/
def printPath : List String → List Char
  | [] => []
  | [k] => printText k
  | k :: ks => printText k ++ '.' :: printPath ks

/-- The lines of the fields that get no header. -/
def plainLines : List (String × Toml) → List Char
  | [] => []
  | (k, v) :: fields =>
    (if hasHeader v then [] else printText k ++ [' ', '=', ' '] ++ inline v ++ ['\n']) ++
      plainLines fields

mutual

/-- The lines of a value that gets a header. -/
def printUnder (path : List String) : Toml → List Char
  | .table fields =>
    '\n' :: '[' :: printPath path ++ [']', '\n'] ++ plainLines fields ++ printTables path fields
  | .list items => printElements path items
  | _ => []

/-- The lines of the elements of a list of tables. -/
def printElements (path : List String) : List Toml → List Char
  | [] => []
  | .table fields :: items =>
    '\n' :: '[' :: '[' :: printPath path ++ [']', ']', '\n'] ++ plainLines fields ++
      printTables path fields ++ printElements path items
  | _ :: items => printElements path items

/-- The lines of those fields of a table that get headers. -/
def printTables (path : List String) : List (String × Toml) → List Char
  | [] => []
  | (k, v) :: fields =>
    (if hasHeader v then printUnder (path ++ [k]) v else []) ++ printTables path fields

end

/-- The text of a document. -/
def render : Toml → String
  | .table fields => String.ofList (plainLines fields ++ printTables [] fields)
  | v => String.ofList (inline v)

end CommandRelay.Toml
