import CommandRelay.Toml.Scalar
import CommandRelay.Toml.Table

/-!
# Reading TOML documents

A document is read line by line into statements, from which its tables are built.  Lists may run
over several lines and hold comments, tables between braces may not.  Nesting is limited.
-/

namespace CommandRelay.Toml

/-- Skips a comment up to the end of its line. -/
def skipComment : List Char → Option (List Char)
  | '#' :: rest =>
    let rest := rest.dropWhile isPlain
    match rest with
    | [] => some []
    | c :: _ => if c == '\n' || c == '\r' then some rest else none
  | cs => some cs

/-- Skips spaces, line ends and comments; `fuel` bounds the number of lines. -/
def skipLines (fuel : Nat) (cs : List Char) : Option (List Char) :=
  match fuel with
  | 0 => none
  | fuel + 1 =>
    match skipBlanks cs with
    | '#' :: rest => (skipComment ('#' :: rest)).bind (skipLines fuel)
    | rest => some rest

/-- Skips spaces and line ends between the items of a list. -/
def between (cs : List Char) : Option (List Char) := skipLines (cs.length + 1) cs

mutual

/-- A value, with room for less than `room` levels of nesting below it. -/
def value? (fuel room : Nat) (cs : List Char) : Option (Node × List Char) :=
  match fuel, cs with
  | 0, _ => none
  | fuel + 1, '[' :: rest =>
    if room ≤ 1 then none
    else do
      let (items, rest) ← items? fuel (room - 1) (← between rest)
      some (.list items, rest)
  | fuel + 1, '{' :: rest =>
    if room ≤ 1 then none
    else
      match skipGap rest with
      | '}' :: rest => some (.inline false [], rest)
      | rest => do
        let (pairs, rest) ← pairs? fuel (room - 1) rest
        some (← inlineTable pairs, rest)
  | _, cs => (scalar? cs).map fun (v, rest) => (.leaf v, rest)

/-- The items of a list up to its closing bracket; a comma may stand behind the last. -/
def items? (fuel room : Nat) (cs : List Char) : Option (List Node × List Char) :=
  match fuel, cs with
  | 0, _ => none
  | _, ']' :: rest => some ([], rest)
  | fuel + 1, cs => do
    let (v, rest) ← value? fuel room cs
    match ← between rest with
    | ',' :: rest =>
      let (vs, rest) ← items? fuel room (← between rest)
      some (v :: vs, rest)
    | ']' :: rest => some ([v], rest)
    | _ => none

/-- The keys and values of a table up to its closing brace. -/
def pairs? (fuel room : Nat) (cs : List Char) : Option (List (List String × Node) × List Char) :=
  match fuel with
  | 0 => none
  | fuel + 1 => do
    let (path, rest) ← key? cs
    let rest ← expect? '=' rest
    let (v, rest) ← value? fuel room (skipGap rest)
    match skipGap rest with
    | ',' :: rest =>
      let (ps, rest) ← pairs? fuel room rest
      some ((path, v) :: ps, rest)
    | '}' :: rest => some ([(path, v)], rest)
    | _ => none

end

/-- The end of a line that has said something: a comment may stand before it. -/
def lineRest? (cs : List Char) : Option (List Char) :=
  match skipComment (skipGap cs) with
  | some [] => some []
  | some rest => lineEnd? rest
  | none => none

/-- A statement at the start of a line, and the next line. -/
def statement? (cs : List Char) : Option (Statement × List Char) :=
  match cs with
  | '[' :: '[' :: rest => do
    let (path, rest) ← key? rest
    let rest ← lineRest? (← word? [']', ']'] rest)
    some (.element path, rest)
  | '[' :: rest => do
    let (path, rest) ← key? rest
    let rest ← lineRest? (← expect? ']' rest)
    some (.header path, rest)
  | cs => do
    let (path, rest) ← key? cs
    let rest ← expect? '=' rest
    let (v, rest) ← value? (rest.length + 1) depthLimit (skipGap rest)
    some (.pair path v, ← lineRest? rest)

/-- The statements of a document; `fuel` bounds the number of lines. -/
def statements? (fuel : Nat) (cs : List Char) : Option (List Statement) :=
  match fuel with
  | 0 => none
  | fuel + 1 =>
    match skipGap cs with
    | [] => some []
    | '#' :: rest =>
      match skipComment ('#' :: rest) with
      | some [] => some []
      | some rest => (lineEnd? rest).bind (statements? fuel)
      | none => none
    | c :: rest =>
      match lineEnd? (c :: rest) with
      | some rest => statements? fuel rest
      | none => do
        let (s, rest) ← statement? (c :: rest)
        let more ← statements? fuel rest
        some (s :: more)

/-- The document that a text spells; a byte order mark may stand before it. -/
def ofText? (s : String) : Option Toml := do
  let cs := match s.toList with
    | '\uFEFF' :: rest => rest
    | cs => cs
  ofStatements? (← statements? (cs.length + 1) cs)

end CommandRelay.Toml
