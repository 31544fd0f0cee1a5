import CommandRelay.Toml.Value

/-!
# Building tables

Tables come about in three ways: a header opens one, a header that names it as part of a longer path
implies one, and so does a key with points.  A table is opened once.  A header may open a table that
was only implied by other headers, which then stands behind all tables opened before; keys with
points may add to tables that keys with points implied, and to no others.
-/

namespace CommandRelay.Toml

/-- A value that is being built. -/
inductive Node where
  | leaf (v : Toml)
  | list (items : List Node)
  /-- A table between braces; `dotted` if a key with points implied it. -/
  | inline (dotted : Bool) (fields : List (String × Node))
  /-- A table; `implied` if nothing opened it so far. -/
  | table (implied dotted : Bool) (fields : List (String × Node))
  /-- Tables that a header adds to one by one. -/
  | tables (elements : List Node)

namespace Node

mutual

/-- The value that was built. -/
def value : Node → Toml
  | .leaf v => v
  | .list items => .list (values items)
  | .inline _ fields => .table (fieldValues fields)
  | .table _ _ fields => .table (fieldValues fields)
  | .tables elements => .list (values elements)

/-- The values of a list of nodes. -/
def values : List Node → List Toml
  | [] => []
  | n :: ns => n.value :: values ns

/-- The values of fields. -/
def fieldValues : List (String × Node) → List (String × Toml)
  | [] => []
  | (k, n) :: fields => (k, n.value) :: fieldValues fields

end

end Node

/-- Fields that are being built. -/
abbrev Fields := List (String × Node)

/-- The node under a key. -/
def Fields.find? (fields : Fields) (key : String) : Option Node := Json.field? fields key

/-- Puts a node under a key: in its place if the key is there, behind all others if not. -/
def Fields.put (fields : Fields) (key : String) (n : Node) : Fields :=
  if (fields.find? key).isSome then fields.map fun (k, m) => if k = key then (k, n) else (k, m)
  else fields ++ [(key, n)]

/-- Takes out what is under a key. -/
def Fields.erase (fields : Fields) (key : String) : Fields := fields.filter (·.1 != key)

/-- A new key for a table whose fields are `fields`.  A key with points must lead to a table that
keys with points implied; `dotted` tells whether it did. -/
def addKey (dotted viaPoints : Bool) (key : String) (n : Node) (fields : Fields) : Option Fields :=
  if dotted != viaPoints || (fields.find? key).isSome then none else some (fields ++ [(key, n)])

/-! ## Tables between braces -/

/-- Adds a value under a path of keys to a table between braces.  The way leads only through tables
that keys with points implied. -/
def addInline (n : Node) (viaPoints dotted : Bool) : List String → Fields → Option Fields
  | [], _ => none
  | [key], fields => addKey dotted viaPoints key n fields
  | k :: ks, fields =>
    match fields.find? k with
    | none => (addInline n true true ks []).map fun fs => fields ++ [(k, .inline true fs)]
    | some (.inline true fs) =>
      (addInline n true true ks fs).map fun fs => fields.put k (.inline true fs)
    | some _ => none

/-- The table between braces with the given keys and values. -/
def inlineTable (pairs : List (List String × Node)) : Option Node :=
  let fields? := pairs.foldlM (fun fields (path, n) => addInline n false false path fields) []
  fields?.map (.inline false)

/-! ## Documents -/

/-- Adds a value under a path of keys to the table that is open. -/
def addPair (n : Node) (viaPoints dotted : Bool) : List String → Fields → Option Fields
  | [], _ => none
  | [key], fields => addKey dotted viaPoints key n fields
  | k :: ks, fields =>
    match fields.find? k with
    | none => (addPair n true true ks []).map fun fs => fields ++ [(k, .table true true fs)]
    | some (.table implied d fs) =>
      if implied then (addPair n true d ks fs).map fun fs => fields.put k (.table implied d fs)
      else none
    | some (.tables elements) =>
      match elements.reverse with
      | .table implied d fs :: before =>
        (addPair n true d ks fs).map fun fs =>
          fields.put k (.tables (before.reverse ++ [.table implied d fs]))
      | _ => none
    | some _ => none

/-- Changes the table under a path of headers; missing ones are implied on the way. -/
def within (change : Fields → Option Fields) : List String → Fields → Option Fields
  | [], fields => change fields
  | k :: ks, fields =>
    match fields.find? k with
    | none => (within change ks []).map fun fs => fields ++ [(k, .table true false fs)]
    | some (.table implied d fs) =>
      (within change ks fs).map fun fs => fields.put k (.table implied d fs)
    | some (.tables elements) =>
      match elements.reverse with
      | .table implied d fs :: before =>
        (within change ks fs).map fun fs =>
          fields.put k (.tables (before.reverse ++ [.table implied d fs]))
      | _ => none
    | some _ => none

/-- The fields of the table under a path of headers. -/
def fieldsAt? : List String → Fields → Option Fields
  | [], fields => some fields
  | k :: ks, fields =>
    match fields.find? k with
    | some (.table _ _ fs) => fieldsAt? ks fs
    | some (.tables elements) =>
      match elements.getLast? with
      | some (.table _ _ fs) => fieldsAt? ks fs
      | _ => none
    | none => some []
    | some _ => none

/-- A line of a document that says something. -/
inductive Statement where
  | pair (path : List String) (n : Node)
  /-- A header that opens a table. -/
  | header (path : List String)
  /-- A header that adds a table to a list. -/
  | element (path : List String)

/-- A document that is being built: what is complete, and the table that is open. -/
structure Draft where
  root : Fields := []
  /-- Where the open table belongs; nothing for the document itself. -/
  path : List String := []
  isElement : Bool := false
  fields : Fields := []

namespace Draft

/-- Puts the open table where it belongs. -/
def close? (d : Draft) : Option Fields :=
  match d.path.getLast? with
  | none => some d.fields
  | some key =>
    let table : Node := .table false false d.fields
    within (fun fields =>
      if d.isElement then
        match fields.find? key with
        | none => some (fields ++ [(key, .tables [table])])
        | some (.tables elements) => some (fields.put key (.tables (elements ++ [table])))
        | some _ => none
      else if (fields.find? key).isSome then none
      else some (fields ++ [(key, table)])) d.path.dropLast d.root

/-- Opens the table of a header; one that was only implied so far is taken out of its place. -/
def openTable? (root : Fields) (path : List String) : Option Draft := do
  let key ← path.getLast?
  let parent ← fieldsAt? path.dropLast root
  match parent.find? key with
  | none => some { root := ← within some path.dropLast root, path, fields := [] }
  | some (.table true false fields) =>
    some { root := ← within (fun fs => some (fs.erase key)) path.dropLast root, path, fields }
  | some _ => none

/-- Opens a new table of a list. -/
def openElement? (root : Fields) (path : List String) : Option Draft := do
  let key ← path.getLast?
  let root ← within (fun fields =>
    match fields.find? key with
    | none => some (fields ++ [(key, .tables [])])
    | some (.tables _) => some fields
    | some _ => none) path.dropLast root
  some { root, path, isElement := true, fields := [] }

/-- Takes one statement. -/
def take? (d : Draft) : Statement → Option Draft
  | .pair path n =>
    (addPair n false false path d.fields).map fun fields => { d with fields }
  | .header path => do openTable? (← d.close?) path
  | .element path => do openElement? (← d.close?) path

end Draft

/-- The document that statements make. -/
def ofStatements? (statements : List Statement) : Option Toml := do
  let d ← statements.foldlM Draft.take? {}
  let root ← d.close?
  some (.table (Node.fieldValues root))

end CommandRelay.Toml
