import CommandRelay.Fault

/-!
# Structured data and records

A datum is what a JSON text or a TOML text spells, with the differences between the two notations
gone.  A record is read from it by a list of field readers: either from a table, where each known
field may occur once and others are ignored, or from a list that holds the fields in their order and
may stop early.  What a record still lacks then is for its owner to fill or to refuse.
-/

namespace CommandRelay

/-- A piece of structured data. -/
inductive Datum where
  | null
  | bool (b : Bool)
  | int (n : Int)
  /-- A number that is no integer. -/
  | fraction
  | text (s : String)
  | list (items : List Datum)
  /-- A key is missing where its spelling is not a valid text. -/
  | table (fields : List (Option String × Datum))
  /-- A scalar whose spelling stands for nothing. -/
  | invalid
  deriving Repr

/-- Why a datum is refused as a value of some type. -/
inductive Refusal where
  /-- It has the wrong shape. -/
  | shape
  /-- It has the right shape and a meaning that is not allowed. -/
  | meaning (f : Fault)
  deriving DecidableEq, Repr

/-- What a reader gives. -/
abbrev Reading (α : Type) := Except Refusal α

namespace Datum

mutual

/-- The datum that a JSON document spells. -/
def ofDocument : Json.Document → Datum
  | .null => .null
  | .bool b => .bool b
  | .number n =>
    match n.number? with
    | some (.int k) => .int k
    | some (.double _) => .fraction
    | none => .invalid
  | .text units =>
    match Json.unitText? units with
    | some s => .text s
    | none => .invalid
  | .list items => .list (ofDocuments items)
  | .object fields => .table (ofFields fields)

/-- The data that JSON documents spell. -/
def ofDocuments : List Json.Document → List Datum
  | [] => []
  | d :: ds => ofDocument d :: ofDocuments ds

/-- The fields that the fields of a JSON object spell. -/
def ofFields : List (List Json.TextUnit × Json.Document) → List (Option String × Datum)
  | [] => []
  | (k, d) :: fields => (Json.unitText? k, ofDocument d) :: ofFields fields

end

/-- Reads a text. -/
def readText : Datum → Reading String
  | .text s => .ok s
  | _ => .error .shape

/-- Reads a boolean. -/
def readBool : Datum → Reading Bool
  | .bool b => .ok b
  | _ => .error .shape

/-- Reads a natural number below `limit`. -/
def readNat (limit : Nat) : Datum → Reading Nat
  | .int n => if 0 ≤ n ∧ n < limit then .ok n.toNat else .error .shape
  | _ => .error .shape

/-- Reads a list item by item. -/
def readList {α : Type} (item : Datum → Reading α) : Datum → Reading (List α)
  | .list items => items.mapM item
  | _ => .error .shape

/-- Reads fields whose values are texts, in their order. -/
def readTexts : List (Option String × Datum) → Reading (List (String × String))
  | [] => .ok []
  | (none, _) :: _ => .error .shape
  | (some k, d) :: fields => do
    let v ← d.readText
    let rest ← readTexts fields
    .ok ((k, v) :: rest)

/-- Reads a table whose values are texts. -/
def readTextFields : Datum → Reading (List (String × String))
  | .table fields => readTexts fields
  | _ => .error .shape

/-- How one field of a record is read into a draft of the record. -/
structure FieldReader (α : Type) where
  name : String
  read : α → Datum → Reading α

/-- Reads the fields of a table into a draft; the fields in `seen` must not come again. -/
def readTable {α : Type} (readers : List (FieldReader α)) (seen : List String) (draft : α) :
    List (Option String × Datum) → Reading α
  | [] => .ok draft
  | (none, _) :: _ => .error .shape
  | (some key, d) :: rest =>
    match readers.find? (·.name == key) with
    | none => readTable readers seen draft rest
    | some r =>
      if key ∈ seen then .error .shape
      else do
        let draft ← r.read draft d
        readTable readers (key :: seen) draft rest

/-- Reads the items of a list into a draft, one for each field; `surplus` tells whether items behind
the last field are passed over. -/
def readRow {α : Type} (surplus : Bool) (draft : α) :
    List (FieldReader α) → List Datum → Reading α
  | _, [] => .ok draft
  | [], _ :: _ => if surplus then .ok draft else .error .shape
  | r :: rs, d :: ds => do
    let draft ← r.read draft d
    readRow surplus draft rs ds

/-- Reads a record into a draft, from a table or from a list. -/
def readRecord {α : Type} (surplus : Bool) (readers : List (FieldReader α)) (draft : α) :
    Datum → Reading α
  | .table fields => readTable readers [] draft fields
  | .list items => readRow surplus draft readers items
  | _ => .error .shape

end Datum

/-- Reads a value from the text of a JSON document.  Its value is checked before what follows it,
so a refused meaning is reported even if the text goes on. -/
def readJson {α : Type} (read : Datum → Reading α) (bs : List UInt8) : Reading α :=
  match Json.Document.read? bs with
  | some (d, trailing) => do
    let v ← read (.ofDocument d)
    if trailing then .error .shape else .ok v
  | none => .error .shape

end CommandRelay
