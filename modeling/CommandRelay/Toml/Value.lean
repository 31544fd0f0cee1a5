import CommandRelay.Datum

/-!
# TOML values

A TOML document is a table.  Tables keep their fields in the order in which they were opened.
-/

namespace CommandRelay

/-- A value of a TOML document. -/
inductive Toml where
  | text (s : String)
  | int (n : Int)
  /-- A number with a fraction or an exponent, or one of the words for infinity and not-a-number. -/
  | float
  | bool (b : Bool)
  /-- A date, a time, or both, in canonical spelling. -/
  | date (spelling : String)
  | list (items : List Toml)
  | table (fields : List (String × Toml))
  deriving Repr

namespace Toml

instance : Inhabited Toml := ⟨.table []⟩

/-- The name of the one field that a date has when a table is asked for. -/
def dateField : String := "$__toml_private_datetime"

mutual

/-- A value as a datum; a date is a table with one field. -/
def toDatum : Toml → Datum
  | .text s => .text s
  | .int n => .int n
  | .float => .fraction
  | .bool b => .bool b
  | .date spelling => .table [(some dateField, .text spelling)]
  | .list items => .list (itemData items)
  | .table fields => .table (fieldData fields)

/-- The items of a list as data. -/
def itemData : List Toml → List Datum
  | [] => []
  | v :: vs => toDatum v :: itemData vs

/-- The fields of a table as data. -/
def fieldData : List (String × Toml) → List (Option String × Datum)
  | [] => []
  | (k, v) :: fields => (some k, toDatum v) :: fieldData fields

end

mutual

/-- A value as JSON. -/
def toJson : Toml → Json
  | .text s => .text s
  | .int n => .ofInt n
  | .float => .null
  | .bool b => .bool b
  | .date spelling => .text spelling
  | .list items => .list (itemsJson items)
  | .table fields => .object (fieldsJson fields)

/-- The items of a list as JSON. -/
def itemsJson : List Toml → List Json
  | [] => []
  | v :: vs => toJson v :: itemsJson vs

/-- The fields of a table as JSON. -/
def fieldsJson : List (String × Toml) → List (String × Json)
  | [] => []
  | (k, v) :: fields => (k, toJson v) :: fieldsJson fields

end

end Toml

end CommandRelay
