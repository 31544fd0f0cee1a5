import CommandRelay.Decimal.Binary64

/-!
# JSON values

A value is a tree over null, booleans, numbers, texts, lists and objects.  Integers that fit 64 bits
stay exact, every other number is a double.  An object is a list of fields in the order in which it
is written; a mapping keeps its fields in the order of their keys, each key once, and `setField`
keeps it so.  Keys are ordered by code points, which is the order of their UTF-8 octets as well.
-/

namespace CommandRelay

/-- A JSON number. -/
inductive Json.Number where
  /-- An integer from `-2 ^ 63` up to `2 ^ 64 - 1`. -/
  | int (n : Int)
  | double (x : Binary64)
  deriving DecidableEq, Repr

/-- A JSON value. -/
inductive Json where
  | null
  | bool (b : Bool)
  | number (n : Json.Number)
  | text (s : String)
  | list (items : List Json)
  | object (fields : List (String × Json))
  deriving Repr

namespace Json

instance : Inhabited Json := ⟨.null⟩

mutual

/-- Whether two values are the same tree. -/
def decEq : (x y : Json) → Decidable (x = y)
  | .null, .null => isTrue rfl
  | .bool a, .bool b =>
    if h : a = b then isTrue (h ▸ rfl) else isFalse fun e => h (Json.bool.inj e)
  | .number a, .number b =>
    if h : a = b then isTrue (h ▸ rfl) else isFalse fun e => h (Json.number.inj e)
  | .text a, .text b =>
    if h : a = b then isTrue (h ▸ rfl) else isFalse fun e => h (Json.text.inj e)
  | .list a, .list b =>
    match decEqItems a b with
    | isTrue h => isTrue (h ▸ rfl)
    | isFalse h => isFalse fun e => h (Json.list.inj e)
  | .object a, .object b =>
    match decEqFields a b with
    | isTrue h => isTrue (h ▸ rfl)
    | isFalse h => isFalse fun e => h (Json.object.inj e)
  | .null, .bool _ | .null, .number _ | .null, .text _ | .null, .list _ | .null, .object _
  | .bool _, .null | .bool _, .number _ | .bool _, .text _ | .bool _, .list _ | .bool _, .object _
  | .number _, .null | .number _, .bool _ | .number _, .text _ | .number _, .list _
  | .number _, .object _
  | .text _, .null | .text _, .bool _ | .text _, .number _ | .text _, .list _ | .text _, .object _
  | .list _, .null | .list _, .bool _ | .list _, .number _ | .list _, .text _ | .list _, .object _
  | .object _, .null | .object _, .bool _ | .object _, .number _ | .object _, .text _
  | .object _, .list _ => isFalse nofun

/-- Whether two lists of values are the same. -/
def decEqItems : (x y : List Json) → Decidable (x = y)
  | [], [] => isTrue rfl
  | [], _ :: _ | _ :: _, [] => isFalse nofun
  | a :: as, b :: bs =>
    match decEq a b, decEqItems as bs with
    | isTrue h, isTrue hs => isTrue (h ▸ hs ▸ rfl)
    | isFalse h, _ => isFalse fun e => h (List.cons.inj e).1
    | _, isFalse hs => isFalse fun e => hs (List.cons.inj e).2

/-- Whether two lists of fields are the same. -/
def decEqFields : (x y : List (String × Json)) → Decidable (x = y)
  | [], [] => isTrue rfl
  | [], _ :: _ | _ :: _, [] => isFalse nofun
  | (k, a) :: as, (l, b) :: bs =>
    if hk : k = l then
      match decEq a b, decEqFields as bs with
      | isTrue h, isTrue hs => isTrue (hk ▸ h ▸ hs ▸ rfl)
      | isFalse h, _ => isFalse fun e => h (Prod.mk.inj (List.cons.inj e).1).2
      | _, isFalse hs => isFalse fun e => hs (List.cons.inj e).2
    else isFalse fun e => hk (Prod.mk.inj (List.cons.inj e).1).1

end

instance : DecidableEq Json := decEq

/-- The text of a text value. -/
def asText? : Json → Option String
  | .text s => some s
  | _ => none

/-- The boolean of a boolean value. -/
def asBool? : Json → Option Bool
  | .bool b => some b
  | _ => none

/-- The integer of an integer value. -/
def asInt? : Json → Option Int
  | .number (.int n) => some n
  | _ => none

/-- The items of a list value. -/
def asList? : Json → Option (List Json)
  | .list items => some items
  | _ => none

/-- The fields of an object. -/
def asFields? : Json → Option (List (String × Json))
  | .object fields => some fields
  | _ => none

/-- The integer `n` as a value. -/
def ofInt (n : Int) : Json := .number (.int n)

/-- The natural number `n` as a value. -/
def ofNat (n : Nat) : Json := ofInt n

/-- A text or null. -/
def ofText? : Option String → Json
  | some s => .text s
  | none => .null

end Json

/-- Fields in the order of their keys, each key once. -/
def Json.setField {α : Type} (key : String) (value : α) : List (String × α) → List (String × α)
  | [] => [(key, value)]
  | (k, v) :: rest =>
    if key < k then (key, value) :: (k, v) :: rest
    else if key = k then (key, value) :: rest
    else (k, v) :: Json.setField key value rest

/-- The mapping that a list of fields spells: of two fields with one key the later one counts. -/
def Json.mapping {α : Type} (fields : List (String × α)) : List (String × α) :=
  fields.foldl (fun acc (k, v) => Json.setField k v acc) []

/-- The value of the first field with a key. -/
def Json.field? {α : Type} (fields : List (String × α)) (key : String) : Option α :=
  (fields.find? (·.1 == key)).map (·.2)

/-- The value of a field of an object; any other value has no fields. -/
def Json.get? (j : Json) (key : String) : Option Json :=
  j.asFields?.bind (Json.field? · key)

end CommandRelay
