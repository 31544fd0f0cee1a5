import CommandRelay.Json.Number

/-!
# JSON documents

A document is what a text spells, with nothing interpreted: fields stay in their order, repeated
keys stay, texts and numbers stay as they are spelled.  `ofTokens?` builds it with a stack of the
containers that are still open, one token at a time.  `value?` interprets it: every text must be
valid, every number must fit, and of two fields with one key the later one counts.
-/

namespace CommandRelay.Json

/-- What a JSON text spells. -/
inductive Document where
  | null
  | bool (b : Bool)
  | number (n : Numeral)
  | text (units : List TextUnit)
  | list (items : List Document)
  | object (fields : List (List TextUnit × Document))
  deriving Repr

instance : Inhabited Document := ⟨.null⟩

/-- A container that is still open, with what it holds so far in reverse order. -/
inductive Frame where
  | list (items : List Document)
  /-- An object whose field `key` gets the next value. -/
  | object (fields : List (List TextUnit × Document)) (key : List TextUnit)

/-- What may come next while a document is being built. -/
inductive Expecting where
  | value
  /-- Behind an opening bracket: a value, or the end of the list. -/
  | firstItem
  /-- Behind an opening brace: a key, or the end of the object. -/
  | firstKey (fields : List (List TextUnit × Document))
  /-- Behind a comma in an object: a key. -/
  | key (fields : List (List TextUnit × Document))
  /-- Behind a key: a colon. -/
  | colon (fields : List (List TextUnit × Document)) (key : List TextUnit)
  /-- Behind a value: a comma, or the end of its container. -/
  | separator (last : Document)

/-- The result of one step: the document is complete, or something is expected next. -/
inductive Progress where
  | done (d : Document)
  | more (stack : List Frame) (next : Expecting)

/-- Puts a complete value into the innermost open container. -/
def completed (stack : List Frame) (d : Document) : Progress :=
  match stack with
  | [] => .done d
  | stack => .more stack (.separator d)

/-- The value that a single token is, if it is one. -/
def Token.scalar? : Token → Option Document
  | .null => some .null
  | .true => some (.bool Bool.true)
  | .false => some (.bool Bool.false)
  | .text units => some (.text units)
  | .number n => some (.number n)
  | _ => none

/-- What a token does where a value is due. -/
def startValue (stack : List Frame) (t : Token) : Option Progress :=
  match t with
  | .openList => some (.more (.list [] :: stack) .firstItem)
  | .openObject => some (.more stack (.firstKey []))
  | t => t.scalar?.map (completed stack)

/-- Reads one token. -/
def buildStep (stack : List Frame) (next : Expecting) (t : Token) : Option Progress :=
  match next, t, stack with
  | .value, t, stack => startValue stack t
  | .firstItem, .closeList, .list items :: stack => some (completed stack (.list items.reverse))
  | .firstItem, t, stack => startValue stack t
  | .firstKey fields, .closeObject, stack => some (completed stack (.object fields.reverse))
  | .firstKey fields, .text units, stack => some (.more stack (.colon fields units))
  | .key fields, .text units, stack => some (.more stack (.colon fields units))
  | .colon fields key, .colon, stack => some (.more (.object fields key :: stack) .value)
  | .separator d, .comma, .list items :: stack => some (.more (.list (d :: items) :: stack) .value)
  | .separator d, .closeList, .list items :: stack =>
    some (completed stack (.list (d :: items).reverse))
  | .separator d, .comma, .object fields key :: stack =>
    some (.more stack (.key ((key, d) :: fields)))
  | .separator d, .closeObject, .object fields key :: stack =>
    some (completed stack (.object ((key, d) :: fields).reverse))
  | _, _, _ => none

/-- Reads tokens until a document is complete: the document and the tokens behind it. -/
def build (stack : List Frame) (next : Expecting) : List Token → Option (Document × List Token)
  | [] => none
  | t :: ts =>
    match buildStep stack next t with
    | some (.done d) => some (d, ts)
    | some (.more stack next) => build stack next ts
    | none => none

/-- The document at the head of a list of tokens, and what follows it. -/
def Document.ofTokens? (ts : List Token) : Option (Document × List Token) :=
  build [] .value ts

/-- The document at the head of a text, and whether anything but space follows it. -/
def Document.read? (bs : List UInt8) : Option (Document × Bool) :=
  (Document.ofTokens? (lex bs)).map fun (d, rest) => (d, !rest.isEmpty)

/-- The document that a whole text spells. -/
def Document.ofOctets? (bs : List UInt8) : Option Document :=
  match Document.read? bs with
  | some (d, false) => some d
  | _ => none

mutual

/-- The number of containers on the longest way into a document. -/
def Document.depth : Document → Nat
  | .list items => depthItems items + 1
  | .object fields => depthFields fields + 1
  | .null | .bool _ | .number _ | .text _ => 0

/-- The greatest depth in a list of documents. -/
def depthItems : List Document → Nat
  | [] => 0
  | d :: ds => max d.depth (depthItems ds)

/-- The greatest depth in a list of fields. -/
def depthFields : List (List TextUnit × Document) → Nat
  | [] => 0
  | (_, d) :: fields => max d.depth (depthFields fields)

end

mutual

/-- The value of a document; nothing when a text is not valid or a number does not fit. -/
def Document.value? : Document → Option Json
  | .null => some .null
  | .bool b => some (.bool b)
  | .number n => n.number?.map .number
  | .text units => (unitText? units).map .text
  | .list items => (valueItems? items).map .list
  | .object fields => (valueFields? fields).map fun fs => .object (mapping fs)

/-- The values of a list of documents. -/
def valueItems? : List Document → Option (List Json)
  | [] => some []
  | d :: ds => do
    let v ← d.value?
    let vs ← valueItems? ds
    some (v :: vs)

/-- The keys and values of a list of fields, in their order. -/
def valueFields? : List (List TextUnit × Document) → Option (List (String × Json))
  | [] => some []
  | (k, d) :: fields => do
    let key ← unitText? k
    let v ← d.value?
    let vs ← valueFields? fields
    some ((key, v) :: vs)

end

/-- How many containers may be nested in a document of which everything is kept. -/
def maxDepth : Nat := 127

/-- The value that a whole text spells. -/
def ofOctets? (bs : List UInt8) : Option Json := do
  let d ← Document.ofOctets? bs
  if d.depth ≤ maxDepth then d.value? else none

end CommandRelay.Json
