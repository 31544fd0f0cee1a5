import CommandRelay.Launch.Level
import CommandRelay.Launch.Pattern
import CommandRelay.Text.Alphanumeric
import CommandRelay.Text.Split
import CommandRelay.Text.Utf8

/-!
# Directives of a log filter

A directive is a level, or it is written `target[span{field=value}]=level`, where every part may be
missing but not all of them.  Without a level everything is shown.

The parts are found in the text without the blanks around it, but each is then cut out of the text
as it was given, at the same distance from its start.  So blanks at the start shift all parts, and
those at the end belong to the last one.  A cut that falls inside a character can not be made.
-/

namespace CommandRelay.Launch

/-- What a directive asks of a field: its name, and its value if that matters. -/
structure FieldTest where
  name : String
  value : Option String
  deriving DecidableEq, Repr

/-- A directive.  An empty target stands for all targets. -/
structure Directive where
  target : String := ""
  span : Option String := none
  fields : List FieldTest := []
  level : Level := .trace
  deriving DecidableEq, Repr

/-- Why a directive can not be read. -/
inductive Misread where
  | malformed
  /-- A part of it would be cut inside a character. -/
  | torn
  deriving DecidableEq, Repr

namespace Directive

/-- A place in a text: the number of octets before it, and the characters behind it. -/
structure Cursor where
  passed : Nat
  rest : List Char

/-- The place behind the characters that satisfy `p`. -/
def Cursor.skip (c : Cursor) (p : Char → Bool) : Cursor :=
  { passed := c.passed + (Utf8.encodeChars (c.rest.takeWhile p)).length
    rest := c.rest.dropWhile p }

/-- The place behind one ASCII character. -/
def Cursor.next (c : Cursor) : Cursor := { passed := c.passed + 1, rest := c.rest.tail }

/-- Whether a text can be cut behind `n` octets. -/
def canCut (text : List UInt8) (n : Nat) : Bool :=
  (text.drop n).head?.all fun b => b < 0x80 || 0xC0 ≤ b

/-- The part of a text between two distances from its start. -/
def cut (text : List UInt8) (start stop : Nat) : Except Misread String :=
  if canCut text start && canCut text stop then
    match Utf8.decode? ((text.take stop).drop start) with
    | some s => .ok s
    | none => .error .torn
  else .error .torn

/-- The level that the text says from a place on. -/
def levelFrom (text : List UInt8) (c : Cursor) : Except Misread Level := do
  let s ← cut text c.passed text.length
  if s = "" then .ok .trace
  else match Level.ofText? s with
    | some level => .ok level
    | none => .error .malformed

/-- Reads what stands behind a span: nothing, or a level. -/
def readLevel (text : List UInt8) (d : Directive) (c : Cursor) : Except Misread Directive := do
  match c.rest with
  | [] => .ok d
  | '=' :: _ => return { d with level := ← levelFrom text c.next }
  | _ => .error .malformed

/-- Whether a text is the exponent of a number, which may be missing. -/
def isExponent : List Char → Bool
  | [] => true
  | letter :: cs =>
    let digits := match cs with
      | '+' :: rest | '-' :: rest => rest
      | rest => rest
    (letter == 'e' || letter == 'E') && !digits.isEmpty && digits.all Char.isDigit

/-- Whether a text is a number with a plus before it, which is no pattern.  Infinity and
not-a-number count. -/
def isPlusNumber : List Char → Bool
  | '+' :: cs =>
    let whole := cs.takeWhile Char.isDigit
    let (fraction, rest) := match cs.dropWhile Char.isDigit with
      | '.' :: rest => (rest.takeWhile Char.isDigit, rest.dropWhile Char.isDigit)
      | rest => ([], rest)
    (!(whole ++ fraction).isEmpty && isExponent rest) ||
      ["inf", "infinity", "nan"].any (Text.equalIgnoringCase (String.ofList cs))
  | _ => false

/-- What a text asks of a field. -/
def fieldTest (s : String) : Except Misread FieldTest :=
  match Text.split '=' s.toList with
  | [] | [[]] => .error .malformed
  | [name] => .ok ⟨String.ofList name, none⟩
  | name :: value :: _ =>
    if isPlusNumber value || Pattern.isWellFormed value then
      .ok ⟨String.ofList name, some (String.ofList value)⟩
    else .error .malformed

/-- Reads a span from behind its opening bracket on. -/
def readSpan (text : List UInt8) (d : Directive) (c : Cursor) : Except Misread Directive := do
  let stop := c.skip fun x => x != ']' && x != '\x7b'
  match stop.rest with
  | [] => .error .malformed
  | ']' :: _ =>
    readLevel text { d with span := some (← cut text c.passed stop.passed) } stop.next
  | _ =>
    let name ← cut text c.passed stop.passed
    let inside := stop.next
    let stop := inside.skip (· != '\x7d')
    if stop.rest = [] then .error .malformed
    let test ← fieldTest (← cut text inside.passed stop.passed)
    match stop.next.rest with
    | ']' :: _ =>
      let span := if name = "" then none else some name
      readLevel text { d with span, fields := [test] } stop.next.next
    | _ => .error .malformed

/-- Whether a character can be the first of a target. -/
def canStart (c : Char) : Bool := c == '-' || c == ':' || c == '_' || Text.isAlphanumeric c

/-- Reads a directive. -/
def ofText (s : String) : Except Misread Directive := do
  let text := Utf8.encode s
  let start : Cursor := { passed := 0, rest := Text.stripWhile Text.isBlank s.toList }
  match start.rest with
  | [] => .error .malformed
  | '[' :: _ => readSpan text {} start.next
  | c :: _ =>
    if !canStart c then .error .malformed
    let stop := start.skip fun x => x != '=' && x != '['
    match stop.rest with
    | [] =>
      match Level.ofText? s with
      | some level => .ok { level }
      | none => .ok { target := s }
    | '=' :: _ =>
      let target ← cut text 0 stop.passed
      return { target, level := ← levelFrom text stop.next }
    | _ => readSpan text { target := ← cut text 0 stop.passed } stop.next

/-- Whether a directive decides over events that are in no span: it asks for no span, and for no
value of a field. -/
def isStatic (d : Directive) : Bool := d.span.isNone && d.fields.all (·.value.isNone)

/-- The names of the fields that an event must have. -/
def names (d : Directive) : List String := d.fields.map (·.name)

/-- Whether a directive is about events with given fields from a part of the program. -/
def isAbout (d : Directive) (target : String) (fields : List String) : Bool :=
  d.isStatic && d.target.toList.isPrefixOf target.toList && d.names.all fields.contains

/-- Whether `d` decides where both it and `b` are about an event: it has the longer target, or else
more fields, or else the later fields in the order of names. -/
def outranks (d b : Directive) : Bool :=
  if d.target.length ≠ b.target.length then b.target.length < d.target.length
  else if d.fields.length ≠ b.fields.length then b.fields.length < d.fields.length
  else !decide (d.names < b.names)

end Directive

end CommandRelay.Launch
