import CommandRelay.Json.Value
import CommandRelay.Decimal.Shortest
import CommandRelay.Text.Digits
import CommandRelay.Text.Utf8

/-!
# Writing JSON

The written form is compact: no space, fields in the order of the value.  In a text only the quote,
the backslash and the control characters below U+0020 are escaped.  A double is written with the
fewest digits that read back, in positional notation when the exponent of its first digit lies
between -5 and 15, and always with a point or an exponent.
-/

namespace CommandRelay.Json

/-- A character inside a written text. -/
def writeChar (c : Char) : List Char :=
  if c = '\"' then ['\\', '\"']
  else if c = '\\' then ['\\', '\\']
  else if c = '\x08' then ['\\', 'b']
  else if c = '\x0C' then ['\\', 'f']
  else if c = '\n' then ['\\', 'n']
  else if c = '\r' then ['\\', 'r']
  else if c = '\t' then ['\\', 't']
  else if c.toNat < 32 then
    ['\\', 'u', '0', '0', Text.hexDigit (c.toNat / 16), Text.hexDigit (c.toNat % 16)]
  else [c]

/-- A written text, in quotes. -/
def writeText (s : List Char) : List Char :=
  '\"' :: s.flatMap writeChar ++ ['\"']

/-- Digits in positional notation, the point behind the first `intDigits` of them. -/
def positional (digits : List Char) (intDigits : Int) : List Char :=
  if intDigits ≤ 0 then '0' :: '.' :: List.replicate (-intDigits).toNat '0' ++ digits
  else
    let n := intDigits.toNat
    let fraction := digits.drop n
    digits.take n ++ List.replicate (n - digits.length) '0' ++
      '.' :: (if fraction.isEmpty then ['0'] else fraction)

/-- Digits in scientific notation, with the sign of the exponent always written. -/
def scientific (digits : List Char) (exponent : Int) : List Char :=
  let fraction := digits.drop 1
  digits.take 1 ++ (if fraction.isEmpty then [] else '.' :: fraction) ++
    'e' :: (if exponent < 0 then '-' else '+') :: Text.decimal exponent.natAbs

/-- A written double. -/
def writeDouble (x : Binary64) : List Char :=
  let magnitude :=
    if x.isZero then ['0', '.', '0']
    else
      let d := Decimal.shortest x
      let digits := Text.decimal d.digits
      let exponent := d.scale + digits.length - 1
      if -5 ≤ exponent ∧ exponent ≤ 15 then positional digits (exponent + 1)
      else scientific digits exponent
  if x.negative then '-' :: magnitude else magnitude

/-- A written number. -/
def writeNumber : Number → List Char
  | .int n => Text.decimalInt n
  | .double x => writeDouble x

mutual

/-- The written form of a value. -/
def write : Json → List Char
  | .null => ['n', 'u', 'l', 'l']
  | .bool true => ['t', 'r', 'u', 'e']
  | .bool false => ['f', 'a', 'l', 's', 'e']
  | .number n => writeNumber n
  | .text s => writeText s.toList
  | .list [] => ['[', ']']
  | .list (v :: vs) => '[' :: write v ++ writeItems vs ++ [']']
  | .object [] => ['{', '}']
  | .object ((k, v) :: fields) =>
    '{' :: writeText k.toList ++ ':' :: write v ++ writeFields fields ++ ['}']

/-- Further items of a list, each behind a comma. -/
def writeItems : List Json → List Char
  | [] => []
  | v :: vs => ',' :: write v ++ writeItems vs

/-- Further fields of an object, each behind a comma. -/
def writeFields : List (String × Json) → List Char
  | [] => []
  | (k, v) :: fields => ',' :: writeText k.toList ++ ':' :: write v ++ writeFields fields

end

/-- The written form of a value as a text. -/
def render (j : Json) : String :=
  String.ofList (write j)

/-- The octets of the written form. -/
def toOctets (j : Json) : List UInt8 :=
  Utf8.encodeChars (write j)

end CommandRelay.Json
