/-!
# Numbers as digits

Natural numbers and integers written in decimal or hexadecimal digits, and read from decimal ones.
-/

namespace CommandRelay.Text

/-- Whether an integer has a 64-bit form with a sign. -/
abbrev FitsSigned (n : Int) : Prop := -0x8000000000000000 ≤ n ∧ n < 0x8000000000000000

/-- A hexadecimal digit, in lower case. -/
def hexDigit (n : Nat) : Char :=
  if n < 10 then Char.ofNat (n + 48) else Char.ofNat (n - 10 + 97)

/-- The decimal digits of a natural number. -/
def decimal (n : Nat) : List Char :=
  if n < 10 then [hexDigit n] else decimal (n / 10) ++ [hexDigit (n % 10)]

/-- The decimal digits of an integer, behind a minus if it is negative. -/
def decimalInt (n : Int) : List Char :=
  if n < 0 then '-' :: decimal n.natAbs else decimal n.natAbs

/-- The hexadecimal digits of a natural number. -/
def hexadecimal (n : Nat) : List Char :=
  if n < 16 then [hexDigit n] else hexadecimal (n / 16) ++ [hexDigit (n % 16)]

/-- The number that decimal digits denote. -/
def ofDecimal (ds : List Char) : Nat := ds.foldl (fun n d => n * 10 + (d.toNat - 48)) 0

/-- The number that a text of decimal digits denotes; nothing when there are none or anything else.
-/
def natural? (cs : List Char) : Option Nat :=
  if cs ≠ [] ∧ cs.all Char.isDigit then some (ofDecimal cs) else none

/-- The number below `limit` that decimal digits denote; a plus may stand before them. -/
def unsigned? (limit : Nat) (cs : List Char) : Option Nat :=
  let n? := match cs with
    | '+' :: rest => natural? rest
    | cs => natural? cs
  n?.filter (· < limit)

/-- The integer that an optional sign and decimal digits denote. -/
def signed? : List Char → Option Int
  | '-' :: cs => (natural? cs).map fun n => -(n : Int)
  | '+' :: cs => (natural? cs).map Int.ofNat
  | cs => (natural? cs).map Int.ofNat

end CommandRelay.Text
