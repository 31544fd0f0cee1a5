/-!
# Base64

Octets as text over the standard alphabet with padding.  Reading accepts exactly the written form:
full groups of four, padding only in the last one, and no stray bits behind the last octet.
-/

namespace CommandRelay.Base64

/-- The character that stands for six bits. -/
def symbol (n : Nat) : Char :=
  if n < 26 then Char.ofNat (n + 65)
  else if n < 52 then Char.ofNat (n - 26 + 97)
  else if n < 62 then Char.ofNat (n - 52 + 48)
  else if n = 62 then '+'
  else '/'

/-- The six bits that a character stands for. -/
def bits? (c : Char) : Option Nat :=
  let n := c.toNat
  if 65 ≤ n ∧ n ≤ 90 then some (n - 65)
  else if 97 ≤ n ∧ n ≤ 122 then some (n - 97 + 26)
  else if 48 ≤ n ∧ n ≤ 57 then some (n - 48 + 52)
  else if c = '+' then some 62
  else if c = '/' then some 63
  else none

/-- The written form: three octets make four characters, and a shorter last group is padded. -/
def encode : List UInt8 → List Char
  | [] => []
  | [a] => [symbol (a.toNat / 4), symbol (a.toNat % 4 * 16), '=', '=']
  | [a, b] =>
    [symbol (a.toNat / 4), symbol (a.toNat % 4 * 16 + b.toNat / 16), symbol (b.toNat % 16 * 4), '=']
  | a :: b :: c :: rest =>
    symbol (a.toNat / 4) :: symbol (a.toNat % 4 * 16 + b.toNat / 16) ::
      symbol (b.toNat % 16 * 4 + c.toNat / 64) :: symbol (c.toNat % 64) :: encode rest

/-- The octet in the last group `x y = =`, if no bit is left over. -/
def lastOne? (x y : Nat) : Option (List UInt8) :=
  if y % 16 = 0 then some [UInt8.ofNat (x * 4 + y / 16)] else none

/-- The octets in the last group `x y z =`, if no bit is left over. -/
def lastTwo? (x y z : Nat) : Option (List UInt8) :=
  if z % 4 = 0 then some [UInt8.ofNat (x * 4 + y / 16), UInt8.ofNat (y % 16 * 16 + z / 4)] else none

/-- The octets of a full group. -/
def group (x y z w : Nat) : List UInt8 :=
  [UInt8.ofNat (x * 4 + y / 16), UInt8.ofNat (y % 16 * 16 + z / 4), UInt8.ofNat (z % 4 * 64 + w)]

/-- Reads the written form back; any other text is refused. -/
def decode? : List Char → Option (List UInt8)
  | [] => some []
  | a :: b :: c :: d :: rest => do
    let x ← bits? a
    let y ← bits? b
    if c = '=' ∧ d = '=' ∧ rest = [] then lastOne? x y
    else
      let z ← bits? c
      if d = '=' ∧ rest = [] then lastTwo? x y z
      else
        let w ← bits? d
        (group x y z w ++ ·) <$> decode? rest
  | _ => none

/-- The written form as a text. -/
def encodeText (bs : List UInt8) : String :=
  String.ofList (encode bs)

/-- Reads a text in the written form. -/
def decodeText? (s : String) : Option (List UInt8) :=
  decode? s.toList

end CommandRelay.Base64
