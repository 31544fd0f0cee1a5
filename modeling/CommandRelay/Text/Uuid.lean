import CommandRelay.Text.Digits

/-!
# Random identifiers

A UUID of version 4 as text: 32 hexadecimal digits in five groups, of which six bits tell version
and variant and the other 122 come from a number.
-/

namespace CommandRelay.Uuid

/-- The `count` lowest hexadecimal digits of a number. -/
def digits : (count n : Nat) → List Char
  | 0, _ => []
  | count + 1, n => digits count (n / 16) ++ [Text.hexDigit (n % 16)]

/-- The identifier made from the 122 lowest bits of a number. -/
def ofBits (n : Nat) : String :=
  String.ofList <|
    digits 8 n ++ '-' :: digits 4 (n >>> 32) ++ '-' :: '4' :: digits 3 (n >>> 48) ++
      '-' :: Text.hexDigit ((n >>> 60) % 4 + 8) :: digits 3 (n >>> 62) ++
      '-' :: digits 12 (n >>> 74)

/-- The identifier number `n` of a sequence that starts at a seed.  Neighbours differ in every
group, and no two of the first `2 ^ 122` are the same, because the factor is odd. -/
def nth (seed n : Nat) : String :=
  ofBits ((seed + n) * 0x2545F4914F6CDD1D9E3779B97F4A7C1 % (1 <<< 122))

end CommandRelay.Uuid
