import CommandRelay.Decimal.Power

/-!
# Double-precision numbers

A double is a sign, a mantissa and a power of two.  Everything rests on one operation, rounding a
quotient of natural numbers to the nearest double with ties to the even mantissa; products and
quotients of doubles are that rounding applied to the exact result.  A value beyond the largest
double has no rounding.
-/

namespace CommandRelay

/-- The finite double `± mantissa · 2 ^ exponent`.  Rounded values have a mantissa below `2 ^ 53`
and the least exponent possible, which is at least `-1074`. -/
structure Binary64 where
  negative : Bool
  mantissa : Nat
  exponent : Int
  deriving DecidableEq, Repr

namespace Binary64

/-- The least mantissa of full width, which has 53 binary digits. -/
def fullWidth : Nat := 0x10000000000000

/-- Positive or negative zero. -/
def zero (negative : Bool) : Binary64 := ⟨negative, 0, -1074⟩

/-- Whether a double is one of the zeros. -/
def isZero (x : Binary64) : Bool := x.mantissa == 0

/-- `n` scaled by a power of two, as a quotient of natural numbers. -/
def scaled (n : Nat) (e : Int) : Nat × Nat :=
  if 0 ≤ e then (n <<< e.toNat, 1) else (n, 1 <<< (-e).toNat)

/-- The greatest `k` with `2 ^ k ≤ num / den`. -/
def floorLog2 (num den : Nat) : Int :=
  let k : Int := Int.ofNat num.log2 - Int.ofNat den.log2
  let reached := if 0 ≤ k then den <<< k.toNat ≤ num else den ≤ num <<< (-k).toNat
  if reached then k else k - 1

/-- The quotient `num / den` rounded to the nearest natural number, a tie going to the even one. -/
def roundQuotient (num den : Nat) : Nat :=
  let q := num / den
  let twice := 2 * (num % den)
  if twice < den then q
  else if den < twice then q + 1
  else if q % 2 = 0 then q else q + 1

/-- The double nearest to `± num / den`; nothing when that lies beyond the largest double. -/
def round (negative : Bool) (num den : Nat) : Option Binary64 :=
  if num = 0 then some (zero negative)
  else
    let e := max (floorLog2 num den - 52) (-1074)
    let m := if 0 ≤ e then roundQuotient num (den <<< e.toNat)
      else roundQuotient (num <<< (-e).toNat) den
    let (m, e) := if m = 2 * fullWidth then (fullWidth, e + 1) else (m, e)
    if m = 0 then some (zero negative)
    else if 971 < e then none
    else some ⟨negative, m, e⟩

/-- The double nearest to a natural number. -/
def ofNat (n : Nat) : Option Binary64 := round false n 1

/-- The absolute value as a quotient of natural numbers. -/
def quotient (x : Binary64) : Nat × Nat := scaled x.mantissa x.exponent

/-- The rounded product. -/
def mul (x y : Binary64) : Option Binary64 :=
  round (x.negative != y.negative) (x.quotient.1 * y.quotient.1) (x.quotient.2 * y.quotient.2)

/-- The rounded quotient by a number other than zero. -/
def div (x y : Binary64) : Option Binary64 :=
  round (x.negative != y.negative) (x.quotient.1 * y.quotient.2) (x.quotient.2 * y.quotient.1)

/-- The double nearest to a power of ten. -/
def tenPow (k : Nat) : Option Binary64 := round false (Decimal.tenTo k) 1

end Binary64

end CommandRelay
