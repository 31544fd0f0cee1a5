import CommandRelay.Decimal.Binary64

/-!
# Shortest decimal digits

The fewest decimal digits that read back as a given double, and of those the nearest to it.  Between
a double and its two neighbours lie the halfway points; a decimal inside them rounds to the double,
and the halfway points themselves do so when the mantissa is even.
-/

namespace CommandRelay.Decimal

/-- `digits · 10 ^ scale`. -/
structure Digits where
  digits : Nat
  scale : Int
  deriving DecidableEq, Repr

/-- A quotient of natural numbers. -/
structure Quotient where
  num : Nat
  den : Nat

/-- Whether `x < y`. -/
def Quotient.less (x y : Quotient) : Bool := x.num * y.den < y.num * x.den

/-- Whether `x ≤ y`. -/
def Quotient.atMost (x y : Quotient) : Bool := x.num * y.den ≤ y.num * x.den

/-- The decimal as a quotient. -/
def Digits.quotient (d : Digits) : Quotient :=
  if 0 ≤ d.scale then ⟨d.digits * tenTo d.scale.toNat, 1⟩ else ⟨d.digits, tenTo (-d.scale).toNat⟩

/-- The halfway points around a positive double, in quarters of its last place. -/
def halfway (m : Nat) (e : Int) : Quotient × Quotient :=
  let below := if m = Binary64.fullWidth ∧ -1074 < e then 4 * m - 1 else 4 * m - 2
  let lo := Binary64.scaled below (e - 2)
  let hi := Binary64.scaled (4 * m + 2) (e - 2)
  (⟨lo.1, lo.2⟩, ⟨hi.1, hi.2⟩)

/-- Whether a decimal reads back as the double with mantissa `m` and exponent `e`. -/
def readsBack (m : Nat) (e : Int) (d : Digits) : Bool :=
  let (lo, hi) := halfway m e
  let q := d.quotient
  if m % 2 = 0 then lo.atMost q && q.atMost hi else lo.less q && q.less hi

/-- The greatest `k` with `10 ^ k ≤ num / den`, for a positive quotient, searched downwards. -/
def floorLog10 (x : Quotient) : Nat → Int → Int
  | 0, k => k
  | fuel + 1, k => if (Digits.quotient ⟨1, k⟩).atMost x then k else floorLog10 x fuel (k - 1)

/-- The two neighbours of `x` on the grid of multiples of `10 ^ scale`, the nearer one first; of two
equally near ones the even one is first. -/
def neighbours (x : Quotient) (scale : Int) : List Digits :=
  let num := if 0 ≤ scale then x.num else x.num * tenTo (-scale).toNat
  let den := if 0 ≤ scale then x.den * tenTo scale.toNat else x.den
  let low := num / den
  let twice := 2 * (num % den)
  let lowFirst := if twice = den then low % 2 == 0 else twice < den
  if lowFirst then [⟨low, scale⟩, ⟨low + 1, scale⟩] else [⟨low + 1, scale⟩, ⟨low, scale⟩]

/-- Tries `count`, `count + 1`, … digits until a neighbour reads back. -/
def search (m : Nat) (e : Int) (x : Quotient) (top : Int) : Nat → Int → Digits
  | 0, _ => ⟨m, 0⟩
  | fuel + 1, count =>
    match (neighbours x (top - count + 1)).find? (readsBack m e) with
    | some d => d
    | none => search m e x top fuel (count + 1)

/-- Moves factors of ten from the digits into the scale. -/
def trim : Nat → Digits → Digits
  | 0, d => d
  | fuel + 1, d =>
    if d.digits ≠ 0 ∧ d.digits % 10 = 0 then trim fuel ⟨d.digits / 10, d.scale + 1⟩ else d

/-- The shortest digits of a double that is not zero, without trailing zeros. -/
def shortest (x : Binary64) : Digits :=
  let q : Quotient := ⟨x.quotient.1, x.quotient.2⟩
  let top := floorLog10 q 700 330
  trim 20 (search x.mantissa x.exponent q top 17 1)

end CommandRelay.Decimal
