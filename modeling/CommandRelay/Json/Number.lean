import CommandRelay.Json.Token
import CommandRelay.Json.Value

/-!
# The value of a numeral

A numeral without point and exponent is an integer if it fits 64 bits.  Every other one is a
double, reached in two roundings: the digits are gathered into a 64-bit significand, and that is
multiplied or divided by a power of ten.  Digits that no longer fit the significand are dropped; a
dropped digit before the point raises the exponent by one.  `-0` is a double.
-/

namespace CommandRelay.Json

/-- A significand that is being gathered, and the power of ten it has to be scaled by. -/
structure Significand where
  value : Nat
  scale : Int

/-- Takes the digits before the point; from the first that does not fit on, all are dropped. -/
def gatherWhole (acc : Significand) : List Nat → Significand
  | [] => acc
  | d :: ds =>
    if acc.value * 10 + d < UInt64.size then gatherWhole { acc with value := acc.value * 10 + d } ds
    else { acc with scale := acc.scale + 1 + ds.length }

/-- Takes the digits behind the point; from the first that does not fit on, all are dropped. -/
def gatherFraction (acc : Significand) : List Nat → Significand
  | [] => acc
  | d :: ds =>
    if acc.value * 10 + d < UInt64.size then gatherFraction ⟨acc.value * 10 + d, acc.scale - 1⟩ ds
    else acc

/-- The number that digits denote. -/
def digitsValue (ds : List Nat) : Nat :=
  ds.foldl (fun n d => n * 10 + d) 0

/-- Divides by `10 ^ k`, at most `10 ^ 308` at a time, with a rounding after each division. -/
def shrink (x : Binary64) (k : Nat) : Option Binary64 :=
  if k ≤ 308 then (Binary64.tenPow k).bind x.div
  else if x.isZero then some x
  else do
    let y ← (Binary64.tenPow 308).bind x.div
    shrink y (k - 308)
termination_by k

/-- Scales a double by a power of ten; nothing when the result is too large. -/
def scaleTen (x : Binary64) (e : Int) : Option Binary64 :=
  if e < 0 then shrink x (-e).toNat
  else if e ≤ 308 then (Binary64.tenPow e.toNat).bind x.mul
  else if x.isZero then some x
  else none

/-- The double that a numeral stands for; nothing when it is too large. -/
def Numeral.double? (n : Numeral) : Option Binary64 := do
  let s := gatherFraction (gatherWhole ⟨0, 0⟩ n.whole) (n.fraction.getD [])
  let e : Int := match n.exponent with
    | none => 0
    | some (negative, ds) => if negative then -(digitsValue ds : Int) else digitsValue ds
  let x ← (Binary64.ofNat s.value).bind (scaleTen · (s.scale + e))
  some { x with negative := n.negative }

/-- The number that a numeral stands for; nothing when it is too large for a double. -/
def Numeral.number? (n : Numeral) : Option Number :=
  let magnitude := digitsValue n.whole
  let isWhole := n.fraction.isNone && n.exponent.isNone
  if isWhole && !n.negative && magnitude < UInt64.size then some (.int magnitude)
  else if isWhole && n.negative && 0 < magnitude && magnitude ≤ 0x8000000000000000 then
    some (.int (-magnitude))
  else n.double?.map .double

end CommandRelay.Json
