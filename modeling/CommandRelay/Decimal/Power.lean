/-!
# Powers of ten

The place values of the decimal system.
-/

namespace CommandRelay.Decimal

/-- A one with `k` zeros behind it. -/
def tenTo (k : Nat) : Nat := Nat.pow 10 k

end CommandRelay.Decimal
