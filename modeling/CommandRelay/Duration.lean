import CommandRelay.Json.Printer

/-!
# Durations and instants

A duration is a whole number of nanoseconds.  It is written in the largest unit of which it holds at
least one, with the fraction in full and without trailing zeros.
-/

namespace CommandRelay

/-- A span of time. -/
structure Duration where
  nanos : Nat
  deriving DecidableEq, Repr

/-- A point on the clock, in nanoseconds since the clock was started. -/
abbrev Instant := Nat

namespace Duration

instance : Inhabited Duration := ⟨⟨0⟩⟩

/-- That many milliseconds. -/
def ofMillis (ms : Nat) : Duration := ⟨ms * 1000000⟩

/-- The whole milliseconds of a duration. -/
def toMillis (d : Duration) : Nat := d.nanos / 1000000

/-- The fraction `rest / 10 ^ places` behind a point, without trailing zeros; nothing for zero. -/
def writeFraction : (places rest : Nat) → List Char
  | 0, _ => []
  | places + 1, rest =>
    if rest % 10 = 0 then writeFraction places (rest / 10)
    else
      let digits := Text.decimal rest
      '.' :: List.replicate (places + 1 - digits.length) '0' ++ digits

/-- A duration in units of `10 ^ places` nanoseconds. -/
def writeIn (places : Nat) (symbol : String) (d : Duration) : List Char :=
  let unit := Decimal.tenTo places
  Text.decimal (d.nanos / unit) ++ writeFraction places (d.nanos % unit) ++ symbol.toList

/-- The text of a duration, such as `1.5s`, `250ms`, `2.25µs` or `0ns`. -/
def toText (d : Duration) : String :=
  String.ofList <|
    if 1000000000 ≤ d.nanos then d.writeIn 9 "s"
    else if 1000000 ≤ d.nanos then d.writeIn 6 "ms"
    else if 1000 ≤ d.nanos then d.writeIn 3 "µs"
    else d.writeIn 0 "ns"

end Duration

end CommandRelay
