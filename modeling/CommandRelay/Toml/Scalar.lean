import CommandRelay.Toml.Text
import CommandRelay.Toml.Value

/-!
# Numbers and dates in TOML

Integers are decimal, or hexadecimal, octal or binary behind their mark; they fit 64 bits with a
sign.  Digits may be grouped by single underscores.  Dates and times are checked against the
calendar and the clock, and kept in their canonical spelling.
-/

namespace CommandRelay.Toml

/-- Digits of a base, grouped by single underscores: their values and what follows. -/
def digits? (value? : Char → Option Nat) : List Char → Option (List Nat × List Char)
  | [] => none
  | c :: rest =>
    match value? c with
    | none => none
    | some d =>
      match rest with
      | '_' :: more =>
        (digits? value? more).map fun (ds, rest) => (d :: ds, rest)
      | rest =>
        match digits? value? rest with
        | some (ds, rest) => some (d :: ds, rest)
        | none => some ([d], rest)

/-- The value of a digit below a base. -/
def digitBelow? (base : Nat) (c : Char) : Option Nat := (hexValue? c).filter (· < base)

/-- The number that digits of a base denote. -/
def ofDigits (base : Nat) (ds : List Nat) : Nat := ds.foldl (fun n d => n * base + d) 0

/-- An optional sign: whether it is a minus, and what follows. -/
def sign : List Char → Bool × List Char
  | '-' :: rest => (true, rest)
  | '+' :: rest => (false, rest)
  | cs => (false, cs)

/-- The whole part of a decimal number: a zero, or digits that do not begin with one. -/
def whole? : List Char → Option (List Nat × List Char)
  | '0' :: rest => some ([0], rest)
  | cs => digits? (digitBelow? 10) cs

/-- An integer that fits. -/
def fitting? (n : Int) : Option Toml :=
  if Text.FitsSigned n then some (.int n) else none

/-- An integer. -/
def integer? (cs : List Char) : Option (Toml × List Char) :=
  let based (base : Nat) (cs : List Char) : Option (Toml × List Char) := do
    let (ds, rest) ← digits? (digitBelow? base) cs
    some (← fitting? (ofDigits base ds), rest)
  match cs with
  | '0' :: 'x' :: rest => based 16 rest
  | '0' :: 'o' :: rest => based 8 rest
  | '0' :: 'b' :: rest => based 2 rest
  | cs => do
    let (negative, rest) := sign cs
    let (ds, rest) ← whole? rest
    let n : Int := ofDigits 10 ds
    some (← fitting? (if negative then -n else n), rest)

/-- Whether `digits` times ten to the power of `scale` rounds to a finite double. -/
def finite (digits : Nat) (scale : Int) : Bool :=
  let size : Int := (Nat.toDigits 10 digits).length
  if digits = 0 || size + scale ≤ 308 then true
  else if 309 < size + scale then false
  else
    let q := Decimal.Digits.quotient ⟨digits, scale⟩
    (Binary64.round false q.num q.den).isSome

/-- The fraction of a number, behind its point. -/
def fraction? : List Char → Option (List Nat × List Char)
  | '.' :: rest => digits? (digitBelow? 10) rest
  | _ => none

/-- The exponent of a number, from its letter on. -/
def exponent? : List Char → Option (Int × List Char)
  | c :: rest =>
    if c == 'e' || c == 'E' then do
      let (negative, rest) := sign rest
      let (ds, rest) ← digits? (digitBelow? 10) rest
      let n : Int := ofDigits 10 ds
      some (if negative then -n else n, rest)
    else none
  | [] => none

/-- A number with a fraction or an exponent, or one of the words `inf` and `nan`.  One that is too
large is refused unless it is negative. -/
def float? (cs : List Char) : Option (Toml × List Char) :=
  let (negative, rest) := sign cs
  match rest with
  | 'i' :: 'n' :: 'f' :: rest => some (.float, rest)
  | 'n' :: 'a' :: 'n' :: rest => some (.float, rest)
  | rest => do
    let (ds, rest) ← whole? rest
    let (fs, rest, marked) := match fraction? rest with
      | some (fs, rest) => (fs, rest, true)
      | none => ([], rest, false)
    let (e, rest, marked) := match exponent? rest with
      | some (e, rest) => (e, rest, true)
      | none => (0, rest, marked)
    if marked && (negative || finite (ofDigits 10 (ds ++ fs)) (e - fs.length)) then
      some (.float, rest)
    else none

/-! ## Dates and times -/

/-- Exactly `count` decimal digits: the number they denote, and what follows. -/
def fixed? (count : Nat) (cs : List Char) : Option (Nat × List Char) :=
  let ds := cs.take count
  if ds.length = count && ds.all Char.isDigit then
    some (ds.foldl (fun n c => n * 10 + (c.toNat - 48)) 0, cs.drop count)
  else none

/-- Two digits from `low` to `high`. -/
def twoDigits? (low high : Nat) (cs : List Char) : Option (Nat × List Char) := do
  let (n, rest) ← fixed? 2 cs
  if low ≤ n ∧ n ≤ high then some (n, rest) else none

/-- A character that has to come next. -/
def expect? (c : Char) : List Char → Option (List Char)
  | d :: rest => if c == d then some rest else none
  | [] => none

/-- The number of days of a month. -/
def daysOf (year month : Nat) : Nat :=
  if month = 2 then
    if year % 4 = 0 ∧ (year % 100 ≠ 0 ∨ year % 400 = 0) then 29 else 28
  else if month = 4 ∨ month = 6 ∨ month = 9 ∨ month = 11 then 30
  else 31

/-- A number in at least `width` digits. -/
def padded (width n : Nat) : List Char :=
  let ds := Text.decimal n
  List.replicate (width - ds.length) '0' ++ ds

/-- A date, in its canonical spelling. -/
def day? (cs : List Char) : Option (List Char × List Char) := do
  let (year, rest) ← fixed? 4 cs
  let (month, rest) ← twoDigits? 1 12 (← expect? '-' rest)
  let (day, rest) ← twoDigits? 1 31 (← expect? '-' rest)
  if day ≤ daysOf year month then
    some (padded 4 year ++ '-' :: padded 2 month ++ '-' :: padded 2 day, rest)
  else none

/-- The fraction of a second: nine digits count, and zeros at the end are not spelled. -/
def secondFraction (ds : List Char) : List Char :=
  let kept := ((ds.take 9).reverse.dropWhile (· == '0')).reverse
  if kept.isEmpty then [] else '.' :: kept

/-- A time of day, in its canonical spelling. -/
def time? (cs : List Char) : Option (List Char × List Char) := do
  let (hour, rest) ← twoDigits? 0 23 cs
  let (minute, rest) ← twoDigits? 0 59 (← expect? ':' rest)
  let (second, rest) ← twoDigits? 0 60 (← expect? ':' rest)
  let spelled := padded 2 hour ++ ':' :: padded 2 minute ++ ':' :: padded 2 second
  match rest with
  | '.' :: more =>
    let ds := more.takeWhile Char.isDigit
    if ds.isEmpty then none else some (spelled ++ secondFraction ds, more.dropWhile Char.isDigit)
  | rest => some (spelled, rest)

/-- The offset of a time from that of Greenwich, in its canonical spelling; nothing is one as well.
-/
def offset? : List Char → Option (List Char × List Char)
  | c :: rest =>
    if c == 'Z' || c == 'z' then some (['Z'], rest)
    else if c == '+' || c == '-' then do
      let (hour, rest) ← twoDigits? 0 23 rest
      let (minute, rest) ← twoDigits? 0 59 (← expect? ':' rest)
      let mark := if hour = 0 ∧ minute = 0 then '+' else c
      some (mark :: padded 2 hour ++ ':' :: padded 2 minute, rest)
    else some ([], c :: rest)
  | [] => some ([], [])

/-- A date, a time, or a date with a time behind it. -/
def date? (cs : List Char) : Option (Toml × List Char) :=
  let ofChars (spelled : List Char) : Toml := .date (String.ofList spelled)
  match day? cs with
  | none => (time? cs).map fun (t, rest) => (ofChars t, rest)
  | some (day, rest) =>
    match rest with
    | c :: more =>
      match if c == 'T' || c == 't' || c == ' ' then time? more else none with
      | some (time, rest) =>
        (offset? rest).map fun (offset, rest) => (ofChars (day ++ 'T' :: time ++ offset), rest)
      | none => some (ofChars day, rest)
    | [] => some (ofChars day, [])

/-- A word that has to come next. -/
def word? (word : List Char) (cs : List Char) : Option (List Char) :=
  if word.isPrefixOf cs then some (cs.drop word.length) else none

/-- A value that is neither a list nor a table. -/
def scalar? (cs : List Char) : Option (Toml × List Char) :=
  match cs with
  | '\"' :: _ | '\'' :: _ => (text? cs).map fun (s, rest) => (.text s, rest)
  | 't' :: _ => (word? ['t', 'r', 'u', 'e'] cs).map fun rest => (.bool true, rest)
  | 'f' :: _ => (word? ['f', 'a', 'l', 's', 'e'] cs).map fun rest => (.bool false, rest)
  | cs => date? cs <|> float? cs <|> integer? cs

end CommandRelay.Toml
