import CommandRelay.Text.Utf8

/-!
# JSON tokens

The lexer is a machine over octets.  A token keeps all of its spelling: the octets and escapes of a
text, the digits of a number.  Whether a text is valid UTF-8 with paired surrogates, and whether a
number fits, is left to whoever wants its value, because a skipped field is checked for its syntax
only.  The token `bad` stands for the first octets that belong to no token; nothing follows it.
-/

namespace CommandRelay.Json

/-- One unit of the spelling of a text. -/
inductive TextUnit where
  /-- An octet, written as itself or as a one-letter escape. -/
  | octet (b : UInt8)
  /-- A four-digit escape: one UTF-16 unit. -/
  | unit (u : Nat)
  deriving DecidableEq, Repr

/-- The spelling of a number; digits are numbers below ten. -/
structure Numeral where
  negative : Bool
  whole : List Nat
  /-- The digits behind the point, if there is a point. -/
  fraction : Option (List Nat)
  /-- The sign and the digits of the exponent, if there is one. -/
  exponent : Option (Bool × List Nat)
  deriving DecidableEq, Repr

/-- A token of the JSON grammar. -/
inductive Token where
  | openList | closeList | openObject | closeObject | colon | comma
  | null | true | false
  | text (units : List TextUnit)
  | number (n : Numeral)
  | bad
  deriving DecidableEq, Repr

/-- Which part of a number was read last. -/
inductive NumeralPart where
  /-- A sign, no digit yet. -/
  | sign
  /-- A leading zero, which no digit may follow. -/
  | zero
  | whole
  /-- A point, no digit behind it yet. -/
  | point
  | fraction
  /-- The letter of the exponent. -/
  | letter
  /-- The sign of the exponent. -/
  | exponentSign
  | exponent
  deriving DecidableEq, Repr

/-- Where the lexer stands between two octets.  Lists of what was read are in reverse order. -/
inductive LexState where
  /-- Between two tokens. -/
  | between
  /-- Inside a text. -/
  | text (units : List TextUnit)
  /-- Behind a backslash. -/
  | escape (units : List TextUnit)
  /-- Inside a four-digit escape with `missing + 1` digits to come. -/
  | hex (units : List TextUnit) (missing : Nat) (value : Nat)
  /-- Inside a word of which `rest` is still to come. -/
  | word (rest : List UInt8) (result : Token)
  /-- Inside a number. -/
  | number (part : NumeralPart) (n : Numeral)
  /-- Behind octets that belong to no token. -/
  | stopped
  deriving DecidableEq, Repr

/-- Space, tab, line feed and carriage return. -/
def isSpace (b : UInt8) : Bool :=
  b == 0x20 || b == 0x09 || b == 0x0A || b == 0x0D

/-- The value of a decimal digit. -/
def digit? (b : UInt8) : Option Nat :=
  if 0x30 ≤ b ∧ b ≤ 0x39 then some (b.toNat - 0x30) else none

/-- The value of a hexadecimal digit. -/
def hexDigit? (b : UInt8) : Option Nat :=
  if 0x30 ≤ b ∧ b ≤ 0x39 then some (b.toNat - 0x30)
  else if 0x41 ≤ b ∧ b ≤ 0x46 then some (b.toNat - 0x41 + 10)
  else if 0x61 ≤ b ∧ b ≤ 0x66 then some (b.toNat - 0x61 + 10)
  else none

/-- The octet that a one-letter escape stands for. -/
def shortEscape? (b : UInt8) : Option UInt8 :=
  if b = 0x22 then some 0x22
  else if b = 0x5C then some 0x5C
  else if b = 0x2F then some 0x2F
  else if b = 0x62 then some 0x08
  else if b = 0x66 then some 0x0C
  else if b = 0x6E then some 0x0A
  else if b = 0x72 then some 0x0D
  else if b = 0x74 then some 0x09
  else none

/-- What an octet between two tokens starts. -/
def lexStart (b : UInt8) : List Token × LexState :=
  if isSpace b then ([], .between)
  else if b = 0x5B then ([.openList], .between)
  else if b = 0x5D then ([.closeList], .between)
  else if b = 0x7B then ([.openObject], .between)
  else if b = 0x7D then ([.closeObject], .between)
  else if b = 0x3A then ([.colon], .between)
  else if b = 0x2C then ([.comma], .between)
  else if b = 0x22 then ([], .text [])
  else if b = 0x6E then ([], .word [0x75, 0x6C, 0x6C] .null)
  else if b = 0x74 then ([], .word [0x72, 0x75, 0x65] .true)
  else if b = 0x66 then ([], .word [0x61, 0x6C, 0x73, 0x65] .false)
  else if b = 0x2D then ([], .number .sign ⟨Bool.true, [], none, none⟩)
  else match digit? b with
    | some 0 => ([], .number .zero ⟨Bool.false, [0], none, none⟩)
    | some d => ([], .number .whole ⟨Bool.false, [d], none, none⟩)
    | none => ([.bad], .stopped)

/-- A numeral whose digits were read in reverse order. -/
def Numeral.turned (n : Numeral) : Numeral :=
  { n with
    whole := n.whole.reverse
    fraction := n.fraction.map List.reverse
    exponent := n.exponent.map fun (s, ds) => (s, ds.reverse) }

/-- Whether a number may end behind a part. -/
def NumeralPart.complete : NumeralPart → Bool
  | .zero | .whole | .fraction | .exponent => Bool.true
  | .sign | .point | .letter | .exponentSign => Bool.false

/-- How an octet continues a number, if it does. -/
def continueNumeral (part : NumeralPart) (n : Numeral) (b : UInt8) :
    Option (NumeralPart × Numeral) :=
  match part, digit? b with
  | .sign, some 0 => some (.zero, { n with whole := [0] })
  | .sign, some d => some (.whole, { n with whole := [d] })
  | .whole, some d => some (.whole, { n with whole := d :: n.whole })
  | .point, some d | .fraction, some d =>
    some (.fraction, { n with fraction := some (d :: n.fraction.getD []) })
  | .letter, some d => some (.exponent, { n with exponent := some (Bool.false, [d]) })
  | .exponentSign, some d | .exponent, some d =>
    let (sign, ds) := n.exponent.getD (Bool.false, [])
    some (.exponent, { n with exponent := some (sign, d :: ds) })
  | .zero, none | .whole, none =>
    if b = 0x2E then some (.point, n)
    else if b = 0x65 ∨ b = 0x45 then some (.letter, n)
    else none
  | .fraction, none => if b = 0x65 ∨ b = 0x45 then some (.letter, n) else none
  | .letter, none =>
    if b = 0x2B then some (.exponentSign, { n with exponent := some (Bool.false, []) })
    else if b = 0x2D then some (.exponentSign, { n with exponent := some (Bool.true, []) })
    else none
  | _, _ => none

/-- Reads one octet: the tokens it completes, and where the lexer stands then. -/
def lexStep : LexState → UInt8 → List Token × LexState
  | .between, b => lexStart b
  | .text units, b =>
    if b = 0x22 then ([.text units.reverse], .between)
    else if b = 0x5C then ([], .escape units)
    else if b < 0x20 then ([.bad], .stopped)
    else ([], .text (.octet b :: units))
  | .escape units, b =>
    if b = 0x75 then ([], .hex units 3 0)
    else match shortEscape? b with
      | some c => ([], .text (.octet c :: units))
      | none => ([.bad], .stopped)
  | .hex units missing value, b =>
    match hexDigit? b, missing with
    | some d, 0 => ([], .text (.unit (value * 16 + d) :: units))
    | some d, missing + 1 => ([], .hex units missing (value * 16 + d))
    | none, _ => ([.bad], .stopped)
  | .word rest result, b =>
    match rest with
    | [last] => if b = last then ([result], .between) else ([.bad], .stopped)
    | next :: rest => if b = next then ([], .word rest result) else ([.bad], .stopped)
    | [] => ([.bad], .stopped)
  | .number part n, b =>
    match continueNumeral part n b with
    | some (part, n) => ([], .number part n)
    | none =>
      if part.complete then
        let (tokens, next) := lexStart b
        (.number n.turned :: tokens, next)
      else ([.bad], .stopped)
  | .stopped, _ => ([], .stopped)

/-- The tokens that the end of the text completes. -/
def lexEnd : LexState → List Token
  | .between | .stopped => []
  | .number part n => if part.complete then [.number n.turned] else [.bad]
  | .text _ | .escape _ | .hex _ _ _ | .word _ _ => [.bad]

/-- The tokens of a text read from a state on. -/
def lexFrom : LexState → List UInt8 → List Token
  | s, [] => lexEnd s
  | s, b :: bs => (lexStep s b).1 ++ lexFrom (lexStep s b).2 bs

/-- The tokens of a text. -/
def lex (bs : List UInt8) : List Token :=
  lexFrom .between bs

/-- The surrogates `high` and `low` as one character. -/
def pairedSurrogates (high low : Nat) : Nat :=
  0x10000 + (high - 0xD800) * 0x400 + (low - 0xDC00)

/-- The octets of a spelled text, if every surrogate in it is one of a pair. -/
def unitOctets? : List TextUnit → Option (List UInt8)
  | [] => some []
  | .octet b :: rest => (b :: ·) <$> unitOctets? rest
  | .unit u :: .unit v :: rest =>
    if 0xD800 ≤ u ∧ u < 0xDC00 then
      if 0xDC00 ≤ v ∧ v < 0xE000 then
        (String.utf8EncodeChar (Char.ofNat (pairedSurrogates u v)) ++ ·) <$> unitOctets? rest
      else none
    else if 0xDC00 ≤ u ∧ u < 0xE000 then none
    else (String.utf8EncodeChar (Char.ofNat u) ++ ·) <$> unitOctets? (.unit v :: rest)
  | .unit u :: rest =>
    if 0xD800 ≤ u ∧ u < 0xE000 then none
    else (String.utf8EncodeChar (Char.ofNat u) ++ ·) <$> unitOctets? rest

/-- The text that a spelling stands for: its surrogates are paired and its octets are UTF-8. -/
def unitText? (units : List TextUnit) : Option String :=
  unitOctets? units |>.bind Utf8.decode?

end CommandRelay.Json
