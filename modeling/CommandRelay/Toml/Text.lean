/-!
# Texts and keys in TOML

Texts are basic, with escapes, or literal; either comes on one line or on several.  Each function
takes the characters behind the opening quotes and gives the content and the characters behind the
closing ones.  Line ends inside a text become a line feed.
-/

namespace CommandRelay.Toml

/-- Space and tab. -/
def isGap (c : Char) : Bool := c == ' ' || c == '\t'

/-- Skips spaces and tabs. -/
def skipGap (cs : List Char) : List Char := cs.dropWhile isGap

/-- The characters allowed in comments and texts: no control character but the tab. -/
def isPlain (c : Char) : Bool := c == '\t' || (c.toNat ≥ 0x20 && c.toNat != 0x7F)

/-- The end of a line: a line feed, with a carriage return before it or not. -/
def lineEnd? : List Char → Option (List Char)
  | '\n' :: rest => some rest
  | '\r' :: '\n' :: rest => some rest
  | _ => none

/-- Skips one line end if there is one. -/
def skipLineEnd (cs : List Char) : List Char := (lineEnd? cs).getD cs

/-- Skips spaces, tabs and line ends. -/
def skipBlanks : List Char → List Char
  | [] => []
  | '\r' :: '\n' :: rest => skipBlanks rest
  | c :: rest => if isGap c || c == '\n' then skipBlanks rest else c :: rest

/-- The value of a hexadecimal digit. -/
def hexValue? (c : Char) : Option Nat :=
  if '0' ≤ c ∧ c ≤ '9' then some (c.toNat - 48)
  else if 'a' ≤ c ∧ c ≤ 'f' then some (c.toNat - 87)
  else if 'A' ≤ c ∧ c ≤ 'F' then some (c.toNat - 55)
  else none

/-- The number that hexadecimal digits denote. -/
def hexNumber? (ds : List Char) : Option Nat :=
  ds.foldlM (fun n c => (hexValue? c).map (n * 16 + ·)) 0

/-- The character that hexadecimal digits denote. -/
def hexChar? (ds : List Char) : Option Char := do
  let n ← hexNumber? ds
  if n < 0xD800 ∨ (0xE000 ≤ n ∧ n < 0x110000) then some (Char.ofNat n) else none

/-- The character that a one-letter escape stands for. -/
def shortEscape? : Char → Option Char
  | 'b' => some '\x08'
  | 'f' => some '\x0C'
  | 'n' => some '\n'
  | 'r' => some '\r'
  | 't' => some '\t'
  | '\"' => some '\"'
  | '\\' => some '\\'
  | _ => none

/-- The character of an escape, behind its backslash. -/
def escape? : List Char → Option (Char × List Char)
  | 'u' :: a :: b :: c :: d :: rest => (hexChar? [a, b, c, d]).map (·, rest)
  | 'U' :: a :: b :: c :: d :: e :: f :: g :: h :: rest =>
    (hexChar? [a, b, c, d, e, f, g, h]).map (·, rest)
  | c :: rest => (shortEscape? c).map (·, rest)
  | [] => none

/-- The rest of a basic text on one line; `fuel` bounds the number of characters. -/
def basicText (fuel : Nat) (cs : List Char) : Option (List Char × List Char) :=
  match fuel, cs with
  | _, '\"' :: rest => some ([], rest)
  | fuel + 1, '\\' :: rest => do
    let (c, rest) ← escape? rest
    let (text, rest) ← basicText fuel rest
    some (c :: text, rest)
  | fuel + 1, c :: rest =>
    if isPlain c then do
      let (text, rest) ← basicText fuel rest
      some (c :: text, rest)
    else none
  | _, _ => none

/-- The rest of a literal text on one line. -/
def literalText : List Char → Option (List Char × List Char)
  | [] => none
  | c :: rest =>
    if c == '\'' then some ([], rest)
    else if isPlain c then (literalText rest).map fun (text, rest) => (c :: text, rest)
    else none

/-- The quotes at a place in a text on several lines.  Up to two belong to the text; three end it,
and up to two in front of these belong to it still. -/
def quotes (quote : Char) (cs : List Char) : Nat × Bool × List Char :=
  let n := (cs.takeWhile (· == quote)).length
  if n < 3 then (n, false, cs.drop n)
  else (min (n - 3) 2, true, cs.drop (min (n - 3) 2 + 3))

/-- Skips what a backslash at the end of a line skips: all blanks up to the next character. -/
def continued? (cs : List Char) : Option (List Char) :=
  (lineEnd? (skipGap cs)).map skipBlanks

/-- The rest of a text on several lines; escapes count in a basic one only. -/
def longText (quote : Char) (escapes : Bool) (fuel : Nat) (cs : List Char) :
    Option (List Char × List Char) :=
  match fuel, cs with
  | 0, _ | _, [] => none
  | fuel + 1, c :: rest =>
    if c == quote then
      match quotes quote (c :: rest) with
      | (n, true, rest) => some (List.replicate n quote, rest)
      | (n, false, rest) => do
        let (text, rest) ← longText quote escapes fuel rest
        some (List.replicate n quote ++ text, rest)
    else if escapes && c == '\\' then
      match continued? rest with
      | some rest => longText quote escapes fuel rest
      | none => do
        let (c, rest) ← escape? rest
        let (text, rest) ← longText quote escapes fuel rest
        some (c :: text, rest)
    else match lineEnd? (c :: rest) with
      | some rest => do
        let (text, rest) ← longText quote escapes fuel rest
        some ('\n' :: text, rest)
      | none =>
        if isPlain c then do
          let (text, rest) ← longText quote escapes fuel rest
          some (c :: text, rest)
        else none

/-- A text, from its opening quotes on. -/
def text? (cs : List Char) : Option (String × List Char) := do
  let (text, rest) ← match cs with
    | '\"' :: '\"' :: '\"' :: rest => longText '\"' true (rest.length + 1) (skipLineEnd rest)
    | '\'' :: '\'' :: '\'' :: rest => longText '\'' false (rest.length + 1) (skipLineEnd rest)
    | '\"' :: rest => basicText (rest.length + 1) rest
    | '\'' :: rest => literalText rest
    | _ => none
  some (String.ofList text, rest)

/-- The characters of a bare key. -/
def isBare (c : Char) : Bool := c.isAlphanum || c == '_' || c == '-'

/-- One part of a key: bare, or a text on one line. -/
def keyPart? : List Char → Option (String × List Char)
  | '\"' :: rest => (basicText (rest.length + 1) rest).map fun (t, r) => (String.ofList t, r)
  | '\'' :: rest => (literalText rest).map fun (t, r) => (String.ofList t, r)
  | cs =>
    let name := cs.takeWhile isBare
    if name.isEmpty then none else some (String.ofList name, cs.dropWhile isBare)

/-- How deep values may be nested and how many parts a key may have, less one. -/
def depthLimit : Nat := 80

/-- A key of fewer than `parts` parts, with points between them and gaps around each. -/
def keyPath? : (parts : Nat) → List Char → Option (List String × List Char)
  | 0, _ => none
  | 1, _ => none
  | parts + 2, cs => do
    let (k, rest) ← keyPart? (skipGap cs)
    match skipGap rest with
    | '.' :: rest =>
      let (ks, rest) ← keyPath? (parts + 1) rest
      some (k :: ks, rest)
    | rest => some ([k], rest)

/-- A key. -/
def key? (cs : List Char) : Option (List String × List Char) := keyPath? depthLimit cs

end CommandRelay.Toml
