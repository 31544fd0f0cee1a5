/-!
# UTF-8

Texts as octets and back.  Reading goes octet by octet: the machine holds what is still owed of the
sequence being read, and it gives up on a sequence at the first octet that cannot continue it.  Each
sequence given up is one defect, so the lenient reading puts one replacement character in its place.
-/

namespace CommandRelay.Utf8

/-- Where the reader stands between two octets. -/
inductive State where
  /-- Between two characters. -/
  | boundary
  /-- Inside a sequence: `owed + 1` octets are missing, the next one lies in `low … high`, and
  `value` is what the octets so far contribute. -/
  | inside (owed : Nat) (value : Nat) (low high : UInt8)
  deriving DecidableEq, Repr

/-- What an octet between two characters starts; `none` stands for a defect. -/
def start (b : UInt8) : List (Option Char) × State :=
  if b < 0x80 then ([some (Char.ofNat b.toNat)], .boundary)
  else if b < 0xC2 then ([none], .boundary)
  else if b < 0xE0 then ([], .inside 0 (b.toNat - 0xC0) 0x80 0xBF)
  else if b = 0xE0 then ([], .inside 1 0 0xA0 0xBF)
  else if b = 0xED then ([], .inside 1 0xD 0x80 0x9F)
  else if b < 0xF0 then ([], .inside 1 (b.toNat - 0xE0) 0x80 0xBF)
  else if b = 0xF0 then ([], .inside 2 0 0x90 0xBF)
  else if b < 0xF4 then ([], .inside 2 (b.toNat - 0xF0) 0x80 0xBF)
  else if b = 0xF4 then ([], .inside 2 4 0x80 0x8F)
  else ([none], .boundary)

/-- Reads one octet: the characters and defects it completes, and where the reader stands then. -/
def step : State → UInt8 → List (Option Char) × State
  | .boundary, b => start b
  | .inside owed value low high, b =>
    if low ≤ b ∧ b ≤ high then
      let value := value * 64 + (b.toNat - 0x80)
      match owed with
      | 0 => ([some (Char.ofNat value)], .boundary)
      | owed + 1 => ([], .inside owed value 0x80 0xBF)
    else
      let (out, next) := start b
      (none :: out, next)

/-- Reads octets from a state to the end of the text, where an unfinished sequence is a defect. -/
def run : State → List UInt8 → List (Option Char)
  | .boundary, [] => []
  | .inside _ _ _ _, [] => [none]
  | s, b :: bs => (step s b).1 ++ run (step s b).2 bs

/-- The characters of a sequence of octets, with `none` for each defect. -/
def read (bs : List UInt8) : List (Option Char) :=
  run .boundary bs

/-- The text that octets spell, if they are free of defects. -/
def decode? (bs : List UInt8) : Option String :=
  ((read bs).mapM id).map String.ofList

/-- The text that octets spell, with U+FFFD in the place of each defect. -/
def decodeLossy (bs : List UInt8) : String :=
  String.ofList ((read bs).map (·.getD (Char.ofNat 0xFFFD)))

/-- The octets of a list of characters. -/
def encodeChars (cs : List Char) : List UInt8 :=
  cs.flatMap String.utf8EncodeChar

/-- The octets of a text. -/
def encode (s : String) : List UInt8 :=
  encodeChars s.toList

@[simp] theorem encodeChars_nil : encodeChars [] = [] := rfl

@[simp] theorem encodeChars_append (s t : List Char) :
    encodeChars (s ++ t) = encodeChars s ++ encodeChars t := by
  simp [encodeChars]

end CommandRelay.Utf8
