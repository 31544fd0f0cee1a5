import CommandRelay.Proofs.Json.Building
import CommandRelay.Proofs.Json.Spelling

/-!
# The written form is lexed

The lexer reads the tokens of the spelling from the written form of a value without doubles
(`lex_write`), and with the builder that gives the spelling itself (`ofOctets?_toOctets`).

Inside a text no octet of a character is taken for a quote, a backslash or a control character, for
such octets are ASCII and are escaped (`lexFrom_writeChar`).  A number is the only token that does
not know its own end: it ends in front of whatever may stand behind a value (`Stops`).  Its digits
are read in runs (`lexFrom_run`), before the point, behind it and in the exponent alike.
-/

namespace CommandRelay.Json

open Utf8 (encodeChars encodeChars_cons)

theorem lexFrom_cons {s s' : LexState} {b : UInt8} {out : List Token} (h : lexStep s b = (out, s'))
    (bs : List UInt8) : lexFrom s (b :: bs) = out ++ lexFrom s' bs := by
  rw [lexFrom, h]

/-! ## Texts -/

section

variable (units : List TextUnit) (rest : List UInt8)

/-- Octets that need no escape are units of their own. -/
theorem lexFrom_octets {bs : List UInt8} (h : ∀ b ∈ bs, b ≠ 0x22 ∧ b ≠ 0x5C ∧ ¬ b < 0x20) :
    lexFrom (.text units) (bs ++ rest) =
      lexFrom (.text ((bs.map TextUnit.octet).reverse ++ units)) rest := by
  induction bs generalizing units with
  | nil => rfl
  | cons b bs ih =>
    obtain ⟨⟨hquote, hslash, hcontrol⟩, hbs⟩ := List.forall_mem_cons.mp h
    have hstep : lexStep (.text units) b = ([], .text (.octet b :: units)) := by
      rw [lexStep, if_neg hquote, if_neg hslash, if_neg hcontrol]
    rw [List.cons_append, lexFrom_cons hstep, List.nil_append, ih _ hbs, List.map_cons,
      List.reverse_cons, List.append_assoc]
    rfl

/-- A hexadecimal digit that is written is read back, and is ASCII. -/
theorem hexDigit?_hexDigit : ∀ d < 16,
    hexDigit? (UInt8.ofNat (Text.hexDigit d).toNat) = some d ∧ (Text.hexDigit d).toNat < 0x80 := by
  decide

/-- A control character is spelled by its number in four digits. -/
theorem lexFrom_unit {u : Nat} (hu : u < 32) :
    lexFrom (.text units) (encodeChars
      ['\\', 'u', '0', '0', Text.hexDigit (u / 16), Text.hexDigit (u % 16)] ++ rest) =
        lexFrom (.text (.unit u :: units)) rest := by
  obtain ⟨hhigh, hhigh'⟩ := hexDigit?_hexDigit (u / 16) (by omega)
  obtain ⟨hlow, hlow'⟩ := hexDigit?_hexDigit (u % 16) (by omega)
  have hoctets : encodeChars ['\\', 'u', '0', '0', Text.hexDigit (u / 16), Text.hexDigit (u % 16)] =
      [0x5C, 0x75, 0x30, 0x30, UInt8.ofNat (Text.hexDigit (u / 16)).toNat,
        UInt8.ofNat (Text.hexDigit (u % 16)).toNat] := by
    rw [encodeChars_cons, encodeChars_cons, encodeChars_cons, encodeChars_cons, encodeChars_cons,
      encodeChars_cons, Utf8.encodeChar_ascii hhigh', Utf8.encodeChar_ascii hlow']
    rfl
  have hlast : ((((0 * 16 + 0) * 16 + 0) * 16 + u / 16) * 16 + u % 16) = u := by omega
  have hthird : lexStep (.hex units 1 ((0 * 16 + 0) * 16 + 0))
      (UInt8.ofNat (Text.hexDigit (u / 16)).toNat) =
        ([], .hex units 0 (((0 * 16 + 0) * 16 + 0) * 16 + u / 16)) := by
    simp only [lexStep, hhigh]
  have hfourth : lexStep (.hex units 0 (((0 * 16 + 0) * 16 + 0) * 16 + u / 16))
      (UInt8.ofNat (Text.hexDigit (u % 16)).toNat) = ([], .text (.unit u :: units)) := by
    simp only [lexStep, hlow, hlast]
  rw [hoctets]
  show lexFrom (.hex units 1 ((0 * 16 + 0) * 16 + 0)) (UInt8.ofNat _ :: UInt8.ofNat _ :: rest) = _
  rw [lexFrom_cons hthird, List.nil_append, lexFrom_cons hfourth, List.nil_append]

/-- Inside a text the lexer reads a character as it is spelled. -/
theorem lexFrom_writeChar (c : Char) :
    lexFrom (.text units) (encodeChars (writeChar c) ++ rest) =
      lexFrom (.text ((charUnits c).reverse ++ units)) rest := by
  rw [writeChar]
  split
  · rename_i hc; subst hc; rfl
  rename_i hquote
  split
  · rename_i hc; subst hc; rfl
  rename_i hslash
  split
  · rename_i hc; subst hc; rfl
  rename_i hb
  split
  · rename_i hc; subst hc; rfl
  rename_i hf
  split
  · rename_i hc; subst hc; rfl
  rename_i hn
  split
  · rename_i hc; subst hc; rfl
  rename_i hr
  split
  · rename_i hc; subst hc; rfl
  rename_i ht
  -- No escape of one letter is left, so the character is spelled by its number or as it is.
  have hletters : c ∉ ['\x08', '\x0C', '\n', '\r', '\t'] := by
    simp only [List.mem_cons, List.not_mem_nil, or_false, not_or]
    exact ⟨hb, hf, hn, hr, ht⟩
  split
  · rename_i hcontrol
    rw [charUnits, if_pos ⟨hcontrol, hletters⟩]
    exact lexFrom_unit units rest hcontrol
  · -- None of its octets ends the text, begins an escape or is a control.
    rename_i hplain
    have hall : ∀ b ∈ String.utf8EncodeChar c, b ≠ 0x22 ∧ b ≠ 0x5C ∧ ¬ b < 0x20 := by
      intro b hb
      rw [Ne, ← UInt8.toNat_inj, Ne, ← UInt8.toNat_inj, UInt8.lt_iff_toNat_lt]
      show b.toNat ≠ 34 ∧ b.toNat ≠ 92 ∧ ¬ b.toNat < 32
      have hquote' : c.toNat ≠ 34 := fun h => hquote (Char.toNat_inj.mp h)
      have hslash' : c.toNat ≠ 92 := fun h => hslash (Char.toNat_inj.mp h)
      rcases Utf8.mem_encodeChar hb with h | h <;> omega
    rw [charUnits, if_neg fun h => hplain h.1, encodeChars_cons, List.append_assoc]
    exact lexFrom_octets units rest hall

/-- Characters that are written in a text add their units. -/
theorem lexFrom_writeChars (cs : List Char) :
    lexFrom (.text units) (encodeChars (cs.flatMap writeChar) ++ rest) =
      lexFrom (.text ((textUnits cs).reverse ++ units)) rest := by
  induction cs generalizing units with
  | nil => rfl
  | cons c cs ih =>
    rw [List.flatMap_cons, Utf8.encodeChars_append, List.append_assoc, lexFrom_writeChar, ih,
      show textUnits (c :: cs) = charUnits c ++ textUnits cs from rfl, List.reverse_append,
      List.append_assoc]

/-- A written text is one token. -/
theorem lexFrom_writeText (cs : List Char) :
    lexFrom .between (encodeChars (writeText cs) ++ rest) =
      .text (textUnits cs) :: lexFrom .between rest := by
  rw [writeText, List.cons_append, encodeChars_cons, Utf8.encodeChars_append, List.append_assoc,
    List.append_assoc]
  show lexFrom (.text []) (encodeChars (cs.flatMap writeChar) ++ (encodeChars ['\"'] ++ rest)) = _
  rw [lexFrom_writeChars, List.append_nil]
  show [Token.text (textUnits cs).reverse.reverse] ++ lexFrom .between rest = _
  rw [List.reverse_reverse]
  rfl

end

/-! ## Integers -/

/-- What may stand behind a value: nothing, a comma, the end of a container, or a blank. -/
def Stops (rest : List UInt8) : Prop :=
  ∀ b ∈ rest.head?, b = 0x2C ∨ b = 0x5D ∨ b = 0x7D ∨ isSpace b = true

theorem stops_nil : Stops [] := nofun

theorem stops_cons {b : UInt8} (h : b = 0x2C ∨ b = 0x5D ∨ b = 0x7D ∨ isSpace b = true)
    (bs : List UInt8) : Stops (b :: bs) := by
  intro b' hb'
  rwa [← Option.some.inj hb']

/-- The octet of a digit. -/
def digitOctet (d : Nat) : UInt8 := UInt8.ofNat (d + 48)

theorem digit?_digitOctet : ∀ d < 10, digit? (digitOctet d) = some d := by decide

theorem encodeChar_hexDigit :
    ∀ d < 10, String.utf8EncodeChar (Text.hexDigit d) = [digitOctet d] := by
  decide

/-- The decimal digits of a number are its digits, as octets. -/
theorem encodeChars_decimal (n : Nat) :
    encodeChars (Text.decimal n) = (digits n).map digitOctet := by
  induction n using Nat.strongRecOn with
  | ind n ih =>
    by_cases h : n < 10
    · rw [Text.decimal, if_pos h, digits_of_lt h, encodeChars_cons, encodeChar_hexDigit n h]
      rfl
    · rw [Text.decimal, if_neg h, digits_of_le (by omega), Utf8.encodeChars_append,
        ih (n / 10) (by omega), encodeChars_cons, encodeChar_hexDigit (n % 10) (by omega),
        List.map_append]
      rfl

/-- Digits are below ten, and a zero stands first only if it stands alone. -/
theorem digits_eq_cons (n : Nat) :
    ∃ d ds, digits n = d :: ds ∧ d < 10 ∧ (∀ e ∈ ds, e < 10) ∧ (d = 0 → ds = []) := by
  induction n using Nat.strongRecOn with
  | ind n ih =>
    by_cases h : n < 10
    · exact ⟨n, [], digits_of_lt h, h, nofun, fun _ => rfl⟩
    · obtain ⟨d, ds, heq, hd, hds, hzero⟩ := ih (n / 10) (by omega)
      refine ⟨d, ds ++ [n % 10], by rw [digits_of_le (by omega), heq]; rfl, hd, ?_, ?_⟩
      · intro e he
        rcases List.mem_append.mp he with he | he
        · exact hds e he
        · rw [List.mem_singleton.mp he]
          omega
      · rintro rfl
        -- Ten times a number that is not zero.
        have hvalue := digitsValue_digits (n / 10)
        rw [heq, hzero rfl] at hvalue
        have hnone : n / 10 = 0 := hvalue.symm
        omega

/-- Digits are gathered one by one; `reading` is the number with the digits of a run so far. -/
theorem lexFrom_run {part : NumeralPart} {reading : List Nat → Numeral}
    (hstep : ∀ d < 10, ∀ ds, lexStep (.number part (reading ds)) (digitOctet d) =
      ([], .number part (reading (d :: ds))))
    {ds : List Nat} (hds : ∀ d ∈ ds, d < 10) (acc : List Nat) (rest : List UInt8) :
    lexFrom (.number part (reading acc)) (ds.map digitOctet ++ rest) =
      lexFrom (.number part (reading (ds.reverse ++ acc))) rest := by
  induction ds generalizing acc with
  | nil => rfl
  | cons d ds ih =>
    obtain ⟨hd, hds⟩ := List.forall_mem_cons.mp hds
    rw [List.map_cons, List.cons_append, lexFrom_cons (hstep d hd acc), List.nil_append, ih hds,
      List.reverse_cons, List.append_assoc]
    rfl

/-- A number ends in front of what may stand behind a value. -/
theorem lexFrom_stops {part : NumeralPart} (hpart : part.complete = true) (n : Numeral)
    {rest : List UInt8} (h : Stops rest) :
    lexFrom (.number part n) rest = .number n.turned :: lexFrom .between rest := by
  rcases rest with _ | ⟨b, bs⟩
  · rw [lexFrom, lexEnd, if_pos hpart]
    rfl
  · have hb : b = 0x2C ∨ b = 0x5D ∨ b = 0x7D ∨ b = 0x20 ∨ b = 0x09 ∨ b = 0x0A ∨ b = 0x0D := by
      simpa [isSpace, or_assoc] using h b rfl
    have hnone : continueNumeral part n b = none := by
      rcases hb with rfl | rfl | rfl | rfl | rfl | rfl | rfl <;> cases part <;> rfl
    have hstep : lexStep (.number part n) b =
        (.number n.turned :: (lexStart b).1, (lexStart b).2) := by
      simp only [lexStep, hnone, hpart, if_true]
    rw [lexFrom_cons hstep, lexFrom_cons (s := .between) rfl]
    rfl

/-- The lexer reads the digits of a whole number, behind a sign or not; a zero stands alone. -/
theorem lexFrom_whole {s : LexState} {negative : Bool} (hs : ∀ d < 10, lexStep s (digitOctet d) =
      ([], .number (if d = 0 then .zero else .whole) ⟨negative, [d], none, none⟩))
    {d : Nat} {ds : List Nat} (hd : d < 10) (hds : ∀ e ∈ ds, e < 10) (hzero : d = 0 → ds = [])
    (rest : List UInt8) : ∃ part, (part = .zero ∨ part = .whole) ∧
      lexFrom s ((d :: ds).map digitOctet ++ rest) =
        lexFrom (.number part ⟨negative, (d :: ds).reverse, none, none⟩) rest := by
  rw [List.map_cons, List.cons_append, lexFrom_cons (hs d hd), List.nil_append]
  by_cases hd0 : d = 0
  · obtain rfl := hzero hd0
    exact ⟨.zero, .inl rfl, by rw [if_pos hd0]; rfl⟩
  · refine ⟨.whole, .inr rfl, ?_⟩
    rw [if_neg hd0]
    have hstep : ∀ e < 10, ∀ es, lexStep (.number .whole ⟨negative, es, none, none⟩)
        (digitOctet e) = ([], .number .whole ⟨negative, e :: es, none, none⟩) := by
      intro e he es
      simp only [lexStep, continueNumeral, digit?_digitOctet e he]
    rw [lexFrom_run hstep hds, List.reverse_cons]

/-- Where a number starts, a digit is the first of it, behind a sign or not. -/
theorem lexStep_firstDigit : ∀ d < 10, lexStep .between (digitOctet d) =
    ([], .number (if d = 0 then .zero else .whole) ⟨false, [d], none, none⟩) := by decide

theorem lexStep_signedDigit : ∀ d < 10,
    lexStep (.number .sign ⟨true, [], none, none⟩) (digitOctet d) =
      ([], .number (if d = 0 then .zero else .whole) ⟨true, [d], none, none⟩) := by decide

theorem lexStep_minus : lexStep .between 0x2D = ([], .number .sign ⟨true, [], none, none⟩) := rfl

/-- Digits that are all of a number are read as that. -/
theorem lexFrom_integer {s : LexState} {negative : Bool} (hs : ∀ d < 10,
      lexStep s (digitOctet d) =
        ([], .number (if d = 0 then .zero else .whole) ⟨negative, [d], none, none⟩))
    (n : Nat) {rest : List UInt8} (h : Stops rest) :
    lexFrom s ((digits n).map digitOctet ++ rest) =
      .number ⟨negative, digits n, none, none⟩ :: lexFrom .between rest := by
  obtain ⟨d, ds, heq, hd, hds, hzero⟩ := digits_eq_cons n
  obtain ⟨part, hpart, hread⟩ := lexFrom_whole hs hd hds hzero rest
  have hcomplete : part.complete = true := by
    rcases hpart with rfl | rfl <;> rfl
  rw [heq, hread, lexFrom_stops hcomplete _ h]
  simp [Numeral.turned]

/-- A written integer is one token, if something that separates stands behind it. -/
theorem lexFrom_decimalInt (n : Int) {rest : List UInt8} (h : Stops rest) :
    lexFrom .between (encodeChars (Text.decimalInt n) ++ rest) =
      .number (numeral n) :: lexFrom .between rest := by
  rw [Text.decimalInt, numeral]
  by_cases hn : n < 0
  · rw [if_pos hn, encodeChars_cons, encodeChars_decimal, List.append_assoc]
    show lexFrom .between (0x2D :: ((digits n.natAbs).map digitOctet ++ rest)) = _
    rw [lexFrom_cons lexStep_minus, List.nil_append, lexFrom_integer lexStep_signedDigit _ h,
      decide_eq_true hn]
  · rw [if_neg hn, encodeChars_decimal, lexFrom_integer lexStep_firstDigit _ h,
      decide_eq_false hn]

/-! ## Values -/

/-- Behind an item stands a comma or the end of the list. -/
theorem stops_writeItems (vs : List Json) {rest : List UInt8} (h : Stops rest) :
    Stops (encodeChars (writeItems vs) ++ rest) := by
  cases vs with
  | nil => exact h
  | cons v vs => exact stops_cons (.inl rfl) _

/-- Behind a field stands a comma or the end of the object. -/
theorem stops_writeFields (fields : List (String × Json)) {rest : List UInt8} (h : Stops rest) :
    Stops (encodeChars (writeFields fields) ++ rest) := by
  cases fields with
  | nil => exact h
  | cons f fields => exact stops_cons (.inl rfl) _

/-- The tokens that are one character. -/
def marks : List (Char × Token) :=
  [('[', .openList), (']', .closeList), ('{', .openObject), ('}', .closeObject), (':', .colon),
   (',', .comma)]

theorem lexFrom_mark (c : Char) (t : Token) (h : (c, t) ∈ marks) (rest : List UInt8) :
    lexFrom .between (String.utf8EncodeChar c ++ rest) = t :: lexFrom .between rest := by
  simp only [marks, List.mem_cons, Prod.mk.injEq, List.not_mem_nil, or_false] at h
  rcases h with ⟨rfl, rfl⟩ | ⟨rfl, rfl⟩ | ⟨rfl, rfl⟩ | ⟨rfl, rfl⟩ | ⟨rfl, rfl⟩ | ⟨rfl, rfl⟩ <;> rfl

mutual

/-- The lexer reads the tokens of the spelling. -/
theorem lex_write : (j : Json) → Whole j → {rest : List UInt8} → Stops rest →
    lexFrom .between (encodeChars (write j) ++ rest) =
      (spelling j).tokens ++ lexFrom .between rest
  | .null, _, _, _ => rfl
  | .bool true, _, _, _ => rfl
  | .bool false, _, _, _ => rfl
  | .number (.int n), _, _, h => lexFrom_decimalInt n h
  | .number (.double _), hw, _, _ => hw.elim
  | .text s, _, rest, _ => lexFrom_writeText rest s.toList
  | .list [], _, _, _ => rfl
  | .list (v :: vs), hw, rest, _ => by
    have hclose : Stops (String.utf8EncodeChar ']' ++ rest) := stops_cons (.inr (.inl rfl)) rest
    rw [write, spelling, spellingItems, Document.tokens]
    simp only [List.cons_append, encodeChars_cons, Utf8.encodeChars_append, List.append_assoc,
      Utf8.encodeChars_nil, List.nil_append]
    rw [lexFrom_mark '[' .openList (by decide), lex_write v hw.1 (stops_writeItems vs hclose),
      lex_writeItems vs hw.2 hclose, lexFrom_mark ']' .closeList (by decide)]
  | .object [], _, _, _ => rfl
  | .object ((k, v) :: fields), hw, rest, _ => by
    have hclose : Stops (String.utf8EncodeChar '}' ++ rest) :=
      stops_cons (.inr (.inr (.inl rfl))) rest
    rw [write, spelling, spellingFields, Document.tokens]
    simp only [List.cons_append, encodeChars_cons, Utf8.encodeChars_append, List.append_assoc,
      Utf8.encodeChars_nil, List.nil_append]
    rw [lexFrom_mark '{' .openObject (by decide), lexFrom_writeText,
      lexFrom_mark ':' .colon (by decide), lex_write v hw.1 (stops_writeFields fields hclose),
      lex_writeFields fields hw.2 hclose, lexFrom_mark '}' .closeObject (by decide)]

/-- Written items are the tokens of their spellings. -/
theorem lex_writeItems : (vs : List Json) → WholeItems vs → {rest : List UInt8} → Stops rest →
    lexFrom .between (encodeChars (writeItems vs) ++ rest) =
      itemTokens (spellingItems vs) ++ lexFrom .between rest
  | [], _, _, _ => rfl
  | v :: vs, hw, rest, h => by
    rw [writeItems, spellingItems, itemTokens]
    simp only [List.cons_append, encodeChars_cons, Utf8.encodeChars_append, List.append_assoc]
    rw [lexFrom_mark ',' .comma (by decide), lex_write v hw.1 (stops_writeItems vs h),
      lex_writeItems vs hw.2 h]

/-- Written fields are the tokens of their spellings. -/
theorem lex_writeFields : (fields : List (String × Json)) → WholeFields fields →
    {rest : List UInt8} → Stops rest →
    lexFrom .between (encodeChars (writeFields fields) ++ rest) =
      fieldTokens (spellingFields fields) ++ lexFrom .between rest
  | [], _, _, _ => rfl
  | (k, v) :: fields, hw, rest, h => by
    rw [writeFields, spellingFields, fieldTokens]
    simp only [List.cons_append, encodeChars_cons, Utf8.encodeChars_append, List.append_assoc]
    rw [lexFrom_mark ',' .comma (by decide), lexFrom_writeText, lexFrom_mark ':' .colon (by decide),
      lex_write v hw.1 (stops_writeFields fields h), lex_writeFields fields hw.2 h]

end

/-- The written form of a value without doubles is read as its spelling. -/
theorem ofOctets?_toOctets {j : Json} (h : Whole j) :
    Document.ofOctets? j.toOctets = some (spelling j) := by
  have hlex : lex j.toOctets = (spelling j).tokens := by
    have hwrite := lex_write j h stops_nil
    rwa [List.append_nil, show lexFrom .between [] = [] from rfl, List.append_nil] at hwrite
  have hbuild := ofTokens?_tokens (spelling j) []
  rw [List.append_nil] at hbuild
  rw [Document.ofOctets?, Document.read?, hlex, hbuild]
  rfl

end CommandRelay.Json
