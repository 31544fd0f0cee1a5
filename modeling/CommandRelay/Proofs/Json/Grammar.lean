import CommandRelay.Proofs.Json.Lexing

/-!
# JSON texts

What is a JSON text is said here by its grammar, without a reader: a text is the tokens of a
document, with blanks in front of each and behind the last.  The same document has many texts, for
blanks are free, an octet may be spelled by itself or by a letter, digits of an escape may be
capitals, and an exponent may have a sign or not.

1. **Spellings** — `TokenSpelling`, `TokensSpelling` and, for whole texts, `Document.Spelled`.
2. **Each token is lexed** — with whatever stands behind it, except for a number, which ends where a
   value may end (`lexFrom_number`).
3. **Every text is read** — in the tokens of a document a number never stands in front of anything
   else (`isChain_tokens`), so every text of a document is read as that document
   (`ofOctets?_of_spelled`).
-/

namespace CommandRelay.Json

/-! ## Spellings -/

/-- Any number of blanks. -/
def Blank (bs : List UInt8) : Prop := ∀ b ∈ bs, isSpace b = true

theorem blank_nil : Blank [] := nofun

/-- The ways to spell a unit of a text. -/
inductive UnitSpelling : TextUnit → List UInt8 → Prop
  /-- An octet stands for itself if it is no quote, no backslash and no control character. -/
  | plain {b : UInt8} (hquote : b ≠ 0x22) (hslash : b ≠ 0x5C) (hcontrol : ¬ b < 0x20) :
      UnitSpelling (.octet b) [b]
  | letter {b c : UInt8} (h : shortEscape? b = some c) : UnitSpelling (.octet c) [0x5C, b]
  | digits {a b c d : UInt8} {w x y z : Nat} (ha : hexDigit? a = some w) (hb : hexDigit? b = some x)
      (hc : hexDigit? c = some y) (hd : hexDigit? d = some z) :
      UnitSpelling (.unit (((w * 16 + x) * 16 + y) * 16 + z)) [0x5C, 0x75, a, b, c, d]

/-- The ways to spell a text between its quotes. -/
inductive TextSpelling : List TextUnit → List UInt8 → Prop
  | nil : TextSpelling [] []
  | cons {u : TextUnit} {units : List TextUnit} {bs bs' : List UInt8} (h : UnitSpelling u bs)
      (hrest : TextSpelling units bs') : TextSpelling (u :: units) (bs ++ bs')

/-- One digit or more. -/
def Digits (ds : List Nat) : Prop := ds ≠ [] ∧ ∀ d ∈ ds, d < 10

/-- The way to spell the part of a number behind the point, with the point. -/
inductive FractionSpelling : Option (List Nat) → List UInt8 → Prop
  | none : FractionSpelling none []
  | some {ds : List Nat} (h : Digits ds) : FractionSpelling (some ds) (0x2E :: ds.map digitOctet)

/-- The ways to spell an exponent, with its letter. -/
inductive ExponentSpelling : Option (Bool × List Nat) → List UInt8 → Prop
  | none : ExponentSpelling none []
  | unsigned {letter : UInt8} {ds : List Nat} (hletter : letter = 0x65 ∨ letter = 0x45)
      (h : Digits ds) : ExponentSpelling (some (false, ds)) (letter :: ds.map digitOctet)
  | plus {letter : UInt8} {ds : List Nat} (hletter : letter = 0x65 ∨ letter = 0x45)
      (h : Digits ds) : ExponentSpelling (some (false, ds)) (letter :: 0x2B :: ds.map digitOctet)
  | minus {letter : UInt8} {ds : List Nat} (hletter : letter = 0x65 ∨ letter = 0x45)
      (h : Digits ds) : ExponentSpelling (some (true, ds)) (letter :: 0x2D :: ds.map digitOctet)

/-- The ways to spell a number: its sign, digits of which a zero stands first only if it stands
alone, and what may follow. -/
inductive NumberSpelling : Numeral → List UInt8 → Prop
  | mk {negative : Bool} {whole : List Nat} {fraction : Option (List Nat)}
      {exponent : Option (Bool × List Nat)} {behindPoint behindLetter : List UInt8}
      (hwhole : Digits whole) (hzero : whole.head? = some 0 → whole = [0])
      (hfraction : FractionSpelling fraction behindPoint)
      (hexponent : ExponentSpelling exponent behindLetter) :
      NumberSpelling ⟨negative, whole, fraction, exponent⟩
        ((if negative then [0x2D] else []) ++ whole.map digitOctet ++ behindPoint ++ behindLetter)

/-- The ways to spell a token. -/
inductive TokenSpelling : Token → List UInt8 → Prop
  | openList : TokenSpelling .openList [0x5B]
  | closeList : TokenSpelling .closeList [0x5D]
  | openObject : TokenSpelling .openObject [0x7B]
  | closeObject : TokenSpelling .closeObject [0x7D]
  | colon : TokenSpelling .colon [0x3A]
  | comma : TokenSpelling .comma [0x2C]
  | null : TokenSpelling .null [0x6E, 0x75, 0x6C, 0x6C]
  | true : TokenSpelling .true [0x74, 0x72, 0x75, 0x65]
  | false : TokenSpelling .false [0x66, 0x61, 0x6C, 0x73, 0x65]
  | text {units : List TextUnit} {bs : List UInt8} (h : TextSpelling units bs) :
      TokenSpelling (.text units) (0x22 :: bs ++ [0x22])
  | number {n : Numeral} {bs : List UInt8} (h : NumberSpelling n bs) : TokenSpelling (.number n) bs

/-- The ways to spell tokens one after the other, with blanks in front of each and behind the
last. -/
inductive TokensSpelling : List Token → List UInt8 → Prop
  | nil {blanks : List UInt8} (hblanks : Blank blanks) : TokensSpelling [] blanks
  | cons {t : Token} {ts : List Token} {blanks bs rest : List UInt8} (hblanks : Blank blanks)
      (h : TokenSpelling t bs) (hrest : TokensSpelling ts rest) :
      TokensSpelling (t :: ts) (blanks ++ bs ++ rest)

/-- Octets that need no escape spell themselves. -/
theorem TextSpelling.plain {bs : List UInt8} (h : ∀ b ∈ bs, b ≠ 0x22 ∧ b ≠ 0x5C ∧ ¬ b < 0x20) :
    TextSpelling (bs.map .octet) bs := by
  induction bs with
  | nil => exact .nil
  | cons b bs ih =>
    obtain ⟨⟨hquote, hslash, hcontrol⟩, hbs⟩ := List.forall_mem_cons.mp h
    exact .cons (.plain hquote hslash hcontrol) (ih hbs)

/-- A token without a blank in front of it. -/
theorem TokensSpelling.next {t : Token} {ts : List Token} {bs rest : List UInt8}
    (h : TokenSpelling t bs) (hrest : TokensSpelling ts rest) :
    TokensSpelling (t :: ts) (bs ++ rest) :=
  .cons blank_nil h hrest

/-- The octets are a JSON text, and it spells the document. -/
def Document.Spelled (d : Document) (bs : List UInt8) : Prop := TokensSpelling d.tokens bs

/-! ## Each token is lexed -/

/-- Blanks between tokens are passed over. -/
theorem lexFrom_blank {blanks : List UInt8} (h : Blank blanks) (rest : List UInt8) :
    lexFrom .between (blanks ++ rest) = lexFrom .between rest := by
  induction blanks with
  | nil => rfl
  | cons b blanks ih =>
    obtain ⟨hb, hblanks⟩ := List.forall_mem_cons.mp h
    have hstep : lexStep .between b = ([], .between) := by
      rw [lexStep, lexStart, if_pos hb]
    rw [List.cons_append, lexFrom_cons hstep, List.nil_append, ih hblanks]

/-- The octets of a unit add that unit to the text. -/
theorem lexFrom_textUnit {u : TextUnit} {bs : List UInt8} (h : UnitSpelling u bs)
    (units : List TextUnit) (rest : List UInt8) :
    lexFrom (.text units) (bs ++ rest) = lexFrom (.text (u :: units)) rest := by
  cases h with
  | plain hquote hslash hcontrol =>
    exact lexFrom_octets units rest fun b hb => by
      rw [List.mem_singleton.mp hb]
      exact ⟨hquote, hslash, hcontrol⟩
  | letter hletter =>
    rename_i b c
    have hnot : b ≠ 0x75 := by
      rintro rfl
      cases hletter
    have hstep : lexStep (.escape units) b = ([], .text (.octet c :: units)) := by
      simp only [lexStep, if_neg hnot, hletter]
    exact lexFrom_cons hstep rest
  | digits ha hb hc hd =>
    rename_i a b c d w x y z
    -- The number is built up digit by digit, and the fourth one ends the escape.
    have hfirst : lexStep (.hex units 3 0) a = ([], .hex units 2 w) := by
      simp only [lexStep, ha, Nat.zero_mul, Nat.zero_add]
    have hsecond : lexStep (.hex units 2 w) b = ([], .hex units 1 (w * 16 + x)) := by
      simp only [lexStep, hb]
    have hthird : lexStep (.hex units 1 (w * 16 + x)) c =
        ([], .hex units 0 ((w * 16 + x) * 16 + y)) := by
      simp only [lexStep, hc]
    have hfourth : lexStep (.hex units 0 ((w * 16 + x) * 16 + y)) d =
        ([], .text (.unit (((w * 16 + x) * 16 + y) * 16 + z) :: units)) := by
      simp only [lexStep, hd]
    show lexFrom (.hex units 3 0) (a :: b :: c :: d :: rest) = _
    rw [lexFrom_cons hfirst, List.nil_append, lexFrom_cons hsecond, List.nil_append,
      lexFrom_cons hthird, List.nil_append, lexFrom_cons hfourth, List.nil_append]

/-- The octets of units add these units to the text, in their order. -/
theorem lexFrom_units {units : List TextUnit} {bs : List UInt8} (h : TextSpelling units bs)
    (past : List TextUnit) (rest : List UInt8) :
    lexFrom (.text past) (bs ++ rest) = lexFrom (.text (units.reverse ++ past)) rest := by
  induction h generalizing past with
  | nil => rfl
  | cons h _ ih =>
    rw [List.append_assoc, lexFrom_textUnit h, ih, List.reverse_cons, List.append_assoc]
    rfl

/-- A run of digits behind a point, a letter or a sign. -/
theorem lexFrom_firstRun {s : LexState} {part : NumeralPart} {reading : List Nat → Numeral}
    (hfirst : ∀ d < 10, lexStep s (digitOctet d) = ([], .number part (reading [d])))
    (hstep : ∀ d < 10, ∀ ds, lexStep (.number part (reading ds)) (digitOctet d) =
      ([], .number part (reading (d :: ds))))
    {ds : List Nat} (h : Digits ds) (rest : List UInt8) :
    lexFrom s (ds.map digitOctet ++ rest) = lexFrom (.number part (reading ds.reverse)) rest := by
  obtain ⟨d, ds, rfl⟩ := List.exists_cons_of_ne_nil h.1
  obtain ⟨hd, hds⟩ := List.forall_mem_cons.mp h.2
  rw [List.map_cons, List.cons_append, lexFrom_cons (hfirst d hd), List.nil_append,
    lexFrom_run hstep hds, List.reverse_cons]

/-- Behind digits of a whole number a point and further digits may follow. -/
theorem lexFrom_fraction {part : NumeralPart} (hpart : part = .zero ∨ part = .whole)
    {fraction : Option (List Nat)} {bs : List UInt8} (h : FractionSpelling fraction bs)
    (negative : Bool) (whole : List Nat) (rest : List UInt8) :
    ∃ part', (part' = .zero ∨ part' = .whole ∨ part' = .fraction) ∧
      lexFrom (.number part ⟨negative, whole, none, none⟩) (bs ++ rest) =
        lexFrom (.number part' ⟨negative, whole, fraction.map List.reverse, none⟩) rest := by
  cases h with
  | none =>
    refine ⟨part, ?_, rfl⟩
    rcases hpart with rfl | rfl
    · exact .inl rfl
    · exact .inr (.inl rfl)
  | some hdigits =>
    refine ⟨.fraction, .inr (.inr rfl), ?_⟩
    -- One step for the point, one for the first digit, and then the other digits alike.
    have hpoint : lexStep (.number part ⟨negative, whole, none, none⟩) 0x2E =
        ([], .number .point ⟨negative, whole, none, none⟩) := by
      rcases hpart with rfl | rfl <;> rfl
    have hfirst : ∀ d < 10, lexStep (.number .point ⟨negative, whole, none, none⟩)
        (digitOctet d) = ([], .number .fraction ⟨negative, whole, some [d], none⟩) := by
      intro d hd
      simp only [lexStep, continueNumeral, digit?_digitOctet d hd, Option.getD_none]
    have hstep : ∀ d < 10, ∀ ds, lexStep (.number .fraction ⟨negative, whole, some ds, none⟩)
        (digitOctet d) = ([], .number .fraction ⟨negative, whole, some (d :: ds), none⟩) := by
      intro d hd ds
      simp only [lexStep, continueNumeral, digit?_digitOctet d hd, Option.getD_some]
    rw [List.cons_append, lexFrom_cons hpoint, List.nil_append]
    exact lexFrom_firstRun hfirst hstep hdigits rest

/-- Behind the digits of a number an exponent may follow. -/
theorem lexFrom_exponent {part : NumeralPart}
    (hpart : part = .zero ∨ part = .whole ∨ part = .fraction)
    {exponent : Option (Bool × List Nat)} {bs : List UInt8} (h : ExponentSpelling exponent bs)
    (negative : Bool) (whole : List Nat) (fraction : Option (List Nat)) (rest : List UInt8) :
    ∃ part', part'.complete = true ∧
      lexFrom (.number part ⟨negative, whole, fraction, none⟩) (bs ++ rest) =
        lexFrom (.number part' ⟨negative, whole, fraction,
          exponent.map fun (sign, ds) => (sign, ds.reverse)⟩) rest := by
  -- Each octet of an exponent is one step: the letter, a sign or none, the first digit, the other
  -- digits.
  have hletter : ∀ letter : UInt8, letter = 0x65 ∨ letter = 0x45 →
      lexStep (.number part ⟨negative, whole, fraction, none⟩) letter =
        ([], .number .letter ⟨negative, whole, fraction, none⟩) := by
    rintro letter (rfl | rfl) <;> rcases hpart with rfl | rfl | rfl <;> rfl
  have hstep : ∀ sign, ∀ d < 10, ∀ ds,
      lexStep (.number .exponent ⟨negative, whole, fraction, some (sign, ds)⟩) (digitOctet d) =
        ([], .number .exponent ⟨negative, whole, fraction, some (sign, d :: ds)⟩) := by
    intro sign d hd ds
    simp only [lexStep, continueNumeral, digit?_digitOctet d hd, Option.getD_some]
  have hsigned : ∀ sign, ∀ d < 10,
      lexStep (.number .exponentSign ⟨negative, whole, fraction, some (sign, [])⟩)
        (digitOctet d) = ([], .number .exponent ⟨negative, whole, fraction, some (sign, [d])⟩) := by
    intro sign d hd
    simp only [lexStep, continueNumeral, digit?_digitOctet d hd, Option.getD_some]
  have hunsigned : ∀ d < 10, lexStep (.number .letter ⟨negative, whole, fraction, none⟩)
      (digitOctet d) = ([], .number .exponent ⟨negative, whole, fraction, some (false, [d])⟩) := by
    intro d hd
    simp only [lexStep, continueNumeral, digit?_digitOctet d hd]
  cases h with
  | none =>
    refine ⟨part, ?_, rfl⟩
    rcases hpart with rfl | rfl | rfl <;> rfl
  | unsigned hl hdigits =>
    refine ⟨.exponent, rfl, ?_⟩
    rw [List.cons_append, lexFrom_cons (hletter _ hl), List.nil_append]
    exact lexFrom_firstRun hunsigned (hstep false) hdigits rest
  | plus hl hdigits =>
    have hsign : lexStep (.number .letter ⟨negative, whole, fraction, none⟩) 0x2B =
        ([], .number .exponentSign ⟨negative, whole, fraction, some (false, [])⟩) := rfl
    refine ⟨.exponent, rfl, ?_⟩
    rw [List.cons_append, List.cons_append, lexFrom_cons (hletter _ hl), List.nil_append,
      lexFrom_cons hsign, List.nil_append]
    exact lexFrom_firstRun (hsigned false) (hstep false) hdigits rest
  | minus hl hdigits =>
    have hsign : lexStep (.number .letter ⟨negative, whole, fraction, none⟩) 0x2D =
        ([], .number .exponentSign ⟨negative, whole, fraction, some (true, [])⟩) := rfl
    refine ⟨.exponent, rfl, ?_⟩
    rw [List.cons_append, List.cons_append, lexFrom_cons (hletter _ hl), List.nil_append,
      lexFrom_cons hsign, List.nil_append]
    exact lexFrom_firstRun (hsigned true) (hstep true) hdigits rest

/-- A number is lexed in front of what may stand behind a value. -/
theorem lexFrom_number {n : Numeral} {bs : List UInt8} (h : NumberSpelling n bs)
    {rest : List UInt8} (hrest : Stops rest) :
    lexFrom .between (bs ++ rest) = .number n :: lexFrom .between rest := by
  cases h with
  | mk hwhole hzero hfraction hexponent =>
    rename_i negative whole fraction exponent behindPoint behindLetter
    obtain ⟨d, ds, rfl⟩ := List.exists_cons_of_ne_nil hwhole.1
    obtain ⟨hd, hds⟩ := List.forall_mem_cons.mp hwhole.2
    have hzero' : d = 0 → ds = [] := by
      rintro rfl
      exact (List.cons.inj (hzero rfl)).2
    -- The sign decides from where the digits are read.
    obtain ⟨part, hpart, hread⟩ : ∃ part, (part = .zero ∨ part = .whole) ∧
        lexFrom .between ((if negative then [0x2D] else []) ++ ((d :: ds).map digitOctet ++
          (behindPoint ++ (behindLetter ++ rest)))) =
        lexFrom (.number part ⟨negative, (d :: ds).reverse, none, none⟩)
          (behindPoint ++ (behindLetter ++ rest)) := by
      cases negative with
      | false => exact lexFrom_whole lexStep_firstDigit hd hds hzero' _
      | true =>
        show ∃ part, _ ∧ lexFrom .between (0x2D :: ((d :: ds).map digitOctet ++ _)) = _
        rw [lexFrom_cons lexStep_minus, List.nil_append]
        exact lexFrom_whole lexStep_signedDigit hd hds hzero' _
    obtain ⟨part', hpart', hpoint⟩ :=
      lexFrom_fraction hpart hfraction negative (d :: ds).reverse (behindLetter ++ rest)
    obtain ⟨part'', hcomplete, hletter⟩ := lexFrom_exponent hpart' hexponent negative
      (d :: ds).reverse (fraction.map List.reverse) rest
    rw [List.append_assoc, List.append_assoc, List.append_assoc, hread, hpoint, hletter,
      lexFrom_stops hcomplete _ hrest]
    cases fraction <;> cases exponent <;> simp [Numeral.turned]

/-- Whether a token is a number. -/
def Token.isNumber : Token → Bool
  | .number _ => Bool.true
  | _ => Bool.false

/-- A token that is no number is lexed, whatever stands behind it. -/
theorem lexFrom_token {t : Token} {bs : List UInt8} (h : TokenSpelling t bs)
    (hnumber : t.isNumber = false) (rest : List UInt8) :
    lexFrom .between (bs ++ rest) = t :: lexFrom .between rest := by
  cases h with
  | text htext =>
    rename_i units bs
    have hquote : lexStep .between 0x22 = ([], .text []) := rfl
    have hend : lexStep (.text units.reverse) 0x22 = ([.text units], .between) := by
      rw [lexStep, if_pos rfl, List.reverse_reverse]
    rw [List.cons_append, List.cons_append, lexFrom_cons hquote, List.nil_append, List.append_assoc,
      lexFrom_units htext, List.append_nil, List.singleton_append, lexFrom_cons hend]
    rfl
  | number h => cases hnumber
  | _ => rfl

/-! ## Every text is read -/

/-- The tokens that end an item of a container. -/
def Token.Separates (t : Token) : Prop := t = .comma ∨ t = .closeList ∨ t = .closeObject

/-- Two tokens that may stand side by side, as far as numbers are concerned. -/
def Adjacent (t t' : Token) : Prop := t.isNumber = true → t'.Separates

/-- Such a token, or the end of the text, is seen behind a number, with blanks or not. -/
theorem stops_of_spelling {ts : List Token} {bs : List UInt8} (h : TokensSpelling ts bs)
    (hts : ∀ t ∈ ts.head?, t.Separates) : Stops bs := by
  cases h with
  | nil hblanks =>
    cases bs with
    | nil => exact stops_nil
    | cons b bs => exact stops_cons (.inr (.inr (.inr (hblanks b List.mem_cons_self)))) bs
  | cons hblanks h hrest =>
    rename_i t ts blanks bs rest
    cases blanks with
    | cons b blanks => exact stops_cons (.inr (.inr (.inr (hblanks b List.mem_cons_self)))) _
    | nil =>
      rcases hts t rfl with rfl | rfl | rfl <;> cases h
      · exact stops_cons (.inl rfl) rest
      · exact stops_cons (.inr (.inl rfl)) rest
      · exact stops_cons (.inr (.inr (.inl rfl))) rest

/-- Tokens are lexed from what spells them if every number among them is followed by what may stand
behind it. -/
theorem lexFrom_tokens {ts : List Token} {bs : List UInt8} (h : TokensSpelling ts bs)
    (hchain : ts.IsChain Adjacent) : lexFrom .between bs = ts := by
  induction h with
  | nil hblanks =>
    have hread := lexFrom_blank hblanks []
    rwa [List.append_nil] at hread
  | cons hblanks h hrest ih =>
    rename_i t ts blanks bs rest
    obtain ⟨hhead, hbehind⟩ := List.isChain_cons.mp hchain
    rw [List.append_assoc, lexFrom_blank hblanks]
    cases hnumber : t.isNumber with
    | false => rw [lexFrom_token h hnumber, ih hbehind]
    | true =>
      have hstops : Stops rest := stops_of_spelling hrest fun t' ht' => hhead t' ht' hnumber
      cases h with
      | number h => rw [lexFrom_number h hstops, ih hbehind]
      | _ => cases hnumber

/-- Anything may stand behind a token that is no number. -/
theorem isChain_cons_of_mark {t : Token} (ht : t.isNumber = false) {ts : List Token}
    (h : ts.IsChain Adjacent) : (t :: ts).IsChain Adjacent := by
  refine List.isChain_cons.mpr ⟨fun t' _ hnumber => ?_, h⟩
  rw [ht] at hnumber
  cases hnumber

mutual

/-- In the tokens of a document a number stands in front of a comma or the end of a container
only. -/
theorem isChain_tokens : (d : Document) → {rest : List Token} → rest.IsChain Adjacent →
    (∀ t ∈ rest.head?, t.Separates) → (d.tokens ++ rest).IsChain Adjacent
  | .null, _, h, _ => isChain_cons_of_mark rfl h
  | .bool true, _, h, _ => isChain_cons_of_mark rfl h
  | .bool false, _, h, _ => isChain_cons_of_mark rfl h
  | .number _, _, h, hrest => List.isChain_cons.mpr ⟨fun t ht _ => hrest t ht, h⟩
  | .text _, _, h, _ => isChain_cons_of_mark rfl h
  | .list [], _, h, _ => isChain_cons_of_mark rfl (isChain_cons_of_mark rfl h)
  | .list (d :: ds), rest, h, _ => by
    have hend : (Token.closeList :: rest).IsChain Adjacent := isChain_cons_of_mark rfl h
    rw [Document.tokens]
    simp only [List.cons_append, List.append_assoc, List.nil_append]
    obtain ⟨hitems, hhead⟩ := isChain_itemTokens ds hend fun t ht => by
      rw [← Option.some.inj ht]
      exact .inr (.inl rfl)
    exact isChain_cons_of_mark rfl (isChain_tokens d hitems hhead)
  | .object [], _, h, _ => isChain_cons_of_mark rfl (isChain_cons_of_mark rfl h)
  | .object ((k, d) :: fields), rest, h, _ => by
    have hend : (Token.closeObject :: rest).IsChain Adjacent := isChain_cons_of_mark rfl h
    rw [Document.tokens]
    simp only [List.cons_append, List.append_assoc, List.nil_append]
    obtain ⟨hfields, hhead⟩ := isChain_fieldTokens fields hend fun t ht => by
      rw [← Option.some.inj ht]
      exact .inr (.inr rfl)
    refine isChain_cons_of_mark rfl (isChain_cons_of_mark rfl (isChain_cons_of_mark rfl ?_))
    exact isChain_tokens d hfields hhead

/-- Among the items of a list numbers stand in front of commas and of the end only. -/
theorem isChain_itemTokens : (ds : List Document) → {rest : List Token} → rest.IsChain Adjacent →
    (∀ t ∈ rest.head?, t.Separates) → (itemTokens ds ++ rest).IsChain Adjacent ∧
      ∀ t ∈ (itemTokens ds ++ rest).head?, t.Separates
  | [], _, h, hrest => ⟨h, hrest⟩
  | d :: ds, rest, h, hrest => by
    rw [itemTokens]
    simp only [List.cons_append, List.append_assoc]
    obtain ⟨hitems, hhead⟩ := isChain_itemTokens ds h hrest
    refine ⟨isChain_cons_of_mark rfl (isChain_tokens d hitems hhead), fun t ht => ?_⟩
    rw [← Option.some.inj ht]
    exact .inl rfl

/-- Among the fields of an object numbers stand in front of commas and of the end only. -/
theorem isChain_fieldTokens : (fields : List (List TextUnit × Document)) → {rest : List Token} →
    rest.IsChain Adjacent → (∀ t ∈ rest.head?, t.Separates) →
    (fieldTokens fields ++ rest).IsChain Adjacent ∧
      ∀ t ∈ (fieldTokens fields ++ rest).head?, t.Separates
  | [], _, h, hrest => ⟨h, hrest⟩
  | (k, d) :: fields, rest, h, hrest => by
    rw [fieldTokens]
    simp only [List.cons_append, List.append_assoc]
    obtain ⟨hfields, hhead⟩ := isChain_fieldTokens fields h hrest
    refine ⟨isChain_cons_of_mark rfl (isChain_cons_of_mark rfl (isChain_cons_of_mark rfl
      (isChain_tokens d hfields hhead))), fun t ht => ?_⟩
    rw [← Option.some.inj ht]
    exact .inl rfl

end

/-- Every JSON text is read as the document that it spells. -/
theorem ofOctets?_of_spelled {d : Document} {bs : List UInt8} (h : d.Spelled bs) :
    Document.ofOctets? bs = some d := by
  have hchain : d.tokens.IsChain Adjacent := by
    have hall : (d.tokens ++ []).IsChain Adjacent := isChain_tokens d .nil nofun
    rwa [List.append_nil] at hall
  have hlex : lex bs = d.tokens := lexFrom_tokens h hchain
  have hbuild := ofTokens?_tokens d []
  rw [List.append_nil] at hbuild
  rw [Document.ofOctets?, Document.read?, hlex, hbuild]
  rfl

end CommandRelay.Json
