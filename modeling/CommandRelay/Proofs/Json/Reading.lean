import CommandRelay.Proofs.Json.Grammar

/-!
# Nothing else is read

Octets that are read as a document spell it, so what is read are the JSON texts and nothing else
(`ofOctets?_eq_some_iff`).  Where a machine stands tells what it has read so far, and every step
adds what it takes.

1. **Building** — `Progress.past` is the tokens that lead to the containers that are open, so the
   tokens of a document are those that were taken for it (`tokens_of_build`).
2. **Numbers** — `NumeralBegun` is the octets of a number that has been begun; digits and marks that
   continue it belong to it (`NumeralBegun.digit`, `NumeralBegun.mark`).
3. **Tokens** — `Begun` is the octets of a token that has been begun, and `Turn` what one more octet
   does to it (`Begun.turn`), so the octets of a text spell its tokens (`spelling_lexFrom`).
-/

namespace CommandRelay.Json

/-! ## Building -/

/-- The tokens of items, each with a comma behind it. -/
def commaItems (ds : List Document) : List Token := ds.flatMap fun d => d.tokens ++ [.comma]

/-- The tokens of fields, each with a comma behind it. -/
def commaFields (fields : List (List TextUnit × Document)) : List Token :=
  fields.flatMap fun (k, d) => .text k :: .colon :: d.tokens ++ [.comma]

theorem itemTokens_concat (ds : List Document) (d : Document) :
    itemTokens (ds ++ [d]) = .comma :: commaItems ds ++ d.tokens := by
  induction ds with
  | nil => simp [itemTokens, commaItems]
  | cons x ds ih => simp [itemTokens, ih, commaItems]

theorem tokens_list_concat (ds : List Document) (d : Document) :
    (Document.list (ds ++ [d])).tokens = .openList :: commaItems ds ++ d.tokens ++
    [.closeList] := by
  cases ds with
  | nil => simp [Document.tokens, itemTokens, commaItems]
  | cons x ds => simp [Document.tokens, itemTokens_concat, commaItems]

theorem fieldTokens_concat (fields : List (List TextUnit × Document)) (k : List TextUnit)
    (d : Document) : fieldTokens (fields ++ [(k, d)]) =
      .comma :: commaFields fields ++ .text k :: .colon :: d.tokens := by
  induction fields with
  | nil => simp [fieldTokens, commaFields]
  | cons x fields ih => simp [fieldTokens, ih, commaFields]

theorem tokens_object_concat (fields : List (List TextUnit × Document)) (k : List TextUnit)
    (d : Document) : (Document.object (fields ++ [(k, d)])).tokens =
      .openObject :: commaFields fields ++ .text k :: .colon :: d.tokens ++ [.closeObject] := by
  cases fields with
  | nil => simp [Document.tokens, fieldTokens, commaFields]
  | cons x fields => simp [Document.tokens, fieldTokens_concat, commaFields]

/-- The tokens that were read of an open container. -/
def Frame.past : Frame → List Token
  | .list items => .openList :: commaItems items.reverse
  | .object fields key => .openObject :: commaFields fields.reverse ++ [.text key, .colon]

/-- The tokens that were read for what is being expected. -/
def Expecting.past : Expecting → List Token
  | .value | .firstItem => []
  | .firstKey fields | .key fields => .openObject :: commaFields fields.reverse
  | .colon fields name => .openObject :: commaFields fields.reverse ++ [.text name]
  | .separator d => d.tokens

/-- The tokens that were read of all open containers. -/
def framesPast (stack : List Frame) : List Token := stack.reverse.flatMap Frame.past

theorem framesPast_cons (f : Frame) (stack : List Frame) :
    framesPast (f :: stack) = framesPast stack ++ f.past := by
  simp [framesPast]

/-- The tokens that were read before a step went so. -/
def Progress.past : Progress → List Token
  | .done d => d.tokens
  | .more stack next => framesPast stack ++ next.past

/-- Where the first item or the first key is expected, the container is empty. -/
def Progress.Begins : Progress → Prop
  | .more stack .firstItem => ∃ outer, stack = .list [] :: outer
  | .more _ (.firstKey fields) => fields = []
  | _ => True

/-- A value that is complete stands behind what was read of its containers. -/
theorem past_completed (stack : List Frame) (d : Document) :
    (completed stack d).past = framesPast stack ++ d.tokens ∧ (completed stack d).Begins := by
  cases stack with
  | nil => exact ⟨rfl, trivial⟩
  | cons f stack => exact ⟨rfl, trivial⟩

theorem tokens_of_scalar? {t : Token} {d : Document} (h : t.scalar? = some d) : d.tokens = [t] := by
  cases t <;> cases h <;> rfl

/-- A token that starts a value is the first one of a container, or the value. -/
theorem past_startValue {stack : List Frame} {t : Token} {p : Progress}
    (h : startValue stack t = some p) : p.past = framesPast stack ++ [t] ∧ p.Begins := by
  rw [startValue.eq_def] at h
  split at h
  · obtain rfl := Option.some.inj h
    exact ⟨by simp [Progress.past, framesPast_cons, Frame.past, Expecting.past, commaItems], stack,
      rfl⟩
  · obtain rfl := Option.some.inj h
    exact ⟨by simp [Progress.past, Expecting.past, commaFields], rfl⟩
  · obtain ⟨d, hd, rfl⟩ := Option.map_eq_some_iff.mp h
    rw [← tokens_of_scalar? hd]
    exact past_completed stack d

/-- A step adds its token to those that were read. -/
theorem past_buildStep {stack : List Frame} {next : Expecting} {t : Token} {p : Progress}
    (hbegins : (Progress.more stack next).Begins) (h : buildStep stack next t = some p) :
    p.past = (Progress.more stack next).past ++ [t] ∧ p.Begins := by
  rw [buildStep.eq_def] at h
  split at h
  -- A value, or the first item of a list.
  · obtain ⟨hpast, hp⟩ := past_startValue h
    exact ⟨by rw [hpast, Progress.past, Expecting.past, List.append_nil], hp⟩
  · rename_i items outer
    obtain rfl := Option.some.inj h
    obtain ⟨_, hempty⟩ := hbegins
    obtain ⟨hpast, hp⟩ := past_completed outer (.list items.reverse)
    refine ⟨?_, hp⟩
    obtain ⟨rfl, rfl⟩ : items = [] ∧ _ = outer := by simpa [eq_comm] using hempty
    rw [hpast, Progress.past, framesPast_cons]
    simp [Document.tokens, Frame.past, Expecting.past, commaItems]
  · obtain ⟨hpast, hp⟩ := past_startValue h
    exact ⟨by rw [hpast, Progress.past, Expecting.past, List.append_nil], hp⟩
  -- A key, or the end of an empty object.
  · obtain rfl := Option.some.inj h
    obtain rfl : _ = [] := hbegins
    obtain ⟨hpast, hp⟩ := past_completed stack (.object [])
    refine ⟨?_, hp⟩
    rw [List.reverse_nil, hpast]
    simp [Document.tokens, Progress.past, Expecting.past, commaFields]
  · obtain rfl := Option.some.inj h
    exact ⟨by simp [Progress.past, Expecting.past], trivial⟩
  · obtain rfl := Option.some.inj h
    exact ⟨by simp [Progress.past, Expecting.past], trivial⟩
  · obtain rfl := Option.some.inj h
    exact ⟨by simp [Progress.past, Expecting.past, framesPast_cons, Frame.past], trivial⟩
  -- What may stand behind an item, and behind a field.
  · obtain rfl := Option.some.inj h
    exact ⟨by simp [Progress.past, Expecting.past, framesPast_cons, Frame.past, commaItems],
      trivial⟩
  · rename_i d items outer
    obtain rfl := Option.some.inj h
    obtain ⟨hpast, hp⟩ := past_completed outer (.list (d :: items).reverse)
    refine ⟨?_, hp⟩
    rw [hpast, List.reverse_cons, tokens_list_concat]
    simp [Progress.past, Expecting.past, framesPast_cons, Frame.past]
  · obtain rfl := Option.some.inj h
    exact ⟨by simp [Progress.past, Expecting.past, framesPast_cons, Frame.past, commaFields],
      trivial⟩
  · rename_i d fields key outer
    obtain rfl := Option.some.inj h
    obtain ⟨hpast, hp⟩ := past_completed outer (.object ((key, d) :: fields).reverse)
    refine ⟨?_, hp⟩
    rw [hpast, List.reverse_cons, tokens_object_concat]
    simp [Progress.past, Expecting.past, framesPast_cons, Frame.past]
  · cases h

/-- The tokens that a document is built from are its own. -/
theorem tokens_of_build {ts : List Token} {stack : List Frame} {next : Expecting} {d : Document}
    {rest : List Token} (hbegins : (Progress.more stack next).Begins)
    (h : build stack next ts = some (d, rest)) :
    (Progress.more stack next).past ++ ts = d.tokens ++ rest := by
  induction ts generalizing stack next with
  | nil => cases h
  | cons t ts ih =>
    rw [build_cons] at h
    obtain ⟨p, hp, hresume⟩ := Option.bind_eq_some_iff.mp h
    obtain ⟨hpast, hbegins'⟩ := past_buildStep hbegins hp
    rw [List.append_cons, ← hpast]
    cases p with
    | done d' =>
      cases hresume
      rfl
    | more stack' next' => exact ih hbegins' hresume

mutual

/-- The tokens of a document are tokens. -/
theorem bad_notMem_tokens : (d : Document) → Token.bad ∉ d.tokens
  | .null | .bool true | .bool false | .number _ | .text _ | .list [] | .object [] => by
    simp [Document.tokens]
  | .list (d :: ds) => by
    simp [Document.tokens, bad_notMem_tokens d, bad_notMem_itemTokens ds]
  | .object ((k, d) :: fields) => by
    simp [Document.tokens, bad_notMem_tokens d, bad_notMem_fieldTokens fields]

theorem bad_notMem_itemTokens : (ds : List Document) → Token.bad ∉ itemTokens ds
  | [] => by simp [itemTokens]
  | d :: ds => by simp [itemTokens, bad_notMem_tokens d, bad_notMem_itemTokens ds]

theorem bad_notMem_fieldTokens :
    (fields : List (List TextUnit × Document)) → Token.bad ∉ fieldTokens fields
  | [] => by simp [fieldTokens]
  | (k, d) :: fields => by
    simp [fieldTokens, bad_notMem_tokens d, bad_notMem_fieldTokens fields]

end

/-! ## Numbers -/

/-- An octet is read as a digit if it is the octet of that digit. -/
theorem digit?_eq_some {b : UInt8} {d : Nat} (h : digit? b = some d) :
    d < 10 ∧ digitOctet d = b := by
  rw [digit?] at h
  split at h
  · rename_i hrange
    obtain ⟨hlow, hhigh⟩ := hrange
    have hlow' : 48 ≤ b.toNat := UInt8.le_iff_toNat_le.mp hlow
    have hhigh' : b.toNat ≤ 57 := UInt8.le_iff_toNat_le.mp hhigh
    obtain rfl : b.toNat - 48 = d := Option.some.inj h
    refine ⟨by omega, ?_⟩
    rw [digitOctet, Nat.sub_add_cancel hlow']
    exact UInt8.ofNat_toNat
  · cases h

theorem digits_singleton {d : Nat} (hd : d < 10) : Digits [d] :=
  ⟨List.cons_ne_nil _ _, fun x hx => by rwa [List.mem_singleton.mp hx]⟩

theorem digits_concat {ds : List Nat} {d : Nat} (h : ∀ x ∈ ds, x < 10) (hd : d < 10) :
    Digits (ds ++ [d]) := by
  refine ⟨List.append_ne_nil_of_right_ne_nil _ (List.cons_ne_nil _ _), fun x hx => ?_⟩
  rcases List.mem_append.mp hx with hx | hx
  · exact h x hx
  · rwa [List.mem_singleton.mp hx]

section

variable {negative sign : Bool} {whole ds : List Nat} {fraction : Option (List Nat)}
  {exponent : Option (Bool × List Nat)} {bs behind : List UInt8} {d : Nat}

/-- A digit behind a number that does not begin with a zero. -/
theorem NumberSpelling.digit (h : NumberSpelling ⟨negative, whole, none, none⟩ bs)
    (hhead : whole.head? ≠ some 0) (hd : d < 10) :
    NumberSpelling ⟨negative, whole ++ [d], none, none⟩ (bs ++ [digitOctet d]) := by
  cases h with
  | mk hwhole _ hfraction hexponent =>
    cases hfraction
    cases hexponent
    have hzero : (whole ++ [d]).head? = some 0 → whole ++ [d] = [0] := by
      obtain ⟨x, xs, rfl⟩ := List.exists_cons_of_ne_nil hwhole.1
      exact fun h => absurd h hhead
    have hmore : NumberSpelling ⟨negative, whole ++ [d], none, none⟩ _ :=
      .mk (digits_concat hwhole.2 hd) hzero .none .none
    simpa using hmore

/-- A point and digits behind a whole number. -/
theorem NumberSpelling.withFraction (h : NumberSpelling ⟨negative, whole, none, none⟩ bs)
    (hfraction : FractionSpelling fraction behind) :
    NumberSpelling ⟨negative, whole, fraction, none⟩ (bs ++ behind) := by
  cases h with
  | mk hwhole hzero hnone hexponent =>
    cases hnone
    cases hexponent
    have hmore : NumberSpelling ⟨negative, whole, fraction, none⟩ _ :=
      .mk hwhole hzero hfraction .none
    simpa using hmore

/-- An exponent behind a number. -/
theorem NumberSpelling.withExponent (h : NumberSpelling ⟨negative, whole, fraction, none⟩ bs)
    (hexponent : ExponentSpelling exponent behind) :
    NumberSpelling ⟨negative, whole, fraction, exponent⟩ (bs ++ behind) := by
  cases h with
  | mk hwhole hzero hfraction hnone =>
    cases hnone
    have hmore : NumberSpelling ⟨negative, whole, fraction, exponent⟩ _ :=
      .mk hwhole hzero hfraction hexponent
    simpa using hmore

/-- One more digit makes an exponent longer. -/
theorem ExponentSpelling.digit (h : ExponentSpelling (some (sign, ds)) behind) (hd : d < 10) :
    ExponentSpelling (some (sign, ds ++ [d])) (behind ++ [digitOctet d]) := by
  cases h with
  | unsigned hletter hdigits =>
    simpa using ExponentSpelling.unsigned hletter (digits_concat hdigits.2 hd)
  | plus hletter hdigits =>
    simpa using ExponentSpelling.plus hletter (digits_concat hdigits.2 hd)
  | minus hletter hdigits =>
    simpa using ExponentSpelling.minus hletter (digits_concat hdigits.2 hd)

end

/-- The octets of a number that has been begun; digits are kept in reverse order. -/
inductive NumeralBegun : NumeralPart → Numeral → List UInt8 → Prop
  | sign : NumeralBegun .sign ⟨true, [], none, none⟩ [0x2D]
  | zero {negative : Bool} {bs : List UInt8} (h : NumberSpelling ⟨negative, [0], none, none⟩ bs) :
      NumeralBegun .zero ⟨negative, [0], none, none⟩ bs
  | whole {negative : Bool} {whole : List Nat} {bs : List UInt8}
      (h : NumberSpelling ⟨negative, whole.reverse, none, none⟩ bs)
      (hhead : whole.reverse.head? ≠ some 0) : NumeralBegun .whole ⟨negative, whole, none, none⟩ bs
  | point {negative : Bool} {whole : List Nat} {bs : List UInt8}
      (h : NumberSpelling ⟨negative, whole.reverse, none, none⟩ bs) :
      NumeralBegun .point ⟨negative, whole, none, none⟩ (bs ++ [0x2E])
  | fraction {negative : Bool} {whole ds : List Nat} {bs : List UInt8}
      (h : NumberSpelling ⟨negative, whole.reverse, none, none⟩ bs) (hdigits : Digits ds.reverse) :
      NumeralBegun .fraction ⟨negative, whole, some ds, none⟩
        (bs ++ 0x2E :: ds.reverse.map digitOctet)
  | letter {negative : Bool} {whole : List Nat} {fraction : Option (List Nat)} {bs : List UInt8}
      {letter : UInt8}
      (h : NumberSpelling ⟨negative, whole.reverse, fraction.map List.reverse, none⟩ bs)
      (hletter : letter = 0x65 ∨ letter = 0x45) :
      NumeralBegun .letter ⟨negative, whole, fraction, none⟩ (bs ++ [letter])
  | exponentSign {negative sign : Bool} {whole : List Nat} {fraction : Option (List Nat)}
      {bs : List UInt8} {letter b : UInt8}
      (h : NumberSpelling ⟨negative, whole.reverse, fraction.map List.reverse, none⟩ bs)
      (hletter : letter = 0x65 ∨ letter = 0x45)
      (hsign : b = 0x2B ∧ sign = false ∨ b = 0x2D ∧ sign = true) :
      NumeralBegun .exponentSign ⟨negative, whole, fraction, some (sign, [])⟩ (bs ++ [letter, b])
  | exponent {negative sign : Bool} {whole ds : List Nat} {fraction : Option (List Nat)}
      {bs behind : List UInt8}
      (h : NumberSpelling ⟨negative, whole.reverse, fraction.map List.reverse, none⟩ bs)
      (hbehind : ExponentSpelling (some (sign, ds.reverse)) behind) :
      NumeralBegun .exponent ⟨negative, whole, fraction, some (sign, ds)⟩ (bs ++ behind)

/-- A number that may end has been spelled. -/
theorem NumeralBegun.spelling {part : NumeralPart} {n : Numeral} {bs : List UInt8}
    (h : NumeralBegun part n bs) (hcomplete : part.complete = true) :
    NumberSpelling n.turned bs := by
  cases h with
  | zero h => exact h
  | whole h _ => exact h
  | fraction h hdigits => exact h.withFraction (.some hdigits)
  | exponent h hbehind => exact h.withExponent hbehind
  | _ => cases hcomplete

/-- The first digit of a number. -/
theorem numberSpelling_digit {d : Nat} (hd : d < 10) (negative : Bool) :
    NumberSpelling ⟨negative, [d], none, none⟩
      ((if negative then [0x2D] else []) ++ [digitOctet d]) := by
  have hfirst : NumberSpelling ⟨negative, [d], none, none⟩ _ :=
    .mk (digits_singleton hd) (fun h => congrArg (List.cons · []) (Option.some.inj h)) .none .none
  simpa using hfirst

section

variable {part part' : NumeralPart} {n n' : Numeral} {bs : List UInt8} {b : UInt8}

/-- A digit that continues a number belongs to it. -/
theorem NumeralBegun.digit {d : Nat} (h : NumeralBegun part n bs) (hdigit : digit? b = some d)
    (hstep : continueNumeral part n b = some (part', n')) : NumeralBegun part' n' (bs ++ [b]) := by
  obtain ⟨hd, rfl⟩ := digit?_eq_some hdigit
  have hone := digits_singleton hd
  -- The cases are the parts of a number; only behind a leading zero there can be no digit.
  cases h with
  | sign =>
    cases d with
    | zero =>
      simp only [continueNumeral, hdigit, Option.some.injEq, Prod.mk.injEq] at hstep
      obtain ⟨rfl, rfl⟩ := hstep
      exact .zero (numberSpelling_digit hd true)
    | succ d =>
      simp only [continueNumeral, hdigit, Option.some.injEq, Prod.mk.injEq] at hstep
      obtain ⟨rfl, rfl⟩ := hstep
      exact .whole (numberSpelling_digit hd true) (by simp)
  | zero h => simp [continueNumeral, hdigit] at hstep
  | whole h hhead =>
    rename_i negative whole
    simp only [continueNumeral, hdigit, Option.some.injEq, Prod.mk.injEq] at hstep
    obtain ⟨rfl, rfl⟩ := hstep
    have hmore := h.digit hhead hd
    rw [← List.reverse_cons] at hmore
    refine .whole hmore ?_
    -- The first digit is still the first one, so it is still not a zero.
    cases hwhole : whole.reverse with
    | nil =>
      rw [hwhole] at h
      cases h with
      | mk hdigits => exact absurd rfl hdigits.1
    | cons x xs =>
      rw [hwhole] at hhead
      rw [List.reverse_cons, hwhole]
      exact hhead
  | point h =>
    simp only [continueNumeral, hdigit, Option.some.injEq, Prod.mk.injEq, Option.getD_none] at hstep
    obtain ⟨rfl, rfl⟩ := hstep
    rw [List.append_assoc]
    exact .fraction h hone
  | fraction h hdigits =>
    rename_i negative whole ds bs
    simp only [continueNumeral, hdigit, Option.some.injEq, Prod.mk.injEq, Option.getD_some] at hstep
    obtain ⟨rfl, rfl⟩ := hstep
    have hmore : Digits (d :: ds).reverse := by
      rw [List.reverse_cons]
      exact digits_concat hdigits.2 hd
    have hbegun := NumeralBegun.fraction h hmore
    simpa using hbegun
  | letter h hletter =>
    simp only [continueNumeral, hdigit, Option.some.injEq, Prod.mk.injEq] at hstep
    obtain ⟨rfl, rfl⟩ := hstep
    rw [List.append_assoc]
    exact .exponent h (.unsigned hletter hone)
  | exponentSign h hletter hsign =>
    rename_i negative sign whole fraction bs letter b
    simp only [continueNumeral, hdigit, Option.some.injEq, Prod.mk.injEq, Option.getD_some] at hstep
    obtain ⟨rfl, rfl⟩ := hstep
    rw [List.append_assoc]
    refine .exponent h ?_
    rcases hsign with ⟨rfl, rfl⟩ | ⟨rfl, rfl⟩
    · exact .plus hletter hone
    · exact .minus hletter hone
  | exponent h hbehind =>
    rename_i negative sign whole ds fraction bs behind
    simp only [continueNumeral, hdigit, Option.some.injEq, Prod.mk.injEq, Option.getD_some] at hstep
    obtain ⟨rfl, rfl⟩ := hstep
    rw [List.append_assoc]
    refine .exponent h ?_
    rw [List.reverse_cons]
    exact hbehind.digit hd

/-- A point, a letter or a sign that continues a number belongs to it. -/
theorem NumeralBegun.mark (h : NumeralBegun part n bs) (hdigit : digit? b = none)
    (hstep : continueNumeral part n b = some (part', n')) : NumeralBegun part' n' (bs ++ [b]) := by
  -- An exponent may follow on every complete part, a point on the whole part only.
  have hletter : ∀ {negative whole fraction},
      NumberSpelling ⟨negative, whole.reverse, fraction.map List.reverse, none⟩ bs →
      (if b = 0x65 ∨ b = 0x45
        then some (NumeralPart.letter, Numeral.mk negative whole fraction none)
        else none) = some (part', n') → NumeralBegun part' n' (bs ++ [b]) := by
    intro negative whole fraction h hstep
    split at hstep
    · rename_i hb
      cases hstep
      exact .letter h hb
    · cases hstep
  have hpoint : ∀ {negative whole}, NumberSpelling ⟨negative, whole.reverse, none, none⟩ bs →
      (if b = 0x2E then some (NumeralPart.point, Numeral.mk negative whole none none)
        else if b = 0x65 ∨ b = 0x45 then some (.letter, ⟨negative, whole, none, none⟩)
        else none) = some (part', n') → NumeralBegun part' n' (bs ++ [b]) := by
    intro negative whole h hstep
    split at hstep
    · rename_i hb
      cases hstep
      subst hb
      exact .point h
    · exact hletter h hstep
  cases h with
  | zero h =>
    simp only [continueNumeral, hdigit] at hstep
    exact hpoint h hstep
  | whole h hhead =>
    simp only [continueNumeral, hdigit] at hstep
    exact hpoint h hstep
  | fraction h hdigits =>
    rename_i negative whole ds bs
    simp only [continueNumeral, hdigit] at hstep
    have hspelled : NumberSpelling ⟨negative, whole.reverse, (some ds).map List.reverse, none⟩ _ :=
      h.withFraction (.some hdigits)
    exact hletter hspelled hstep
  | letter h hl =>
    simp only [continueNumeral, hdigit] at hstep
    rw [List.append_assoc]
    split at hstep
    · rename_i hb
      cases hstep
      exact .exponentSign h hl (.inl ⟨hb, rfl⟩)
    split at hstep
    · rename_i hb
      cases hstep
      exact .exponentSign h hl (.inr ⟨hb, rfl⟩)
    · cases hstep
  | _ => simp [continueNumeral, hdigit] at hstep

end

/-! ## Tokens -/

/-- The octets of a token that has been begun. -/
inductive Begun : LexState → List UInt8 → Prop
  | text {units : List TextUnit} {bs : List UInt8} (h : TextSpelling units.reverse bs) :
      Begun (.text units) (0x22 :: bs)
  | escape {units : List TextUnit} {bs : List UInt8} (h : TextSpelling units.reverse bs) :
      Begun (.escape units) (0x22 :: bs ++ [0x5C])
  /-- Behind some of the four digits of an escape. -/
  | hex {units : List TextUnit} {bs digits : List UInt8} {values : List Nat} {missing : Nat}
      (h : TextSpelling units.reverse bs)
      (hdigits : List.Forall₂ (fun b v => hexDigit? b = some v) digits values)
      (hmissing : digits.length + missing = 3) :
      Begun (.hex units missing (values.foldl (fun v d => v * 16 + d) 0))
        (0x22 :: bs ++ 0x5C :: 0x75 :: digits)
  | word {rest bs : List UInt8} {t : Token} (h : TokenSpelling t (bs ++ rest)) :
      Begun (.word rest t) bs
  | number {part : NumeralPart} {n : Numeral} {bs : List UInt8} (h : NumeralBegun part n bs) :
      Begun (.number part n) bs

/-- What an octet does to a token of which the octets in front of it have been read. -/
inductive Turn (bs : List UInt8) (b : UInt8) : List Token × LexState → Prop
  | goesOn {s : LexState} (h : Begun s (bs ++ [b])) : Turn bs b ([], s)
  | ends {t : Token} (h : TokenSpelling t (bs ++ [b])) : Turn bs b ([t], .between)
  | bad : Turn bs b ([.bad], .stopped)

/-- What holds in both cases of a step holds of the step. -/
theorem Turn.ite {bs : List UInt8} {b : UInt8} {c : Prop} [Decidable c]
    {x y : List Token × LexState} (hx : c → Turn bs b x) (hy : ¬ c → Turn bs b y) :
    Turn bs b (if c then x else y) := by
  split
  · exact hx ‹_›
  · exact hy ‹_›

/-- An octet that is no blank is a token, or begins one, or belongs to none. -/
theorem turn_lexStart {b : UInt8} (hb : isSpace b = false) : Turn [] b (lexStart b) := by
  rw [lexStart, if_neg (by simp [hb])]
  refine .ite (by rintro rfl; exact .ends .openList) fun _ => ?_
  refine .ite (by rintro rfl; exact .ends .closeList) fun _ => ?_
  refine .ite (by rintro rfl; exact .ends .openObject) fun _ => ?_
  refine .ite (by rintro rfl; exact .ends .closeObject) fun _ => ?_
  refine .ite (by rintro rfl; exact .ends .colon) fun _ => ?_
  refine .ite (by rintro rfl; exact .ends .comma) fun _ => ?_
  refine .ite (by rintro rfl; exact .goesOn (.text .nil)) fun _ => ?_
  refine .ite (by rintro rfl; exact .goesOn (.word .null)) fun _ => ?_
  refine .ite (by rintro rfl; exact .goesOn (.word .true)) fun _ => ?_
  refine .ite (by rintro rfl; exact .goesOn (.word .false)) fun _ => ?_
  refine .ite (by rintro rfl; exact .goesOn (.number .sign)) fun _ => ?_
  cases hdigit : digit? b with
  | none => exact .bad
  | some d =>
    obtain ⟨hd, rfl⟩ := digit?_eq_some hdigit
    cases d with
    | zero => exact .goesOn (.number (.zero (numberSpelling_digit hd false)))
    | succ d => exact .goesOn (.number (.whole (numberSpelling_digit hd false) (by simp)))

/-- A unit that is spelled behind a text makes it longer by one. -/
theorem textSpelling_concat {units : List TextUnit} {u : TextUnit} {bs bs' : List UInt8}
    (h : TextSpelling units bs) (hu : UnitSpelling u bs') :
    TextSpelling (units ++ [u]) (bs ++ bs') := by
  induction h with
  | nil => simpa using TextSpelling.cons hu .nil
  | cons h hrest ih =>
    rw [List.append_assoc]
    exact .cons h ih

/-- Four digits of an escape spell its unit. -/
theorem unitSpelling_hex {digits : List UInt8} {values : List Nat}
    (h : List.Forall₂ (fun b v => hexDigit? b = some v) digits values) (hfour : digits.length = 4) :
    UnitSpelling (.unit (values.foldl (fun v d => v * 16 + d) 0)) (0x5C :: 0x75 :: digits) := by
  match digits, values, h with
  | [a, b, c, d], [w, x, y, z], .cons ha (.cons hb (.cons hc (.cons hd .nil))) =>
    have hunit := UnitSpelling.digits ha hb hc hd
    simpa using hunit

section

variable {units : List TextUnit} {bs : List UInt8}

/-- In a text an octet ends it, begins an escape or stands for itself. -/
theorem turn_text (h : TextSpelling units.reverse bs) (b : UInt8) :
    Turn (0x22 :: bs) b (lexStep (.text units) b) := by
  rw [lexStep]
  refine .ite (fun hb => ?_) fun hquote => .ite (fun hb => ?_) fun hslash =>
    .ite (fun _ => .bad) fun hcontrol => ?_
  · subst hb
    exact .ends (.text h)
  · subst hb
    exact .goesOn (.escape h)
  · have hmore := textSpelling_concat h (.plain hquote hslash hcontrol)
    rw [← List.reverse_cons] at hmore
    exact .goesOn (.text hmore)

/-- Behind a backslash an octet begins four digits or is the letter of an escape. -/
theorem turn_escape (h : TextSpelling units.reverse bs) (b : UInt8) :
    Turn (0x22 :: bs ++ [0x5C]) b (lexStep (.escape units) b) := by
  rw [lexStep]
  refine .ite (fun hb => ?_) fun _ => ?_
  · subst hb
    have hbegun : Begun (.hex units 3 0) _ := .hex h .nil rfl
    exact .goesOn (by simpa using hbegun)
  · cases hescape : shortEscape? b with
    | none => exact .bad
    | some c =>
      have hmore := textSpelling_concat h (.letter hescape)
      rw [← List.reverse_cons] at hmore
      have hbegun := Begun.text hmore
      exact .goesOn (by simpa using hbegun)

/-- Among the digits of an escape an octet is the next one, and the fourth one ends the escape. -/
theorem turn_hex {digits : List UInt8} {values : List Nat} {missing : Nat}
    (h : TextSpelling units.reverse bs)
    (hdigits : List.Forall₂ (fun b v => hexDigit? b = some v) digits values)
    (hmissing : digits.length + missing = 3) (b : UInt8) :
    Turn (0x22 :: bs ++ 0x5C :: 0x75 :: digits) b
      (lexStep (.hex units missing (values.foldl (fun v d => v * 16 + d) 0)) b) := by
  cases hdigit : hexDigit? b with
  | none =>
    simp only [lexStep, hdigit]
    exact .bad
  | some d =>
    have hmore : List.Forall₂ _ (digits ++ [b]) (values ++ [d]) :=
      List.rel_append hdigits (.cons hdigit .nil)
    -- Whether this is the fourth digit: then the unit is complete and belongs to the text.
    cases missing with
    | zero =>
      have hfour : (digits ++ [b]).length = 4 := by simpa using hmissing
      have hunit := textSpelling_concat h (unitSpelling_hex hmore hfour)
      rw [← List.reverse_cons, List.foldl_append] at hunit
      have hbegun := Begun.text hunit
      simp only [lexStep, hdigit]
      exact .goesOn (by simpa using hbegun)
    | succ missing =>
      have hcount : (digits ++ [b]).length + missing = 3 := by
        rw [List.length_append, List.length_singleton]
        omega
      have hbegun := Begun.hex h hmore hcount
      rw [List.foldl_append] at hbegun
      simp only [lexStep, hdigit]
      exact .goesOn (by simpa using hbegun)

/-- In a word only its next octet goes on, and the last one ends it. -/
theorem turn_word {rest : List UInt8} {t : Token} (h : TokenSpelling t (bs ++ rest)) (b : UInt8) :
    Turn bs b (lexStep (.word rest t) b) := by
  rw [lexStep.eq_def]
  rcases rest with _ | ⟨next, _ | ⟨next', rest⟩⟩
  · exact .bad
  · refine .ite (fun hb => ?_) fun _ => .bad
    subst hb
    exact .ends h
  · refine .ite (fun hb => ?_) fun _ => .bad
    subst hb
    exact .goesOn (.word (by simpa using h))

/-- A number has no end of its own, so an octet that does not continue it stands behind it. -/
theorem turn_number {part : NumeralPart} {n : Numeral} (h : NumeralBegun part n bs) (b : UInt8) :
    Turn bs b (lexStep (.number part n) b) ∨ ∃ t, TokenSpelling t bs ∧
      lexStep (.number part n) b = (t :: (lexStart b).1, (lexStart b).2) := by
  rw [lexStep]
  cases hstep : continueNumeral part n b with
  | some next =>
    obtain ⟨part', n'⟩ := next
    cases hdigit : digit? b with
    | some d => exact .inl (.goesOn (.number (h.digit hdigit hstep)))
    | none => exact .inl (.goesOn (.number (h.mark hdigit hstep)))
  | none =>
    cases hcomplete : part.complete with
    | true => exact .inr ⟨_, .number (h.spelling hcomplete), rfl⟩
    | false => exact .inl .bad

end

/-- One more octet: it belongs to the token that has been begun, or to none, or the token was a
number and has ended in front of it. -/
theorem Begun.turn {s : LexState} {bs : List UInt8} (h : Begun s bs) (b : UInt8) :
    Turn bs b (lexStep s b) ∨
      ∃ t, TokenSpelling t bs ∧ lexStep s b = (t :: (lexStart b).1, (lexStart b).2) := by
  cases h with
  | text h => exact .inl (turn_text h b)
  | escape h => exact .inl (turn_escape h b)
  | hex h hdigits hmissing => exact .inl (turn_hex h hdigits hmissing b)
  | word h => exact .inl (turn_word h b)
  | number h => exact turn_number h b

/-- Behind the last octet a token ends or is no token. -/
theorem Begun.spelling_end {s : LexState} {past : List UInt8} (h : Begun s past)
    (hbad : Token.bad ∉ lexEnd s) : ∃ t, lexEnd s = [t] ∧ TokenSpelling t past := by
  cases h with
  | number h =>
    rw [lexEnd] at hbad ⊢
    split at hbad
    · rename_i hcomplete
      rw [if_pos hcomplete]
      exact ⟨_, rfl, .number (h.spelling hcomplete)⟩
    · exact absurd List.mem_cons_self hbad
  | _ => exact absurd List.mem_cons_self hbad

/-- Tokens that were lexed are spelled by the octets that were read, those of a token that has been
begun among them. -/
theorem spelling_lexFrom (bs : List UInt8) :
    (∀ blanks, Blank blanks → Token.bad ∉ lexFrom .between bs →
      TokensSpelling (lexFrom .between bs) (blanks ++ bs)) ∧
    ∀ s past blanks, Begun s past → Blank blanks → Token.bad ∉ lexFrom s bs →
      TokensSpelling (lexFrom s bs) (blanks ++ past ++ bs) := by
  -- The two halves need each other: a token that ends leaves the lexer between tokens, and the next
  -- one begins there.
  induction bs with
  | nil =>
    refine ⟨fun blanks hblanks _ => ?_, fun s past blanks h hblanks hbad => ?_⟩
    · rw [List.append_nil]
      exact .nil hblanks
    · obtain ⟨t, hend, ht⟩ := h.spelling_end hbad
      rw [lexFrom, hend]
      exact .cons hblanks ht (.nil blank_nil)
  | cons b bs ih =>
    obtain ⟨hbetween, hbegun⟩ := ih
    -- An octet goes on with the token that was begun, ends it, or spoils it.
    have hturn : ∀ {past r}, Turn past b r → ∀ blanks, Blank blanks →
        Token.bad ∉ r.1 ++ lexFrom r.2 bs →
          TokensSpelling (r.1 ++ lexFrom r.2 bs) (blanks ++ past ++ b :: bs) := by
      intro past r h blanks hblanks hbad
      cases h with
      | goesOn h => simpa using hbegun _ _ blanks h hblanks hbad
      | ends h =>
        have hrest := hbetween [] blank_nil fun hmem => hbad (List.mem_cons_of_mem _ hmem)
        simpa using TokensSpelling.cons hblanks h hrest
      | bad => exact absurd List.mem_cons_self hbad
    have hstart : ∀ blanks, Blank blanks → Token.bad ∉ lexFrom .between (b :: bs) →
        TokensSpelling (lexFrom .between (b :: bs)) (blanks ++ b :: bs) := by
      intro blanks hblanks hbad
      cases hb : isSpace b with
      | true =>
        have hstep : lexStep .between b = ([], .between) := by
          rw [lexStep, lexStart, if_pos hb]
        rw [lexFrom_cons hstep] at hbad ⊢
        have hmore : Blank (blanks ++ [b]) := fun x hx => by
          rcases List.mem_append.mp hx with hx | hx
          · exact hblanks x hx
          · rwa [List.mem_singleton.mp hx]
        simpa using hbetween _ hmore hbad
      | false =>
        have htokens := hturn (turn_lexStart hb) blanks hblanks hbad
        rwa [List.append_nil] at htokens
    refine ⟨hstart, fun s past blanks h hblanks hbad => ?_⟩
    rcases h.turn b with h | ⟨t, ht, hstep⟩
    · exact hturn h blanks hblanks hbad
    · -- The token ends before this octet, which then begins the next one.
      rw [lexFrom_cons hstep] at hbad ⊢
      exact .cons hblanks ht (hstart [] blank_nil fun hmem => hbad (List.mem_cons_of_mem _ hmem))

/-! ## Texts -/

/-- **What is read are the JSON texts.**  Octets are read as a document exactly if they spell it. -/
theorem ofOctets?_eq_some_iff {d : Document} {bs : List UInt8} :
    Document.ofOctets? bs = some d ↔ d.Spelled bs := by
  refine ⟨fun h => ?_, ofOctets?_of_spelled⟩
  have hread : Document.ofTokens? (lex bs) = some (d, []) := by
    rw [Document.ofOctets?, Document.read?] at h
    cases hbuilt : Document.ofTokens? (lex bs) with
    | none =>
      rw [hbuilt] at h
      cases h
    | some result =>
      obtain ⟨d', rest⟩ := result
      rw [hbuilt] at h
      cases rest with
      | nil =>
        cases h
        rfl
      | cons t ts => cases h
  -- The builder used up all tokens, so they are those of the document.
  have htokens : lexFrom .between bs = d.tokens := by
    have hbegins : (Progress.more [] .value).Begins := trivial
    have hall := tokens_of_build hbegins hread
    rwa [List.append_nil] at hall
  have hspelling := (spelling_lexFrom bs).1 [] blank_nil
  rw [htokens] at hspelling
  exact hspelling (bad_notMem_tokens d)

end CommandRelay.Json
