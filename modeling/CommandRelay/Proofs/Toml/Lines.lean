import CommandRelay.Proofs.Text.Numerals
import CommandRelay.Toml.Document
import CommandRelay.Toml.Printer

/-!
# What is written on a line is read from it

The parts of the lines of a document, each in front of whatever may stand behind it.
-/

namespace CommandRelay.Toml

open Text (hexDigit Digits)

/-! ## Texts -/

theorem hexValue?_hexDigit : ∀ d < 16, hexValue? (hexDigit d) = some d := by decide

theorem eightDigits_of_lt {n : Nat} (h : n < 256) :
    eightDigits n = ['0', '0', '0', '0', '0', '0', hexDigit (n / 16), hexDigit (n % 16)] := by
  have hlast : ∀ d < 16, Text.hexadecimal d = [hexDigit d] := fun d hd => by
    rw [Text.hexadecimal, if_pos hd]
  rw [eightDigits]
  by_cases hn : n < 16
  · rw [hlast n hn, Nat.div_eq_of_lt hn, Nat.mod_eq_of_lt hn]
    rfl
  · rw [Text.hexadecimal, if_neg hn, hlast (n / 16) (by omega)]
    rfl

/-- The eight digits of a small number spell the character with that number. -/
theorem escape?_eightDigits {n : Nat} (h : n < 256) (rest : List Char) :
    escape? ('U' :: eightDigits n ++ rest) = some (Char.ofNat n, rest) := by
  have hnumber : hexNumber? (eightDigits n) = some n := by
    rw [eightDigits_of_lt h, hexNumber?]
    simp only [List.foldlM_cons, List.foldlM_nil,
      hexValue?_hexDigit _ (Nat.mod_lt n (by decide : 0 < 16)),
      hexValue?_hexDigit (n / 16) (by omega)]
    show some ((0 * 16 + n / 16) * 16 + n % 16) = some n
    rw [Option.some.injEq]
    omega
  have hchar : hexChar? (eightDigits n) = some (Char.ofNat n) := by
    rw [hexChar?, hnumber]
    exact if_pos (.inl (by omega))
  rw [eightDigits_of_lt h] at hchar ⊢
  show (hexChar? _).map (·, rest) = _
  rw [hchar]
  rfl

/-- A character inside a text is read as it is written. -/
theorem basicText_printChar (c : Char) (fuel : Nat) (rest : List Char) :
    basicText (fuel + 1) (printChar c ++ rest) =
      (basicText fuel rest).map fun read => (c :: read.1, read.2) := by
  have hescape : ∀ more, escape? more = some (c, rest) →
      basicText (fuel + 1) ('\\' :: more) =
        (basicText fuel rest).map fun read => (c :: read.1, read.2) := by
    intro more hmore
    rw [basicText, hmore]
    show ((basicText fuel rest).bind fun read => some (c :: read.1, read.2)) = _
    cases basicText fuel rest <;> rfl
  rw [printChar]
  -- Four characters have an escape of their own, controls one with digits; all others are plain.
  split_ifs with hquote hslash hline hreturn hcontrol
  · subst hquote
    exact hescape _ rfl
  · subst hslash
    exact hescape _ rfl
  · subst hline
    exact hescape _ rfl
  · subst hreturn
    exact hescape _ rfl
  · refine hescape _ ?_
    have hdigits := escape?_eightDigits (show c.toNat < 256 by omega) rest
    rwa [Char.ofNat_toNat] at hdigits
  · have hplain : isPlain c = true := by
      simp only [isPlain, Bool.or_eq_true, Bool.and_eq_true, decide_eq_true_eq, bne_iff_ne]
      omega
    show basicText (fuel + 1) (c :: rest) = _
    rw [basicText]
    · rw [if_pos hplain]
      cases basicText fuel rest <;> rfl
    · rintro rfl
      exact hquote rfl
    · rintro rfl
      exact hslash rfl

/-- Printed characters are read back up to the quotation mark behind them. -/
theorem basicText_printChars (cs : List Char) {fuel : Nat} (h : cs.length ≤ fuel)
    (rest : List Char) :
    basicText fuel (cs.flatMap printChar ++ '\"' :: rest) = some (cs, rest) := by
  induction cs generalizing fuel with
  | nil =>
    show basicText fuel ('\"' :: rest) = _
    rw [basicText]
  | cons c cs ih =>
    obtain ⟨fuel, rfl⟩ := Nat.exists_eq_add_of_le' (Nat.one_le_of_lt h)
    rw [List.flatMap_cons, List.append_assoc, basicText_printChar,
      ih (Nat.le_of_succ_le_succ h)]
    rfl

/-- No character is written with a quote in front. -/
theorem printChar_eq_cons (c : Char) : ∃ d ds, printChar c = d :: ds ∧ d ≠ '\"' := by
  rw [printChar]
  split_ifs with hquote
  · exact ⟨_, _, rfl, by decide⟩
  · exact ⟨_, _, rfl, by decide⟩
  · exact ⟨_, _, rfl, by decide⟩
  · exact ⟨_, _, rfl, by decide⟩
  · exact ⟨_, _, rfl, by decide⟩
  · exact ⟨_, _, rfl, hquote⟩

theorem length_le_flatMap_printChar (cs : List Char) :
    cs.length ≤ (cs.flatMap printChar).length := by
  induction cs with
  | nil => exact Nat.zero_le _
  | cons c cs ih =>
    obtain ⟨d, ds, hc, -⟩ := printChar_eq_cons c
    rw [List.flatMap_cons, hc, List.length_append, List.length_cons, List.length_cons]
    omega

/-- What stands behind the quote that opens a written text is read as the text. -/
theorem basicText_printText (s : String) (rest : List Char) :
    basicText ((s.toList.flatMap printChar ++ '\"' :: rest).length + 1)
      (s.toList.flatMap printChar ++ '\"' :: rest) = some (s.toList, rest) := by
  refine basicText_printChars _ ?_ rest
  have hle := length_le_flatMap_printChar s.toList
  rw [List.length_append]
  omega

theorem printText_append (s : String) (rest : List Char) :
    printText s ++ rest = '\"' :: (s.toList.flatMap printChar ++ '\"' :: rest) := by
  rw [printText, List.cons_append, List.cons_append, List.append_assoc]
  rfl

/-- One quote opens a text on one line, unless two more follow. -/
theorem text?_basic {cs : List Char} (h : ∀ more, cs ≠ '\"' :: '\"' :: more) :
    text? ('\"' :: cs) =
      (basicText (cs.length + 1) cs).map fun read => (String.ofList read.1, read.2) := by
  rw [text?]
  · cases basicText (cs.length + 1) cs <;> rfl
  · exact h

/-- A printed text is read back. -/
theorem text?_printText (s : String) (rest : List Char) :
    text? (printText s ++ '\n' :: rest) = some (s, '\n' :: rest) := by
  rw [printText_append, text?_basic, basicText_printText]
  · show some (String.ofList s.toList, _) = _
    rw [String.ofList_toList]
  · intro more heq
    cases hs : s.toList with
    | nil =>
      rw [hs] at heq
      cases (List.cons.inj (List.cons.inj heq).2).1
    | cons c cs =>
      obtain ⟨d, ds, hc, hd⟩ := printChar_eq_cons c
      rw [hs, List.flatMap_cons, hc] at heq
      exact hd (List.cons.inj heq).1

/-! ## Keys -/

theorem skipGap_cons {c : Char} (h : isGap c = false) (cs : List Char) :
    skipGap (c :: cs) = c :: cs :=
  List.dropWhile_cons_of_neg (by rw [h]; exact Bool.false_ne_true)

/-- A printed key is read back. -/
theorem keyPart?_printText (s : String) (rest : List Char) :
    keyPart? (printText s ++ rest) = some (s, rest) := by
  rw [printText_append, keyPart?, basicText_printText]
  show some (String.ofList s.toList, _) = _
  rw [String.ofList_toList]

/-- A path is read up to what is no point. -/
theorem keyPath?_printPath {path : List String} (hne : path ≠ []) {parts : Nat}
    (h : path.length < parts) {rest : List Char} (hrest : ∀ more, skipGap rest ≠ '.' :: more) :
    keyPath? parts (printPath path ++ rest) = some (path, skipGap rest) := by
  have hpart : ∀ key rest, keyPart? (skipGap (printText key ++ rest)) = some (key, rest) := by
    intro key rest
    rw [printText_append, skipGap_cons rfl, ← printText_append, keyPart?_printText]
  -- By induction along the path; a point goes on with it, and behind the last key there is none.
  induction path generalizing parts with
  | nil => exact absurd rfl hne
  | cons key path ih =>
    obtain ⟨parts, rfl⟩ := Nat.exists_eq_add_of_le' (Nat.lt_of_le_of_lt (Nat.le_add_left 1 _) h)
    cases path with
    | nil =>
      show (keyPart? (skipGap (printText key ++ rest))).bind _ = _
      rw [hpart, Option.bind_some]
      dsimp only
      split
      · rename_i heq
        exact absurd heq (hrest _)
      · rfl
    | cons key' path =>
      have hpath : printPath (key :: key' :: path) ++ rest =
          printText key ++ '.' :: (printPath (key' :: path) ++ rest) :=
        List.append_assoc _ _ _
      rw [hpath]
      show (keyPart? (skipGap (printText key ++ _))).bind _ = _
      rw [hpart]
      show (keyPath? (parts + 1) (printPath (key' :: path) ++ rest)).bind _ = _
      rw [ih (List.cons_ne_nil _ _) (Nat.lt_of_succ_lt_succ h)]
      rfl

/-! ## Integers -/

theorem digitBelow?_of_isDigit {c : Char} (h : c.isDigit = true) :
    digitBelow? 10 c = some (c.toNat - 48) := by
  simp only [Char.isDigit, Bool.and_eq_true, decide_eq_true_eq] at h
  have hhigh : c.toNat ≤ 57 := h.2
  rw [digitBelow?, hexValue?, if_pos ⟨h.1, h.2⟩, Option.filter_some, if_pos (by simp; omega)]

/-- Digits are read one by one up to the end of the line. -/
theorem digits?_of_digits {ds : List Char} (h : Digits ds) (rest : List Char) :
    digits? (digitBelow? 10) (ds ++ '\n' :: rest) =
      some (ds.map fun d => d.toNat - 48, '\n' :: rest) := by
  obtain ⟨hne, hdigits⟩ := h
  induction ds with
  | nil => exact absurd rfl hne
  | cons d ds ih =>
    obtain ⟨hd, hds⟩ := List.forall_mem_cons.mp hdigits
    cases ds with
    | nil =>
      show digits? (digitBelow? 10) (d :: '\n' :: rest) = _
      rw [digits?, digitBelow?_of_isDigit hd]
      rfl
    | cons e ds =>
      have he : e ≠ '_' := by
        rintro rfl
        exact absurd (hds '_' List.mem_cons_self) (by decide)
      have hmore := ih (List.cons_ne_nil _ _) hds
      rw [List.cons_append, digits?, digitBelow?_of_isDigit hd]
      dsimp only [List.cons_append]
      split
      · rename_i heq
        exact absurd (List.cons.inj heq).1 he
      · rw [← List.cons_append, hmore]
        rfl

/-- The decimal digits of a number are read without a zero in front. -/
theorem whole?_decimal (n : Nat) (rest : List Char) :
    whole? (Text.decimal n ++ '\n' :: rest) =
      some ((Text.decimal n).map fun d => d.toNat - 48, '\n' :: rest) := by
  obtain ⟨hdigits, -⟩ := Text.ofDecimal_decimal n
  obtain ⟨d, ds, hcons, hzero⟩ := Text.decimal_eq_cons n
  rw [hcons] at hdigits ⊢
  by_cases hd : d = '0'
  · obtain rfl := hzero hd
    subst hd
    rfl
  · rw [List.cons_append, whole?]
    · exact digits?_of_digits hdigits rest
    · intro _ heq
      exact hd (List.cons.inj heq).1

theorem ofDigits_decimal (n : Nat) :
    ofDigits 10 ((Text.decimal n).map fun d => d.toNat - 48) = n := by
  rw [ofDigits, List.foldl_map]
  exact (Text.ofDecimal_decimal n).2

/-- Without a point or an exponent a number is no float. -/
theorem float?_decimal {cs rest : List Char} {negative : Bool} {n : Nat}
    (h : sign cs = (negative, Text.decimal n ++ '\n' :: rest)) : float? cs = none := by
  obtain ⟨⟨-, hdigits⟩, -⟩ := Text.ofDecimal_decimal n
  obtain ⟨d, ds, hcons, -⟩ := Text.decimal_eq_cons n
  have hd : d.isDigit = true := hdigits d (by rw [hcons]; exact List.mem_cons_self)
  have hword : ∀ {c : Char} {more : List Char}, c.isDigit = false →
      Text.decimal n ++ '\n' :: rest ≠ c :: more := by
    intro c more hc heq
    rw [hcons] at heq
    rw [(List.cons.inj heq).1, hc] at hd
    cases hd
  rw [float?, h]
  dsimp only
  split
  · rename_i heq
    exact absurd heq (hword rfl)
  · rename_i heq
    exact absurd heq (hword rfl)
  · rw [whole?_decimal]
    rfl

/-- What follows a fixed number of digits in a written number is a digit or the end of the line. -/
theorem expect?_of_fixed? {ds rest : List Char} (hds : ∀ d ∈ ds, d.isDigit = true) {count : Nat}
    {x : Nat × List Char} (hx : fixed? count (ds ++ '\n' :: rest) = some x) {c : Char}
    (hc : c.isDigit = false) (hline : c ≠ '\n') : expect? c x.2 = none := by
  rw [fixed?] at hx
  split at hx
  · rename_i hall
    obtain rfl := Option.some.inj hx
    have hdigits := List.all_eq_true.mp (Bool.and_eq_true_iff.mp hall).2
    have hle : count ≤ ds.length := by
      by_contra hlt
      have hmem : '\n' ∈ (ds ++ '\n' :: rest).take count := by
        rw [List.take_append, List.mem_append]
        obtain ⟨k, hk⟩ := Nat.exists_eq_succ_of_ne_zero (Nat.sub_ne_zero_of_lt (not_le.mp hlt))
        rw [hk]
        exact .inr List.mem_cons_self
      exact absurd (hdigits _ hmem) (by decide)
    rw [List.drop_append_of_le_length hle]
    cases hdrop : ds.drop count with
    | nil => exact if_neg (by simpa using hline)
    | cons d more =>
      have hd : d.isDigit = true := hds d (List.mem_of_mem_drop (hdrop ▸ List.mem_cons_self))
      refine if_neg fun heq => ?_
      rw [beq_iff_eq.mp heq, hd] at hc
      cases hc
  · cases hx

theorem fixed?_of_not_isDigit {c : Char} (h : c.isDigit = false) {count : Nat} (hcount : 0 < count)
    (cs : List Char) : fixed? count (c :: cs) = none := by
  obtain ⟨count, rfl⟩ := Nat.exists_eq_succ_of_ne_zero hcount.ne'
  rw [fixed?]
  refine if_neg fun hall => ?_
  have hdigits := List.all_eq_true.mp (Bool.and_eq_true_iff.mp hall).2
  rw [hdigits c List.mem_cons_self] at h
  cases h

/-- A text is no date if what may begin a year or an hour ends in front of no dash or colon. -/
theorem date?_eq_none {cs : List Char}
    (hday : ∀ x, fixed? 4 cs = some x → expect? '-' x.2 = none)
    (htime : ∀ x, fixed? 2 cs = some x → expect? ':' x.2 = none) : date? cs = none := by
  have hnoday : day? cs = none := by
    rw [day?]
    cases hx : fixed? 4 cs with
    | none => rfl
    | some x =>
      show (expect? '-' x.2).bind _ = none
      rw [hday x hx]
      rfl
  have hnotime : time? cs = none := by
    rw [time?, twoDigits?]
    cases hx : fixed? 2 cs with
    | none => rfl
    | some x =>
      show ((if _ then some x else none : Option (Nat × List Char)).bind _) = none
      split
      · show (expect? ':' x.2).bind _ = none
        rw [htime x hx]
        rfl
      · rfl
  rw [date?, hnoday, hnotime]
  rfl

/-- A sign and decimal digits are read as an integer. -/
theorem integer?_of_sign {cs rest : List Char} {negative : Bool} {n : Nat}
    (h : sign cs = (negative, Text.decimal n ++ '\n' :: rest))
    (hbase : ∀ c more, cs = '0' :: c :: more → c = '\n') :
    integer? cs = (fitting? (if negative then -(n : Int) else n)).map (·, '\n' :: rest) := by
  have hmark : ∀ {c : Char}, c ≠ '\n' → ∀ more, cs ≠ '0' :: c :: more :=
    fun hc more heq => hc (hbase _ more heq)
  rw [integer?]
  · rw [h]
    dsimp only
    rw [whole?_decimal]
    show (fitting? (if negative then -((ofDigits 10 _ : Nat) : Int)
      else (ofDigits 10 _ : Nat))).bind
      _ = _
    rw [ofDigits_decimal]
    cases fitting? (if negative then -(n : Int) else n) <;> rfl
  · exact hmark (by decide)
  · exact hmark (by decide)
  · exact hmark (by decide)

/-- A written integer begins with a digit or a minus. -/
theorem decimalInt_eq_cons (n : Int) :
    ∃ c cs, Text.decimalInt n = c :: cs ∧ (c.isDigit = true ∨ c = '-') := by
  obtain ⟨⟨-, hdigits⟩, -⟩ := Text.ofDecimal_decimal n.natAbs
  rw [Text.decimalInt]
  split
  · exact ⟨_, _, rfl, .inr rfl⟩
  · obtain ⟨d, ds, hcons, -⟩ := Text.decimal_eq_cons n.natAbs
    exact ⟨d, ds, hcons, .inl (hdigits d (by rw [hcons]; exact List.mem_cons_self))⟩

/-- What begins with a digit or a minus is a date, a float or an integer. -/
theorem scalar?_of_number {c : Char} {cs : List Char} (hc : c.isDigit = true ∨ c = '-') :
    scalar? (c :: cs) = (date? (c :: cs) <|> float? (c :: cs) <|> integer? (c :: cs)) := by
  rw [scalar?]
  all_goals
    intro _ heq
    rw [(List.cons.inj heq).1] at hc
    revert hc
    decide

/-- A sign and digits are read as a number, if they are no date and do not say that they have a
base. -/
theorem scalar?_of_sign {c : Char} {cs rest : List Char} {negative : Bool} {n : Nat}
    (hc : c.isDigit = true ∨ c = '-') (hdate : date? (c :: cs) = none)
    (hsign : sign (c :: cs) = (negative, Text.decimal n ++ '\n' :: rest))
    (hbase : ∀ d more, c :: cs = '0' :: d :: more → d = '\n') :
    scalar? (c :: cs) =
      (fitting? (if negative then -(n : Int) else n)).map (·, '\n' :: rest) := by
  rw [scalar?_of_number hc, hdate, float?_decimal hsign, integer?_of_sign hsign hbase]
  rfl

/-- A negative integer is read back, if it fits. -/
theorem scalar?_negative (n : Nat) (rest : List Char) :
    scalar? ('-' :: (Text.decimal n ++ '\n' :: rest)) =
      (fitting? (-(n : Int))).map (·, '\n' :: rest) := by
  have hdate : date? ('-' :: (Text.decimal n ++ '\n' :: rest)) = none :=
    date?_eq_none (fun x hx => by rw [fixed?_of_not_isDigit rfl (by decide)] at hx; cases hx)
      fun x hx => by rw [fixed?_of_not_isDigit rfl (by decide)] at hx; cases hx
  have hbase : ∀ c more, '-' :: (Text.decimal n ++ '\n' :: rest) = '0' :: c :: more → c = '\n' :=
    fun _ _ heq => by cases (List.cons.inj heq).1
  rw [scalar?_of_sign (.inr rfl) hdate rfl hbase, if_pos rfl]

/-- An integer without a sign is read back, if it fits. -/
theorem scalar?_decimal (n : Nat) (rest : List Char) :
    scalar? (Text.decimal n ++ '\n' :: rest) = (fitting? (n : Int)).map (·, '\n' :: rest) := by
  obtain ⟨⟨-, hdigits⟩, -⟩ := Text.ofDecimal_decimal n
  obtain ⟨d, ds, hcons, hzero⟩ := Text.decimal_eq_cons n
  have hd : d.isDigit = true := hdigits d (by rw [hcons]; exact List.mem_cons_self)
  have hdate : date? (Text.decimal n ++ '\n' :: rest) = none :=
    date?_eq_none (fun x hx => expect?_of_fixed? hdigits hx rfl (by decide))
      fun x hx => expect?_of_fixed? hdigits hx rfl (by decide)
  have htext : Text.decimal n ++ '\n' :: rest = d :: (ds ++ '\n' :: rest) := by
    rw [hcons, List.cons_append]
  have hsign : sign (d :: (ds ++ '\n' :: rest)) = (false, Text.decimal n ++ '\n' :: rest) := by
    rw [htext, sign]
    all_goals
      rintro _ heq
      rw [(List.cons.inj heq).1] at hd
      cases hd
  have hbase : ∀ c more, d :: (ds ++ '\n' :: rest) = '0' :: c :: more → c = '\n' := by
    intro c more heq
    obtain ⟨hd, heq⟩ := List.cons.inj heq
    rw [hzero hd] at heq
    exact (List.cons.inj heq).1.symm
  rw [htext] at hdate ⊢
  rw [scalar?_of_sign (.inl hd) hdate hsign hbase, if_neg Bool.false_ne_true]

/-- A written integer that fits is read as itself. -/
theorem scalar?_decimalInt {n : Int} (h : Text.FitsSigned n) (rest : List Char) :
    scalar? (Text.decimalInt n ++ '\n' :: rest) = some (.int n, '\n' :: rest) := by
  have hfits : fitting? n = some (.int n) := if_pos h
  rw [Text.decimalInt]
  split
  · rw [List.cons_append, scalar?_negative, show -((n.natAbs : Nat) : Int) = n by omega, hfits]
    rfl
  · rw [scalar?_decimal, show ((n.natAbs : Nat) : Int) = n by omega, hfits]
    rfl

end CommandRelay.Toml
