import Mathlib
import CommandRelay.Text.Blank
import CommandRelay.Text.Digits

/-!
# Numbers and how they are written

A `Numeral` is a sign or none before decimal digits, and that is what an integer is read from
(`signed?_eq_some_iff`).  A natural number below a limit is read from digits with a plus or no sign
before them (`unsigned?_eq_some_iff`).  Digits have the value of their places
(`ofDecimal_eq_ofDigits`), and a number that is written is a numeral of that number
(`numeral_decimalInt`).
-/

namespace CommandRelay.Text

/-! ## Integers -/

/-- Decimal digits, one at least. -/
def Digits (ds : List Char) : Prop := ds ≠ [] ∧ ∀ d ∈ ds, d.isDigit = true

/-- An integer in decimal digits, with a sign before them or none. -/
inductive Numeral : List Char → Int → Prop
  | plain {ds : List Char} (digits : Digits ds) : Numeral ds (ofDecimal ds)
  | plus {ds : List Char} (digits : Digits ds) : Numeral ('+' :: ds) (ofDecimal ds)
  | minus {ds : List Char} (digits : Digits ds) : Numeral ('-' :: ds) (-(ofDecimal ds : Int))

/-- Digits are read as their number, and nothing else is. -/
theorem natural?_eq_some_iff {cs : List Char} {n : Nat} :
    natural? cs = some n ↔ Digits cs ∧ n = ofDecimal cs := by
  unfold natural? Digits
  rw [← List.all_eq_true]
  split
  · rename_i h
    exact ⟨fun hn => ⟨h, (Option.some.inj hn).symm⟩, fun hn => congrArg some hn.2.symm⟩
  · rename_i h
    exact iff_of_false nofun fun hn => h hn.1

/-- A digit is no sign. -/
theorem Digits.head_ne {c : Char} {cs : List Char} (h : Digits (c :: cs)) : c ≠ '-' ∧ c ≠ '+' := by
  have hc := h.2 c List.mem_cons_self
  constructor
  · rintro rfl
    exact absurd hc (by decide)
  · rintro rfl
    exact absurd hc (by decide)

/-- Without a sign, digits are read as they stand. -/
theorem signed?_of_digits {ds : List Char} (h : Digits ds) :
    signed? ds = some (ofDecimal ds : Int) := by
  obtain ⟨c, cs, rfl⟩ := List.exists_cons_of_ne_nil h.1
  obtain ⟨hminus, hplus⟩ := h.head_ne
  have hn : natural? (c :: cs) = some (ofDecimal (c :: cs)) := natural?_eq_some_iff.mpr ⟨h, rfl⟩
  unfold signed?
  split
  · rename_i heq
    exact absurd (List.cons.inj heq).1 hminus
  · rename_i heq
    exact absurd (List.cons.inj heq).1 hplus
  · rw [hn]
    rfl

/-- A numeral is read as its integer, and nothing else is. -/
theorem signed?_eq_some_iff {cs : List Char} {n : Int} : signed? cs = some n ↔ Numeral cs n := by
  constructor
  · intro h
    unfold signed? at h
    split at h
    · rename_i ds
      cases hm : natural? ds with
      | none =>
        rw [hm] at h
        cases h
      | some m =>
        rw [hm] at h
        obtain ⟨hdigits, rfl⟩ := natural?_eq_some_iff.mp hm
        obtain rfl := Option.some.inj h
        exact .minus hdigits
    · rename_i ds
      obtain ⟨m, hm, rfl⟩ := Option.map_eq_some_iff.mp h
      obtain ⟨hdigits, rfl⟩ := natural?_eq_some_iff.mp hm
      exact .plus hdigits
    · obtain ⟨m, hm, rfl⟩ := Option.map_eq_some_iff.mp h
      obtain ⟨hdigits, rfl⟩ := natural?_eq_some_iff.mp hm
      exact .plain hdigits
  · intro h
    cases h with
    | plain hdigits => exact signed?_of_digits hdigits
    | plus hdigits =>
      simp only [signed?, natural?_eq_some_iff.mpr ⟨hdigits, rfl⟩]
      rfl
    | minus hdigits =>
      simp only [signed?, natural?_eq_some_iff.mpr ⟨hdigits, rfl⟩]
      rfl

/-- A digit is no blank. -/
theorem not_isBlank_of_isDigit {c : Char} (h : c.isDigit = true) : isBlank c = false := by
  have hrange : 48 ≤ c.toNat ∧ c.toNat ≤ 57 := by
    have h' := h
    simp only [Char.isDigit, Bool.and_eq_true, decide_eq_true_eq, ge_iff_le, UInt32.le_iff_toNat_le]
      at h'
    exact h'
  unfold isBlank
  simp only [Bool.or_eq_false_iff, Bool.and_eq_false_iff, decide_eq_false_iff_not,
    beq_eq_false_iff_ne]
  omega

/-- A numeral is written without blanks. -/
theorem Numeral.not_isBlank {cs : List Char} {n : Int} (h : Numeral cs n) :
    ∀ c ∈ cs, isBlank c = false := by
  have hdigits : ∀ {ds : List Char}, Digits ds → ∀ d ∈ ds, isBlank d = false :=
    fun hds d hd => not_isBlank_of_isDigit (hds.2 d hd)
  cases h with
  | plain hds => exact hdigits hds
  | plus hds => exact List.forall_mem_cons.mpr ⟨by decide, hdigits hds⟩
  | minus hds => exact List.forall_mem_cons.mpr ⟨by decide, hdigits hds⟩

/-! ## Digits and places -/

/-- One more digit makes ten times the number, and the digit. -/
theorem ofDecimal_concat (ds : List Char) (d : Char) :
    ofDecimal (ds ++ [d]) = ofDecimal ds * 10 + (d.toNat - 48) := by
  rw [ofDecimal, List.foldl_append]
  rfl

/-- Digits denote the number with these digits, the last one in the lowest place. -/
theorem ofDecimal_eq_ofDigits (ds : List Char) :
    ofDecimal ds = Nat.ofDigits 10 (ds.reverse.map fun d => d.toNat - 48) := by
  induction ds using List.reverseRecOn with
  | nil => rfl
  | append_singleton ds d ih =>
    rw [ofDecimal_concat, ih, List.reverse_concat, List.map_cons, Nat.ofDigits_cons, Nat.mul_comm,
      Nat.add_comm]

theorem hexDigit_of_lt : ∀ d < 10, (hexDigit d).isDigit = true ∧ (hexDigit d).toNat - 48 = d := by
  decide

/-- A natural number that is written is read as itself. -/
theorem ofDecimal_decimal (n : Nat) : Digits (decimal n) ∧ ofDecimal (decimal n) = n := by
  induction n using Nat.strongRecOn with
  | ind n ih =>
    rw [decimal]
    by_cases hn : n < 10
    · rw [if_pos hn]
      obtain ⟨hdigit, hvalue⟩ := hexDigit_of_lt n hn
      refine ⟨⟨List.cons_ne_nil _ _, by simpa using hdigit⟩, ?_⟩
      exact (ofDecimal_concat [] _).trans (by rw [hvalue]; exact Nat.zero_add n)
    · rw [if_neg hn]
      obtain ⟨⟨-, hdigits⟩, hvalue⟩ := ih (n / 10) (by omega)
      obtain ⟨hdigit, hlast⟩ := hexDigit_of_lt (n % 10) (by omega)
      refine ⟨⟨by simp, ?_⟩, ?_⟩
      · intro d hd
        rcases List.mem_append.mp hd with hd | hd
        · exact hdigits d hd
        · rw [List.mem_singleton.mp hd]
          exact hdigit
      · rw [ofDecimal_concat, hvalue, hlast]
        omega

/-- A number that is written begins with a zero only if it is zero. -/
theorem decimal_eq_cons (n : Nat) : ∃ d ds, decimal n = d :: ds ∧ (d = '0' → ds = []) := by
  induction n using Nat.strongRecOn with
  | ind n ih =>
    rw [decimal]
    by_cases hn : n < 10
    · exact ⟨_, [], if_pos hn, fun _ => rfl⟩
    · obtain ⟨d, ds, hcons, hzero⟩ := ih (n / 10) (by omega)
      refine ⟨d, ds ++ [hexDigit (n % 10)], by rw [if_neg hn, hcons]; rfl, fun hd => ?_⟩
      have hvalue := (ofDecimal_decimal (n / 10)).2
      rw [hcons, hzero hd, hd] at hvalue
      have hnone : n / 10 = 0 := hvalue.symm
      omega

/-- An integer that is written is a numeral of it. -/
theorem numeral_decimalInt (n : Int) : Numeral (decimalInt n) n := by
  obtain ⟨hdigits, hvalue⟩ := ofDecimal_decimal n.natAbs
  rw [decimalInt]
  split
  · have h := Numeral.minus hdigits
    rwa [hvalue, show -((n.natAbs : Nat) : Int) = n by omega] at h
  · have h := Numeral.plain hdigits
    rwa [hvalue, show ((n.natAbs : Nat) : Int) = n by omega] at h

/-! ## Natural numbers -/

/-- A natural number below `limit` in decimal digits, with a plus before them or no sign. -/
inductive Unsigned (limit : Nat) : List Char → Nat → Prop
  | plain {ds : List Char} (digits : Digits ds) (fits : ofDecimal ds < limit) :
      Unsigned limit ds (ofDecimal ds)
  | plus {ds : List Char} (digits : Digits ds) (fits : ofDecimal ds < limit) :
      Unsigned limit ('+' :: ds) (ofDecimal ds)

/-- A number that is read is below its limit. -/
theorem Unsigned.lt {limit : Nat} {cs : List Char} {n : Nat} (h : Unsigned limit cs n) :
    n < limit := by
  cases h with
  | plain _ fits => exact fits
  | plus _ fits => exact fits

/-- Digits are read as their number if it is below the limit, and nothing else is. -/
theorem unsigned?_eq_some_iff {limit : Nat} {cs : List Char} {n : Nat} :
    unsigned? limit cs = some n ↔ Unsigned limit cs n := by
  have hfits : ∀ ds m, (natural? ds).filter (· < limit) = some m ↔
      (Digits ds ∧ m = ofDecimal ds) ∧ m < limit := by
    intro ds m
    rw [Option.filter_eq_some_iff, natural?_eq_some_iff, decide_eq_true_eq]
  constructor
  · intro h
    unfold unsigned? at h
    split at h
    · obtain ⟨⟨hdigits, rfl⟩, hlt⟩ := (hfits _ _).mp h
      exact .plus hdigits hlt
    · obtain ⟨⟨hdigits, rfl⟩, hlt⟩ := (hfits _ _).mp h
      exact .plain hdigits hlt
  · intro h
    unfold unsigned?
    cases h with
    | plain hdigits hlt =>
      split
      · exact absurd rfl hdigits.head_ne.2
      · exact (hfits _ _).mpr ⟨⟨hdigits, rfl⟩, hlt⟩
    | plus hdigits hlt => exact (hfits _ _).mpr ⟨⟨hdigits, rfl⟩, hlt⟩

end CommandRelay.Text
