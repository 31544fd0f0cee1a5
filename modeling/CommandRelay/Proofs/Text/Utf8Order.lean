import CommandRelay.Proofs.Text.Utf8

/-!
# UTF-8 keeps the order of texts

Texts are in the order of their code points.  Their octets are in the same order: where two
characters differ, the octets of the smaller one come to a smaller octet first (`encodeChar_lt`),
whatever stands behind them, so texts may be compared either way (`encode_lt_iff`).
-/

namespace CommandRelay.Utf8

variable {s t : List UInt8}

theorem ofNat_cons_lt_iff {m n : Nat} (hm : m < 256) (hn : n < 256) :
    UInt8.ofNat m :: s < UInt8.ofNat n :: t ↔ m < n ∨ m = n ∧ s < t := by
  rw [List.cons_lt_cons_iff, UInt8.lt_iff_toNat_lt, ← UInt8.toNat_inj, toNat_ofNat_of_lt hm,
    toNat_ofNat_of_lt hn]

/-- The octets of a smaller character come first, whatever stands behind either. -/
theorem encodeChar_lt {c d : Char} (h : c < d) (s t : List UInt8) :
    String.utf8EncodeChar c ++ s < String.utf8EncodeChar d ++ t := by
  have hc := scalar c
  have hd := scalar d
  have hlt : c.toNat < d.toNat := h
  rw [String.utf8EncodeChar.eq_1, String.utf8EncodeChar.eq_1, show c.val.toNat = c.toNat from rfl,
    show d.val.toNat = d.toNat from rfl]
  generalize c.toNat = v at hc hlt
  generalize d.toNat = w at hd hlt
  have htwo : ∀ n, n / 4096 = n / 64 / 64 := fun n => (Nat.div_div_eq_div_mul n 64 64).symm
  have hthree : ∀ n, n / 262144 = n / 64 / 64 / 64 := fun n => by
    rw [Nat.div_div_eq_div_mul, Nat.div_div_eq_div_mul]
  -- A longer sequence begins with a greater octet; of two that are as long, the first digit in base
  -- 64 in which the codes differ decides.
  split_ifs <;>
    simp (disch := omega) only [List.cons_append, List.nil_append, ofNat_cons_lt_iff, htwo, hthree]
      <;> omega

theorem encodeChar_ne_nil (c : Char) : String.utf8EncodeChar c ≠ [] := by
  rw [String.utf8EncodeChar.eq_1]
  split_ifs <;> exact List.cons_ne_nil _ _

/-- What begins alike is told apart by what follows. -/
theorem append_lt_append_left_iff (front : List UInt8) : front ++ s < front ++ t ↔ s < t := by
  induction front with
  | nil => exact Iff.rfl
  | cons b front ih =>
    rw [List.cons_append, List.cons_append, List.cons_lt_cons_iff, ih]
    exact ⟨fun h => h.elim (fun hlt => absurd hlt (UInt8.lt_irrefl b)) (·.2),
      fun h => .inr ⟨rfl, h⟩⟩

/-- Characters and their octets are ordered alike. -/
theorem encodeChars_lt_iff {cs ds : List Char} : encodeChars cs < encodeChars ds ↔ cs < ds := by
  induction cs generalizing ds with
  | nil =>
    cases ds with
    | nil => exact iff_of_false (List.lt_irrefl _) (List.lt_irrefl _)
    | cons d ds =>
      obtain ⟨b, bs, hd⟩ := List.exists_cons_of_ne_nil (encodeChar_ne_nil d)
      rw [encodeChars_cons, hd]
      exact iff_of_true (List.nil_lt_cons _ _) (List.nil_lt_cons _ _)
  | cons c cs ih =>
    cases ds with
    | nil => exact iff_of_false (List.not_lt_nil _) (List.not_lt_nil _)
    | cons d ds =>
      rw [encodeChars_cons, encodeChars_cons, List.cons_lt_cons_iff]
      rcases lt_trichotomy c d with hlt | rfl | hgt
      · exact iff_of_true (encodeChar_lt hlt _ _) (.inl hlt)
      · refine (append_lt_append_left_iff _).trans (ih.trans ?_)
        exact ⟨fun h => .inr ⟨rfl, h⟩, fun h => h.elim (fun hlt => absurd hlt (lt_irrefl c)) (·.2)⟩
      · refine iff_of_false (List.lt_asymm (encodeChar_lt hgt _ _)) fun h => ?_
        rcases h with hlt | ⟨rfl, -⟩
        · exact absurd hlt hgt.asymm
        · exact lt_irrefl c hgt

/-- Texts are in the order of their octets. -/
theorem encode_lt_iff {s t : String} : encode s < encode t ↔ s < t := encodeChars_lt_iff

end CommandRelay.Utf8
