import Mathlib
import CommandRelay.Text.Base64

/-!
# Base64 is read back

Every sequence of octets is read back from its written form, and nothing but a written form is read
(`decodeText?_eq_some_iff`).  A group of four characters carries the bits of its octets in order;
the characters in front of the padding leave no bit over.
-/

namespace CommandRelay.Base64

theorem bits?_symbol : ∀ n < 64, bits? (symbol n) = some n := by decide

/-- No symbol is padding. -/
theorem symbol_ne_pad : ∀ n < 64, symbol n ≠ '=' := by decide

/-- An octet from two parts of its bits. -/
theorem ofNat_eq_of_toNat (a : UInt8) {n : Nat} (h : n = a.toNat) : UInt8.ofNat n = a := by
  rw [h, UInt8.ofNat_toNat]

theorem lastOne?_octet (a : UInt8) : lastOne? (a.toNat / 4) (a.toNat % 4 * 16) = some [a] := by
  have hwhole : a.toNat % 4 * 16 % 16 = 0 := by omega
  rw [lastOne?, if_pos hwhole, ofNat_eq_of_toNat a (by omega)]

theorem lastTwo?_octets (a b : UInt8) :
    lastTwo? (a.toNat / 4) (a.toNat % 4 * 16 + b.toNat / 16) (b.toNat % 16 * 4) = some [a, b] := by
  have hb : b.toNat < 256 := b.toNat_lt
  have hwhole : b.toNat % 16 * 4 % 4 = 0 := by omega
  rw [lastTwo?, if_pos hwhole, ofNat_eq_of_toNat a (by omega),
    ofNat_eq_of_toNat b (by omega)]

theorem group_octets (a b c : UInt8) :
    group (a.toNat / 4) (a.toNat % 4 * 16 + b.toNat / 16) (b.toNat % 16 * 4 + c.toNat / 64)
      (c.toNat % 64) = [a, b, c] := by
  have hb : b.toNat < 256 := b.toNat_lt
  have hc : c.toNat < 256 := c.toNat_lt
  rw [group, ofNat_eq_of_toNat a (by omega), ofNat_eq_of_toNat b (by omega),
    ofNat_eq_of_toNat c (by omega)]

/-- What is written is read back. -/
theorem decode?_encode (bs : List UInt8) : decode? (encode bs) = some bs := by
  induction bs using encode.induct with
  | case1 => rfl
  | case2 a =>
    have ha : a.toNat < 256 := a.toNat_lt
    rw [encode, decode?, bits?_symbol _ (by omega), bits?_symbol _ (by omega)]
    simp [lastOne?_octet]
  | case3 a b =>
    have ha : a.toNat < 256 := a.toNat_lt
    have hb : b.toNat < 256 := b.toNat_lt
    have hpad : symbol (b.toNat % 16 * 4) ≠ '=' := symbol_ne_pad _ (by omega)
    rw [encode, decode?, bits?_symbol _ (by omega), bits?_symbol _ (by omega),
      bits?_symbol (b.toNat % 16 * 4) (by omega)]
    simp [hpad, lastTwo?_octets]
  | case4 a b c rest ih =>
    have ha : a.toNat < 256 := a.toNat_lt
    have hb : b.toNat < 256 := b.toNat_lt
    have hc : c.toNat < 256 := c.toNat_lt
    have hpad : symbol (c.toNat % 64) ≠ '=' := symbol_ne_pad _ (by omega)
    rw [encode, decode?, bits?_symbol _ (by omega), bits?_symbol _ (by omega),
      bits?_symbol (b.toNat % 16 * 4 + c.toNat / 64) (by omega),
      bits?_symbol (c.toNat % 64) (by omega), ih]
    simp [hpad, group_octets]

theorem decodeText?_encodeText (bs : List UInt8) : decodeText? (encodeText bs) = some bs := by
  rw [decodeText?, encodeText, String.toList_ofList, decode?_encode]

/-! ## Nothing else is read -/

/-- A character stands for its bits only, and it is one of the first 128. -/
theorem symbol_of_bits? {c : Char} {n : Nat} (h : bits? c = some n) : n < 64 ∧ symbol n = c := by
  have hall : ∀ k < 128, ∀ m ∈ bits? (Char.ofNat k), m < 64 ∧ symbol m = Char.ofNat k := by decide
  have hsmall : c.toNat < 128 := by
    by_contra hlarge
    have hplus : c ≠ '+' := fun hc => hlarge (hc ▸ by decide)
    have hslash : c ≠ '/' := fun hc => hlarge (hc ▸ by decide)
    rw [bits?, if_neg (by omega), if_neg (by omega), if_neg (by omega), if_neg hplus,
      if_neg hslash] at h
    cases h
  have hc := hall c.toNat hsmall n
  rw [Char.ofNat_toNat] at hc
  exact hc h

theorem toNat_ofNat_of_bits {n : Nat} (h : n < 256) : (UInt8.ofNat n).toNat = n := by
  rw [UInt8.toNat_ofNat']
  exact Nat.mod_eq_of_lt h

/-- Two symbols and two pads are written for the last octet. -/
theorem encode_lastOne {x y : Nat} (hx : x < 64) (hy : y < 64) {bs : List UInt8}
    (h : lastOne? x y = some bs) : encode bs = [symbol x, symbol y, '=', '='] := by
  rw [lastOne?] at h
  split at h
  · obtain rfl := Option.some.inj h
    have hoctet : (UInt8.ofNat (x * 4 + y / 16)).toNat = x * 4 + y / 16 :=
      toNat_ofNat_of_bits (by omega)
    have hhigh : (x * 4 + y / 16) / 4 = x := by omega
    have hlow : (x * 4 + y / 16) % 4 * 16 = y := by omega
    rw [encode, hoctet, hhigh, hlow]
  · cases h

/-- Three symbols and a pad are written for the last two octets. -/
theorem encode_lastTwo {x y z : Nat} (hx : x < 64) (hy : y < 64) (hz : z < 64) {bs : List UInt8}
    (h : lastTwo? x y z = some bs) : encode bs = [symbol x, symbol y, symbol z, '='] := by
  rw [lastTwo?] at h
  split at h
  · obtain rfl := Option.some.inj h
    have hfirst : (UInt8.ofNat (x * 4 + y / 16)).toNat = x * 4 + y / 16 :=
      toNat_ofNat_of_bits (by omega)
    have hsecond : (UInt8.ofNat (y % 16 * 16 + z / 4)).toNat = y % 16 * 16 + z / 4 :=
      toNat_ofNat_of_bits (by omega)
    have hx' : (x * 4 + y / 16) / 4 = x := by omega
    have hy' : (x * 4 + y / 16) % 4 * 16 + (y % 16 * 16 + z / 4) / 16 = y := by omega
    have hz' : (y % 16 * 16 + z / 4) % 16 * 4 = z := by omega
    rw [encode, hfirst, hsecond, hx', hy', hz']
  · cases h

/-- Four symbols of a whole group are written for the three octets they stand for. -/
theorem encode_group {x y z w : Nat} (hx : x < 64) (hy : y < 64) (hz : z < 64) (hw : w < 64)
    (bs : List UInt8) : encode (group x y z w ++ bs) =
      symbol x :: symbol y :: symbol z :: symbol w :: encode bs := by
  have hfirst : (UInt8.ofNat (x * 4 + y / 16)).toNat = x * 4 + y / 16 :=
    toNat_ofNat_of_bits (by omega)
  have hsecond : (UInt8.ofNat (y % 16 * 16 + z / 4)).toNat = y % 16 * 16 + z / 4 :=
    toNat_ofNat_of_bits (by omega)
  have hthird : (UInt8.ofNat (z % 4 * 64 + w)).toNat = z % 4 * 64 + w :=
    toNat_ofNat_of_bits (by omega)
  have hx' : (x * 4 + y / 16) / 4 = x := by omega
  have hy' : (x * 4 + y / 16) % 4 * 16 + (y % 16 * 16 + z / 4) / 16 = y := by omega
  have hz' : (y % 16 * 16 + z / 4) % 16 * 4 + (z % 4 * 64 + w) / 64 = z := by omega
  have hw' : (z % 4 * 64 + w) % 64 = w := by omega
  show encode (UInt8.ofNat _ :: UInt8.ofNat _ :: UInt8.ofNat _ :: bs) = _
  rw [encode, hfirst, hsecond, hthird, hx', hy', hz', hw']

/-- What is read was written so. -/
theorem encode_of_decode? {cs : List Char} {bs : List UInt8} (h : decode? cs = some bs) :
    encode bs = cs := by
  -- The cases are those of the reader: nothing, a group of four, and fewer than four, which is no
  -- text.
  induction cs using decode?.induct generalizing bs with
  | case1 =>
    obtain rfl := Option.some.inj h
    rfl
  | case2 a b c d rest ih =>
    simp only [decode?, Option.bind_eq_bind, Option.bind_eq_some_iff] at h
    obtain ⟨x, ha, y, hb, hrest⟩ := h
    obtain ⟨hx, rfl⟩ := symbol_of_bits? ha
    obtain ⟨hy, rfl⟩ := symbol_of_bits? hb
    split at hrest
    · rename_i hpads
      obtain ⟨rfl, rfl, rfl⟩ := hpads
      exact encode_lastOne hx hy hrest
    obtain ⟨z, hc, hlast⟩ := Option.bind_eq_some_iff.mp hrest
    obtain ⟨hz, rfl⟩ := symbol_of_bits? hc
    split at hlast
    · rename_i hpad
      obtain ⟨rfl, rfl⟩ := hpad
      exact encode_lastTwo hx hy hz hlast
    obtain ⟨w, hd, hgroup⟩ := Option.bind_eq_some_iff.mp hlast
    obtain ⟨hw, rfl⟩ := symbol_of_bits? hd
    obtain ⟨bs, hbehind, rfl⟩ := Option.map_eq_some_iff.mp hgroup
    rw [encode_group hx hy hz hw, ih hbehind]
  | case3 cs hempty hgroup =>
    rw [decode?.eq_def] at h
    split at h
    · exact absurd rfl hempty
    · rename_i a b c d rest
      exact absurd rfl (hgroup a b c d rest)
    · cases h

/-- A text is read as some octets exactly if it is their written form. -/
theorem decodeText?_eq_some_iff {s : String} {bs : List UInt8} :
    decodeText? s = some bs ↔ s = encodeText bs := by
  constructor
  · intro h
    rw [encodeText, encode_of_decode? h, String.ofList_toList]
  · rintro rfl
    exact decodeText?_encodeText bs

end CommandRelay.Base64
