import Mathlib
import CommandRelay.Text.Utf8

/-!
# UTF-8 is read back

Every text is read back from its octets: between two characters the reader takes exactly the octets
of the next one (`run_encodeChar`).  There is one case for each length of a sequence; the cases in
it are those in which the first octet narrows the range of the second.
-/

namespace CommandRelay.Utf8

theorem toNat_ofNat_of_lt {n : Nat} (h : n < 256) : (UInt8.ofNat n).toNat = n := by
  rw [UInt8.toNat_ofNat']
  exact Nat.mod_eq_of_lt h

/-- What an octet starts, told by its value. -/
theorem start_ofNat {n : Nat} (h : n < 256) : start (UInt8.ofNat n) =
    if n < 0x80 then ([some (Char.ofNat n)], .boundary)
    else if n < 0xC2 then ([none], .boundary)
    else if n < 0xE0 then ([], .inside 0 (n - 0xC0) 0x80 0xBF)
    else if n = 0xE0 then ([], .inside 1 0 0xA0 0xBF)
    else if n = 0xED then ([], .inside 1 0xD 0x80 0x9F)
    else if n < 0xF0 then ([], .inside 1 (n - 0xE0) 0x80 0xBF)
    else if n = 0xF0 then ([], .inside 2 0 0x90 0xBF)
    else if n < 0xF4 then ([], .inside 2 (n - 0xF0) 0x80 0xBF)
    else if n = 0xF4 then ([], .inside 2 4 0x80 0x8F)
    else ([none], .boundary) := by
  simp only [start, UInt8.lt_iff_toNat_lt, ← UInt8.toNat_inj, toNat_ofNat_of_lt h]
  rfl

/-- The last octet of a sequence. -/
theorem run_last {value n : Nat} {low high : UInt8} (hn : n < 64) (hlow : low.toNat ≤ n + 128)
    (hhigh : n + 128 ≤ high.toNat) (rest : List UInt8) :
    run (.inside 0 value low high) (UInt8.ofNat (n + 128) :: rest) =
      some (Char.ofNat (value * 64 + n)) :: run .boundary rest := by
  have hb : (UInt8.ofNat (n + 128)).toNat = n + 128 := toNat_ofNat_of_lt (by omega)
  have hin : low ≤ UInt8.ofNat (n + 128) ∧ UInt8.ofNat (n + 128) ≤ high := by
    rw [UInt8.le_iff_toNat_le, UInt8.le_iff_toNat_le, hb]
    exact ⟨hlow, hhigh⟩
  rw [run, step, if_pos hin, hb]
  simp

/-- An octet of a sequence that is not the last one. -/
theorem run_next {owed value n : Nat} {low high : UInt8} (hn : n < 64) (hlow : low.toNat ≤ n + 128)
    (hhigh : n + 128 ≤ high.toNat) (rest : List UInt8) :
    run (.inside (owed + 1) value low high) (UInt8.ofNat (n + 128) :: rest) =
      run (.inside owed (value * 64 + n) 0x80 0xBF) rest := by
  have hb : (UInt8.ofNat (n + 128)).toNat = n + 128 := toNat_ofNat_of_lt (by omega)
  have hin : low ≤ UInt8.ofNat (n + 128) ∧ UInt8.ofNat (n + 128) ≤ high := by
    rw [UInt8.le_iff_toNat_le, UInt8.le_iff_toNat_le, hb]
    exact ⟨hlow, hhigh⟩
  rw [run, step, if_pos hin, hb]
  simp

/-- The reader between two characters takes an octet. -/
theorem run_start {n : Nat} {out : List (Option Char)} {s : State}
    (h : start (UInt8.ofNat n) = (out, s))
    (rest : List UInt8) : run .boundary (UInt8.ofNat n :: rest) = out ++ run s rest := by
  rw [run, step, h]

section

variable {v : Nat} (rest : List UInt8)

/-- One octet is read as an ASCII character. -/
theorem run_one (h : v < 0x80) :
    run .boundary (UInt8.ofNat v :: rest) = some (Char.ofNat v) :: run .boundary rest := by
  have hstart := start_ofNat (show v < 256 by omega)
  rw [if_pos h] at hstart
  exact run_start hstart rest

/-- Two octets are read as their character. -/
theorem run_two (hlow : 0x80 ≤ v) (hhigh : v < 0x800) :
    run .boundary (UInt8.ofNat (v / 64 % 32 + 192) :: UInt8.ofNat (v % 64 + 128) :: rest) =
      some (Char.ofNat v) :: run .boundary rest := by
  have hstart := start_ofNat (show v / 64 % 32 + 192 < 256 by omega)
  rw [if_neg (by omega), if_neg (by omega), if_pos (by omega)] at hstart
  rw [run_start hstart, List.nil_append, run_last (by omega) (Nat.le_add_left _ _) (by
    show v % 64 + 128 ≤ 191
    omega), show (v / 64 % 32 + 192 - 0xC0) * 64 + v % 64 = v by omega]

/-- The first of three octets narrows the range of the second: no shorter sequence would do, and no
surrogate is spelled. -/
theorem start_three (hlow : 0x800 ≤ v) (hhigh : v < 0x10000) (hscalar : v < 0xD800 ∨ 0xE000 ≤ v) :
    ∃ low high, start (UInt8.ofNat (v / 4096 % 16 + 224)) = ([], .inside 1 (v / 4096) low high) ∧
      low.toNat ≤ v / 64 % 64 + 128 ∧ v / 64 % 64 + 128 ≤ high.toNat := by
  have hstart := start_ofNat (show v / 4096 % 16 + 224 < 256 by omega)
  rw [if_neg (by omega), if_neg (by omega), if_neg (by omega)] at hstart
  by_cases hzero : v / 4096 = 0
  · rw [if_pos (by omega)] at hstart
    refine ⟨0xA0, 0xBF, by rw [hstart, hzero], ?_, ?_⟩
    · show 160 ≤ v / 64 % 64 + 128
      omega
    · show v / 64 % 64 + 128 ≤ 191
      omega
  rw [if_neg (by omega)] at hstart
  by_cases hsurrogate : v / 4096 = 0xD
  · rw [if_pos (by omega)] at hstart
    refine ⟨0x80, 0x9F, by rw [hstart, hsurrogate], Nat.le_add_left _ _, ?_⟩
    show v / 64 % 64 + 128 ≤ 159
    omega
  · rw [if_neg (by omega), if_pos (by omega),
      show v / 4096 % 16 + 224 - 0xE0 = v / 4096 by omega] at hstart
    refine ⟨0x80, 0xBF, hstart, Nat.le_add_left _ _, ?_⟩
    show v / 64 % 64 + 128 ≤ 191
    omega

/-- Three octets are read as their character, which is no surrogate. -/
theorem run_three (hlow : 0x800 ≤ v) (hhigh : v < 0x10000) (hscalar : v < 0xD800 ∨ 0xE000 ≤ v) :
    run .boundary (UInt8.ofNat (v / 4096 % 16 + 224) :: UInt8.ofNat (v / 64 % 64 + 128) ::
      UInt8.ofNat (v % 64 + 128) :: rest) = some (Char.ofNat v) :: run .boundary rest := by
  obtain ⟨low, high, hstart, hsecond, hsecond'⟩ := start_three hlow hhigh hscalar
  have hlast : v % 64 + 128 ≤ (0xBF : UInt8).toNat := by
    show v % 64 + 128 ≤ 191
    omega
  rw [run_start hstart, List.nil_append, run_next (by omega) hsecond hsecond',
    run_last (by omega) (Nat.le_add_left _ _) hlast,
    show (v / 4096 * 64 + v / 64 % 64) * 64 + v % 64 = v by omega]

/-- The first of four octets narrows the range of the second as well: nothing behind U+10FFFF is
spelled. -/
theorem start_four (hlow : 0x10000 ≤ v) (hhigh : v < 0x110000) :
    ∃ low high, start (UInt8.ofNat (v / 262144 % 8 + 240)) =
        ([], .inside 2 (v / 262144) low high) ∧
      low.toNat ≤ v / 4096 % 64 + 128 ∧ v / 4096 % 64 + 128 ≤ high.toNat := by
  have hstart := start_ofNat (show v / 262144 % 8 + 240 < 256 by omega)
  rw [if_neg (by omega), if_neg (by omega), if_neg (by omega), if_neg (by omega), if_neg (by omega),
    if_neg (by omega)] at hstart
  by_cases hzero : v / 262144 = 0
  · rw [if_pos (by omega)] at hstart
    refine ⟨0x90, 0xBF, by rw [hstart, hzero], ?_, ?_⟩
    · show 144 ≤ v / 4096 % 64 + 128
      omega
    · show v / 4096 % 64 + 128 ≤ 191
      omega
  rw [if_neg (by omega)] at hstart
  by_cases hlast : v / 262144 = 4
  · rw [if_neg (by omega), if_pos (by omega)] at hstart
    refine ⟨0x80, 0x8F, by rw [hstart, hlast], Nat.le_add_left _ _, ?_⟩
    show v / 4096 % 64 + 128 ≤ 143
    omega
  · rw [if_pos (by omega), show v / 262144 % 8 + 240 - 0xF0 = v / 262144 by omega] at hstart
    refine ⟨0x80, 0xBF, hstart, Nat.le_add_left _ _, ?_⟩
    show v / 4096 % 64 + 128 ≤ 191
    omega

/-- Four octets are read as their character. -/
theorem run_four (hlow : 0x10000 ≤ v) (hhigh : v < 0x110000) :
    run .boundary (UInt8.ofNat (v / 262144 % 8 + 240) :: UInt8.ofNat (v / 4096 % 64 + 128) ::
      UInt8.ofNat (v / 64 % 64 + 128) :: UInt8.ofNat (v % 64 + 128) :: rest) =
        some (Char.ofNat v) :: run .boundary rest := by
  obtain ⟨low, high, hstart, hsecond, hsecond'⟩ := start_four hlow hhigh
  have htail : ∀ n < 64, n + 128 ≤ (0xBF : UInt8).toNat := by
    intro n hn
    show n + 128 ≤ 191
    omega
  rw [run_start hstart, List.nil_append, run_next (by omega) hsecond hsecond',
    run_next (by omega) (Nat.le_add_left _ _) (htail _ (by omega)),
    run_last (by omega) (Nat.le_add_left _ _) (htail _ (by omega)),
    show ((v / 262144 * 64 + v / 4096 % 64) * 64 + v / 64 % 64) * 64 + v % 64 = v by omega]

end

/-- A character is a scalar value: below the surrogates, or above them and up to U+10FFFF. -/
theorem scalar (c : Char) : c.toNat < 0xD800 ∨ 0xE000 ≤ c.toNat ∧ c.toNat < 0x110000 := by
  rcases c.valid with h | ⟨h, h'⟩
  · exact .inl h
  · exact .inr ⟨h, h'⟩

/-- The reader takes exactly the octets of a character. -/
theorem run_encodeChar (c : Char) (rest : List UInt8) :
    run .boundary (String.utf8EncodeChar c ++ rest) = some c :: run .boundary rest := by
  have hscalar := scalar c
  have hread : some (Char.ofNat c.toNat) :: run .boundary rest = some c :: run .boundary rest := by
    rw [Char.ofNat_toNat]
  rw [← hread, String.utf8EncodeChar.eq_1, show c.val.toNat = c.toNat from rfl]
  generalize c.toNat = v at hscalar
  split
  · exact run_one rest (by omega)
  · split
    · exact run_two rest (by omega) (by omega)
    · split
      · exact run_three rest (by omega) (by omega) (by omega)
      · exact run_four rest (by omega) (by omega)

theorem encodeChars_cons (c : Char) (cs : List Char) :
    encodeChars (c :: cs) = String.utf8EncodeChar c ++ encodeChars cs := rfl

/-- Octets that encode characters are read as these. -/
theorem read_encodeChars (cs : List Char) : read (encodeChars cs) = cs.map some := by
  induction cs with
  | nil => rfl
  | cons c cs ih =>
    rw [read, encodeChars_cons, run_encodeChar]
    exact congrArg (some c :: ·) ih

/-- Every text is read back from its octets. -/
theorem decode?_encode (s : String) : decode? (encode s) = some s := by
  have hall : (s.toList.map some).mapM id = some s.toList := by
    rw [List.mapM_map]
    exact List.mapM_pure.trans (congrArg some (List.map_id _))
  rw [decode?, encode, read_encodeChars, hall, Option.map_some, String.ofList_toList]

/-! ## Octets of one character -/

/-- An octet of a character is that character, or it is above all ASCII characters. -/
theorem mem_encodeChar {c : Char} {b : UInt8} (h : b ∈ String.utf8EncodeChar c) :
    0x80 ≤ b.toNat ∨ b.toNat = c.toNat := by
  have hscalar := scalar c
  rw [String.utf8EncodeChar.eq_1, show c.val.toNat = c.toNat from rfl] at h
  generalize c.toNat = v at h hscalar
  have hoctet : ∀ n, 0x80 ≤ n → n < 256 → b = UInt8.ofNat n → 0x80 ≤ b.toNat := by
    rintro n hn hlt rfl
    rwa [toNat_ofNat_of_lt hlt]
  split at h
  · rw [List.mem_singleton.mp h]
    exact .inr (toNat_ofNat_of_lt (by omega))
  · left
    split at h
    · simp only [List.mem_cons, List.not_mem_nil, or_false] at h
      rcases h with h | h <;> exact hoctet _ (by omega) (by omega) h
    · split at h <;> simp only [List.mem_cons, List.not_mem_nil, or_false] at h
      · rcases h with h | h | h <;> exact hoctet _ (by omega) (by omega) h
      · rcases h with h | h | h | h <;> exact hoctet _ (by omega) (by omega) h

/-- An ASCII character is one octet. -/
theorem encodeChar_ascii {c : Char} (h : c.toNat < 0x80) :
    String.utf8EncodeChar c = [UInt8.ofNat c.toNat] := by
  rw [String.utf8EncodeChar.eq_1, if_pos (by exact Nat.le_of_lt_succ h)]
  rfl

end CommandRelay.Utf8
