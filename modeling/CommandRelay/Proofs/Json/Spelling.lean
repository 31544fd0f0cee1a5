import CommandRelay.Json.Canonical
import CommandRelay.Json.Printer
import CommandRelay.Proofs.Text.Utf8

/-!
# How values are spelled

`spelling` is the document that the written form of a value spells.  It says how the writer spells
each character and each integer, and nothing of octets and tokens.  A canonical value without
doubles is read back from its spelling (`value?_spelling`): texts and integers one by one, and
objects because their keys ascend already.
-/

namespace CommandRelay.Json

/-! ## Texts -/

/-- How a character is spelled: by its octets, also where a letter stands for it; the other control
characters by their number. -/
def charUnits (c : Char) : List TextUnit :=
  if c.toNat < 32 ∧ c ∉ ['\x08', '\x0C', '\n', '\r', '\t'] then [.unit c.toNat]
  else (String.utf8EncodeChar c).map .octet

/-- How a text is spelled. -/
def textUnits (cs : List Char) : List TextUnit := cs.flatMap charUnits

theorem unitOctets?_octets (bs : List UInt8) (rest : List TextUnit) :
    unitOctets? (bs.map .octet ++ rest) = (unitOctets? rest).map (bs ++ ·) := by
  induction bs with
  | nil => simp
  | cons b bs ih =>
    rw [List.map_cons, List.cons_append, unitOctets?, ih]
    cases unitOctets? rest <;> rfl

/-- A control character is no surrogate, so it stands for itself. -/
theorem unitOctets?_control {u : Nat} (hu : u < 32) (rest : List TextUnit) :
    unitOctets? (.unit u :: rest) =
      (unitOctets? rest).map (String.utf8EncodeChar (Char.ofNat u) ++ ·) := by
  have hhigh : ¬ 0xD800 ≤ u := by omega
  have hlow : ¬ 0xDC00 ≤ u := by omega
  rcases rest with _ | ⟨v | v, rest⟩
  · simp [unitOctets?, hhigh]
  · simp [unitOctets?, hhigh]
  · simp [unitOctets?, hhigh, hlow]

/-- The units of a character stand for its octets. -/
theorem unitOctets?_charUnits (c : Char) (rest : List TextUnit) :
    unitOctets? (charUnits c ++ rest) = (unitOctets? rest).map (String.utf8EncodeChar c ++ ·) := by
  rw [charUnits]
  split
  · rename_i hc
    rw [List.singleton_append, unitOctets?_control hc.1, Char.ofNat_toNat]
  · exact unitOctets?_octets _ rest

/-- The units of characters stand for their octets. -/
theorem unitOctets?_textUnits (cs : List Char) :
    unitOctets? (textUnits cs) = some (Utf8.encodeChars cs) := by
  induction cs with
  | nil => rfl
  | cons c cs ih =>
    rw [textUnits, List.flatMap_cons, unitOctets?_charUnits]
    show (unitOctets? (textUnits cs)).map _ = _
    rw [ih]
    rfl

/-- A text is read back from its spelling. -/
theorem unitText?_textUnits (s : String) : unitText? (textUnits s.toList) = some s := by
  rw [unitText?, unitOctets?_textUnits, Option.bind_some]
  exact Utf8.decode?_encode s

/-! ## Integers -/

/-- The digits of a natural number. -/
def digits (n : Nat) : List Nat := (Text.decimal n).map fun c => c.toNat - 48

/-- How an integer is spelled. -/
def numeral (n : Int) : Numeral :=
  { negative := n < 0, whole := digits n.natAbs, fraction := none, exponent := none }

theorem hexDigit_toNat : ∀ d < 10, (Text.hexDigit d).toNat - 48 = d := by decide

theorem digits_of_lt {n : Nat} (h : n < 10) : digits n = [n] := by
  rw [digits, Text.decimal, if_pos h, List.map_singleton, hexDigit_toNat n h]

/-- The last digit of a number is its remainder by ten. -/
theorem digits_of_le {n : Nat} (h : 10 ≤ n) : digits n = digits (n / 10) ++ [n % 10] := by
  rw [digits, Text.decimal, if_neg (by omega), List.map_append, List.map_singleton,
    hexDigit_toNat (n % 10) (by omega)]
  rfl

theorem digitsValue_append (ds : List Nat) (d : Nat) :
    digitsValue (ds ++ [d]) = digitsValue ds * 10 + d := by
  rw [digitsValue, List.foldl_append]
  rfl

/-- The digits of a number have its value. -/
theorem digitsValue_digits (n : Nat) : digitsValue (digits n) = n := by
  induction n using Nat.strongRecOn with
  | ind n ih =>
    by_cases h : n < 10
    · rw [digits_of_lt h]
      simp [digitsValue]
    · rw [digits_of_le (by omega), digitsValue_append, ih (n / 10) (by omega)]
      omega

/-- An integer of 64 bits is read back from its spelling. -/
theorem number?_numeral {n : Int} (h : (Number.int n).Fits) :
    (numeral n).number? = some (.int n) := by
  obtain ⟨hlow, hhigh⟩ : -0x8000000000000000 ≤ n ∧ n < 0x10000000000000000 := h
  rw [Numeral.number?, numeral, digitsValue_digits]
  by_cases hn : n < 0
  · have hrange : 0 < n.natAbs ∧ n.natAbs ≤ 0x8000000000000000 := by omega
    have hvalue : -(n.natAbs : Int) = n := by omega
    simp only [hn, decide_true, Option.isNone_none, Bool.and_self, Bool.not_true, Bool.and_false,
      Bool.false_and, Bool.false_eq_true, if_false, hrange.1, hrange.2, if_true, hvalue]
  · have hsmall : n.natAbs < UInt64.size := by
      rw [UInt64.size]
      omega
    have hvalue : (n.natAbs : Int) = n := by omega
    simp only [hn, decide_false, Option.isNone_none, Bool.and_self, Bool.not_false, hsmall,
      decide_true, if_true, hvalue]

/-! ## Values -/

mutual

/-- No number in a value is a double. -/
def Whole : Json → Prop
  | .null | .bool _ | .text _ | .number (.int _) => True
  | .number (.double _) => False
  | .list items => WholeItems items
  | .object fields => WholeFields fields

/-- No number in a list of values is a double. -/
def WholeItems : List Json → Prop
  | [] => True
  | v :: vs => Whole v ∧ WholeItems vs

/-- No number in a list of fields is a double. -/
def WholeFields : List (String × Json) → Prop
  | [] => True
  | (_, v) :: fields => Whole v ∧ WholeFields fields

end

theorem wholeFields_iff {fields : List (String × Json)} :
    WholeFields fields ↔ ∀ f ∈ fields, Whole f.2 := by
  induction fields with
  | nil => simp [WholeFields]
  | cons f fields ih =>
    obtain ⟨k, v⟩ := f
    rw [WholeFields, List.forall_mem_cons, ih]

mutual

/-- The number of containers on the longest way into a value. -/
def depth : Json → Nat
  | .list items => depthValues items + 1
  | .object fields => depthMembers fields + 1
  | .null | .bool _ | .number _ | .text _ => 0

/-- The greatest depth in a list of values. -/
def depthValues : List Json → Nat
  | [] => 0
  | v :: vs => max (depth v) (depthValues vs)

/-- The greatest depth in the values of a list of fields. -/
def depthMembers : List (String × Json) → Nat
  | [] => 0
  | (_, v) :: fields => max (depth v) (depthMembers fields)

end

mutual

/-- The document that the written form of a value spells.  Nothing is said of doubles. -/
def spelling : Json → Document
  | .null | .number (.double _) => .null
  | .bool b => .bool b
  | .number (.int n) => .number (numeral n)
  | .text s => .text (textUnits s.toList)
  | .list items => .list (spellingItems items)
  | .object fields => .object (spellingFields fields)

/-- The documents of a list of values. -/
def spellingItems : List Json → List Document
  | [] => []
  | v :: vs => spelling v :: spellingItems vs

/-- The keys and documents of a list of fields. -/
def spellingFields : List (String × Json) → List (List TextUnit × Document)
  | [] => []
  | (k, v) :: fields => (textUnits k.toList, spelling v) :: spellingFields fields

end

/-! ## Objects -/

/-- A key that is behind all others goes to the end. -/
theorem setField_of_last {α : Type} {key : String} (value : α) {fields : List (String × α)}
    (h : ∀ f ∈ fields, f.1 < key) : setField key value fields = fields ++ [(key, value)] := by
  induction fields with
  | nil => rfl
  | cons f fields ih =>
    obtain ⟨k, v⟩ := f
    have hk : k < key := h (k, v) List.mem_cons_self
    have hne : key ≠ k := fun heq => String.lt_irrefl k (heq ▸ hk)
    rw [setField, if_neg (String.lt_asymm hk), if_neg hne,
      ih fun f hf => h f (List.mem_cons_of_mem _ hf)]
    rfl

/-- Fields whose keys ascend are a mapping already. -/
theorem mapping_of_ascending {α : Type} {fields : List (String × α)} (h : Ascending fields) :
    mapping fields = fields := by
  have hfold : ∀ acc, Ascending (acc ++ fields) →
      fields.foldl (fun acc f => setField f.1 f.2 acc) acc = acc ++ fields := by
    clear h
    induction fields with
    | nil => simp
    | cons f fields ih =>
      intro acc h
      obtain ⟨k, v⟩ := f
      have hlast : ∀ f ∈ acc, f.1 < k := fun f hf =>
        (List.pairwise_append.mp h).2.2 f hf (k, v) List.mem_cons_self
      rw [List.append_cons] at h ⊢
      rw [List.foldl_cons]
      show fields.foldl _ (setField k v acc) = _
      rw [setField_of_last v hlast]
      exact ih _ h
  exact hfold [] h

mutual

/-- A canonical value without doubles is read back from its spelling. -/
theorem value?_spelling : (j : Json) → Canonical j → Whole j → (spelling j).value? = some j
  | .null, _, _ => rfl
  | .bool _, _, _ => rfl
  | .number (.int n), hc, _ => by
    rw [spelling, Document.value?, number?_numeral hc]
    rfl
  | .number (.double _), _, hw => hw.elim
  | .text s, _, _ => by
    rw [spelling, Document.value?, unitText?_textUnits]
    rfl
  | .list items, hc, hw => by
    rw [spelling, Document.value?, valueItems?_spelling items hc hw]
    rfl
  | .object fields, hc, hw => by
    rw [spelling, Document.value?, valueFields?_spelling fields hc.2 hw, Option.map_some,
      mapping_of_ascending hc.1]

/-- Items without doubles are read back from their spellings. -/
theorem valueItems?_spelling : (vs : List Json) → CanonicalItems vs → WholeItems vs →
    valueItems? (spellingItems vs) = some vs
  | [], _, _ => rfl
  | v :: vs, hc, hw => by
    rw [spellingItems, valueItems?, value?_spelling v hc.1 hw.1, valueItems?_spelling vs hc.2 hw.2]
    rfl

/-- Fields without doubles are read back from their spellings, if their keys ascend. -/
theorem valueFields?_spelling : (fields : List (String × Json)) → CanonicalFields fields →
    WholeFields fields → valueFields? (spellingFields fields) = some fields
  | [], _, _ => rfl
  | (k, v) :: fields, hc, hw => by
    rw [spellingFields, valueFields?, unitText?_textUnits, value?_spelling v hc.1 hw.1,
      valueFields?_spelling fields hc.2 hw.2]
    rfl

end

/-! ## Depth -/

mutual

/-- A value and its spelling are nested equally deep. -/
theorem depth_spelling : (j : Json) → (spelling j).depth = depth j
  | .null => rfl
  | .bool _ => rfl
  | .number (.int _) => rfl
  | .number (.double _) => rfl
  | .text _ => rfl
  | .list items => by rw [spelling, Document.depth, depth, depthItems_spelling items]
  | .object fields => by rw [spelling, Document.depth, depth, depthFields_spelling fields]

theorem depthItems_spelling : (vs : List Json) → depthItems (spellingItems vs) = depthValues vs
  | [] => rfl
  | v :: vs => by
    rw [spellingItems, depthItems, depthValues, depth_spelling v, depthItems_spelling vs]

theorem depthFields_spelling : (fields : List (String × Json)) →
    depthFields (spellingFields fields) = depthMembers fields
  | [] => rfl
  | (_, v) :: fields => by
    rw [spellingFields, depthFields, depthMembers, depth_spelling v, depthFields_spelling fields]

end

theorem depthMembers_le_iff {fields : List (String × Json)} {n : Nat} :
    depthMembers fields ≤ n ↔ ∀ f ∈ fields, depth f.2 ≤ n := by
  induction fields with
  | nil => simp [depthMembers]
  | cons f fields ih =>
    obtain ⟨k, v⟩ := f
    rw [depthMembers, Nat.max_le, ih, List.forall_mem_cons]

mutual

/-- A value is nested no deeper than the document that it was read from. -/
theorem depth_of_value? : (d : Document) → {v : Json} → d.value? = some v → depth v ≤ d.depth
  | .null, _, h => by cases h; exact Nat.le_refl _
  | .bool _, _, h => by cases h; exact Nat.le_refl _
  | .number n, _, h => by
    obtain ⟨m, -, rfl⟩ := Option.map_eq_some_iff.mp h
    exact Nat.le_refl _
  | .text units, _, h => by
    obtain ⟨s, -, rfl⟩ := Option.map_eq_some_iff.mp h
    exact Nat.le_refl _
  | .list items, _, h => by
    obtain ⟨vs, hvs, rfl⟩ := Option.map_eq_some_iff.mp h
    exact Nat.succ_le_succ (depthValues_of_valueItems? items hvs)
  | .object fields, _, h => by
    obtain ⟨fs, hfs, rfl⟩ := Option.map_eq_some_iff.mp h
    have hfields := depthMembers_le_iff.mp (depthMembers_of_valueFields? fields hfs)
    exact Nat.succ_le_succ (depthMembers_le_iff.mpr fun f hf => hfields f (mem_of_mem_mapping hf))

/-- The values of items are no deeper than the items. -/
theorem depthValues_of_valueItems? : (ds : List Document) → {vs : List Json} →
    valueItems? ds = some vs → depthValues vs ≤ depthItems ds
  | [], _, h => by cases h; exact Nat.le_refl _
  | d :: ds, _, h => by
    simp only [valueItems?, bind, Option.bind_eq_some_iff, Option.some.injEq] at h
    obtain ⟨v, hv, vs, hvs, rfl⟩ := h
    exact Nat.max_le.mpr ⟨Nat.le_trans (depth_of_value? d hv) (Nat.le_max_left _ _),
      Nat.le_trans (depthValues_of_valueItems? ds hvs) (Nat.le_max_right _ _)⟩

/-- The values of members are no deeper than the members. -/
theorem depthMembers_of_valueFields? : (fields : List (List TextUnit × Document)) →
    {fs : List (String × Json)} → valueFields? fields = some fs →
    depthMembers fs ≤ depthFields fields
  | [], _, h => by cases h; exact Nat.le_refl _
  | (_, d) :: fields, _, h => by
    simp only [valueFields?, bind, Option.bind_eq_some_iff, Option.some.injEq] at h
    obtain ⟨_, _, v, hv, vs, hvs, rfl⟩ := h
    exact Nat.max_le.mpr ⟨Nat.le_trans (depth_of_value? d hv) (Nat.le_max_left _ _),
      Nat.le_trans (depthMembers_of_valueFields? fields hvs) (Nat.le_max_right _ _)⟩

end

end CommandRelay.Json
