import CommandRelay.Json.Document

/-!
# Canonical values

A value is canonical when the keys of every object in it ascend and every integer in it fits 64
bits.  Reading a text gives canonical values only (`canonical_of_value?`): a mapping is built by
`setField`, which keeps keys ascending whatever the order of the text was.
-/

namespace CommandRelay.Json

/-- Each key is before all later ones, so no key occurs twice. -/
def Ascending {α : Type} (fields : List (String × α)) : Prop :=
  fields.Pairwise (·.1 < ·.1)

/-- A number that a text can stand for. -/
def Number.Fits : Number → Prop
  | .int n => -0x8000000000000000 ≤ n ∧ n < 0x10000000000000000
  | .double _ => True

mutual

/-- Keys ascend in every object and integers fit. -/
def Canonical : Json → Prop
  | .null | .bool _ | .text _ => True
  | .number n => n.Fits
  | .list items => CanonicalItems items
  | .object fields => Ascending fields ∧ CanonicalFields fields

/-- Every item is canonical. -/
def CanonicalItems : List Json → Prop
  | [] => True
  | v :: vs => Canonical v ∧ CanonicalItems vs

/-- Every value of a field is canonical. -/
def CanonicalFields : List (String × Json) → Prop
  | [] => True
  | (_, v) :: fields => Canonical v ∧ CanonicalFields fields

end

theorem canonicalFields_iff {fields : List (String × Json)} :
    CanonicalFields fields ↔ ∀ f ∈ fields, Canonical f.2 := by
  induction fields with
  | nil => simp [CanonicalFields]
  | cons f fs ih => obtain ⟨k, v⟩ := f; simp [CanonicalFields, ih]

theorem mem_setField {α : Type} {key : String} {value : α} {fields : List (String × α)}
    {f : String × α} (h : f ∈ setField key value fields) : f = (key, value) ∨ f ∈ fields := by
  induction fields with
  | nil => simpa [setField] using h
  | cons g gs ih =>
    obtain ⟨k, v⟩ := g
    simp only [setField] at h
    split at h
    · simpa using h
    · split at h <;> grind

theorem ascending_setField {α : Type} (key : String) (value : α) {fields : List (String × α)}
    (h : Ascending fields) : Ascending (setField key value fields) := by
  induction fields with
  | nil => simp [setField, Ascending]
  | cons g gs ih =>
    obtain ⟨k, v⟩ := g
    have hg := List.pairwise_cons.1 h
    simp only [setField]
    split
    · rename_i hlt
      refine List.pairwise_cons.2 ⟨fun f hf => ?_, h⟩
      rcases List.mem_cons.1 hf with rfl | hf
      · exact hlt
      · exact String.lt_trans hlt (hg.1 f hf)
    · rename_i hlt
      split
      · rename_i heq
        exact List.pairwise_cons.2 ⟨fun f hf => heq ▸ hg.1 f hf, hg.2⟩
      · rename_i hne
        have hkl : k < key := by
          rcases Decidable.em (k < key) with h | h
          · exact h
          · exact absurd (String.le_antisymm (String.not_lt.1 h) (String.not_lt.1 hlt)) hne
        refine List.pairwise_cons.2 ⟨fun f hf => ?_, ih hg.2⟩
        rcases mem_setField hf with rfl | hf
        · exact hkl
        · exact hg.1 f hf

theorem ascending_foldl_setField {α : Type} (fields : List (String × α)) :
    ∀ {acc : List (String × α)}, Ascending acc →
      Ascending (fields.foldl (fun acc (k, v) => setField k v acc) acc) := by
  induction fields with
  | nil => exact id
  | cons f fs ih => exact fun h => ih (ascending_setField _ _ h)

theorem ascending_mapping {α : Type} (fields : List (String × α)) : Ascending (mapping fields) :=
  ascending_foldl_setField fields List.Pairwise.nil

theorem mem_foldl_setField {α : Type} (fields : List (String × α)) :
    ∀ {acc : List (String × α)} {f : String × α},
      f ∈ fields.foldl (fun acc (k, v) => setField k v acc) acc → f ∈ fields ∨ f ∈ acc := by
  induction fields with
  | nil => exact fun h => Or.inr h
  | cons g gs ih =>
    intro acc f h
    rcases ih h with h | h
    · exact Or.inl (List.mem_cons_of_mem _ h)
    · rcases mem_setField h with rfl | h
      · exact Or.inl List.mem_cons_self
      · exact Or.inr h

theorem mem_of_mem_mapping {α : Type} {fields : List (String × α)} {f : String × α}
    (h : f ∈ mapping fields) : f ∈ fields := by
  rcases mem_foldl_setField fields h with h | h
  · exact h
  · cases h

theorem Numeral.fits_of_number? {n : Numeral} {m : Number} (h : n.number? = some m) : m.Fits := by
  simp only [Numeral.number?] at h
  split at h
  · rename_i hc
    simp only [Bool.and_eq_true, decide_eq_true_eq, UInt64.size] at hc
    cases h
    simp only [Number.Fits]
    omega
  · split at h
    · rename_i hc
      simp only [Bool.and_eq_true, decide_eq_true_eq] at hc
      cases h
      simp only [Number.Fits]
      omega
    · cases hd : n.double? with
      | none => simp [hd] at h
      | some x => simp only [hd, Option.map_some, Option.some.injEq] at h; subst h; trivial

mutual

theorem canonical_of_value? : (d : Document) → {v : Json} → d.value? = some v → Canonical v
  | .null, _, h => by cases h; trivial
  | .bool _, _, h => by cases h; trivial
  | .number n, v, h => by
    obtain ⟨m, hm, rfl⟩ := Option.map_eq_some_iff.1 h
    exact Numeral.fits_of_number? hm
  | .text units, v, h => by
    obtain ⟨s, _, rfl⟩ := Option.map_eq_some_iff.1 h
    trivial
  | .list items, v, h => by
    obtain ⟨vs, hvs, rfl⟩ := Option.map_eq_some_iff.1 h
    exact canonicalItems_of_valueItems? items hvs
  | .object fields, v, h => by
    obtain ⟨fs, hfs, rfl⟩ := Option.map_eq_some_iff.1 h
    have := canonicalFields_of_valueFields? fields hfs
    refine ⟨ascending_mapping fs, canonicalFields_iff.2 fun f hf => ?_⟩
    exact canonicalFields_iff.1 this f (mem_of_mem_mapping hf)

theorem canonicalItems_of_valueItems? :
    (ds : List Document) → {vs : List Json} → valueItems? ds = some vs → CanonicalItems vs
  | [], _, h => by cases h; trivial
  | d :: ds, vs, h => by
    simp only [valueItems?, bind, Option.bind_eq_some_iff, Option.some.injEq] at h
    obtain ⟨v, hv, vs, hvs, rfl⟩ := h
    exact ⟨canonical_of_value? d hv, canonicalItems_of_valueItems? ds hvs⟩

theorem canonicalFields_of_valueFields? :
    (fs : List (List TextUnit × Document)) → {vs : List (String × Json)} →
      valueFields? fs = some vs → CanonicalFields vs
  | [], _, h => by cases h; trivial
  | (_, d) :: fs, vs, h => by
    simp only [valueFields?, bind, Option.bind_eq_some_iff, Option.some.injEq] at h
    obtain ⟨_, _, v, hv, vs, hvs, rfl⟩ := h
    exact ⟨canonical_of_value? d hv, canonicalFields_of_valueFields? fs hvs⟩

end

end CommandRelay.Json
