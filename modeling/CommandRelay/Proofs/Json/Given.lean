import CommandRelay.Proofs.Json.Spelling

/-!
# What a document gives

Facts on the values of a document whose texts are valid and whose numbers fit: which numerals are
integers (`number?_eq_int_iff`), which documents have a value (`value?_cases`), what a mapping holds
for a name (`field?_mapping`: the last value given for it), and that ascending fields are told by
what they hold for each name (`ascending_ext`).
-/

namespace CommandRelay.Json

/-! ## Integers -/

/-- A numeral is an integer literal: it has neither point nor exponent, and it is not the negative
zero. -/
def Numeral.Literal (n : Numeral) (k : Int) : Prop :=
  n.fraction = none ∧ n.exponent = none ∧
    k = (if n.negative then -(digitsValue n.whole : Int) else digitsValue n.whole) ∧
    ¬ (n.negative = true ∧ k = 0)

/-- The integers among the numbers are the literals that fit 64 bits. -/
theorem number?_eq_int_iff {n : Numeral} {k : Int} :
    n.number? = some (.int k) ↔ n.Literal k ∧ (Number.int k).Fits := by
  obtain ⟨negative, whole, fraction, exponent⟩ := n
  rw [Numeral.number?, Numeral.Literal, Number.Fits, UInt64.size]
  -- From here on only the sign and the size of the number count.
  generalize digitsValue whole = m
  constructor
  · intro h
    split at h
    · rename_i hc
      simp only [Bool.and_eq_true, Option.isNone_iff_eq_none, Bool.not_eq_true',
        decide_eq_true_eq] at hc
      obtain ⟨⟨⟨rfl, rfl⟩, rfl⟩, hm⟩ := hc
      injection h with h
      injection h with h
      subst h
      simp only [Bool.false_eq_true, if_false, false_and, not_false_eq_true, true_and]
      omega
    split at h
    · rename_i hc
      simp only [Bool.and_eq_true, Option.isNone_iff_eq_none, decide_eq_true_eq] at hc
      obtain ⟨⟨⟨⟨rfl, rfl⟩, rfl⟩, hpos⟩, hm⟩ := hc
      injection h with h
      injection h with h
      subst h
      simp only [if_true, true_and]
      omega
    · obtain ⟨x, -, hx⟩ := Option.map_eq_some_iff.mp h
      cases hx
  · rintro ⟨⟨hf, he, hk, hzero⟩, hlow, hhigh⟩
    simp only at hf he
    subst hf he
    cases negative with
    | false =>
      simp only [Bool.false_eq_true, if_false] at hk
      have hm : m < 18446744073709551616 := by omega
      simp [hm, hk]
    | true =>
      rw [if_pos rfl] at hk
      have hk0 : k ≠ 0 := fun h => hzero ⟨rfl, h⟩
      have hm : 0 < m ∧ m ≤ 0x8000000000000000 := by omega
      simp [hm.1, hm.2, hk]

/-! ## Parts of a document -/

theorem depthItems_le_iff {ds : List Document} {n : Nat} :
    depthItems ds ≤ n ↔ ∀ d ∈ ds, d.depth ≤ n := by
  induction ds with
  | nil => simp [depthItems]
  | cons d ds ih => rw [depthItems, Nat.max_le, ih, List.forall_mem_cons]

theorem depthFields_le_iff {fields : List (List TextUnit × Document)} {n : Nat} :
    depthFields fields ≤ n ↔ ∀ f ∈ fields, f.2.depth ≤ n := by
  induction fields with
  | nil => simp [depthFields]
  | cons f fields ih =>
    obtain ⟨k, d⟩ := f
    rw [depthFields, Nat.max_le, ih, List.forall_mem_cons]

/-- A list has a value only if each of its items has one. -/
theorem value?_of_mem_list {ds : List Document} (h : (Document.list ds).value? ≠ none) :
    ∀ d ∈ ds, d.value? ≠ none := by
  obtain ⟨v, hv⟩ := Option.ne_none_iff_exists'.mp h
  obtain ⟨vs, hvs, -⟩ := Option.map_eq_some_iff.mp hv
  clear h hv
  induction ds generalizing vs with
  | nil => nofun
  | cons d ds ih =>
    simp only [valueItems?, bind, Option.bind_eq_some_iff, Option.some.injEq] at hvs
    obtain ⟨v, hv, vs, hvs, -⟩ := hvs
    refine List.forall_mem_cons.mpr ⟨?_, ih vs hvs⟩
    rw [hv]
    exact Option.some_ne_none v

/-- An object has a value only if each of its names is a text and each of its members has one. -/
theorem value?_of_mem_object {fields : List (List TextUnit × Document)}
    (h : (Document.object fields).value? ≠ none) :
    ∀ f ∈ fields, unitText? f.1 ≠ none ∧ f.2.value? ≠ none := by
  obtain ⟨v, hv⟩ := Option.ne_none_iff_exists'.mp h
  obtain ⟨vs, hvs, -⟩ := Option.map_eq_some_iff.mp hv
  clear h hv
  induction fields generalizing vs with
  | nil => nofun
  | cons f fields ih =>
    obtain ⟨k, d⟩ := f
    simp only [valueFields?, bind, Option.bind_eq_some_iff, Option.some.injEq] at hvs
    obtain ⟨key, hkey, v, hv, vs, hvs, -⟩ := hvs
    refine List.forall_mem_cons.mpr ⟨⟨?_, ?_⟩, ih vs hvs⟩
    · show unitText? k ≠ none
      rw [hkey]
      exact Option.some_ne_none key
    · show d.value? ≠ none
      rw [hv]
      exact Option.some_ne_none v

/-- A value tells the kind of its document, and the parts tell the value. -/
theorem value?_cases {d : Document} {v : Json} (h : d.value? = some v) :
    match v with
    | .null => d = .null
    | .bool b => d = .bool b
    | .number x => ∃ n, d = .number n ∧ n.number? = some x
    | .text s => ∃ units, d = .text units ∧ unitText? units = some s
    | .list vs => ∃ items, d = .list items ∧ valueItems? items = some vs
    | .object fields => ∃ members vs, d = .object members ∧ valueFields? members = some vs ∧
        mapping vs = fields := by
  cases d with
  | null =>
    obtain rfl := Option.some.inj h
    rfl
  | bool b =>
    obtain rfl := Option.some.inj h
    rfl
  | number n =>
    obtain ⟨x, hx, rfl⟩ := Option.map_eq_some_iff.mp h
    exact ⟨n, rfl, hx⟩
  | text units =>
    obtain ⟨s, hs, rfl⟩ := Option.map_eq_some_iff.mp h
    exact ⟨units, rfl, hs⟩
  | list items =>
    obtain ⟨vs, hvs, rfl⟩ := Option.map_eq_some_iff.mp h
    exact ⟨items, rfl, hvs⟩
  | object members =>
    obtain ⟨vs, hvs, rfl⟩ := Option.map_eq_some_iff.mp h
    exact ⟨members, vs, rfl, hvs, rfl⟩

/-! ## Mappings -/

section

variable {α : Type}

theorem field?_cons (k name : String) (v : α) (fields : List (String × α)) :
    field? ((k, v) :: fields) name = if k = name then some v else field? fields name := by
  rw [field?, field?]
  by_cases h : k = name
  · rw [if_pos h, List.find?_cons_of_pos (by simpa using h), Option.map_some]
  · rw [if_neg h, List.find?_cons_of_neg (by simpa using h)]

theorem field?_append (fields fields' : List (String × α)) (name : String) :
    field? (fields ++ fields') name = (field? fields name).or (field? fields' name) := by
  rw [field?, List.find?_append, Option.map_or]
  rfl

/-- A field that is set is found, and all others are as before. -/
theorem field?_setField (key : String) (value : α) (fields : List (String × α)) (name : String) :
    field? (setField key value fields) name =
      if key = name then some value else field? fields name := by
  induction fields with
  | nil => exact field?_cons key name value []
  | cons f fields ih =>
    obtain ⟨k, v⟩ := f
    rw [setField]
    split
    · exact field?_cons key name value _
    split
    · rename_i heq
      subst heq
      rw [field?_cons, field?_cons]
      split <;> rfl
    · rename_i hne
      rw [field?_cons, field?_cons, ih]
      by_cases hk : k = name
      · rw [if_pos hk, if_pos hk, if_neg fun h => hne (h.trans hk.symm)]
      · rw [if_neg hk, if_neg hk]

/-- A mapping holds for a name the last value that was given for it. -/
theorem field?_mapping (fields : List (String × α)) (name : String) :
    field? (mapping fields) name = field? fields.reverse name := by
  have hfold : ∀ acc, field? (fields.foldl (fun acc f => setField f.1 f.2 acc) acc) name =
      (field? fields.reverse name).or (field? acc name) := by
    induction fields with
    | nil => exact fun _ => rfl
    | cons f fields ih =>
      obtain ⟨k, v⟩ := f
      intro acc
      rw [List.foldl_cons, List.reverse_cons, field?_append, Option.or_assoc, ih]
      show _ = (field? fields.reverse name).or ((field? [(k, v)] name).or (field? acc name))
      rw [field?_setField, field?_cons]
      split <;> rfl
  have hempty : field? (mapping fields) name = _ := hfold []
  have hnone : field? ([] : List (String × α)) name = none := rfl
  rwa [hnone, Option.or_none] at hempty

/-- A name in front of all others is not among them. -/
theorem field?_eq_none_of_lt {key : String} {fields : List (String × α)}
    (h : ∀ f ∈ fields, key < f.1) : field? fields key = none := by
  rw [field?, Option.map_eq_none_iff, List.find?_eq_none]
  intro f hf hkey
  have hlt := h f hf
  rw [beq_iff_eq.mp hkey] at hlt
  exact String.lt_irrefl key hlt

/-- Fields in the order of their keys are told by what they hold for each name. -/
theorem ascending_ext {fields fields' : List (String × α)} (h : Ascending fields)
    (h' : Ascending fields') (hsame : ∀ name, field? fields name = field? fields' name) :
    fields = fields' := by
  induction fields generalizing fields' with
  | nil =>
    cases fields' with
    | nil => rfl
    | cons f fields' =>
      obtain ⟨k, v⟩ := f
      have hk := hsame k
      rw [field?_cons, if_pos rfl] at hk
      cases hk
  | cons f fields ih =>
    obtain ⟨k, v⟩ := f
    obtain ⟨hfront, hrest⟩ := List.pairwise_cons.mp h
    cases fields' with
    | nil =>
      have hk := hsame k
      rw [field?_cons, if_pos rfl] at hk
      cases hk
    | cons f' fields' =>
      obtain ⟨k', v'⟩ := f'
      obtain ⟨hfront', hrest'⟩ := List.pairwise_cons.mp h'
      -- A key that only one side begins with would be missing on the other.
      have hmissing : ∀ {a b : String} {x y : α} {as bs : List (String × α)},
          (∀ f ∈ bs, b < f.1) → field? ((a, x) :: as) a = field? ((b, y) :: bs) a → ¬ a < b := by
        intro a b x y as bs hbs hsame hlt
        have hnone : field? ((b, y) :: bs) a = none := by
          refine field?_eq_none_of_lt fun f hf => ?_
          rcases List.mem_cons.mp hf with rfl | hf
          · exact hlt
          · exact String.lt_trans hlt (hbs f hf)
        rw [hnone, field?_cons, if_pos rfl] at hsame
        cases hsame
      have hkey : k = k' := by
        have hle := String.not_lt.mp (hmissing hfront' (hsame k))
        have hle' := String.not_lt.mp (hmissing hfront (hsame k').symm)
        exact String.le_antisymm hle' hle
      subst hkey
      have hvalue : v = v' := by
        have hk := hsame k
        rw [field?_cons, field?_cons, if_pos rfl, if_pos rfl] at hk
        exact Option.some.inj hk
      subst hvalue
      refine congrArg (List.cons _) (ih hrest hrest' fun name => ?_)
      have hname := hsame name
      rw [field?_cons, field?_cons] at hname
      by_cases hk : k = name
      · subst hk
        rw [field?_eq_none_of_lt hfront, field?_eq_none_of_lt hfront']
      · rwa [if_neg hk, if_neg hk] at hname

end

end CommandRelay.Json
