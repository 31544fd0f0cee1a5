import CommandRelay.Proofs.Envelope.RoundTrip
import CommandRelay.Proofs.Json.Given
import CommandRelay.Proofs.Json.Reading

/-!
# Which JSON texts are envelopes

A JSON text with valid texts, numbers that fit, and at most 127 containers nested in one another is
received exactly if it gives each field at most once and with its type.

1. **What a text gives** — `entries` are the fields that a document gives, whether it is an object
   or a list; the rest of this module is about these.
2. **Specification** — `Field.Accepts` is the type of a field, `Acceptable` says what is asked of a
   document, `Holds` and `Conveys` what an envelope holds of it.
3. **Fields one by one** — a field is read exactly if it has its type (`readField?_isSome_iff`), and
   what is read is what was given (`holds_of_readField?`).
4. **All fields** — reading an object or a list is reading its entries (`readFields?_eq_some_iff`,
   `readItems?_eq_some_iff`), so a document is read exactly if it is acceptable
   (`ofDocument?_isSome_iff`) and what is read conveys it (`conveys_of_ofDocument?`).
5. **Spelling does not matter** — documents that give the same values are conveyed by the same
   envelope (`Conveys.of_given?`), and that is a single one (`Conveys.unique`).
-/

namespace CommandRelay.Envelope

open Json (Document TextUnit unitText? valueFields? field?)

/-! ## What a text gives -/

/-- The fields that a document gives, in its order: members of an object that are named like fields,
or items of a list, which stand for the fields in their order. -/
def entries : Document → List (Field × Document)
  | .object members => members.filterMap fun (name, d) =>
    ((unitText? name).bind Field.ofName?).map (·, d)
  | .list items => Field.all.zip items
  | _ => []

/-- What a document gives for a field. -/
def given? (d : Document) (f : Field) : Option Document :=
  ((entries d).find? (·.1 == f)).map (·.2)

/-! ## Specification -/

/-- A document has the type of a field. -/
def Field.Accepts (f : Field) (d : Document) : Prop :=
  match f with
  | .apiVersion | .receivedTopic | .correlationId | .requestId | .contentType =>
    ∃ units, d = .text units
  | .errorCode => ∃ n k, d = .number n ∧ n.Literal k ∧ -0x80000000 ≤ k ∧ k < 0x80000000
  | .payload => d = .null ∨
    ∃ units bs, d = .text units ∧ unitText? units = some (Base64.encodeText bs)
  | .queryParams => d = .null ∨ ∃ members, d = .object members

/-- A document is an object that gives each field at most once, or a list of eight items at most,
and every field has its type. -/
structure Acceptable (d : Document) : Prop where
  container : (∃ members, d = .object members) ∨
    ∃ items, d = .list items ∧ items.length ≤ Field.all.length
  once : ((entries d).map (·.1)).Nodup
  typed : ∀ x ∈ entries d, x.1.Accepts x.2

/-- An envelope holds for a field what was given. -/
inductive Holds (e : Envelope) : Field → Option Document → Prop
  /-- The text that is spelled; a payload is held as the octets that are written so. -/
  | text {f : Field} {units : List TextUnit}
      (h : (unitText? units).map .text = some (e.fieldJson f)) : Holds e f (some (.text units))
  | code {n : Json.Numeral} (h : n.Literal e.errorCode.toInt) :
      Holds e .errorCode (some (.number n))
  /-- For each name of a parameter the last value that is given. -/
  | params {members : List (List TextUnit × Document)} {vs : List (String × Json)}
      (hvs : valueFields? members = some vs)
      (h : ∀ name, e.queryParams.get? name = field? vs.reverse name) :
      Holds e .queryParams (some (.object members))
  | null {f : Field} (h : e.fieldJson f = ({} : Envelope).fieldJson f) : Holds e f (some .null)
  /-- What is not given has its default. -/
  | absent {f : Field} (h : e.fieldJson f = ({} : Envelope).fieldJson f) : Holds e f none

/-- An envelope holds for all fields what a document gives. -/
def Conveys (e : Envelope) (d : Document) : Prop := ∀ f, e.Holds f (given? d f)

variable {e e' : Envelope} {f g : Field} {d : Document}

/-! ## Fields one by one -/

theorem fieldJson_queryParams_inj (h : e.fieldJson .queryParams = e'.fieldJson .queryParams) :
    e.queryParams = e'.queryParams :=
  Params.eq_of_fields (Json.object.inj h)

theorem fieldJson_errorCode_inj (h : e.fieldJson .errorCode = e'.fieldJson .errorCode) :
    e.errorCode = e'.errorCode :=
  Int32.toInt_inj.mp (Json.Number.int.inj (Json.number.inj h))

/-- An envelope is told by its fields. -/
theorem ext_fieldJson (h : ∀ f, e.fieldJson f = e'.fieldJson f) : e = e' := by
  have hpayload : e.payload = e'.payload := by
    have htext := Json.text.inj (h .payload)
    have hread := Base64.decodeText?_encodeText e.payload
    rw [htext, Base64.decodeText?_encodeText] at hread
    exact (Option.some.inj hread).symm
  have hcode := fieldJson_errorCode_inj (h .errorCode)
  have hparams := fieldJson_queryParams_inj (h .queryParams)
  have hversion := Json.text.inj (h .apiVersion)
  have htopic := Json.text.inj (h .receivedTopic)
  have hcorrelation := Json.text.inj (h .correlationId)
  have hrequest := Json.text.inj (h .requestId)
  have htype := Json.text.inj (h .contentType)
  cases e
  cases e'
  simp_all

/-- What is held for a field is told by that field. -/
theorem Holds.congr {o : Option Document} (h : e.Holds f o)
    (hsame : e'.fieldJson f = e.fieldJson f) :
    e'.Holds f o := by
  cases h with
  | text h => exact .text (hsame ▸ h)
  | code h => exact .code (fieldJson_errorCode_inj hsame ▸ h)
  | params hvs h => exact .params hvs (fieldJson_queryParams_inj hsame ▸ h)
  | null h => exact .null (hsame.trans h)
  | absent h => exact .absent (hsame.trans h)

/-- What was given tells what is held. -/
theorem Holds.unique {o : Option Document} (h : e.Holds f o) (h' : e'.Holds f o) :
    e.fieldJson f = e'.fieldJson f := by
  cases h with
  | text h =>
    cases h' with
    | text h' => exact Option.some.inj (h.symm.trans h')
  | code h =>
    cases h' with
    | code h' => exact congrArg Json.ofInt (h.2.2.1.trans h'.2.2.1.symm)
  | params hvs h =>
    cases h' with
    | params hvs' h' =>
      obtain rfl := Option.some.inj (hvs.symm.trans hvs')
      have hfields := Json.ascending_ext e.queryParams.canonical.1 e'.queryParams.canonical.1
        fun name => (h name).trans (h' name).symm
      exact congrArg Json.object hfields
  | null h =>
    cases h' with
    | null h' => exact h.trans h'.symm
  | absent h =>
    cases h' with
    | absent h' => exact h.trans h'.symm

/-- A document conveys one envelope at most. -/
theorem Conveys.unique (h : e.Conveys d) (h' : e'.Conveys d) : e = e' :=
  ext_fieldJson fun f => (h f).unique (h' f)

theorem textOf?_eq_some_iff {s : String} :
    textOf? d = some s ↔ ∃ units, d = .text units ∧ unitText? units = some s := by
  cases d <;> simp [textOf?]

/-- A code is read if the number is written as an integer of 32 bits. -/
theorem codeOf?_eq_some_iff {c : Int32} :
    codeOf? d = some c ↔ ∃ n, d = .number n ∧ n.Literal c.toInt := by
  have hlow := c.le_toInt
  have hhigh := c.toInt_lt
  constructor
  · intro h
    rw [codeOf?.eq_def] at h
    split at h
    · rename_i n
      split at h
      · rename_i k hk
        split at h
        · rename_i hrange
          obtain rfl := Option.some.inj h
          refine ⟨n, rfl, ?_⟩
          rw [Int32.toInt_ofInt_of_le (by omega) (by omega)]
          exact (Json.number?_eq_int_iff.mp hk).1
        · cases h
      · cases h
    · cases h
  · rintro ⟨n, rfl, hn⟩
    have hrange : -0x80000000 ≤ c.toInt ∧ c.toInt < 0x80000000 := by
      constructor <;> omega
    rw [codeOf?, Json.number?_eq_int_iff.mpr ⟨hn, fits_int32 c⟩]
    simp only [if_pos hrange, Int32.ofInt_toInt]

/-- A payload is read from Base64, or is empty for `null`. -/
theorem payloadOf?_eq_some_iff {bs : List UInt8} : payloadOf? d = some bs ↔
    d = .null ∧ bs = [] ∨
      ∃ units, d = .text units ∧ unitText? units = some (Base64.encodeText bs) := by
  cases d with
  | null => simp [payloadOf?, eq_comm]
  | text units => simp [payloadOf?, Option.bind_eq_some_iff, Base64.decodeText?_eq_some_iff]
  | _ => simp [payloadOf?]

/-- What is read as parameters: none from null, and from an object what its members give. -/
theorem paramsOf?_cases {p : Params} (h : paramsOf? d = some p) : d = .null ∧ p.fields = [] ∨
    ∃ members vs, d = .object members ∧ valueFields? members = some vs ∧
      p.fields = Json.mapping vs := by
  rw [paramsOf?] at h
  split at h
  · cases d with
    | null =>
      obtain rfl := Option.some.inj h
      exact .inl ⟨rfl, rfl⟩
    | object members =>
      rw [Params.ofDocument?] at h
      split at h
      · rename_i fs hfs
        obtain rfl := Option.some.inj h
        obtain ⟨vs, hvs, hmapping⟩ := Option.map_eq_some_iff.mp hfs
        exact .inr ⟨members, vs, rfl, hvs, (Json.object.inj hmapping).symm⟩
      · cases h
    | _ => cases h
  · cases h

/-- An object whose texts and numbers have values is read as parameters. -/
theorem paramsOf?_object {members : List (List TextUnit × Document)}
    (hdepth : (Document.object members).depth < Json.maxDepth)
    (hvalid : (Document.object members).value? ≠ none) :
    ∃ p, paramsOf? (.object members) = some p := by
  obtain ⟨v, hv⟩ := Option.ne_none_iff_exists'.mp hvalid
  obtain ⟨vs, -, rfl⟩ := Option.map_eq_some_iff.mp hv
  refine ⟨⟨_, Json.canonical_of_value? _ hv⟩, ?_⟩
  rw [paramsOf?, if_pos hdepth]
  exact Params.ofDocument?_eq_some hv

/-- Reading a field gives what it holds, and touches no other one. -/
theorem holds_of_readField? (h : e.readField? f d = some e') :
    e'.Holds f (some d) ∧ ∀ g ≠ f, e'.fieldJson g = e.fieldJson g := by
  cases f with
  | errorCode =>
    obtain ⟨c, hc, rfl⟩ := Option.map_eq_some_iff.mp h
    obtain ⟨n, rfl, hn⟩ := codeOf?_eq_some_iff.mp hc
    refine ⟨.code hn, fun g hg => ?_⟩
    cases g <;> first | rfl | exact absurd rfl hg
  | payload =>
    obtain ⟨bs, hbs, rfl⟩ := Option.map_eq_some_iff.mp h
    refine ⟨?_, fun g hg => ?_⟩
    · rcases payloadOf?_eq_some_iff.mp hbs with ⟨rfl, rfl⟩ | ⟨units, rfl, hunits⟩
      · exact .null rfl
      · exact .text (by rw [hunits]; rfl)
    · cases g <;> first | rfl | exact absurd rfl hg
  | queryParams =>
    obtain ⟨p, hp, rfl⟩ := Option.map_eq_some_iff.mp h
    refine ⟨?_, fun g hg => ?_⟩
    · rcases paramsOf?_cases hp with ⟨rfl, hnone⟩ | ⟨members, vs, rfl, hvs, hfields⟩
      · exact .null (congrArg Json.object hnone)
      · refine .params hvs fun name => ?_
        show field? p.fields name = _
        rw [hfields, Json.field?_mapping]
    · cases g <;> first | rfl | exact absurd rfl hg
  | _ =>
    obtain ⟨s, hs, rfl⟩ := Option.map_eq_some_iff.mp h
    obtain ⟨units, rfl, hunits⟩ := textOf?_eq_some_iff.mp hs
    refine ⟨.text (by rw [hunits]; rfl), fun g hg => ?_⟩
    cases g <;> first | rfl | exact absurd rfl hg

/-- A field is read exactly if it has its type. -/
theorem readField?_isSome_iff (hdepth : d.depth < Json.maxDepth) (hvalid : d.value? ≠ none)
    (e : Envelope) (f : Field) : (∃ e', e.readField? f d = some e') ↔ f.Accepts d := by
  -- All fields but three are texts and are read alike.
  have htext : ∀ update : String → Envelope,
      (∃ e', (textOf? d).map update = some e') ↔ ∃ units, d = .text units := by
    intro update
    constructor
    · rintro ⟨e', h⟩
      obtain ⟨s, hs, -⟩ := Option.map_eq_some_iff.mp h
      obtain ⟨units, hd, -⟩ := textOf?_eq_some_iff.mp hs
      exact ⟨units, hd⟩
    · rintro ⟨units, rfl⟩
      obtain ⟨v, hv⟩ := Option.ne_none_iff_exists'.mp hvalid
      obtain ⟨s, hs, -⟩ := Option.map_eq_some_iff.mp hv
      exact ⟨update s, by rw [textOf?, hs]; rfl⟩
  cases f with
  | errorCode =>
    constructor
    · rintro ⟨e', h⟩
      obtain ⟨c, hc, -⟩ := Option.map_eq_some_iff.mp h
      obtain ⟨n, hd, hn⟩ := codeOf?_eq_some_iff.mp hc
      exact ⟨n, c.toInt, hd, hn, c.le_toInt, c.toInt_lt⟩
    · -- A number in range is a word of 32 bits, and so is what is read of it.
      rintro ⟨n, k, hd, hn, hlow, hhigh⟩
      have hc : codeOf? d = some (Int32.ofInt k) := by
        refine codeOf?_eq_some_iff.mpr ⟨n, hd, ?_⟩
        rwa [Int32.toInt_ofInt_of_le (by omega) (by omega)]
      exact ⟨_, Option.map_eq_some_iff.mpr ⟨_, hc, rfl⟩⟩
  | payload =>
    constructor
    · rintro ⟨e', h⟩
      obtain ⟨bs, hbs, -⟩ := Option.map_eq_some_iff.mp h
      rcases payloadOf?_eq_some_iff.mp hbs with ⟨hd, -⟩ | ⟨units, hd, hunits⟩
      · exact .inl hd
      · exact .inr ⟨units, bs, hd, hunits⟩
    · rintro (hd | ⟨units, bs, hd, hunits⟩)
      · exact ⟨_, Option.map_eq_some_iff.mpr ⟨[], payloadOf?_eq_some_iff.mpr (.inl ⟨hd, rfl⟩), rfl⟩⟩
      · exact ⟨_, Option.map_eq_some_iff.mpr
          ⟨bs, payloadOf?_eq_some_iff.mpr (.inr ⟨units, hd, hunits⟩), rfl⟩⟩
  | queryParams =>
    constructor
    · rintro ⟨e', h⟩
      obtain ⟨p, hp, -⟩ := Option.map_eq_some_iff.mp h
      rcases paramsOf?_cases hp with ⟨hd, -⟩ | ⟨members, vs, hd, -, -⟩
      · exact .inl hd
      · exact .inr ⟨members, hd⟩
    · rintro (rfl | ⟨members, rfl⟩)
      · exact ⟨_, rfl⟩
      · obtain ⟨p, hp⟩ := paramsOf?_object hdepth hvalid
        exact ⟨_, Option.map_eq_some_iff.mpr ⟨p, hp, rfl⟩⟩
  | _ => exact htext _

/-! ## All fields -/

/-- Reads fields into an envelope, one after the other. -/
def readEntries? (e : Envelope) (xs : List (Field × Document)) : Option Envelope :=
  xs.foldlM (fun e x => e.readField? x.1 x.2) e

theorem readEntries?_cons {x : Field × Document} {xs : List (Field × Document)} :
    e.readEntries? (x :: xs) = some e' ↔
      ∃ e₁, e.readField? x.1 x.2 = some e₁ ∧ e₁.readEntries? xs = some e' := by
  rw [readEntries?, List.foldlM_cons]
  exact Option.bind_eq_some_iff

section

variable {members : List (List TextUnit × Document)} {units : List TextUnit} {name : String}

/-- A member with a name that no field has is no entry. -/
theorem entries_of_unknown (hname : unitText? units = some name)
    (hfield : Field.ofName? name = none)
    (d : Document) : entries (.object ((units, d) :: members)) = entries (.object members) := by
  simp [entries, hname, hfield]

/-- A member with the name of a field is an entry for that field. -/
theorem entries_of_known (hname : unitText? units = some name)
    (hfield : Field.ofName? name = some f)
    (d : Document) :
    entries (.object ((units, d) :: members)) = (f, d) :: entries (.object members) := by
  simp [entries, hname, hfield]

/-- An object is read if its entries are read, are of different fields and of none that came
before. -/
theorem readFields?_eq_some_iff {seen : List Field} (hnames : ∀ m ∈ members, unitText? m.1 ≠ none) :
    readFields? seen e members = some e' ↔ ((entries (.object members)).map (·.1)).Nodup ∧
      (∀ x ∈ entries (.object members), x.1 ∉ seen) ∧
        e.readEntries? (entries (.object members)) = some e' := by
  -- By induction along the members: a field that was seen may not come again, and each one that is
  -- read is seen from then on.
  induction members generalizing seen e with
  | nil =>
    have hnone : entries (.object []) = [] := rfl
    rw [hnone]
    simp [readFields?, readEntries?]
  | cons m members ih =>
    obtain ⟨units, d⟩ := m
    obtain ⟨hname, hnames⟩ := List.forall_mem_cons.mp hnames
    obtain ⟨name, hname⟩ := Option.ne_none_iff_exists'.mp hname
    simp only at hname
    rw [readFields?, hname]
    simp only [Option.bind_eq_bind, Option.bind_some]
    cases hfield : Field.ofName? name with
    | none =>
      rw [entries_of_unknown hname hfield]
      exact ih hnames
    | some f =>
      rw [entries_of_known hname hfield, List.map_cons, List.nodup_cons, List.forall_mem_cons,
        readEntries?_cons]
      simp only
      split
      · rename_i hseen
        refine iff_of_false (fun h => ?_) ?_
        · cases h
        · rintro ⟨-, ⟨hfresh, -⟩, -⟩
          exact hfresh hseen
      · rename_i hfresh
        rw [Option.bind_eq_some_iff]
        constructor
        · rintro ⟨e₁, he₁, h⟩
          obtain ⟨honce, hseen, h⟩ := (ih hnames).mp h
          refine ⟨⟨?_, honce⟩, ⟨hfresh, ?_⟩, e₁, he₁, h⟩
          · intro hmem
            obtain ⟨x, hx, rfl⟩ := List.mem_map.mp hmem
            exact hseen x hx List.mem_cons_self
          · exact fun x hx hold => hseen x hx (List.mem_cons_of_mem _ hold)
        · rintro ⟨⟨hapart, honce⟩, ⟨-, hseen⟩, e₁, he₁, h⟩
          refine ⟨e₁, he₁, (ih hnames).mpr ⟨honce, fun x hx hmem => ?_, h⟩⟩
          rcases List.mem_cons.mp hmem with rfl | hmem
          · exact hapart (List.mem_map_of_mem hx)
          · exact hseen x hx hmem

end

/-- A list is read if it has no more items than there are fields and its entries are read. -/
theorem readItems?_eq_some_iff {fs : List Field} {items : List Document} :
    e.readItems? fs items = some e' ↔
      items.length ≤ fs.length ∧ e.readEntries? (fs.zip items) = some e' := by
  induction items generalizing fs e with
  | nil =>
    rw [readItems?, List.zip_nil_right]
    exact ⟨fun h => ⟨Nat.zero_le _, h⟩, fun h => h.2⟩
  | cons d items ih =>
    cases fs with
    | nil =>
      refine iff_of_false (fun h => ?_) fun h => absurd h.1 (Nat.not_succ_le_zero _)
      cases h
    | cons f fs =>
      rw [readItems?, List.zip_cons_cons, readEntries?_cons, List.length_cons, List.length_cons,
        Nat.add_le_add_iff_right, ← exists_and_left]
      refine Option.bind_eq_some_iff.trans (exists_congr fun e₁ => ?_)
      rw [ih]
      exact and_left_comm

/-- Items of a list stand for different fields. -/
theorem nodup_zip_all (items : List Document) : ((Field.all.zip items).map (·.1)).Nodup := by
  have hsub : ((Field.all.zip items).map (·.1)).Sublist Field.all := by
    rw [List.zip_eq_zip_take_min, List.map_fst_zip (by simp)]
    exact List.take_sublist _ _
  exact (by decide : Field.all.Nodup).sublist hsub

/-- A document is read if it is a container, gives each field at most once and its entries are
read. -/
theorem ofDocument?_eq_some_iff (hvalid : d.value? ≠ none) : ofDocument? d = some e ↔
    ((∃ members, d = .object members) ∨ ∃ items, d = .list items ∧
      items.length ≤ Field.all.length) ∧
    ((entries d).map (·.1)).Nodup ∧ ({} : Envelope).readEntries? (entries d) = some e := by
  cases d with
  | object members =>
    have hnames := fun m hm => (Json.value?_of_mem_object hvalid m hm).1
    refine (readFields?_eq_some_iff hnames).trans ?_
    simp
  | list items =>
    refine readItems?_eq_some_iff.trans ⟨?_, ?_⟩
    · rintro ⟨hlength, h⟩
      exact ⟨.inr ⟨items, rfl, hlength⟩, nodup_zip_all items, h⟩
    · rintro ⟨⟨members, hd⟩ | ⟨items', hd, hlength⟩, -, h⟩
      · cases hd
      · obtain rfl := Document.list.inj hd
        exact ⟨hlength, h⟩
  | _ => simp [ofDocument?]

/-- What was read of different fields is held for them, and no other field is touched. -/
theorem holds_of_readEntries? {xs : List (Field × Document)} (honce : (xs.map (·.1)).Nodup)
    (h : e.readEntries? xs = some e') : (∀ x ∈ xs, e'.Holds x.1 (some x.2)) ∧
      ∀ f, (∀ x ∈ xs, x.1 ≠ f) → e'.fieldJson f = e.fieldJson f := by
  induction xs generalizing e with
  | nil =>
    obtain rfl := Option.some.inj h
    exact ⟨nofun, fun _ _ => rfl⟩
  | cons x xs ih =>
    obtain ⟨hapart, honce⟩ := List.nodup_cons.mp honce
    obtain ⟨e₁, he₁, h⟩ := readEntries?_cons.mp h
    obtain ⟨hfirst, hother⟩ := holds_of_readField? he₁
    obtain ⟨hrest, hkept⟩ := ih honce h
    have hsame := hkept x.1 fun y hy heq => hapart (List.mem_map.mpr ⟨y, hy, heq⟩)
    refine ⟨List.forall_mem_cons.mpr ⟨hfirst.congr hsame, hrest⟩, fun f hf => ?_⟩
    obtain ⟨hne, hf⟩ := List.forall_mem_cons.mp hf
    exact (hkept f hf).trans (hother f hne.symm)

/-- What was read of a document conveys it. -/
theorem conveys_of_readEntries? (honce : ((entries d).map (·.1)).Nodup)
    (h : ({} : Envelope).readEntries? (entries d) = some e) : e.Conveys d := by
  obtain ⟨hgiven, habsent⟩ := holds_of_readEntries? honce h
  intro f
  rw [given?]
  cases hfind : (entries d).find? (·.1 == f) with
  | none =>
    refine .absent (habsent f fun x hx hxf => ?_)
    exact List.find?_eq_none.mp hfind x hx (beq_iff_eq.mpr hxf)
  | some x =>
    have hfield : x.1 = f := by simpa using List.find?_some hfind
    subst hfield
    exact hgiven x (List.mem_of_find?_eq_some hfind)

/-- An entry is a part of its document. -/
theorem part_of_mem_entries {x : Field × Document} (hx : x ∈ entries d) :
    (∃ members, d = .object members ∧ ∃ m ∈ members, m.2 = x.2) ∨
      ∃ items, d = .list items ∧ x.2 ∈ items := by
  cases d with
  | object members =>
    obtain ⟨m, hm, hentry⟩ := List.mem_filterMap.mp hx
    obtain ⟨f, -, rfl⟩ := Option.map_eq_some_iff.mp hentry
    exact .inl ⟨members, rfl, m, hm, rfl⟩
  | list items => exact .inr ⟨items, rfl, (List.of_mem_zip hx).2⟩
  | _ => cases hx

/-- What stands in a document within the limit lies a level below it. -/
theorem depth_of_mem_entries (hdepth : d.depth ≤ Json.maxDepth) :
    ∀ x ∈ entries d, x.2.depth < Json.maxDepth := by
  intro x hx
  rcases part_of_mem_entries hx with ⟨members, rfl, m, hm, hpart⟩ | ⟨items, rfl, hitem⟩
  · rw [← hpart]
    exact Nat.lt_of_lt_of_le (Nat.lt_succ_of_le (Json.depthFields_le_iff.mp le_rfl m hm)) hdepth
  · exact Nat.lt_of_lt_of_le (Nat.lt_succ_of_le (Json.depthItems_le_iff.mp le_rfl _ hitem)) hdepth

/-- Whatever is an entry of a document that has a value has one too. -/
theorem value?_of_mem_entries (hvalid : d.value? ≠ none) :
    ∀ x ∈ entries d, x.2.value? ≠ none := by
  intro x hx
  rcases part_of_mem_entries hx with ⟨members, rfl, m, hm, hpart⟩ | ⟨items, rfl, hitem⟩
  · rw [← hpart]
    exact (Json.value?_of_mem_object hvalid m hm).2
  · exact Json.value?_of_mem_list hvalid _ hitem

/-- Entries are read exactly if each has the type of its field. -/
theorem readEntries?_isSome_iff {xs : List (Field × Document)}
    (hdepth : ∀ x ∈ xs, x.2.depth < Json.maxDepth) (hvalid : ∀ x ∈ xs, x.2.value? ≠ none)
    (e : Envelope) : (∃ e', e.readEntries? xs = some e') ↔ ∀ x ∈ xs, x.1.Accepts x.2 := by
  induction xs generalizing e with
  | nil => exact ⟨fun _ => nofun, fun _ => ⟨e, rfl⟩⟩
  | cons x xs ih =>
    obtain ⟨hdepth₁, hdepth⟩ := List.forall_mem_cons.mp hdepth
    obtain ⟨hvalid₁, hvalid⟩ := List.forall_mem_cons.mp hvalid
    rw [List.forall_mem_cons, ← readField?_isSome_iff hdepth₁ hvalid₁ e]
    constructor
    · rintro ⟨e', h⟩
      obtain ⟨e₁, he₁, h⟩ := readEntries?_cons.mp h
      exact ⟨⟨e₁, he₁⟩, (ih hdepth hvalid e₁).mp ⟨e', h⟩⟩
    · rintro ⟨⟨e₁, he₁⟩, hrest⟩
      obtain ⟨e', h⟩ := (ih hdepth hvalid e₁).mpr hrest
      exact ⟨e', readEntries?_cons.mpr ⟨e₁, he₁, h⟩⟩

/-- A document is read exactly if it is acceptable. -/
theorem ofDocument?_isSome_iff (hdepth : d.depth ≤ Json.maxDepth) (hvalid : d.value? ≠ none) :
    (∃ e, ofDocument? d = some e) ↔ Acceptable d := by
  have hread := readEntries?_isSome_iff (depth_of_mem_entries hdepth) (value?_of_mem_entries hvalid)
    {}
  simp only [ofDocument?_eq_some_iff hvalid, exists_and_left, hread]
  exact ⟨fun ⟨hcontainer, honce, htyped⟩ => ⟨hcontainer, honce, htyped⟩,
    fun h => ⟨h.container, h.once, h.typed⟩⟩

/-- An envelope that is read conveys its document. -/
theorem conveys_of_ofDocument? (hvalid : d.value? ≠ none) (h : ofDocument? d = some e) :
    e.Conveys d := by
  obtain ⟨-, honce, hread⟩ := (ofDocument?_eq_some_iff hvalid).mp h
  exact conveys_of_readEntries? honce hread

/-! ## Spelling does not matter -/

/-- What is held of a document is held of any other one with its value. -/
theorem Holds.of_value? {d' : Document} (h : e.Holds f (some d)) (hsame : d.value? = d'.value?) :
    e.Holds f (some d') := by
  -- The value of a document tells its kind, so the other document is of the same kind.
  cases h with
  | text h =>
    rename_i units
    have hvalue : d'.value? = some (e.fieldJson f) := hsame.symm.trans h
    obtain ⟨s, -, hs⟩ := Option.map_eq_some_iff.mp h
    rw [← hs] at hvalue
    obtain ⟨units', rfl, hunits'⟩ := Json.value?_cases hvalue
    refine .text ?_
    rw [hunits', Option.map_some, hs]
  | code h =>
    rename_i n
    have hnumber := Json.number?_eq_int_iff.mpr ⟨h, fits_int32 e.errorCode⟩
    have hvalue : d'.value? = some (.number (.int e.errorCode.toInt)) := by
      rw [← hsame, Document.value?, hnumber]
      rfl
    obtain ⟨n', rfl, hn'⟩ := Json.value?_cases hvalue
    exact .code (Json.number?_eq_int_iff.mp hn').1
  | params hvs h =>
    rename_i members vs
    have hvalue : d'.value? = some (.object (Json.mapping vs)) := by
      rw [← hsame, Document.value?, hvs]
      rfl
    obtain ⟨members', vs', rfl, hvs', hmapping⟩ := Json.value?_cases hvalue
    refine .params hvs' fun name => ?_
    rw [h name, ← Json.field?_mapping, ← Json.field?_mapping, hmapping]
  | null h =>
    obtain rfl : d' = .null := Json.value?_cases hsame.symm
    exact .null h

/-- Documents that give the same values are conveyed by the same envelope. -/
theorem Conveys.of_given? {d' : Document} (h : e.Conveys d)
    (hsame : ∀ f, (given? d f).map Document.value? = (given? d' f).map Document.value?) :
    e.Conveys d' := by
  intro f
  have hf := h f
  have hsame := hsame f
  cases hd : given? d f with
  | none =>
    rw [hd, Option.map_none, eq_comm, Option.map_eq_none_iff] at hsame
    rwa [hsame, ← hd]
  | some x =>
    rw [hd, Option.map_some, eq_comm, Option.map_eq_some_iff] at hsame
    obtain ⟨x', hx', hvalue⟩ := hsame
    rw [hd] at hf
    rw [hx']
    exact hf.of_value? hvalue.symm

/-! ## Texts -/

/-- **A JSON text is an envelope exactly if its document is acceptable.**  The text may be any of
those that spell the document, with at most 127 containers nested in one another, valid texts and
numbers that fit.  What is received conveys the document, with a fresh correlation ID if it gives
none or an empty one; what is not acceptable is refused as undecodable, in the words of the decoder.
Two texts that give the fields the same values are received alike, however they spell them, in
whatever order and whatever else they give. -/
theorem document_is_received_iff_acceptable {d : Document} {bs : List UInt8} {fresh : String}
    {words : Wording} (hbs : d.Spelled bs) (hdepth : d.depth ≤ 127) (hvalid : d.value? ≠ none)
    (hfresh : fresh ≠ "") :
    ((∃ e, receive fresh bs words = .ok e) ↔ Acceptable d) ∧
    (¬ Acceptable d → receive fresh bs words = .error (.undecodable (words.envelope bs))) ∧
    (∀ e, receive fresh bs words = .ok e → e.correlationId ≠ "" ∧ ∃ w : Envelope, w.Conveys d ∧
      e = if w.correlationId = "" then { w with correlationId := fresh } else w) ∧
    ∀ (d' : Document) (bs' : List UInt8), d'.Spelled bs' → d'.depth ≤ 127 → d'.value? ≠ none →
      Acceptable d → Acceptable d' →
      (∀ f, (given? d f).map Document.value? = (given? d' f).map Document.value?) →
        receive fresh bs' words = receive fresh bs words := by
  -- How a document is spelled matters no more once it has been read.
  have hread : ∀ {d : Document} {bs : List UInt8}, d.Spelled bs → ofWire? bs = ofDocument? d := by
    intro d bs hbs
    rw [ofWire?, Json.ofOctets?_eq_some_iff.mpr hbs, Option.bind_some]
  have haccepted : ∀ {d : Document} {bs : List UInt8}, d.Spelled bs → d.depth ≤ 127 →
      d.value? ≠ none → Acceptable d →
        ∃ w : Envelope, w.Conveys d ∧ receive fresh bs words = .ok (w.correlated fresh) := by
    intro d bs hbs hdepth hvalid h
    obtain ⟨w, hw⟩ := (ofDocument?_isSome_iff hdepth hvalid).mpr h
    refine ⟨w, conveys_of_ofDocument? hvalid hw, ?_⟩
    rw [receive, hread hbs, hw]
  have hrefused : ¬ Acceptable d →
    receive fresh bs words = .error (.undecodable (words.envelope bs)) := by
    intro h
    cases hd : ofDocument? d with
    | some w => exact absurd ((ofDocument?_isSome_iff hdepth hvalid).mp ⟨w, hd⟩) h
    | none => rw [receive, hread hbs, hd]
  have hacceptable : ∀ e, receive fresh bs words = .ok e → Acceptable d := by
    intro e he
    by_contra h
    rw [hrefused h] at he
    cases he
  refine ⟨⟨fun h => h.elim hacceptable, fun h => ?_⟩, hrefused, fun e he => ?_,
    fun d' bs' hbs' hdepth' hvalid' h h' hsame => ?_⟩
  · obtain ⟨w, -, hw⟩ := haccepted hbs hdepth hvalid h
    exact ⟨_, hw⟩
  · obtain ⟨w, hconveys, hw⟩ := haccepted hbs hdepth hvalid (hacceptable e he)
    obtain rfl : w.correlated fresh = e := Except.ok.inj (hw.symm.trans he)
    refine ⟨?_, w, hconveys, rfl⟩
    rw [correlated]
    split
    · exact hfresh
    · assumption
  · -- What is conveyed depends on the values of the fields only, and determines the envelope.
    obtain ⟨w, hconveys, hw⟩ := haccepted hbs hdepth hvalid h
    obtain ⟨w', hconveys', hw'⟩ := haccepted hbs' hdepth' hvalid' h'
    rw [hw, hw', (hconveys.of_given? hsame).unique hconveys']

/-- A text that gives two fields. -/
def shortText : String := "\x7b\"errorCode\":-7,\"payload\":null\x7d"

def shortDocument : Document :=
  .object [((Utf8.encode "errorCode").map .octet, .number ⟨true, [7], none, none⟩),
    ((Utf8.encode "payload").map .octet, .null)]

/-- A text that gives the same, with blanks, in another order, with an escape in a name and with a
field that no envelope has. -/
def longText : String :=
  " \x7b\"hops\":1.50, \"\\u0070ayload\" : null,\"errorCode\":-7\x7d\n"

def longDocument : Document :=
  .object [((Utf8.encode "hops").map .octet, .number ⟨false, [1], some [5, 0], none⟩),
    (.unit 0x70 :: (Utf8.encode "ayload").map .octet, .null),
    ((Utf8.encode "errorCode").map .octet, .number ⟨true, [7], none, none⟩)]

theorem numberSpelling_minusSeven : Json.NumberSpelling ⟨true, [7], none, none⟩ [0x2D, 0x37] :=
  .mk ⟨by decide, by decide⟩ (by decide) .none .none

/-- The short text spells its document, without blanks. -/
theorem shortDocument_spelled : shortDocument.Spelled (Utf8.encode shortText) := by
  have hoctets : Utf8.encode shortText =
      [0x7B] ++ ((0x22 :: Utf8.encode "errorCode" ++ [0x22]) ++ ([0x3A] ++ ([0x2D, 0x37] ++
        ([0x2C] ++ ((0x22 :: Utf8.encode "payload" ++ [0x22]) ++ ([0x3A] ++
          ([0x6E, 0x75, 0x6C, 0x6C] ++ ([0x7D] ++ [])))))))) := by decide +kernel
  rw [hoctets]
  exact .next .openObject <| .next (.text (.plain (by decide +kernel))) <| .next .colon <|
    .next (.number numberSpelling_minusSeven) <| .next .comma <|
    .next (.text (.plain (by decide +kernel))) <| .next .colon <| .next .null <|
    .next .closeObject (.nil Json.blank_nil)

/-- The long text spells its document, with blanks, an escape and a name that is no field. -/
theorem longDocument_spelled : longDocument.Spelled (Utf8.encode longText) := by
  have hoctets : Utf8.encode longText =
      [0x20] ++ [0x7B] ++ ((0x22 :: Utf8.encode "hops" ++ [0x22]) ++ ([0x3A] ++
        ([0x31, 0x2E, 0x35, 0x30] ++ ([0x2C] ++ ([0x20] ++ (0x22 ::
          ([0x5C, 0x75, 0x30, 0x30, 0x37, 0x30] ++ Utf8.encode "ayload") ++ [0x22]) ++
            ([0x20] ++ [0x3A] ++ ([0x20] ++ [0x6E, 0x75, 0x6C, 0x6C] ++ ([0x2C] ++
              ((0x22 :: Utf8.encode "errorCode" ++ [0x22]) ++ ([0x3A] ++ ([0x2D, 0x37] ++
                ([0x7D] ++ [0x0A])))))))))))) := by decide +kernel
  have hblank : Json.Blank [0x20] := List.forall_mem_singleton.mpr rfl
  have hend : Json.Blank [0x0A] := List.forall_mem_singleton.mpr rfl
  have hnumber : Json.NumberSpelling ⟨false, [1], some [5, 0], none⟩ [0x31, 0x2E, 0x35, 0x30] :=
    .mk ⟨by decide, by decide⟩ (by decide) (.some ⟨by decide, by decide⟩) .none
  have hletter : Json.UnitSpelling (.unit 0x70) [0x5C, 0x75, 0x30, 0x30, 0x37, 0x30] :=
    .digits (by decide : Json.hexDigit? 0x30 = some 0) (by decide : Json.hexDigit? 0x30 = some 0)
      (by decide : Json.hexDigit? 0x37 = some 7) (by decide : Json.hexDigit? 0x30 = some 0)
  rw [hoctets]
  exact .cons hblank .openObject <| .next (.text (.plain (by decide +kernel))) <| .next .colon <|
    .next (.number hnumber) <| .next .comma <|
    .cons hblank (.text (.cons hletter (.plain (by decide +kernel)))) <| .cons hblank .colon <|
    .cons hblank .null <| .next .comma <| .next (.text (.plain (by decide +kernel))) <|
    .next .colon <| .next (.number numberSpelling_minusSeven) <| .next .closeObject (.nil hend)

theorem accepts_minusSeven : Field.errorCode.Accepts (.number ⟨true, [7], none, none⟩) :=
  ⟨_, -7, rfl, ⟨rfl, rfl, rfl, by decide⟩, by decide, by decide⟩

theorem acceptable_shortDocument : Acceptable shortDocument where
  container := .inl ⟨_, rfl⟩
  once := by decide +kernel
  typed := List.forall_mem_cons.mpr ⟨accepts_minusSeven, List.forall_mem_singleton.mpr (.inl rfl)⟩

theorem acceptable_longDocument : Acceptable longDocument where
  container := .inl ⟨_, rfl⟩
  once := by decide +kernel
  typed := List.forall_mem_cons.mpr ⟨.inl rfl, List.forall_mem_singleton.mpr accepts_minusSeven⟩

/-- Both texts are received, and alike: with the error code that they give, an empty payload and the
fresh correlation ID. -/
theorem short_and_long_are_received_alike :
    receive "fresh" (Utf8.encode longText) = receive "fresh" (Utf8.encode shortText) ∧
    ∃ e, receive "fresh" (Utf8.encode shortText) = .ok e ∧
      e = { errorCode := -7, correlationId := "fresh" } := by
  have hsame : ∀ f, (given? shortDocument f).map Document.value? =
      (given? longDocument f).map Document.value? := by
    intro f
    cases f <;> rfl
  have hfresh : "fresh" ≠ "" := by decide
  obtain ⟨hiff, -, hgives, halike⟩ := document_is_received_iff_acceptable shortDocument_spelled
    (by decide) (by decide +kernel) hfresh
  refine ⟨halike longDocument _ longDocument_spelled (by decide) (by decide +kernel)
    acceptable_shortDocument acceptable_longDocument hsame, ?_⟩
  obtain ⟨e, he⟩ := hiff.mpr acceptable_shortDocument
  obtain ⟨-, w, hconveys, rfl⟩ := hgives e he
  have hw : w = { errorCode := -7 } := hconveys.unique fun f => by
    cases f with
    | errorCode => exact .code ⟨rfl, rfl, rfl, by decide⟩
    | payload => exact .null rfl
    | _ => exact .absent rfl
  subst hw
  exact ⟨_, he, rfl⟩

end CommandRelay.Envelope
