import Mathlib
import CommandRelay.Datum

/-!
# Records by their parts

A record is read into a draft, field after field.  What comes of it can be said without the order in
which the fields come: each part has the value that is given for it, or its default.

1. **`Records`** — a record is what a datum spells, said part by part (`Part`) on the entries of the
   datum (`entries`), whether that is a table or a list.
2. **`Layout`** — the slots of a draft: what reads and sets each part, with the laws that keep the
   parts of a draft apart.
3. **Reading** — both kinds of data are read by assigning their entries (`readRow_eq_ok_iff`,
   `readTable_eq_ok_iff`), and assigning gives each slot its value (`assign_eq_ok_iff`).  So a
   record is read exactly if it is what the datum spells (`Layout.readRecord_eq_ok_iff`).
-/

namespace CommandRelay

section

variable {ε β γ : Type} {x : Except ε β}

theorem bind_eq_ok_iff {f : β → Except ε γ} {c : γ} :
    x.bind f = .ok c ↔ ∃ b, x = .ok b ∧ f b = .ok c := by
  cases x with
  | error e => simp [Except.bind]
  | ok b =>
    refine ⟨fun h => ⟨b, rfl, h⟩, ?_⟩
    rintro ⟨b', hb, h⟩
    cases hb
    exact h

theorem bind_eq_error_iff {f : β → Except ε γ} {e : ε} :
    x.bind f = .error e ↔ x = .error e ∨ ∃ b, x = .ok b ∧ f b = .error e := by
  cases x with
  | error e' => simp [Except.bind]
  | ok b => simp [Except.bind]

theorem map_eq_ok_iff {f : β → γ} {c : γ} : x.map f = .ok c ↔ ∃ b, x = .ok b ∧ f b = c := by
  cases x <;> simp [Except.map]

end

namespace Datum

variable {α ρ : Type}

/-! ## What a datum says of a record -/

/-- A part of a record: its name, what a datum means as its value, and where it is in the record. -/
structure Part (α : Type) where
  name : String
  Value : Type
  Means : Datum → Value → Prop
  get : α → Value

/-- A part of a record that is itself a part of a larger one. -/
def Part.within (p : Part ρ) (f : α → ρ) : Part α :=
  ⟨p.name, p.Value, p.Means, fun a => p.get (f a)⟩

/-- What a datum gives for the known names: the fields of a table that have one of them, or the
items of a list, which stand for the names in their order. -/
def entries (names : List String) : Datum → List (String × Datum)
  | .table fields => fields.filterMap fun field =>
    field.1.bind fun key => if key ∈ names then some (key, field.2) else none
  | .list items => names.zip items
  | _ => []

/-- A datum has the shape of a record: it is a table with valid keys and no known name twice, or a
list that is not too long. -/
def Shaped (surplus : Bool) (names : List String) : Datum → Prop
  | .table fields => none ∉ fields.map (·.1) ∧ ((entries names (.table fields)).map (·.1)).Nodup
  | .list items => surplus = true ∨ items.length ≤ names.length
  | _ => False

/-- A record is what a datum spells: its parts have the values that are given, and all others are as
they are in `standard`. -/
structure Records (surplus : Bool) (parts : List (Part α)) (standard : α) (d : Datum) (a : α) :
    Prop where
  shaped : Shaped surplus (parts.map (·.name)) d
  given : ∀ p ∈ parts, ∀ v, (p.name, v) ∈ entries (parts.map (·.name)) d → p.Means v (p.get a)
  absent : ∀ p ∈ parts, p.name ∉ (entries (parts.map (·.name)) d).map (·.1) →
    p.get a = p.get standard

/-! ## The slots of a draft -/

/-- A part of a draft with what reads and sets it. -/
structure Slot (α : Type) where
  part : Part α
  set : α → part.Value → α
  read : Datum → Reading part.Value
  reads : ∀ d v, read d = .ok v ↔ part.Means d v
  get_set : ∀ a v, part.get (set a v) = v

/-- How a slot is read into a draft. -/
def Slot.reader (s : Slot α) : FieldReader α := ⟨s.part.name, fun a d => (s.read d).map (s.set a)⟩

/-- The slots of a draft and the rest of it: setting a slot changes nothing else, and there is
nothing else in a draft. -/
structure Layout (α ρ : Type) where
  slots : List (Slot α)
  rest : α → ρ
  distinct : (slots.map (·.part.name)).Nodup
  apart : ∀ s ∈ slots, ∀ t ∈ slots, t.part.name ≠ s.part.name →
    ∀ a v, t.part.get (s.set a v) = t.part.get a
  rest_set : ∀ s ∈ slots, ∀ a v, rest (s.set a v) = rest a
  ext : ∀ a b, (∀ s ∈ slots, s.part.get a = s.part.get b) → rest a = rest b → a = b

/-- Reads data into slots, one after the other. -/
def assign (draft : α) (pairs : List (Slot α × Datum)) : Reading α :=
  pairs.foldlM (fun a x => x.1.reader.read a x.2) draft

/-- Pairs are assigned one after the other, each to what the ones before made of the draft. -/
theorem assign_cons_eq_ok_iff {draft a : α} {s : Slot α} {d : Datum}
    {pairs : List (Slot α × Datum)} : assign draft ((s, d) :: pairs) = .ok a ↔
      ∃ v, s.read d = .ok v ∧ assign (s.set draft v) pairs = .ok a := by
  have hstep : assign draft ((s, d) :: pairs) =
      ((s.read d).map (s.set draft)).bind fun a => assign a pairs := rfl
  simp only [hstep, bind_eq_ok_iff, map_eq_ok_iff, exists_exists_and_eq_and]

/-- Assigning gives each slot that is assigned its value and leaves all others. -/
theorem assign_eq_ok_iff (L : Layout α ρ) {draft a : α} {pairs : List (Slot α × Datum)}
    (hslots : ∀ x ∈ pairs, x.1 ∈ L.slots) (honce : (pairs.map (·.1.part.name)).Nodup) :
    assign draft pairs = .ok a ↔ (∀ x ∈ pairs, x.1.part.Means x.2 (x.1.part.get a)) ∧
      (∀ s ∈ L.slots, s.part.name ∉ pairs.map (·.1.part.name) →
        s.part.get a = s.part.get draft) ∧ L.rest a = L.rest draft := by
  induction pairs generalizing draft with
  | nil =>
    constructor
    · intro h
      cases h
      exact ⟨fun _ hx => absurd hx List.not_mem_nil, fun _ _ _ => rfl, rfl⟩
    · rintro ⟨-, hleft, hrest⟩
      rw [L.ext a draft (fun s hs => hleft s hs List.not_mem_nil) hrest]
      rfl
  | cons x pairs ih =>
    obtain ⟨s, d⟩ := x
    obtain ⟨hs, hslots⟩ := List.forall_mem_cons.mp hslots
    obtain ⟨hnew, honce⟩ := List.nodup_cons.mp honce
    rw [assign_cons_eq_ok_iff]
    constructor
    · rintro ⟨v, hv, h⟩
      obtain ⟨hgiven, hleft, hrest⟩ := (ih hslots honce).mp h
      -- no other pair is for this slot, so its value stays
      have hown : s.part.get a = v := (hleft s hs hnew).trans (s.get_set draft v)
      refine ⟨List.forall_mem_cons.mpr ⟨?_, hgiven⟩, fun t ht hout => ?_,
        hrest.trans (L.rest_set s hs draft v)⟩
      · show s.part.Means d (s.part.get a)
        rw [hown]
        exact (s.reads d v).mp hv
      · obtain ⟨hne, hout⟩ := not_or.mp (List.mem_cons.not.mp hout)
        rw [hleft t ht hout, L.apart s hs t ht hne]
    · rintro ⟨hgiven, hleft, hrest⟩
      obtain ⟨hown, hgiven⟩ := List.forall_mem_cons.mp hgiven
      -- the value that is read first is the one that is there in the end
      refine ⟨s.part.get a, (s.reads d _).mpr hown,
        (ih hslots honce).mpr ⟨hgiven, fun t ht hout => ?_, ?_⟩⟩
      · by_cases hsame : t.part.name = s.part.name
        · obtain rfl : t = s := List.inj_on_of_nodup_map L.distinct ht hs hsame
          rw [t.get_set]
        · rw [L.apart s hs t ht hsame]
          exact hleft t ht fun hin => (List.mem_cons.mp hin).elim hsame hout
      · rw [hrest, L.rest_set s hs]

/-! ## Lists and tables -/

/-- A list is read item by item into the slots, and more items than slots pass only where a surplus
does. -/
theorem readRow_eq_ok_iff {surplus : Bool} {draft a : α} {slots : List (Slot α)}
    {items : List Datum} : readRow surplus draft (slots.map Slot.reader) items = .ok a ↔
      (surplus = true ∨ items.length ≤ slots.length) ∧ assign draft (slots.zip items) = .ok a := by
  induction items generalizing draft slots with
  | nil =>
    rw [List.zip_nil_right]
    cases slots <;> simp [readRow, assign, pure, Except.pure]
  | cons d items ih =>
    cases slots with
    | nil => cases surplus <;> simp [readRow, assign, pure, Except.pure]
    | cons s slots =>
      have hstep : readRow surplus draft ((s :: slots).map Slot.reader) (d :: items) =
          ((s.read d).map (s.set draft)).bind fun a =>
            readRow surplus a (slots.map Slot.reader) items := rfl
      simp only [List.zip_cons_cons, assign_cons_eq_ok_iff, hstep, List.length_cons,
        Nat.succ_le_succ_iff, bind_eq_ok_iff, map_eq_ok_iff, exists_exists_and_eq_and, ih]
      constructor
      · rintro ⟨v, hv, hlength, h⟩
        exact ⟨hlength, v, hv, h⟩
      · rintro ⟨hlength, v, hv, h⟩
        exact ⟨v, hv, hlength, h⟩

/-- The fields of a table that go into slots. -/
def known (slots : List (Slot α)) (fields : List (Option String × Datum)) :
    List (Slot α × Datum) :=
  fields.filterMap fun field => field.1.bind fun key =>
    (slots.find? (·.part.name == key)).map (·, field.2)

section

variable {slots : List (Slot α)} {seen : List String} {draft a : α} {key : String} {d : Datum}
  {fields : List (Option String × Datum)}

/-- The reader for a key is that of the slot whose part has the name. -/
theorem find?_readers (slots : List (Slot α)) (key : String) :
    (slots.map Slot.reader).find? (·.name == key) =
      (slots.find? (·.part.name == key)).map Slot.reader :=
  List.find?_map ..

/-- A field that goes into no slot is passed over. -/
theorem readTable_cons_unknown (h : slots.find? (·.part.name == key) = none) :
    readTable (slots.map Slot.reader) seen draft ((some key, d) :: fields) =
      readTable (slots.map Slot.reader) seen draft fields := by
  rw [readTable, find?_readers, h, Option.map_none]

/-- A field that goes into a slot must not have come before. -/
theorem readTable_cons_known {s : Slot α} (h : slots.find? (·.part.name == key) = some s) :
    readTable (slots.map Slot.reader) seen draft ((some key, d) :: fields) =
      if key ∈ seen then .error .shape
      else ((s.read d).map (s.set draft)).bind fun a =>
        readTable (slots.map Slot.reader) (key :: seen) a fields := by
  rw [readTable, find?_readers, h, Option.map_some]
  rfl

/-- What was read so far and what comes do not meet, with one more field read. -/
theorem unseen_cons_iff {pairs : List (Slot α × Datum)} {name : String} :
    (∀ x ∈ pairs, x.1.part.name ∉ name :: seen) ↔
      name ∉ pairs.map (·.1.part.name) ∧ ∀ x ∈ pairs, x.1.part.name ∉ seen := by
  constructor
  · intro h
    refine ⟨fun hin => ?_, fun x hx hin => h x hx (List.mem_cons_of_mem _ hin)⟩
    obtain ⟨x, hx, rfl⟩ := List.mem_map.mp hin
    exact h x hx List.mem_cons_self
  · rintro ⟨hother, hfresh⟩ x hx hin
    rcases List.mem_cons.mp hin with hname | hin
    · exact hother (List.mem_map.mpr ⟨x, hx, hname⟩)
    · exact hfresh x hx hin

/-- A table is read if all its keys are valid and no known one comes twice, and then its known
fields are assigned. -/
theorem readTable_eq_ok_iff : readTable (slots.map Slot.reader) seen draft fields = .ok a ↔
    none ∉ fields.map (·.1) ∧ ((known slots fields).map (·.1.part.name)).Nodup ∧
    (∀ x ∈ known slots fields, x.1.part.name ∉ seen) ∧
    assign draft (known slots fields) = .ok a := by
  -- By induction along the fields: what is read so far is the draft, and its keys have been seen.
  induction fields generalizing seen draft with
  | nil => simp [readTable, known, assign, pure, Except.pure]
  | cons field fields ih =>
    obtain ⟨key, d⟩ := field
    cases key with
    | none => exact iff_of_false (fun h => by cases h) fun h => h.1 List.mem_cons_self
    | some key =>
      have hkeys : none ∉ ((some key, d) :: fields).map (·.1) ↔ none ∉ fields.map (·.1) := by simp
      rw [hkeys]
      cases hslot : slots.find? (·.part.name == key) with
      | none =>
        have hknown : known slots ((some key, d) :: fields) = known slots fields := by
          simp [known, hslot]
        rw [hknown, readTable_cons_unknown hslot]
        exact ih
      | some s =>
        obtain rfl : s.part.name = key := by simpa using List.find?_some hslot
        have hknown : known slots ((some s.part.name, d) :: fields) =
            (s, d) :: known slots fields := by
          simp [known, hslot]
        rw [hknown, readTable_cons_known hslot, List.map_cons, List.nodup_cons,
          List.forall_mem_cons, assign_cons_eq_ok_iff]
        by_cases hseen : s.part.name ∈ seen
        · rw [if_pos hseen]
          exact iff_of_false (fun h => by cases h) fun h => h.2.2.1.1 hseen
        simp only [if_neg hseen, bind_eq_ok_iff, map_eq_ok_iff, exists_exists_and_eq_and, ih,
          unseen_cons_iff]
        constructor
        · rintro ⟨v, hv, hvalid, honce, ⟨hnew, hunseen⟩, h⟩
          exact ⟨hvalid, ⟨hnew, honce⟩, ⟨hseen, hunseen⟩, v, hv, h⟩
        · rintro ⟨hvalid, ⟨hnew, honce⟩, ⟨-, hunseen⟩, v, hv, h⟩
          exact ⟨v, hv, hvalid, honce, ⟨hnew, hunseen⟩, h⟩

end

/-! ## Records -/

/-- What goes into the slots of a layout, by name. -/
theorem entries_table_eq_map (slots : List (Slot α)) (fields : List (Option String × Datum)) :
    entries (slots.map (·.part.name)) (.table fields) =
      (known slots fields).map fun x => (x.1.part.name, x.2) := by
  rw [entries, known, List.map_filterMap]
  refine congrArg (fun f => fields.filterMap f) (funext fun field => ?_)
  cases field.1 with
  | none => rfl
  | some key =>
    cases hslot : slots.find? (·.part.name == key) with
    | none =>
      have hout : key ∉ slots.map (·.part.name) := by
        rintro hin
        obtain ⟨s, hs, hname⟩ := List.mem_map.mp hin
        exact List.find?_eq_none.mp hslot s hs (beq_iff_eq.mpr hname)
      simp only [Option.bind_some, hslot, Option.map_none, if_neg hout]
    | some s =>
      obtain rfl : s.part.name = key := by simpa using List.find?_some hslot
      have hin : s.part.name ∈ slots.map (·.part.name) :=
        List.mem_map_of_mem (List.mem_of_find?_eq_some hslot)
      simp only [Option.bind_some, hslot, Option.map_some, if_pos hin]

/-- The items of a list are entries under the names of the slots, in their order. -/
theorem entries_list_eq_map (slots : List (Slot α)) (items : List Datum) :
    entries (slots.map (·.part.name)) (.list items) =
      (slots.zip items).map fun x => (x.1.part.name, x.2) := by
  rw [entries, List.zip_map_left]
  rfl

namespace Layout

variable (L : Layout α ρ) {draft a : α}

/-- The parts that have slots. -/
def parts : List (Part α) := L.slots.map (·.part)

/-- Assigning entries of a layout makes the record that they spell. -/
theorem assign_iff {pairs : List (Slot α × Datum)} (hslots : ∀ x ∈ pairs, x.1 ∈ L.slots)
    (honce : (pairs.map (·.1.part.name)).Nodup) : assign draft pairs = .ok a ↔
      ((∀ p ∈ L.parts, ∀ v,
          (p.name, v) ∈ pairs.map (fun x => (x.1.part.name, x.2)) → p.Means v (p.get a)) ∧
        ∀ p ∈ L.parts, p.name ∉ (pairs.map fun x => (x.1.part.name, x.2)).map (·.1) →
            p.get a = p.get draft) ∧ L.rest a = L.rest draft := by
  have hnames : (pairs.map fun x => (x.1.part.name, x.2)).map (·.1) =
      pairs.map (·.1.part.name) := by
    rw [List.map_map]
    rfl
  rw [assign_eq_ok_iff L hslots honce, hnames, parts, List.forall_mem_map, List.forall_mem_map,
    and_assoc]
  refine and_congr ⟨fun h s hs v hv => ?_, fun h x hx => ?_⟩ Iff.rfl
  · obtain ⟨x, hx, heq⟩ := List.mem_map.mp hv
    obtain ⟨hname, rfl⟩ := Prod.mk.inj heq
    obtain rfl : x.1 = s := List.inj_on_of_nodup_map L.distinct (hslots x hx) hs hname
    exact h x hx
  · exact h x.1 (hslots x hx) x.2 (List.mem_map.mpr ⟨x, hx, rfl⟩)

/-- **Records are read by their parts.**  A datum is read into a draft exactly if it spells the
record, with what the draft has for all that is not given, and what is no part of the record stays
as it is. -/
theorem readRecord_eq_ok_iff {surplus : Bool} {d : Datum} :
    d.readRecord surplus (L.slots.map Slot.reader) draft = .ok a ↔
      Records surplus L.parts draft d a ∧ L.rest a = L.rest draft := by
  have hnames : L.parts.map (·.name) = L.slots.map (·.part.name) := by
    rw [parts, List.map_map]
    rfl
  have hrecords : Records surplus L.parts draft d a ↔
      Shaped surplus (L.slots.map (·.part.name)) d ∧
      (∀ p ∈ L.parts, ∀ v,
        (p.name, v) ∈ entries (L.slots.map (·.part.name)) d → p.Means v (p.get a)) ∧
      ∀ p ∈ L.parts, p.name ∉ (entries (L.slots.map (·.part.name)) d).map (·.1) →
        p.get a = p.get draft := by
    rw [← hnames]
    exact ⟨fun h => ⟨h.shaped, h.given, h.absent⟩, fun h => ⟨h.1, h.2.1, h.2.2⟩⟩
  rw [hrecords]
  -- A table gives its entries by name, a list by position; both come to one assignment of slots.
  cases d with
  | table fields =>
    have hslots : ∀ x ∈ known L.slots fields, x.1 ∈ L.slots := by
      intro x hx
      obtain ⟨field, -, hfield⟩ := List.mem_filterMap.mp hx
      obtain ⟨key, -, hkey⟩ := Option.bind_eq_some_iff.mp hfield
      obtain ⟨s, hs, rfl⟩ := Option.map_eq_some_iff.mp hkey
      exact List.mem_of_find?_eq_some hs
    have hshaped : Shaped surplus (L.slots.map (·.part.name)) (.table fields) ↔
        none ∉ fields.map (·.1) ∧ ((known L.slots fields).map (·.1.part.name)).Nodup := by
      rw [Shaped, entries_table_eq_map, List.map_map]
      rfl
    rw [readRecord, Datum.readTable_eq_ok_iff, hshaped, entries_table_eq_map]
    constructor
    · rintro ⟨hvalid, honce, -, h⟩
      obtain ⟨hparts, hrest⟩ := (L.assign_iff hslots honce).mp h
      exact ⟨⟨⟨hvalid, honce⟩, hparts⟩, hrest⟩
    · rintro ⟨⟨⟨hvalid, honce⟩, hparts⟩, hrest⟩
      exact ⟨hvalid, honce, fun _ _ => List.not_mem_nil,
        (L.assign_iff hslots honce).mpr ⟨hparts, hrest⟩⟩
  | list items =>
    have hslots : ∀ x ∈ L.slots.zip items, x.1 ∈ L.slots := fun x hx => (List.of_mem_zip hx).1
    have honce : ((L.slots.zip items).map (·.1.part.name)).Nodup := by
      have hsub : ((L.slots.zip items).map Prod.fst).Sublist L.slots := by
        rw [List.zip_eq_zip_take_min, List.map_fst_zip (by simp)]
        exact List.take_sublist _ _
      have honce := L.distinct.sublist (hsub.map (·.part.name))
      rwa [List.map_map] at honce
    rw [readRecord, readRow_eq_ok_iff, Shaped, entries_list_eq_map, List.length_map,
      L.assign_iff hslots honce]
    exact and_assoc.symm
  | _ => exact iff_of_false (fun h => by cases h) fun h => h.1.1.elim

/-- A record with nothing but its parts is what the datum spells. -/
theorem readWhole_eq_ok_iff (K : Layout α Unit) {surplus : Bool} {d : Datum} :
    d.readRecord surplus (K.slots.map Slot.reader) draft = .ok a ↔
      Records surplus K.parts draft d a :=
  K.readRecord_eq_ok_iff.trans (and_iff_left rfl)

theorem readTable_eq_ok_iff {surplus : Bool} {fields : List (Option String × Datum)} :
    readTable (L.slots.map Slot.reader) [] draft fields = .ok a ↔
      Records surplus L.parts draft (.table fields) a ∧ L.rest a = L.rest draft := by
  rw [← L.readRecord_eq_ok_iff]
  rfl

end Layout

/-! ## Tables -/

section

variable {surplus : Bool} {names : List String} {fields : List (Option String × Datum)} {a : α}

/-- The entries of a table are its fields with known names. -/
theorem mem_entries_table {name : String} {v : Datum} :
    (name, v) ∈ entries names (.table fields) ↔ name ∈ names ∧ (some name, v) ∈ fields := by
  rw [entries, List.mem_filterMap]
  constructor
  · rintro ⟨⟨key, d⟩, hfield, hentry⟩
    obtain ⟨known, rfl, hknown⟩ := Option.bind_eq_some_iff.mp hentry
    split at hknown
    · rename_i hin
      cases hknown
      exact ⟨hin, hfield⟩
    · cases hknown
  · rintro ⟨hin, hfield⟩
    exact ⟨_, hfield, if_pos hin⟩

/-- The names of the entries are the known keys of the table, in its order. -/
theorem map_fst_entries_table : (entries names (.table fields)).map (·.1) =
    (fields.filterMap (·.1)).filter (· ∈ names) := by
  rw [entries]
  induction fields with
  | nil => rfl
  | cons field fields ih =>
    obtain ⟨key, d⟩ := field
    cases key with
    | none => exact ih
    | some key =>
      by_cases hin : key ∈ names
      · simp [hin, ih]
      · simp [hin, ih]

theorem count_filterMap_fst (name : String) :
    (fields.filterMap (·.1)).count name = (fields.map (·.1)).count (some name) := by
  induction fields with
  | nil => rfl
  | cons field fields ih =>
    obtain ⟨key, d⟩ := field
    cases key with
    | none => simpa using ih
    | some key => simp [List.count_cons, ih]

/-- A table has the shape of a record if its keys are valid and none of the known ones comes
twice. -/
theorem shaped_table_iff : Shaped surplus names (.table fields) ↔
    none ∉ fields.map (·.1) ∧ ∀ name ∈ names, (fields.map (·.1)).count (some name) ≤ 1 := by
  rw [Shaped, map_fst_entries_table, List.nodup_iff_count_le_one]
  refine and_congr Iff.rfl ⟨fun h name hin => ?_, fun h name => ?_⟩
  · have hname := h name
    rwa [List.count_filter (by simpa using hin), count_filterMap_fst] at hname
  · by_cases hin : name ∈ names
    · rw [List.count_filter (by simpa using hin), count_filterMap_fst]
      exact h name hin
    · rw [List.count_eq_zero.mpr fun hmem => hin (by simpa using (List.mem_filter.mp hmem).2)]
      exact Nat.zero_le 1

/-- A part has the value that the fields of a table give for it, once at most, or that of
`standard`. -/
def Part.Settled (p : Part α) (standard : α) (fields : List (Option String × Datum)) (a : α) :
    Prop :=
  (fields.map (·.1)).count (some p.name) ≤ 1 ∧
    (∀ v, (some p.name, v) ∈ fields → p.Means v (p.get a)) ∧
    ((∀ v, (some p.name, v) ∉ fields) → p.get a = p.get standard)

/-- A record is what a table spells if each of its parts is settled. -/
theorem records_table_iff {parts : List (Part α)} {standard : α} :
    Records surplus parts standard (.table fields) a ↔
      none ∉ fields.map (·.1) ∧ ∀ p ∈ parts, p.Settled standard fields a := by
  have hmem : ∀ p ∈ parts, p.name ∈ parts.map (·.name) := fun p hp => List.mem_map_of_mem hp
  -- A part is missing among the entries exactly if the table has no field of its name.
  have hout : ∀ p ∈ parts, p.name ∉ (entries (parts.map (·.name)) (.table fields)).map (·.1) ↔
      ∀ v, (some p.name, v) ∉ fields := by
    intro p hp
    constructor
    · intro h v hv
      exact h (List.mem_map.mpr ⟨_, mem_entries_table.mpr ⟨hmem p hp, hv⟩, rfl⟩)
    · intro h hin
      obtain ⟨⟨name, v⟩, hentry, rfl⟩ := List.mem_map.mp hin
      exact h v (mem_entries_table.mp hentry).2
  constructor
  · rintro ⟨hshaped, hgiven, habsent⟩
    obtain ⟨hvalid, honce⟩ := shaped_table_iff.mp hshaped
    refine ⟨hvalid, fun p hp => ⟨honce _ (hmem p hp), fun v hv => ?_, fun hnone => ?_⟩⟩
    · exact hgiven p hp v (mem_entries_table.mpr ⟨hmem p hp, hv⟩)
    · exact habsent p hp ((hout p hp).mpr hnone)
  · rintro ⟨hvalid, hparts⟩
    refine ⟨shaped_table_iff.mpr ⟨hvalid, ?_⟩, fun p hp v hv => ?_, fun p hp hnone => ?_⟩
    · intro name hname
      obtain ⟨p, hp, rfl⟩ := List.mem_map.mp hname
      exact (hparts p hp).1
    · exact (hparts p hp).2.1 v (mem_entries_table.mp hv).2
    · exact (hparts p hp).2.2 ((hout p hp).mp hnone)

/-- The order of fields does not matter for the record that they spell. -/
theorem records_perm {parts : List (Part α)} {standard : α} {fields' : List (Option String × Datum)}
    (h : fields.Perm fields') (hrecords : Records surplus parts standard (.table fields) a) :
    Records surplus parts standard (.table fields') a := by
  obtain ⟨hvalid, hparts⟩ := records_table_iff.mp hrecords
  refine records_table_iff.mpr ⟨fun hnone => hvalid ((h.map _).mem_iff.mpr hnone), fun p hp => ?_⟩
  obtain ⟨honce, hgiven, habsent⟩ := hparts p hp
  have hcount := (h.map (·.1)).count_eq (some p.name)
  refine ⟨hcount ▸ honce, fun v hv => hgiven v (h.mem_iff.mpr hv), fun hnone => ?_⟩
  exact habsent fun v hv => hnone v (h.mem_iff.mp hv)

end

/-! ## Two records in one table -/

section

variable {surplus : Bool} {fields : List (Option String × Datum)} {standard a b : α}

/-- What a datum spells of a record is only about its parts. -/
theorem records_congr {parts : List (Part α)} {d : Datum} (h : ∀ p ∈ parts, p.get a = p.get b) :
    Records surplus parts standard d a ↔ Records surplus parts standard d b := by
  constructor
  · rintro ⟨hshaped, hgiven, habsent⟩
    exact ⟨hshaped, fun p hp v hv => h p hp ▸ hgiven p hp v hv,
      fun p hp hnone => (h p hp).symm.trans (habsent p hp hnone)⟩
  · rintro ⟨hshaped, hgiven, habsent⟩
    exact ⟨hshaped, fun p hp v hv => h p hp ▸ hgiven p hp v hv,
      fun p hp hnone => (h p hp).trans (habsent p hp hnone)⟩

/-- The parts of a record and those of a record in it may stand in one table. -/
theorem records_within_append_iff {inner : List (Part ρ)} {outer : List (Part α)} {f : α → ρ} :
    Records surplus (inner.map (·.within f) ++ outer) standard (.table fields) a ↔
      Records surplus inner (f standard) (.table fields) (f a) ∧
        Records surplus outer standard (.table fields) a := by
  have hinner : (∀ p ∈ inner.map (·.within f), p.Settled standard fields a) ↔
      ∀ p ∈ inner, p.Settled (f standard) fields (f a) := List.forall_mem_map
  rw [records_table_iff, records_table_iff, records_table_iff, List.forall_mem_append, hinner]
  constructor
  · rintro ⟨hvalid, hin, hout⟩
    exact ⟨⟨hvalid, hin⟩, hvalid, hout⟩
  · rintro ⟨⟨hvalid, hin⟩, -, hout⟩
    exact ⟨hvalid, hin, hout⟩

/-- **A table may be read twice.**  Where the parts of a record stand beside those of a record in
it, reading the table once for each of them and putting the one into the other reads the whole. -/
theorem readTables_eq_ok_iff (L : Layout α ρ) (K : Layout ρ Unit) (put : α → ρ → α)
    (hget : ∀ p ∈ L.parts, ∀ a r, p.get (put a r) = p.get a) (hrest : ∀ a r, L.rest (put a r) = r) :
    (do
      let x ← readTable (L.slots.map Slot.reader) [] standard fields
      let r ← readTable (K.slots.map Slot.reader) [] (L.rest standard) fields
      return put x r : Reading α) = .ok a ↔
    Records surplus (K.parts.map (·.within L.rest) ++ L.parts) standard (.table fields) a := by
  have houter : ∀ x, readTable (L.slots.map Slot.reader) [] standard fields = .ok x ↔
      Records surplus L.parts standard (.table fields) x ∧ L.rest x = L.rest standard := by
    intro x
    exact L.readTable_eq_ok_iff
  have hinner : ∀ r, readTable (K.slots.map Slot.reader) [] (L.rest standard) fields = .ok r ↔
      Records surplus K.parts (L.rest standard) (.table fields) r := by
    intro r
    exact K.readTable_eq_ok_iff.trans (and_iff_left rfl)
  have hput : (do
      let x ← readTable (L.slots.map Slot.reader) [] standard fields
      let r ← readTable (K.slots.map Slot.reader) [] (L.rest standard) fields
      return put x r : Reading α) = .ok a ↔
    ∃ x, readTable (L.slots.map Slot.reader) [] standard fields = .ok x ∧
      ∃ r, readTable (K.slots.map Slot.reader) [] (L.rest standard) fields = .ok r ∧
        put x r = a := by
    simp only [bind, bind_eq_ok_iff, pure, Except.pure, Except.ok.injEq]
  rw [hput, records_within_append_iff]
  constructor
  · rintro ⟨x, hx, r, hr, rfl⟩
    rw [hrest, records_congr fun p hp => hget p hp x r]
    exact ⟨(hinner r).mp hr, ((houter x).mp hx).1⟩
  · rintro ⟨hr, hx⟩
    -- the first reading leaves the inner record as it is in `standard`
    refine ⟨put a (L.rest standard), (houter _).mpr ⟨?_, hrest a _⟩, L.rest a, (hinner _).mpr hr,
      ?_⟩
    · rwa [records_congr fun p hp => hget p hp a _]
    · refine L.ext _ _ (fun s hs => ?_) (hrest _ _)
      have hs : s.part ∈ L.parts := List.mem_map_of_mem hs
      rw [hget _ hs, hget _ hs]

end

end Datum

end CommandRelay
