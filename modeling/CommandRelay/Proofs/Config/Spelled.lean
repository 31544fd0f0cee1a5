import CommandRelay.Config.Record
import CommandRelay.Proofs.Config.Layout

/-!
# What a configuration file says

A configuration is read from data exactly if the data spell it (`Config.read_eq_ok_iff`): every part
that is given has the value that is spelled, and every other one its default, in the configuration
itself, its links, their connections, and the devices with their commands.

1. **Values** — what data mean as texts, numbers, lists and topics, and that they are read so.
2. **Devices** — names and services have no default, so drafts of devices and commands have none
   either: a device is spelled if the draft is that has everything (`Device.draft`).
3. **Links** — the parts of a connection stand beside those of its link, in one table.
-/

namespace CommandRelay

open Datum (Part Slot Layout Records)

/-! ## Values -/

/-- The values of a type stand for the natural numbers below `limit`. -/
structure Word (limit : Nat) {β : Type} (ofNat : Nat → β) (toNat : β → Nat) : Prop where
  toNat_ofNat : ∀ n < limit, toNat (ofNat n) = n
  ofNat_toNat : ∀ v, ofNat (toNat v) = v
  toNat_lt : ∀ v, toNat v < limit

theorem word16 : Word UInt16.size UInt16.ofNat UInt16.toNat :=
  ⟨fun _ => UInt16.toNat_ofNat_of_lt', fun _ => UInt16.ofNat_toNat, UInt16.toNat_lt⟩

theorem word64 : Word UInt64.size UInt64.ofNat UInt64.toNat :=
  ⟨fun _ => UInt64.toNat_ofNat_of_lt', fun _ => UInt64.ofNat_toNat, UInt64.toNat_lt⟩

namespace Datum

variable {d : Datum}

/-- A datum is a text. -/
def IsText (d : Datum) (s : String) : Prop := d = .text s

/-- A datum is the text that a value is, which may be left out elsewhere. -/
def IsSomeText (d : Datum) (s? : Option String) : Prop := ∃ s, d.IsText s ∧ s? = some s

/-- A datum is a boolean. -/
def IsBool (d : Datum) (b : Bool) : Prop := d = .bool b

/-- A datum is a natural number. -/
def IsNat (d : Datum) (n : Nat) : Prop := d = .int n

/-- A datum is a list of what its items mean. -/
def IsList {β : Type} (Means : Datum → β → Prop) (d : Datum) (vs : List β) : Prop :=
  ∃ items, d = .list items ∧ List.Forall₂ Means items vs

/-- A datum is a table of texts. -/
def IsTexts (d : Datum) (entries : List (String × String)) : Prop :=
  d = .table (entries.map fun e => (some e.1, .text e.2))

theorem readText_eq_ok_iff {s : String} : d.readText = .ok s ↔ d.IsText s := by
  cases d <;> simp [readText, IsText]

theorem readSome_eq_ok_iff {s? : Option String} :
    some <$> d.readText = .ok s? ↔ d.IsSomeText s? := by
  show d.readText.map some = .ok s? ↔ _
  rw [map_eq_ok_iff]
  simp only [readText_eq_ok_iff]
  exact exists_congr fun s => and_congr_right fun _ => eq_comm

theorem map_readSome {α : Type} (f : Option String → α) :
    (some <$> d.readText).map f = d.readText.map fun s => f (some s) := by
  cases d.readText <;> rfl

theorem readBool_eq_ok_iff {b : Bool} : d.readBool = .ok b ↔ d.IsBool b := by
  cases d <;> simp [readBool, IsBool]

/-- A number is read if it is not negative and below its limit. -/
theorem readNat_eq_ok_iff {limit n : Nat} : d.readNat limit = .ok n ↔ n < limit ∧ d.IsNat n := by
  cases d with
  | int k =>
    simp only [readNat, IsNat, Datum.int.injEq]
    constructor
    · intro h
      split at h
      · cases h
        omega
      · cases h
    · rintro ⟨hlimit, rfl⟩
      rw [if_pos (by omega), Int.toNat_natCast]
  | _ => simp [readNat, IsNat]

/-- A word is read as the number that it holds. -/
theorem readWord_eq_ok_iff {β : Type} {limit : Nat} {ofNat : Nat → β} {toNat : β → Nat}
    (hword : Word limit ofNat toNat) {v : β} :
    (d.readNat limit).map ofNat = .ok v ↔ d.IsNat (toNat v) := by
  rw [map_eq_ok_iff]
  simp only [readNat_eq_ok_iff]
  constructor
  · rintro ⟨n, ⟨hn, hd⟩, rfl⟩
    rwa [hword.toNat_ofNat n hn]
  · intro hd
    exact ⟨toNat v, ⟨hword.toNat_lt v, hd⟩, hword.ofNat_toNat v⟩

/-- A list is read if each of its items is, one by one. -/
theorem mapM_eq_ok_iff {β : Type} {item : Datum → Reading β} {items : List Datum} {vs : List β} :
    items.mapM item = .ok vs ↔ List.Forall₂ (fun d v => item d = .ok v) items vs := by
  induction items generalizing vs with
  | nil =>
    rw [List.mapM_nil, List.forall₂_nil_left_iff]
    exact ⟨fun h => (Except.ok.inj h).symm, fun h => h ▸ rfl⟩
  | cons d items ih =>
    rw [List.mapM_cons, List.forall₂_cons_left_iff]
    show (item d).bind (fun v => (items.mapM item).bind fun us => .ok (v :: us)) = .ok vs ↔ _
    simp only [bind_eq_ok_iff, ih, Except.ok.injEq]
    constructor
    · rintro ⟨v, hv, us, hus, rfl⟩
      exact ⟨v, us, hv, hus, rfl⟩
    · rintro ⟨v, us, hv, hus, rfl⟩
      exact ⟨v, hv, us, hus, rfl⟩

/-- A list is read as the values that its items mean. -/
theorem readList_eq_ok_iff {β : Type} {item : Datum → Reading β} {Means : Datum → β → Prop}
    (hitem : ∀ d v, item d = .ok v ↔ Means d v) {vs : List β} :
    d.readList item = .ok vs ↔ d.IsList Means vs := by
  have hmeans : (fun d v => item d = .ok v) = Means := funext₂ fun d v => propext (hitem d v)
  cases d with
  | list items =>
    rw [readList, mapM_eq_ok_iff, hmeans]
    constructor
    · intro h
      exact ⟨items, rfl, h⟩
    · rintro ⟨_, heq, h⟩
      cases heq
      exact h
  | _ => simp [readList, IsList]

/-- Entries are read if the fields are texts under valid keys, all of them and in their order. -/
theorem readTexts_eq_ok_iff {fields : List (Option String × Datum)}
    {entries : List (String × String)} :
    readTexts fields = .ok entries ↔ fields = entries.map fun e => (some e.1, .text e.2) := by
  induction fields generalizing entries with
  | nil => cases entries <;> simp [readTexts]
  | cons field fields ih =>
    obtain ⟨key, d⟩ := field
    cases key with
    | none => cases entries <;> simp [readTexts]
    | some key =>
      simp only [readTexts, bind, bind_eq_ok_iff, ih, readText_eq_ok_iff, IsText]
      constructor
      · rintro ⟨s, rfl, rest, rfl, h⟩
        cases h
        rfl
      · cases entries with
        | nil => simp
        | cons e entries =>
          intro h
          obtain ⟨hfield, rfl⟩ := List.cons.inj h
          cases hfield
          exact ⟨e.2, rfl, entries, rfl, rfl⟩

theorem readTextFields_eq_ok_iff {entries : List (String × String)} :
    d.readTextFields = .ok entries ↔ d.IsTexts entries := by
  cases d with
  | table fields => rw [readTextFields, readTexts_eq_ok_iff, IsTexts, Datum.table.injEq]
  | _ => simp [readTextFields, IsTexts]

end Datum

/-- A datum is the number of a quality of service. -/
def Qos.Spells (d : Datum) (q : Qos) : Prop := d.IsNat q.level

/-- A level of delivery is read as the level of that number. -/
theorem Qos.ofLevel_eq_ok_iff {n : Nat} {q : Qos} : ofLevel n = .ok q ↔ n = q.level := by
  constructor
  · intro h
    rcases n with _ | _ | _ | n <;> cases h <;> rfl
  · rintro rfl
    exact ofLevel_level q

/-- A datum is read as the level of delivery that it spells. -/
theorem Qos.read_eq_ok_iff {d : Datum} {q : Qos} : Qos.read d = .ok q ↔ Qos.Spells d q := by
  have hmeaning : ∀ x : Except Fault Qos, x.mapError Refusal.meaning = .ok q ↔ x = .ok q := by
    intro x
    cases x <;> simp [Except.mapError]
  have hread : Qos.read d =
      (d.readNat UInt8.size).bind fun n => (ofLevel n).mapError Refusal.meaning := by
    refine congrArg (d.readNat UInt8.size).bind (funext fun n => ?_)
    cases ofLevel n <;> rfl
  simp only [hread, bind_eq_ok_iff, Datum.readNat_eq_ok_iff, hmeaning, ofLevel_eq_ok_iff]
  constructor
  · rintro ⟨_, ⟨-, hd⟩, rfl⟩
    exact hd
  · intro hd
    exact ⟨q.level, ⟨by cases q <;> decide, hd⟩, rfl⟩

namespace Config

theorem readUInt16_eq_ok_iff {d : Datum} {n : UInt16} : readUInt16 d = .ok n ↔ d.IsNat n.toNat :=
  Datum.readWord_eq_ok_iff word16

theorem readUInt64_eq_ok_iff {d : Datum} {n : UInt64} : readUInt64 d = .ok n ↔ d.IsNat n.toNat :=
  Datum.readWord_eq_ok_iff word64

/-- A datum is a table of topics under their keys; of two topics for one key the later one
counts. -/
def SpellsTopics (d : Datum) (topics : TopicMap) : Prop :=
  ∃ entries, d.IsTexts entries ∧ topics = .ofList entries

theorem readTopics_eq_ok_iff {d : Datum} {topics : TopicMap} :
    readTopics d = .ok topics ↔ SpellsTopics d topics := by
  show d.readTextFields.map TopicMap.ofList = .ok topics ↔ _
  rw [map_eq_ok_iff]
  simp only [Datum.readTextFields_eq_ok_iff]
  exact exists_congr fun entries => and_congr_right fun _ => eq_comm

end Config

/-! ## Devices -/

namespace Command

/-- The slots of a command. -/
def Draft.slots : List (Slot Draft) :=
  [⟨⟨"name", Option String, Datum.IsSomeText, (·.name)⟩, fun c v => { c with name := v },
      fun d => some <$> d.readText,
      fun _ _ => Datum.readSome_eq_ok_iff, fun _ _ => rfl⟩,
   ⟨⟨"get", Bool, Datum.IsBool, (·.get)⟩, fun c v => { c with get := v }, Datum.readBool,
      fun _ _ => Datum.readBool_eq_ok_iff, fun _ _ => rfl⟩,
   ⟨⟨"set", Bool, Datum.IsBool, (·.set)⟩, fun c v => { c with set := v }, Datum.readBool,
      fun _ _ => Datum.readBool_eq_ok_iff, fun _ _ => rfl⟩]

/-- A draft of a command is nothing but its slots. -/
def Draft.layout : Layout Draft Unit where
  slots := slots
  rest _ := ()
  distinct := by decide
  apart := by simp [slots]
  rest_set _ _ _ _ := rfl
  ext a b h _ := by
    cases a; cases b
    simpa [slots] using h

theorem Draft.fields_eq : fields = Draft.slots.map Slot.reader := by
  simp only [Draft.slots, List.map_cons, List.map_nil, Slot.reader, Datum.map_readSome]
  rfl

/-- The draft that a command is made of; it has a name. -/
def draft (c : Command) : Draft := { name := some c.name, get := c.get, set := c.set }

/-- A datum spells a command. -/
def Spells (surplus : Bool) (d : Datum) (c : Command) : Prop :=
  Records surplus Draft.layout.parts {} d c.draft

/-- A datum is read as the command that it spells. -/
theorem read_eq_ok_iff {surplus : Bool} {d : Datum} {c : Command} :
    read surplus d = .ok c ↔ Spells surplus d c := by
  have hdraft : d.readRecord surplus fields {} = .ok c.draft ↔ Spells surplus d c := by
    rw [Draft.fields_eq]
    exact Draft.layout.readWhole_eq_ok_iff
  rw [← hdraft]
  show (d.readRecord surplus fields {}).bind _ = .ok c ↔ _
  rw [bind_eq_ok_iff]
  constructor
  · rintro ⟨⟨_ | name, get, set⟩, hx, hc⟩
    · cases hc
    · cases hc
      exact hx
  · intro h
    exact ⟨c.draft, h, rfl⟩

end Command

namespace Device

/-- The slots of a device. -/
def Draft.slots (surplus : Bool) : List (Slot Draft) :=
  [⟨⟨"name", Option String, Datum.IsSomeText, (·.name)⟩, fun x v => { x with name := v },
      fun d => some <$> d.readText,
      fun _ _ => Datum.readSome_eq_ok_iff, fun _ _ => rfl⟩,
   ⟨⟨"service", Option String, Datum.IsSomeText, (·.service)⟩,
      fun x v => { x with service := v }, fun d => some <$> d.readText,
      fun _ _ => Datum.readSome_eq_ok_iff, fun _ _ => rfl⟩,
   ⟨⟨"profile", String, Datum.IsText, (·.profile)⟩, fun x v => { x with profile := v },
      Datum.readText, fun _ _ => Datum.readText_eq_ok_iff, fun _ _ => rfl⟩,
   ⟨⟨"commands", List Command, Datum.IsList (Command.Spells surplus), (·.commands)⟩,
      fun x v => { x with commands := v }, Datum.readList (Command.read surplus),
      fun _ _ => Datum.readList_eq_ok_iff fun _ _ => Command.read_eq_ok_iff, fun _ _ => rfl⟩]

/-- A draft of a device is nothing but its slots. -/
def Draft.layout (surplus : Bool) : Layout Draft Unit where
  slots := slots surplus
  rest _ := ()
  distinct := by simp [slots]
  apart := by simp [slots]
  rest_set _ _ _ _ := rfl
  ext a b h _ := by
    cases a; cases b
    simpa [slots] using h

theorem Draft.fields_eq (surplus : Bool) :
    fields surplus = (Draft.slots surplus).map Slot.reader := by
  simp only [Draft.slots, List.map_cons, List.map_nil, Slot.reader, Datum.map_readSome]
  rfl

/-- The draft that a device is made of; it has a name and a service. -/
def draft (v : Device) : Draft :=
  { name := some v.name, service := some v.service, profile := v.profile, commands := v.commands }

/-- A datum spells a device. -/
def Spells (surplus : Bool) (d : Datum) (v : Device) : Prop :=
  Records surplus (Draft.layout surplus).parts {} d v.draft

/-- A datum is read as the device that it spells. -/
theorem read_eq_ok_iff {surplus : Bool} {d : Datum} {v : Device} :
    read surplus d = .ok v ↔ Spells surplus d v := by
  have hdraft : d.readRecord surplus (fields surplus) {} = .ok v.draft ↔ Spells surplus d v := by
    rw [Draft.fields_eq]
    exact (Draft.layout surplus).readWhole_eq_ok_iff
  rw [← hdraft]
  show (d.readRecord surplus (fields surplus) {}).bind _ = .ok v ↔ _
  rw [bind_eq_ok_iff]
  constructor
  · rintro ⟨⟨_ | name, _ | service, profile, commands⟩, hx, hv⟩
    · cases hv
    · cases hv
    · cases hv
    · cases hv
      exact hx
  · intro h
    exact ⟨v.draft, h, rfl⟩

end Device

namespace Config

/-! ## Links -/

/-- The slots of a connection. -/
def Connection.slots : List (Slot Connection) :=
  [⟨⟨"host", String, Datum.IsText, (·.host)⟩, fun c v => { c with host := v }, Datum.readText,
      fun _ _ => Datum.readText_eq_ok_iff, fun _ _ => rfl⟩,
   ⟨⟨"port", UInt16, fun d n => d.IsNat n.toNat, (·.port)⟩, fun c v => { c with port := v },
      readUInt16, fun _ _ => readUInt16_eq_ok_iff, fun _ _ => rfl⟩,
   ⟨⟨"client_id", String, Datum.IsText, (·.clientId)⟩, fun c v => { c with clientId := v },
      Datum.readText, fun _ _ => Datum.readText_eq_ok_iff, fun _ _ => rfl⟩,
   ⟨⟨"keep_alive_secs", UInt64, fun d n => d.IsNat n.toNat, (·.keepAliveSecs)⟩,
      fun c v => { c with keepAliveSecs := v }, readUInt64, fun _ _ => readUInt64_eq_ok_iff,
      fun _ _ => rfl⟩,
   ⟨⟨"username", String, Datum.IsText, (·.username)⟩, fun c v => { c with username := v },
      Datum.readText, fun _ _ => Datum.readText_eq_ok_iff, fun _ _ => rfl⟩,
   ⟨⟨"password", String, Datum.IsText, (·.password)⟩, fun c v => { c with password := v },
      Datum.readText, fun _ _ => Datum.readText_eq_ok_iff, fun _ _ => rfl⟩]

/-- A connection is nothing but its slots. -/
def Connection.layout : Layout Connection Unit where
  slots := slots
  rest _ := ()
  distinct := by decide
  apart := by simp [slots]
  rest_set _ _ _ _ := rfl
  ext a b h _ := by
    cases a; cases b
    simpa [slots] using h

/-- The slots of the external link. -/
def External.slots : List (Slot External) :=
  [⟨⟨"qos", Qos, Qos.Spells, (·.qos)⟩, fun x v => { x with qos := v }, Qos.read,
      fun _ _ => Qos.read_eq_ok_iff, fun _ _ => rfl⟩,
   ⟨⟨"retain", Bool, Datum.IsBool, (·.retain)⟩, fun x v => { x with retain := v }, Datum.readBool,
      fun _ _ => Datum.readBool_eq_ok_iff, fun _ _ => rfl⟩,
   ⟨⟨"fallback_topic", Option String, Datum.IsSomeText, (·.fallbackTopic)⟩,
      fun x v => { x with fallbackTopic := v }, fun d => some <$> d.readText,
      fun _ _ => Datum.readSome_eq_ok_iff, fun _ _ => rfl⟩,
   ⟨⟨"topics", TopicMap, SpellsTopics, (·.topics)⟩, fun x v => { x with topics := v }, readTopics,
      fun _ _ => readTopics_eq_ok_iff, fun _ _ => rfl⟩]

/-- The external link is its slots and its connection. -/
def External.layout : Layout External Connection where
  slots := slots
  rest := (·.connection)
  distinct := by decide
  apart := by simp [slots]
  rest_set := by simp [slots]
  ext a b h hrest := by
    cases a; cases b
    simp_all [slots]

/-- The slots of the internal link. -/
def Internal.slots : List (Slot Internal) :=
  [⟨⟨"qos", Qos, Qos.Spells, (·.qos)⟩, fun x v => { x with qos := v }, Qos.read,
      fun _ _ => Qos.read_eq_ok_iff, fun _ _ => rfl⟩,
   ⟨⟨"topics", TopicMap, SpellsTopics, (·.topics)⟩, fun x v => { x with topics := v }, readTopics,
      fun _ _ => readTopics_eq_ok_iff, fun _ _ => rfl⟩]

/-- The internal link is its slots and its connection. -/
def Internal.layout : Layout Internal Connection where
  slots := slots
  rest := (·.connection)
  distinct := by decide
  apart := by simp [slots]
  rest_set := by simp [slots]
  ext a b h hrest := by
    cases a; cases b
    simp_all [slots]

/-- A datum spells the external link, its connection included: it is a table for both. -/
def External.Spells (d : Datum) (x : External) : Prop :=
  (∃ fields, d = .table fields) ∧
    Records true (Connection.layout.parts.map (·.within (·.connection)) ++ External.layout.parts)
      {} d x

/-- A datum spells the internal link, its connection included: it is a table for both. -/
def Internal.Spells (d : Datum) (x : Internal) : Prop :=
  (∃ fields, d = .table fields) ∧
    Records true (Connection.layout.parts.map (·.within (·.connection)) ++ Internal.layout.parts)
      {} d x

theorem externalFields_eq : externalFields = External.slots.map Slot.reader := by
  simp only [External.slots, List.map_cons, List.map_nil, Slot.reader, Datum.map_readSome]
  rfl

/-- A datum is read as the external link that it spells. -/
theorem readExternal_eq_ok_iff {d : Datum} {x : External} :
    readExternal d = .ok x ↔ External.Spells d x := by
  have hget : ∀ p ∈ External.layout.parts, ∀ (x : External) c,
      p.get { x with connection := c } = p.get x := by
    simp [Layout.parts, External.layout, External.slots]
  cases d with
  | table fields =>
    rw [readExternal, externalFields_eq, External.Spells, and_iff_right ⟨fields, rfl⟩]
    exact Datum.readTables_eq_ok_iff External.layout Connection.layout
      (fun x c => { x with connection := c }) hget fun _ _ => rfl
  | _ => simp [readExternal, External.Spells]

/-- A datum is read as the internal link that it spells. -/
theorem readInternal_eq_ok_iff {d : Datum} {x : Internal} :
    readInternal d = .ok x ↔ Internal.Spells d x := by
  have hget : ∀ p ∈ Internal.layout.parts, ∀ (x : Internal) c,
      p.get { x with connection := c } = p.get x := by
    simp [Layout.parts, Internal.layout, Internal.slots]
  cases d with
  | table fields =>
    rw [Internal.Spells, and_iff_right ⟨fields, rfl⟩]
    exact Datum.readTables_eq_ok_iff Internal.layout Connection.layout
      (fun x c => { x with connection := c }) hget fun _ _ => rfl
  | _ => simp [readInternal, Internal.Spells]

/-! ## Configurations -/

/-- The slots of a configuration. -/
def slots : List (Slot Config) :=
  [⟨⟨"request_timeout_ms", UInt64, fun d n => d.IsNat n.toNat, (·.requestTimeoutMs)⟩,
      fun c v => { c with requestTimeoutMs := v }, readUInt64, fun _ _ => readUInt64_eq_ok_iff,
      fun _ _ => rfl⟩,
   ⟨⟨"external_mqtt", External, External.Spells, (·.external)⟩,
      fun c v => { c with external := v }, readExternal, fun _ _ => readExternal_eq_ok_iff,
      fun _ _ => rfl⟩,
   ⟨⟨"message_bus", Internal, Internal.Spells, (·.internal)⟩,
      fun c v => { c with internal := v }, readInternal, fun _ _ => readInternal_eq_ok_iff,
      fun _ _ => rfl⟩,
   ⟨⟨"devices", List Device, Datum.IsList (Device.Spells true), (·.devices)⟩,
      fun c v => { c with devices := v }, Datum.readList (Device.read true),
      fun _ _ => Datum.readList_eq_ok_iff fun _ _ => Device.read_eq_ok_iff, fun _ _ => rfl⟩]

/-- A configuration is nothing but its slots. -/
def layout : Layout Config Unit where
  slots := slots
  rest _ := ()
  distinct := by decide
  apart := by simp [slots]
  rest_set _ _ _ _ := rfl
  ext a b h _ := by
    cases a; cases b
    simpa [slots] using h

/-- A datum spells a configuration: what it gives counts, and all else is as in a default
configuration. -/
def Spells (d : Datum) (c : Config) : Prop := Records true layout.parts {} d c

/-- **Configurations are read as they are spelled.** -/
theorem read_eq_ok_iff {d : Datum} {c : Config} : read d = .ok c ↔ Spells d c :=
  layout.readWhole_eq_ok_iff

end Config

end CommandRelay
