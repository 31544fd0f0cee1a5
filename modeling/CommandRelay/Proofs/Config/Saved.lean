import CommandRelay.Proofs.Config.Effective
import CommandRelay.Proofs.Envelope.Checking
import CommandRelay.Proofs.Toml.RoundTrip

/-!
# Configurations that are written

A table spells a record if it carries each of its parts: with its value, or not at all where that
value is the standard one (`records_of_carried`).  Each of the written tables carries the parts of
what it is written for, so a written configuration spells it (`spells_written`), and it is what is
read (`read_written`).  All written tables are tidy: no field comes twice, deeper tables come last,
and integers fit.  So the text of a written configuration is read as well (`ofText_render`).
-/

namespace CommandRelay

namespace Toml

/-! ## Tables that can be printed -/

/-- An orderly value in which tables lie no deeper than `n`. -/
def Tidy (n : Nat) (v : Toml) : Prop := Orderly v ∧ depth v ≤ n

/-- A tree that is tidy stays so where deeper ones may stand. -/
theorem Tidy.mono {m n : Nat} {v : Toml} (h : Tidy m v) (hle : m ≤ n) : Tidy n v :=
  ⟨h.1, h.2.trans hle⟩

theorem tidy_text (n : Nat) (s : String) : Tidy n (.text s) := ⟨trivial, Nat.zero_le n⟩

theorem tidy_bool (n : Nat) (b : Bool) : Tidy n (.bool b) := ⟨trivial, Nat.zero_le n⟩

theorem tidy_int (n : Nat) {k : Int} (h : Text.FitsSigned k) : Tidy n (.int k) :=
  ⟨h, Nat.zero_le n⟩

/-- A table of plain fields. -/
theorem tidy_plain {n : Nat} {fields : List (String × Toml)} (hnodup : (fields.map (·.1)).Nodup)
    (hplain : ∀ f ∈ fields, hasHeader f.2 = false) (h : ∀ f ∈ fields, Tidy n f.2) :
    Tidy (n + 1) (.table fields) := by
  refine ⟨⟨hnodup, ?_, orderlyFields_iff.mpr fun f hf => (h f hf).1⟩, ?_⟩
  · refine List.pairwise_of_forall_mem_list fun f hf _ _ hheader => ?_
    rw [hplain f hf] at hheader
    cases hheader
  · exact (fieldsDepth_lt_iff (Nat.succ_pos n)).mpr fun f hf => Nat.lt_succ_of_le (h f hf).2

/-- A table of plain fields and one more at its end. -/
theorem tidy_concat {n : Nat} {fields : List (String × Toml)} {last : String × Toml}
    (hnodup : ((fields ++ [last]).map (·.1)).Nodup)
    (hplain : ∀ f ∈ fields, hasHeader f.2 = false) (h : ∀ f ∈ fields ++ [last], Tidy n f.2) :
    Tidy (n + 1) (.table (fields ++ [last])) := by
  have hlast := List.forall_mem_append.mp h
  refine ⟨⟨hnodup, ?_, orderlyFields_iff.mpr fun f hf => (h f hf).1⟩, ?_⟩
  · refine List.pairwise_append.mpr ⟨?_, List.pairwise_singleton _ _, fun f hf _ _ hheader => ?_⟩
    · have hfront := hnodup.sublist ((List.sublist_append_left _ _).map _)
      exact (tidy_plain hfront hplain hlast.1).1.2.1
    · rw [hplain f hf] at hheader
      cases hheader
  · exact (fieldsDepth_lt_iff (Nat.succ_pos n)).mpr fun f hf => Nat.lt_succ_of_le (h f hf).2

/-- A list of tables. -/
theorem tidy_list {n : Nat} {items : List Toml} (h : ∀ v ∈ items, Tidy n v)
    (htable : ∀ v ∈ items, ∃ fields, v = .table fields) : Tidy n (.list items) := by
  induction items with
  | nil => exact ⟨trivial, Nat.zero_le n⟩
  | cons v items ih =>
    obtain ⟨hv, hitems⟩ := List.forall_mem_cons.mp h
    obtain ⟨⟨fields, rfl⟩, htables⟩ := List.forall_mem_cons.mp htable
    obtain ⟨horderly, hdepth⟩ := ih hitems htables
    exact ⟨⟨hv.1, horderly⟩, Nat.max_le.mpr ⟨hv.2, hdepth⟩⟩

theorem fieldData_eq_map (fields : List (String × Toml)) :
    fieldData fields = fields.map fun f => (some f.1, f.2.toDatum) := by
  induction fields with
  | nil => rfl
  | cons f fields ih => rw [fieldData, ih, List.map_cons]

theorem itemData_eq_map (items : List Toml) : itemData items = items.map toDatum := by
  induction items with
  | nil => rfl
  | cons v items ih => rw [itemData, ih, List.map_cons]

end Toml

namespace Datum

/-! ## Parts in a table -/

section

variable {α : Type} {p : Part α} {standard a : α} {fields more : List (String × Toml)}

/-- A part of a record stands in a table with its value, or it is left out and has the value that is
standard. -/
def Carried (p : Part α) (standard : α) (fields : List (String × Toml)) (a : α) : Prop :=
  (∃ v, (p.name, v) ∈ fields ∧ p.Means v.toDatum (p.get a)) ∨
    p.name ∉ fields.map (·.1) ∧ p.get a = p.get standard

/-- A table spells the record whose parts it carries. -/
theorem records_of_carried {surplus : Bool} {parts : List (Part α)}
    (hnodup : (fields.map (·.1)).Nodup) (h : ∀ p ∈ parts, Carried p standard fields a) :
    Records surplus parts standard (Toml.table fields).toDatum a := by
  -- The entries of the datum are the fields of the table, key by key.
  have hmem : ∀ {name d}, (some name, d) ∈ Toml.fieldData fields ↔
      ∃ v, (name, v) ∈ fields ∧ v.toDatum = d := by
    intro name d
    rw [Toml.fieldData_eq_map, List.mem_map]
    constructor
    · rintro ⟨⟨key, v⟩, hv, heq⟩
      obtain ⟨hkey, rfl⟩ := Prod.mk.inj heq
      obtain rfl := Option.some.inj hkey
      exact ⟨v, hv, rfl⟩
    · rintro ⟨v, hv, rfl⟩
      exact ⟨(name, v), hv, rfl⟩
  have hkeys : (Toml.fieldData fields).map (·.1) = (fields.map (·.1)).map some := by
    rw [Toml.fieldData_eq_map, List.map_map, List.map_map]
    rfl
  refine records_table_iff.mpr ⟨?_, fun p hp => ⟨?_, fun d hd => ?_, fun hnone => ?_⟩⟩
  · show none ∉ (Toml.fieldData fields).map (·.1)
    rw [hkeys]
    intro hnone
    obtain ⟨_, -, heq⟩ := List.mem_map.mp hnone
    cases heq
  · rw [hkeys]
    exact List.nodup_iff_count_le_one.mp (hnodup.map (Option.some_injective _)) _
  · obtain ⟨v, hv, rfl⟩ := hmem.mp hd
    rcases h p hp with ⟨v', hv', hmeans⟩ | ⟨hout, -⟩
    · have hsame := (Json.field?_eq_some_iff_mem hnodup).mpr hv
      rw [(Json.field?_eq_some_iff_mem hnodup).mpr hv'] at hsame
      obtain rfl := Option.some.inj hsame
      exact hmeans
    · exact absurd (List.mem_map.mpr ⟨_, hv, rfl⟩) hout
  · rcases h p hp with ⟨v, hv, -⟩ | ⟨-, hstandard⟩
    · exact absurd (hmem.mpr ⟨v, hv, rfl⟩) (hnone _)
    · exact hstandard

/-- Fields behind that have other names leave a part carried. -/
theorem Carried.append_right (h : Carried p standard fields a) (hout : p.name ∉ more.map (·.1)) :
    Carried p standard (fields ++ more) a := by
  rcases h with ⟨v, hv, hmeans⟩ | ⟨hnone, hstandard⟩
  · exact .inl ⟨v, List.mem_append_left more hv, hmeans⟩
  · refine .inr ⟨fun hmem => ?_, hstandard⟩
    rw [List.map_append] at hmem
    exact (List.mem_append.mp hmem).elim hnone hout

/-- Fields in front that have other names leave a part carried. -/
theorem Carried.append_left (h : Carried p standard fields a) (hout : p.name ∉ more.map (·.1)) :
    Carried p standard (more ++ fields) a := by
  rcases h with ⟨v, hv, hmeans⟩ | ⟨hnone, hstandard⟩
  · exact .inl ⟨v, List.mem_append_right more hv, hmeans⟩
  · refine .inr ⟨fun hmem => ?_, hstandard⟩
    rw [List.map_append] at hmem
    exact (List.mem_append.mp hmem).elim hout hnone

end

end Datum

open Datum (Records Carried records_of_carried)
open Toml (Tidy)

/-! ## Devices -/

namespace Command

/-- A written command spells the command. -/
theorem spells_written (surplus : Bool) (c : Command) :
    Spells surplus (Config.writtenCommand c).toDatum c := by
  refine records_of_carried (show ["name", "get", "set"].Nodup by decide) ?_
  simp only [Draft.layout, Draft.slots, Datum.Layout.parts, List.map_cons, List.map_nil,
    List.forall_mem_cons]
  exact ⟨.inl ⟨.text c.name, by simp, c.name, rfl, rfl⟩, .inl ⟨.bool c.get, by simp, rfl⟩,
    .inl ⟨.bool c.set, by simp, rfl⟩, List.forall_mem_nil _⟩

/-- A written command is tidy. -/
theorem tidy_written (c : Command) : Tidy 1 (Config.writtenCommand c) := by
  refine Toml.tidy_plain (show ["name", "get", "set"].Nodup by decide) ?_ ?_
  · simp [Toml.hasHeader]
  · simp [Toml.tidy_text, Toml.tidy_bool]

end Command

namespace Device

/-- A written device spells the device, with all its commands. -/
theorem spells_written (surplus : Bool) (d : Device) :
    Spells surplus (Config.writtenDevice d).toDatum d := by
  refine records_of_carried (show ["name", "service", "profile", "commands"].Nodup by decide) ?_
  simp only [Draft.layout, Draft.slots, Datum.Layout.parts, List.map_cons, List.map_nil,
    List.forall_mem_cons]
  refine ⟨.inl ⟨.text d.name, by simp, d.name, rfl, rfl⟩,
    .inl ⟨.text d.service, by simp, d.service, rfl, rfl⟩, .inl ⟨.text d.profile, by simp, rfl⟩,
    .inl ⟨.list (d.commands.map Config.writtenCommand), by simp, ?_⟩, List.forall_mem_nil _⟩
  refine ⟨_, rfl, ?_⟩
  rw [Toml.itemData_eq_map, List.map_map, List.forall₂_map_left_iff]
  exact List.forall₂_same.mpr fun c _ => Command.spells_written surplus c

/-- A written device is tidy. -/
theorem tidy_written (d : Device) : Tidy 2 (Config.writtenDevice d) := by
  have hcommands : Tidy 1 (.list (d.commands.map Config.writtenCommand)) :=
    Toml.tidy_list (List.forall_mem_map.mpr fun c _ => c.tidy_written)
      (List.forall_mem_map.mpr fun c _ => ⟨_, rfl⟩)
  show Tidy 2 (.table ([("name", .text d.name), ("service", .text d.service),
    ("profile", .text d.profile)] ++ [("commands", .list (d.commands.map Config.writtenCommand))]))
  refine Toml.tidy_concat (show ["name", "service", "profile", "commands"].Nodup by decide) ?_ ?_
  · simp [Toml.hasHeader]
  · simp [Toml.tidy_text, hcommands]

end Device

namespace Config

/-! ## Links -/

/-- Written topics spell the topics. -/
theorem spellsTopics_written (topics : TopicMap) :
    SpellsTopics (writtenTopics topics).toDatum topics := by
  obtain ⟨entries, hascending⟩ := topics
  refine ⟨entries, ?_, ?_⟩
  · show Datum.table (Toml.fieldData _) = _
    rw [Toml.fieldData_eq_map, List.map_map]
    rfl
  · simp only [TopicMap.ofList, Json.mapping_of_ascending hascending]

theorem tidy_writtenTopics (topics : TopicMap) : Tidy 1 (writtenTopics topics) := by
  refine Toml.tidy_plain ?_ (List.forall_mem_map.mpr fun _ _ => rfl)
    (List.forall_mem_map.mpr fun e _ => Toml.tidy_text 0 e.2)
  rw [List.map_map]
  exact Json.Ascending.nodup topics.ascending

/-- A text that is left out if it is empty has the empty text for its standard value. -/
theorem carried_optionalText {α : Type} {name : String} {get : α → String} {standard a : α}
    (h : get standard = "") :
    Carried ⟨name, String, Datum.IsText, get⟩ standard (optionalText name (get a)) a := by
  rw [optionalText]
  split
  · rename_i hempty
    exact .inr ⟨List.not_mem_nil, hempty.trans h.symm⟩
  · exact .inl ⟨.text (get a), List.mem_singleton_self _, rfl⟩

/-- An optional text is one field at most. -/
theorem map_fst_optionalText (name text : String) :
    ((optionalText name text).map (·.1)).Sublist [name] := by
  rw [optionalText]
  split
  · exact List.nil_sublist _
  · exact List.Sublist.refl _

theorem not_mem_optionalText {name other : String} (h : name ≠ other) (text : String) :
    name ∉ (optionalText other text).map (·.1) :=
  fun hmem => h (List.mem_singleton.mp ((map_fst_optionalText other text).subset hmem))

theorem tidy_optionalText (name text : String) : ∀ f ∈ optionalText name text,
    Toml.hasHeader f.2 = false ∧ Tidy 0 f.2 := by
  rw [optionalText]
  split
  · exact List.forall_mem_nil _
  · exact List.forall_mem_singleton.mpr ⟨rfl, Toml.tidy_text 0 text⟩

namespace Connection

theorem map_fst_written (c : Connection) :
    (c.written.map (·.1)).Sublist (layout.parts.map (·.name)) := by
  simp only [written, List.map_append]
  exact ((((List.Sublist.refl ["host", "port"]).append (map_fst_optionalText _ _)).append
    (List.Sublist.refl ["keep_alive_secs"])).append (map_fst_optionalText _ _)).append
      (map_fst_optionalText _ _)

/-- A written connection carries all parts of a connection: optional texts are left out where they
are empty, which is what they are by default. -/
theorem carried_written (c : Connection) : ∀ p ∈ layout.parts, Carried p {} c.written c := by
  simp only [layout, slots, Datum.Layout.parts, List.map_cons, List.map_nil, List.forall_mem_cons]
  refine ⟨.inl ⟨.text c.host, by simp [written], rfl⟩,
    .inl ⟨.int c.port.toNat, by simp [written], rfl⟩, ?_,
    .inl ⟨.int c.keepAliveSecs.toNat, by simp [written], rfl⟩, ?_, ?_, List.forall_mem_nil _⟩
  · exact (((carried_optionalText rfl).append_left (show "client_id" ∉ ["host", "port"] by decide)
      |>.append_right (show "client_id" ∉ ["keep_alive_secs"] by decide)).append_right
        (not_mem_optionalText (by decide) c.username)).append_right
          (not_mem_optionalText (by decide) c.password)
  · refine ((carried_optionalText rfl).append_left fun hmem => ?_).append_right
      (not_mem_optionalText (by decide) c.password)
    simp only [List.map_append] at hmem
    have hfront := ((List.Sublist.refl ["host", "port"]).append
      (map_fst_optionalText "client_id" c.clientId)).append (List.Sublist.refl ["keep_alive_secs"])
    exact absurd (hfront.subset hmem) (by decide)
  · refine (carried_optionalText rfl).append_left fun hmem => ?_
    simp only [List.map_append] at hmem
    have hfront := (((List.Sublist.refl ["host", "port"]).append
      (map_fst_optionalText "client_id" c.clientId)).append
        (List.Sublist.refl ["keep_alive_secs"])).append (map_fst_optionalText "username" c.username)
    exact absurd (hfront.subset hmem) (by decide)

/-- The fields of a written connection are plain, and its one number fits. -/
theorem tidy_written {c : Connection} (h : Text.FitsSigned c.keepAliveSecs.toNat) :
    ∀ f ∈ c.written, Toml.hasHeader f.2 = false ∧ Tidy 0 f.2 := by
  have hport : Text.FitsSigned c.port.toNat := by
    have := c.port.toNat_lt
    constructor <;> omega
  simp only [written, List.forall_mem_append, List.forall_mem_cons]
  refine ⟨⟨⟨⟨⟨?_, ?_, List.forall_mem_nil _⟩, tidy_optionalText _ _⟩, ?_, List.forall_mem_nil _⟩,
    tidy_optionalText _ _⟩, tidy_optionalText _ _⟩
  · exact ⟨rfl, Toml.tidy_text 0 c.host⟩
  · exact ⟨rfl, Toml.tidy_int 0 hport⟩
  · exact ⟨rfl, Toml.tidy_int 0 h⟩

end Connection

theorem qos_fits (q : Qos) : Text.FitsSigned q.level := by
  cases q <;> decide

section

variable {α : Type} {parts : List (Datum.Part α)} {connection : α → Connection} {standard x : α}
  {front : List (String × Toml)} {topics : TopicMap}

/-- A link is spelled by a table with the fields of its connection in front of its own, of which its
topics are the last. -/
theorem records_link (hstandard : connection standard = {})
    (hnodup : (Connection.layout.parts.map (·.name) ++ parts.map (·.name)).Nodup)
    (hnames : ((front ++ [("topics", writtenTopics topics)]).map (·.1)).Sublist
      (parts.map (·.name)))
    (h : ∀ p ∈ parts, Carried p standard (front ++ [("topics", writtenTopics topics)]) x) :
    Records true (Connection.layout.parts.map (·.within connection) ++ parts) standard
      (Toml.table ((connection x).written ++ (front ++ [("topics", writtenTopics topics)]))).toDatum
      x := by
  have happart := List.disjoint_of_nodup_append hnodup
  have hkeys := (connection x).map_fst_written.append hnames
  rw [← List.map_append] at hkeys
  refine records_of_carried (hnodup.sublist hkeys) (List.forall_mem_append.mpr
    ⟨List.forall_mem_map.mpr fun p hp => ?_, fun p hp => ?_⟩)
  · have hcarried : Carried (p.within connection) standard (connection x).written x := by
      have hconnection := (connection x).carried_written p hp
      rw [← hstandard] at hconnection
      exact hconnection
    exact hcarried.append_right fun hmem =>
      happart (List.mem_map_of_mem hp) (hnames.subset hmem)
  · refine (h p hp).append_left fun hmem => ?_
    exact happart ((connection x).map_fst_written.subset hmem) (List.mem_map_of_mem hp)

/-- The table of a link is tidy if its own fields are named by its parts and come before the
topics. -/
theorem tidy_link (hnodup : (Connection.layout.parts.map (·.name) ++ parts.map (·.name)).Nodup)
    (hnames : ((front ++ [("topics", writtenTopics topics)]).map (·.1)).Sublist
      (parts.map (·.name)))
    (hfits : Text.FitsSigned (connection x).keepAliveSecs.toNat)
    (hfront : ∀ f ∈ front, Toml.hasHeader f.2 = false ∧ Tidy 0 f.2) :
    Tidy 2 (.table ((connection x).written ++ (front ++ [("topics", writtenTopics topics)]))) := by
  have hkeys := (connection x).map_fst_written.append hnames
  have hplain : ∀ f ∈ (connection x).written ++ front, Toml.hasHeader f.2 = false ∧ Tidy 0 f.2 :=
    List.forall_mem_append.mpr ⟨Connection.tidy_written hfits, hfront⟩
  rw [← List.map_append, ← List.append_assoc] at hkeys
  rw [← List.append_assoc]
  refine Toml.tidy_concat (hnodup.sublist hkeys) (fun f hf => (hplain f hf).1)
    (List.forall_mem_append.mpr ⟨fun f hf => (hplain f hf).2.mono (Nat.zero_le 1), ?_⟩)
  exact List.forall_mem_singleton.mpr (tidy_writtenTopics topics)

end

/-- The fields of the written external link between those of its connection and its topics. -/
def External.front (x : External) : List (String × Toml) :=
  [("qos", .int x.qos.level), ("retain", .bool x.retain)] ++
    x.fallbackTopic.toList.map fun t => ("fallback_topic", .text t)

namespace External

theorem written_eq (x : External) : x.written =
    .table (x.connection.written ++ (x.front ++ [("topics", writtenTopics x.topics)])) := by
  obtain ⟨connection, qos, retain, _ | t, topics⟩ := x <;> simp [written, front]

/-- The names of a connection and those of the link around it are distinct. -/
theorem nodup_names :
    (Connection.layout.parts.map (·.name) ++ layout.parts.map (·.name)).Nodup := by
  decide

theorem map_fst_own (x : External) :
    ((x.front ++ [("topics", writtenTopics x.topics)]).map (·.1)).Sublist
      (layout.parts.map (·.name)) := by
  obtain ⟨connection, qos, retain, _ | t, topics⟩ := x
  · exact show ["qos", "retain", "topics"].Sublist ["qos", "retain", "fallback_topic", "topics"] by
      decide
  · exact List.Sublist.refl ["qos", "retain", "fallback_topic", "topics"]

/-- A written external link spells the link. -/
theorem spells_written (x : External) : Spells x.written.toDatum x := by
  rw [written_eq]
  refine ⟨⟨_, rfl⟩, records_link rfl nodup_names x.map_fst_own ?_⟩
  simp only [layout, slots, Datum.Layout.parts, List.map_cons, List.map_nil, List.forall_mem_cons]
  refine ⟨.inl ⟨.int x.qos.level, by simp [front], rfl⟩,
    .inl ⟨.bool x.retain, by simp [front], rfl⟩,
    ?_, .inl ⟨writtenTopics x.topics, by simp, spellsTopics_written x.topics⟩,
    List.forall_mem_nil _⟩
  obtain ⟨connection, qos, retain, _ | t, topics⟩ := x
  · exact .inr ⟨show "fallback_topic" ∉ ["qos", "retain", "topics"] by decide, rfl⟩
  · exact .inl ⟨.text t, by simp [front], t, rfl, rfl⟩

theorem tidy_written {x : External} (h : Text.FitsSigned x.connection.keepAliveSecs.toNat) :
    Tidy 2 x.written := by
  rw [written_eq]
  refine tidy_link nodup_names x.map_fst_own h (List.forall_mem_append.mpr ⟨?_, ?_⟩)
  · simp [Toml.hasHeader, Toml.tidy_bool, Toml.tidy_int 0 (qos_fits x.qos)]
  · exact List.forall_mem_map.mpr fun t _ => ⟨rfl, Toml.tidy_text 0 t⟩

end External

namespace Internal

theorem written_eq (x : Internal) : x.written = .table (x.connection.written ++
    ([("qos", .int x.qos.level)] ++ [("topics", writtenTopics x.topics)])) := rfl

theorem nodup_names :
    (Connection.layout.parts.map (·.name) ++ layout.parts.map (·.name)).Nodup := by
  decide

/-- A written internal link spells the link. -/
theorem spells_written (x : Internal) : Spells x.written.toDatum x := by
  rw [written_eq]
  refine ⟨⟨_, rfl⟩, records_link rfl nodup_names (List.Sublist.refl ["qos", "topics"]) ?_⟩
  simp only [layout, slots, Datum.Layout.parts, List.map_cons, List.map_nil, List.forall_mem_cons]
  exact ⟨.inl ⟨.int x.qos.level, by simp, rfl⟩,
    .inl ⟨writtenTopics x.topics, by simp, spellsTopics_written x.topics⟩, List.forall_mem_nil _⟩

theorem tidy_written {x : Internal} (h : Text.FitsSigned x.connection.keepAliveSecs.toNat) :
    Tidy 2 x.written := by
  rw [written_eq]
  refine tidy_link nodup_names (List.Sublist.refl ["qos", "topics"]) h ?_
  exact List.forall_mem_singleton.mpr ⟨rfl, Toml.tidy_int 0 (qos_fits x.qos)⟩

end Internal

/-! ## Configurations -/

/-- The fields of a written configuration. -/
def writtenFields (c : Config) : List (String × Toml) :=
  [("request_timeout_ms", .int c.requestTimeoutMs.toNat), ("external_mqtt", c.external.written),
    ("message_bus", c.internal.written), ("devices", .list (c.devices.map writtenDevice))]

theorem written_eq (c : Config) : c.written = .table c.writtenFields := rfl

theorem nodup_writtenFields (c : Config) : (c.writtenFields.map (·.1)).Nodup :=
  show ["request_timeout_ms", "external_mqtt", "message_bus", "devices"].Nodup by decide

/-- A written configuration spells the configuration. -/
theorem spells_written (c : Config) : Spells c.written.toDatum c := by
  refine records_of_carried c.nodup_writtenFields ?_
  simp only [layout, slots, Datum.Layout.parts, List.map_cons, List.map_nil, List.forall_mem_cons]
  refine ⟨.inl ⟨.int c.requestTimeoutMs.toNat, by simp, rfl⟩,
    .inl ⟨c.external.written, by simp, c.external.spells_written⟩,
    .inl ⟨c.internal.written, by simp, c.internal.spells_written⟩,
    .inl ⟨.list (c.devices.map writtenDevice), by simp, _, rfl, ?_⟩,
    List.forall_mem_nil _⟩
  rw [Toml.itemData_eq_map, List.map_map, List.forall₂_map_left_iff]
  exact List.forall₂_same.mpr fun d _ => Device.spells_written true d

/-- A written configuration is read as the configuration. -/
theorem read_written (c : Config) : read c.written.toDatum = .ok c :=
  read_eq_ok_iff.mpr c.spells_written

/-- The integers of a configuration fit TOML. -/
structure Fitting (c : Config) : Prop where
  timeout : c.requestTimeoutMs.toNat ≤ 2 ^ 63 - 1
  external : c.external.connection.keepAliveSecs.toNat ≤ 2 ^ 63 - 1
  internal : c.internal.connection.keepAliveSecs.toNat ≤ 2 ^ 63 - 1

/-- A number without a sign fits if it is below the greatest integer of TOML. -/
theorem fitsSigned_iff {n : Nat} : Text.FitsSigned n ↔ n ≤ 2 ^ 63 - 1 := by
  constructor
  · rintro ⟨-, h⟩
    omega
  · intro h
    constructor <;> omega

theorem writable_iff {c : Config} : c.writable = true ↔ Fitting c := by
  unfold writable
  simp only [Bool.and_eq_true, decide_eq_true_eq, fitsSigned_iff]
  exact ⟨fun ⟨⟨htimeout, hexternal⟩, hinternal⟩ => ⟨htimeout, hexternal, hinternal⟩,
    fun h => ⟨⟨h.timeout, h.external⟩, h.internal⟩⟩

/-- A configuration has a tree if its integers fit TOML, and that is the written one. -/
theorem toToml_eq_ok_iff {c : Config} {words : Wording} {document : Toml} :
    c.toToml words = .ok document ↔ Fitting c ∧ document = c.written := by
  rw [toToml, ← writable_iff]
  by_cases h : c.writable = true
  · rw [if_pos h, and_iff_right h, Except.ok.injEq, eq_comm]
  · rw [if_neg h]
    exact iff_of_false (fun h => by cases h) fun hc => h hc.1

/-- The text of a written configuration is read as the configuration. -/
theorem ofText_render {c : Config} {words : Wording} (h : Fitting c) :
    ofText c.written.render words = .ok c := by
  have htidy : ∀ f ∈ c.writtenFields, Tidy 3 f.2 := by
    simp only [writtenFields, List.forall_mem_cons]
    refine ⟨Toml.tidy_int 3 (fitsSigned_iff.mpr h.timeout),
      (External.tidy_written (fitsSigned_iff.mpr h.external)).mono (by decide),
      (Internal.tidy_written (fitsSigned_iff.mpr h.internal)).mono (by decide), ?_,
      List.forall_mem_nil _⟩
    exact Toml.tidy_list (List.forall_mem_map.mpr fun d _ => d.tidy_written.mono (by decide))
      (List.forall_mem_map.mpr fun d _ => ⟨_, rfl⟩)
  have htext := Toml.ofText?_render c.nodup_writtenFields (fun f hf => (htidy f hf).1)
    fun f hf => Nat.lt_of_le_of_lt (htidy f hf).2 (by decide)
  refine ofText_eq_ok_iff.mpr ⟨_, htext, ?_⟩
  have hperm := ((Toml.arranged_perm c.writtenFields).symm.map
    fun f => (some f.1, f.2.toDatum))
  have hspells := c.spells_written
  rw [written_eq] at hspells
  show Spells (.table (Toml.fieldData _)) c
  replace hspells : Spells (.table (Toml.fieldData c.writtenFields)) c := hspells
  rw [Toml.fieldData_eq_map] at hspells ⊢
  exact Datum.records_perm hperm hspells

end Config

end CommandRelay
