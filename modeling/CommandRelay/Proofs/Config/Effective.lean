import CommandRelay.Config.Store
import CommandRelay.Proofs.Config.Spelled
import CommandRelay.Proofs.Text.Numerals

/-!
# Configurations to run with

1. **Variables** — five values of a configuration may be replaced by variables, each by what the
   text of its variable means; a text that means nothing changes nothing (`overridden_eq_iff`).
2. **The check** — a configuration is let through exactly if it is `Sound` (`check_eq_ok_iff`), and
   whatever is wrong with another one is a fault of the configuration (`kind_of_check`).
3. **Files** — a configuration is `Filed` under a path if the file there spells it, or if it is the
   default one and nothing is there.
-/

namespace CommandRelay.Config

open Storage
open Text (Unsigned)

/-! ## Variables -/

/-- A value is replaced by what a text means, and stays what it was if there is no text or it means
nothing. -/
def Replaced {β : Type} (given : Option String) (Means : String → β → Prop) (old new : β) : Prop :=
  (∃ s, given = some s ∧ Means s new) ∨ new = old ∧ ∀ s, given = some s → ∀ v, ¬ Means s v

/-- A configuration with the values that variables give for the hosts and ports of both links and
for the time that a command may take.  All else is as it was. -/
structure Overridden (vars : Variables) (base c : Config) : Prop where
  timeout : Replaced (vars "CMDBRIDGE_REQUEST_TIMEOUT_MS")
    (fun s n => Unsigned UInt64.size s.toList n.toNat) base.requestTimeoutMs c.requestTimeoutMs
  externalHost : Replaced (vars "CMDBRIDGE_EXTERNAL_HOST") (fun s host => host = s)
    base.external.connection.host c.external.connection.host
  externalPort : Replaced (vars "CMDBRIDGE_EXTERNAL_PORT")
    (fun s n => Unsigned UInt16.size s.toList n.toNat)
    base.external.connection.port c.external.connection.port
  internalHost : Replaced (vars "CMDBRIDGE_BUS_HOST") (fun s host => host = s)
    base.internal.connection.host c.internal.connection.host
  internalPort : Replaced (vars "CMDBRIDGE_BUS_PORT")
    (fun s n => Unsigned UInt16.size s.toList n.toNat)
    base.internal.connection.port c.internal.connection.port
  rest : c = { base with
    requestTimeoutMs := c.requestTimeoutMs
    external := { base.external with
      connection := { base.external.connection with
        host := c.external.connection.host, port := c.external.connection.port } }
    internal := { base.internal with
      connection := { base.internal.connection with
        host := c.internal.connection.host, port := c.internal.connection.port } } }

/-- A value is replaced exactly as its reader reads what is given. -/
theorem replaced_iff {β : Type} {given : Option String} {Means : String → β → Prop}
    {read : String → Option β} (hread : ∀ s v, read s = some v ↔ Means s v) {old new : β} :
    Replaced given Means old new ↔ (given.bind read).getD old = new := by
  have hsome : given.bind read = some new ↔ ∃ s, given = some s ∧ Means s new := by
    simp only [Option.bind_eq_some_iff, hread]
  have hnone : given.bind read = none ↔ ∀ s, given = some s → ∀ v, ¬ Means s v := by
    rw [Option.bind_eq_none_iff]
    simp only [← hread, Option.eq_none_iff_forall_ne_some]
  rw [Replaced, ← hsome, ← hnone]
  cases given.bind read with
  | none => simp [eq_comm]
  | some v => simp

/-- A host is replaced by the text of its variable as it stands. -/
theorem replaced_text_iff {given : Option String} {old new : String} :
    Replaced given (fun s host => host = s) old new ↔ given.getD old = new := by
  have hread : ∀ s host : String, some s = some host ↔ host = s := fun s host => by
    rw [Option.some.injEq, eq_comm]
  rw [replaced_iff hread, Option.bind_fun_some]

/-- A number is replaced by what the digits of its variable denote, if it is small enough. -/
theorem replaced_number_iff {β : Type} {vars : Variables} {name : String} {limit : Nat}
    {ofNat : Nat → β} {toNat : β → Nat} (hword : Word limit ofNat toNat) {old new : β} :
    Replaced (vars name) (fun s n => Unsigned limit s.toList (toNat n)) old new ↔
      ((number? vars name limit).map ofNat).getD old = new := by
  rw [number?, Option.map_bind]
  refine replaced_iff fun s v => ?_
  rw [Function.comp_apply, Option.map_eq_some_iff]
  constructor
  · rintro ⟨n, hn, rfl⟩
    have hn := Text.unsigned?_eq_some_iff.mp hn
    rwa [hword.toNat_ofNat n hn.lt]
  · intro hv
    exact ⟨toNat v, Text.unsigned?_eq_some_iff.mpr hv, hword.ofNat_toNat v⟩

/-- The overrides make of a configuration the one in which each variable has had its say. -/
theorem overridden_eq_iff {vars : Variables} {base c : Config} :
    base.overridden vars = c ↔ Overridden vars base c := by
  constructor
  · rintro rfl
    exact ⟨(replaced_number_iff word64).mpr rfl, replaced_text_iff.mpr rfl,
      (replaced_number_iff word16).mpr rfl, replaced_text_iff.mpr rfl,
      (replaced_number_iff word16).mpr rfl, rfl⟩
  · rintro ⟨htimeout, hhost, hport, hhost', hport', hrest⟩
    rw [replaced_number_iff word64] at htimeout
    rw [replaced_text_iff] at hhost hhost'
    rw [replaced_number_iff word16] at hport hport'
    rw [hrest, overridden, Connection.overridden, Connection.overridden, htimeout, hhost, hport,
      hhost', hport']

/-! ## The check -/

/-- A connection can be used: its host is not blank, and it has a port. -/
structure Connection.Usable (c : Connection) : Prop where
  host : ∃ ch ∈ c.host.toList, Text.isBlank ch = false
  port : c.port ≠ 0

/-- A configuration can be run with. -/
structure Sound (c : Config) : Prop where
  timeout : c.requestTimeoutMs ≠ 0
  external : c.external.connection.Usable
  internal : c.internal.connection.Usable
  names : (c.devices.map (·.name)).Nodup

/-- No name is repeated exactly if the names are distinct and none was seen before. -/
theorem repeated?_eq_none_iff {seen : List String} {devices : List Device} :
    repeated? seen devices = none ↔
      (devices.map (·.name)).Nodup ∧ ∀ d ∈ devices, d.name ∉ seen := by
  induction devices generalizing seen with
  | nil => simp [repeated?]
  | cons d ds ih =>
    rw [repeated?, List.map_cons, List.nodup_cons, List.forall_mem_cons]
    by_cases hseen : d.name ∈ seen
    · rw [if_pos hseen]
      exact iff_of_false (fun h => by cases h) fun h => h.2.1 hseen
    · rw [if_neg hseen, ih]
      simp only [List.mem_cons, not_or, List.mem_map, not_exists, not_and]
      constructor
      · rintro ⟨hnodup, hds⟩
        exact ⟨⟨fun e he => (hds e he).1, hnodup⟩, hseen, fun e he => (hds e he).2⟩
      · rintro ⟨⟨hd, hnodup⟩, -, hds⟩
        exact ⟨hnodup, fun e he => ⟨hd e he, hds e he⟩⟩

/-- A connection passes its check exactly if it can be used. -/
theorem checkConnection_eq_ok_iff {table : String} {c : Connection} :
    checkConnection table c = .ok () ↔ c.Usable := by
  have hhost : Text.allBlank c.host = true ↔ ¬ ∃ ch ∈ c.host.toList, Text.isBlank ch = false := by
    simp [Text.allBlank]
  rw [checkConnection]
  by_cases hblank : Text.allBlank c.host = true
  · rw [if_pos hblank]
    exact iff_of_false (fun h => by cases h) fun h => hhost.mp hblank h.host
  by_cases hport : c.port = 0
  · rw [if_neg hblank, if_pos hport]
    exact iff_of_false (fun h => by cases h) fun h => h.port hport
  rw [if_neg hblank, if_neg hport]
  exact iff_of_true rfl ⟨not_not.mp (hhost.not.mp hblank), hport⟩

/-- What is wrong with a connection is a fault of the configuration. -/
theorem kind_of_checkConnection {table : String} {c : Connection} {f : Fault}
    (h : checkConnection table c = .error f) : f.kind = .config := by
  rw [checkConnection] at h
  split at h
  · cases h
    rfl
  · split at h
    · cases h
      rfl
    · cases h

/-- The devices are looked at if the time and both connections are as they should be. -/
theorem check_eq {c : Config} : c.check =
    if c.requestTimeoutMs = 0 then .error .zeroTimeout
    else (checkConnection "external_mqtt" c.external.connection).bind fun _ =>
      (checkConnection "message_bus" c.internal.connection).bind fun _ =>
        (repeated? [] c.devices).elim (.ok ()) fun name => .error (.duplicateDevice name) := by
  by_cases htimeout : c.requestTimeoutMs = 0
  · simp only [check, if_pos htimeout]
    rfl
  · simp only [check, if_neg htimeout]
    cases repeated? [] c.devices <;> rfl

/-- A configuration passes its check exactly if it is sound. -/
theorem check_eq_ok_iff {c : Config} : c.check = .ok () ↔ Sound c := by
  have hnames : repeated? [] c.devices = none ↔ (c.devices.map (·.name)).Nodup :=
    repeated?_eq_none_iff.trans (and_iff_left fun _ _ => List.not_mem_nil)
  have hdevices : (repeated? [] c.devices).elim (Except.ok ())
      (fun name => .error (Fault.duplicateDevice name)) = .ok () ↔
      (c.devices.map (·.name)).Nodup := by
    rw [← hnames]
    cases repeated? [] c.devices <;> simp
  rw [check_eq]
  by_cases htimeout : c.requestTimeoutMs = 0
  · rw [if_pos htimeout]
    exact iff_of_false (fun h => by cases h) fun h => h.timeout htimeout
  simp only [if_neg htimeout, bind_eq_ok_iff, hdevices]
  constructor
  · rintro ⟨⟨⟩, hexternal, ⟨⟩, hinternal, hnames⟩
    exact ⟨htimeout, checkConnection_eq_ok_iff.mp hexternal, checkConnection_eq_ok_iff.mp hinternal,
      hnames⟩
  · rintro ⟨-, hexternal, hinternal, hnames⟩
    exact ⟨(), checkConnection_eq_ok_iff.mpr hexternal, (), checkConnection_eq_ok_iff.mpr hinternal,
      hnames⟩

/-- Whatever the check finds is a fault of the configuration. -/
theorem kind_of_check {c : Config} {f : Fault} (h : c.check = .error f) : f.kind = .config := by
  rw [check_eq] at h
  split at h
  · cases h
    rfl
  · rcases bind_eq_error_iff.mp h with h | ⟨_, -, h⟩
    · exact kind_of_checkConnection h
    rcases bind_eq_error_iff.mp h with h | ⟨_, -, h⟩
    · exact kind_of_checkConnection h
    cases hname : repeated? [] c.devices with
    | none =>
      rw [hname] at h
      cases h
    | some name =>
      rw [hname] at h
      cases h
      rfl

/-- What runs is what the variables make of a configuration, if that is sound. -/
theorem effective_eq_ok_iff {vars : Variables} {base c : Config} :
    base.effective vars = .ok c ↔ Overridden vars base c ∧ Sound c := by
  show ((base.overridden vars).check.bind fun _ => .ok (base.overridden vars)) = .ok c ↔ _
  rw [bind_eq_ok_iff]
  constructor
  · rintro ⟨_, hcheck, hc⟩
    obtain rfl := Except.ok.inj hc
    exact ⟨overridden_eq_iff.mp rfl, check_eq_ok_iff.mp hcheck⟩
  · rintro ⟨hover, hsound⟩
    obtain rfl := overridden_eq_iff.mpr hover
    exact ⟨(), check_eq_ok_iff.mpr hsound, rfl⟩

/-- What the check of the overridden configuration finds is a fault of the configuration. -/
theorem kind_of_effective {vars : Variables} {base : Config} {f : Fault}
    (h : base.effective vars = .error f) : f.kind = .config := by
  rcases bind_eq_error_iff.mp h with h | ⟨_, -, h⟩
  · exact kind_of_check h
  · cases h

/-! ## Files -/

variable {files : FileSystem} {path : String} {vars : Variables} {words : Wording} {c : Config}
  {f : Fault}

/-- What a file holds under a path, as a configuration: what its text spells.  If nothing is there,
it is the default one. -/
inductive Filed (files : FileSystem) (path : String) : Config → Prop
  | missing (h : files.isThere (.ofText path) = false) : Filed files path {}
  | present {bs : List UInt8} {s : String} {t : Toml} {c : Config}
      (hthere : files.isThere (.ofText path) = true) (hread : files.read (.ofText path) = .ok bs)
      (htext : Utf8.decode? bs = some s) (hdocument : Toml.ofText? s = some t)
      (hspelled : Spells t.toDatum c) : Filed files path c

/-- The configuration to run with: the one that is filed, with the values that variables give, if it
is sound. -/
def Effective (files : FileSystem) (path : String) (vars : Variables) (c : Config) : Prop :=
  ∃ base, Filed files path base ∧ Overridden vars base c ∧ Sound c

/-- What is read from a path; if nothing is there, it is the default configuration. -/
def filed (files : FileSystem) (path : String) (words : Wording) : Except Fault Config :=
  if files.isThere (.ofText path) then (readText files path).bind fun s => ofText s words
  else .ok {}

/-- What comes of a path and variables. -/
def outcome (files : FileSystem) (path : String) (vars : Variables) (words : Wording) :
    Except Fault Config :=
  (filed files path words).bind (·.effective vars)

/-- A text is a configuration if it is TOML and the tree of it spells one. -/
theorem ofText_eq_ok_iff {s : String} :
    ofText s words = .ok c ↔ ∃ t, Toml.ofText? s = some t ∧ Spells t.toDatum c := by
  rw [ofText]
  cases Toml.ofText? s with
  | none => simp
  | some t =>
    simp only [Option.some.injEq, exists_eq_left', ← read_eq_ok_iff]
    rcases read t.toDatum with (_ | f) | c <;> simp

/-- A text that is no configuration is a fault of the configuration. -/
theorem kind_of_ofText {s : String} (h : ofText s words = .error f) : f.kind = .config := by
  rw [ofText] at h
  split at h
  · cases h
    rfl
  · split at h <;> cases h <;> rfl

/-- The text under a path is that of the octets there, if these are UTF-8. -/
theorem readText_eq_ok_iff {s : String} : readText files path = .ok s ↔
    ∃ bs, files.read (.ofText path) = .ok bs ∧ Utf8.decode? bs = some s := by
  rw [readText]
  cases files.read (.ofText path) with
  | error e => simp
  | ok bs =>
    simp only [Except.ok.injEq, exists_eq_left']
    cases Utf8.decode? bs <;> simp

/-- A file that can not be read is a fault of the configuration. -/
theorem kind_of_readText (h : readText files path = .error f) : f.kind = .config := by
  rw [readText] at h
  split at h
  · cases h
    rfl
  · split at h <;> cases h
    rfl

/-- What is read under a path is what is filed there. -/
theorem filed_eq_ok_iff : filed files path words = .ok c ↔ Filed files path c := by
  rw [filed]
  by_cases hthere : files.isThere (.ofText path) = true
  · rw [if_pos hthere, bind_eq_ok_iff]
    simp only [readText_eq_ok_iff, ofText_eq_ok_iff]
    constructor
    · rintro ⟨s, ⟨bs, hread, htext⟩, t, hdocument, hspelled⟩
      exact .present hthere hread htext hdocument hspelled
    · rintro (hmissing | ⟨-, hread, htext, hdocument, hspelled⟩)
      · rw [hthere] at hmissing
        cases hmissing
      · exact ⟨_, ⟨_, hread, htext⟩, _, hdocument, hspelled⟩
  · rw [if_neg hthere]
    constructor
    · intro h
      cases h
      exact .missing (eq_false_of_ne_true hthere)
    · rintro (- | ⟨hpresent, -⟩)
      · rfl
      · exact absurd hpresent hthere

/-- What can go wrong under a path is a fault of the configuration. -/
theorem kind_of_filed (h : filed files path words = .error f) : f.kind = .config := by
  rw [filed] at h
  split at h
  · rcases bind_eq_error_iff.mp h with h | ⟨_, -, h⟩
    · exact kind_of_readText h
    · exact kind_of_ofText h
  · cases h

/-- An empty file says as much as none. -/
theorem filed_of_empty (hthere : files.isThere (.ofText path) = true)
    (hread : files.read (.ofText path) = .ok []) : filed files path words = .ok {} := by
  have htext : Spells (Toml.table []).toDatum {} := read_eq_ok_iff.mp rfl
  exact filed_eq_ok_iff.mpr (.present hthere hread rfl rfl htext)

/-- The outcome is a configuration exactly if that one is effective. -/
theorem outcome_eq_ok_iff :
    outcome files path vars words = .ok c ↔ Effective files path vars c := by
  simp only [outcome, bind_eq_ok_iff, filed_eq_ok_iff, effective_eq_ok_iff, Effective]

/-- The outcome is a configuration or a fault of one. -/
theorem kind_of_outcome (h : outcome files path vars words = .error f) : f.kind = .config := by
  rcases bind_eq_error_iff.mp h with h | ⟨_, -, h⟩
  · exact kind_of_filed h
  · exact kind_of_effective h

/-- Where a file is, loading comes to the outcome. -/
theorem loadFrom_of_isThere (h : files.isThere (.ofText path) = true) :
    loadFrom files path vars words = (outcome files path vars words).map some := by
  have hload : loadFrom files path vars words = (readText files path).bind fun content =>
      ((ofText content words).bind (·.effective vars)).map some := by
    rw [loadFrom, h]
    rfl
  rw [hload, outcome, filed, if_pos h]
  cases readText files path <;> rfl

/-- Where no file is, nothing is loaded. -/
theorem loadFrom_of_missing (h : files.isThere (.ofText path) = false) :
    loadFrom files path vars words = .ok none := by
  rw [loadFrom, h]
  rfl

/-- Where no file is, the outcome is that of the default configuration. -/
theorem outcome_of_missing (h : files.isThere (.ofText path) = false) :
    outcome files path vars words = (default : Config).effective vars := by
  rw [outcome, filed, h]
  rfl

end CommandRelay.Config
