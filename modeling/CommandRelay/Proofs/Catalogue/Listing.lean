import CommandRelay.Catalogue.Listing
import CommandRelay.Config.Basic
import CommandRelay.Proofs.Catalogue.Routing
import CommandRelay.Proofs.Config.Effective
import CommandRelay.Proofs.Json.Lexing

/-!
# What is listed has a route

The listing and the router look into the same catalogue in two ways: the listing writes down every
command of a device, the router takes the first one with the name that it is given.

1. A configuration that passes its check names each device once (`nodup_of_check`), so the device
   that is listed is the one that is routed to.
2. `listedCommands?` is what a reader of an answer finds for a device.  In a listing of the
   catalogue these are the entries of its commands, in their order (`listedCommands?_of_listing`),
   and a listing reads as it was written (`carries_of_listing`).
3. An entry shows the name and the flags of its command, so the first entry with a name shows what
   the router goes by (`resolve_iff_shows`).

The two agree on the first entry with a name, and `listed_commands_have_routes` says so for every
catalogue.  The check of a configuration does not compare the commands of a device, though, and a
later entry with a name that came before may show methods that have no route
(`repeated_command_is_listed_without_route`).
-/

namespace CommandRelay

/-! ## Each device is named once -/

/-- No two devices of a checked configuration have one name. -/
theorem Config.nodup_of_check {c : Config} (h : c.check = .ok ()) :
    (c.devices.map (·.name)).Nodup :=
  (check_eq_ok_iff.mp h).names

/-- A page leaves entries out and keeps the others in their order. -/
theorem Paging.Page.of_sublist {α : Type} (p : Page) (entries : List α) :
    (p.of entries).Sublist entries := by
  rw [of]
  split
  · exact List.drop_sublist _ _
  · exact (List.take_sublist _ _).trans (List.drop_sublist _ _)

namespace Catalogue

/-! ## What an answer lists -/

/-- The devices that an answer lists, whether it is about one device or about all. -/
def listedDevices (answer : Json) : List Json :=
  (answer.get? "deviceCoreCommand").toList ++
    ((answer.get? "deviceCoreCommands").bind Json.asList?).getD []

/-- The name of a listed device. -/
def shownDevice? (listed : Json) : Option String := (listed.get? "deviceName").bind Json.asText?

/-- The commands that an answer lists for a device, if it lists the device. -/
def listedCommands? (answer : Json) (device : String) : Option (List Json) :=
  ((listedDevices answer).find? fun listed => shownDevice? listed == some device).bind
    fun listed => (listed.get? "coreCommands").bind Json.asList?

/-- The name that a listed command shows. -/
def shownName? (entry : Json) : Option String := (entry.get? "name").bind Json.asText?

/-- Whether a listed command shows a method as allowed. -/
def shows (entry : Json) (method : Method) : Bool :=
  ((entry.get? method.word).bind Json.asBool?).getD false

@[simp]
theorem shownName?_listedCommand (device : String) (c : Command) :
    shownName? (listedCommand device c) = some c.name := rfl

/-- A listing shows a method of a command if the command has it. -/
@[simp]
theorem shows_listedCommand (device : String) (c : Command) (method : Method) :
    shows (listedCommand device c) method = c.supports method := by
  cases method <;> rfl

/-- Where devices have distinct names, the commands listed for a name are those of the one device
that has it. -/
theorem listedCommands?_eq_some_iff {answer : Json} (shown : List Device)
    (hdevices : listedDevices answer = shown.map listedDevice)
    (hnames : (shown.map (·.name)).Nodup) {device : String} {entries : List Json} :
    listedCommands? answer device = some entries ↔
      ∃ d ∈ shown, d.name = device ∧ entries = d.commands.map (listedCommand d.name) := by
  have hshown : (fun listed => shownDevice? listed == some device) ∘ listedDevice =
      fun d : Device => d.name == device := rfl
  have hfind : ∀ d, shown.find? (fun e => e.name == device) = some d ↔
    d ∈ shown ∧ d.name = device :=
    fun d => Correlation.find?_key_eq_some_iff hnames
  rw [listedCommands?, hdevices, List.find?_map, hshown, Option.bind_eq_some_iff]
  constructor
  · rintro ⟨listed, hlisted, hentries⟩
    obtain ⟨d, hd, rfl⟩ := Option.map_eq_some_iff.mp hlisted
    obtain ⟨hmem, hname⟩ := (hfind d).mp hd
    exact ⟨d, hmem, hname, (Option.some.inj hentries).symm⟩
  · rintro ⟨d, hmem, hname, rfl⟩
    exact ⟨listedDevice d, by rw [(hfind d).mpr ⟨hmem, hname⟩]; rfl, rfl⟩

/-- A query is answered with a page of all devices or with the device that it names. -/
theorem listing_eq_ok_iff {devices : Catalogue} {params : Params} {asked : String} {answer : Json} :
    devices.listing params asked = .ok answer ↔
      (asked = Topic.allDevices ∧ ∃ p, Paging.page params = .ok p ∧
        answer = devices.pageListing p) ∨
      (asked ≠ Topic.allDevices ∧ ∃ d, devices.listed? asked = some d ∧
        answer = deviceListing d) := by
  rw [listing]
  by_cases hall : asked = Topic.allDevices
  · rw [if_pos hall]
    cases Paging.page params with
    | error f => simp [Except.map, hall]
    | ok p => simp [Except.map, hall, eq_comm]
  · rw [if_neg hall]
    cases devices.listed? asked with
    | none => simp [hall]
    | some d => simp [hall, eq_comm]

/-- Where names are distinct, an answer lists for a device all of its commands in their order. -/
theorem listedCommands?_of_listing {devices : Catalogue} (hnames : (devices.map (·.name)).Nodup)
    {params : Params} {asked : String} {answer : Json}
    (hanswer : devices.listing params asked = .ok answer) {d : Device} (hd : d ∈ devices)
    {entries : List Json} (hentries : listedCommands? answer d.name = some entries) :
    entries = d.commands.map (listedCommand d.name) := by
  have hown : ∀ shown : List Device, listedDevices answer = shown.map listedDevice →
      shown.Sublist devices → entries = d.commands.map (listedCommand d.name) := by
    intro shown hdevices hsub
    obtain ⟨e, he, hname, rfl⟩ :=
      (listedCommands?_eq_some_iff shown hdevices ((hsub.map _).nodup hnames)).mp hentries
    rw [List.inj_on_of_nodup_map hnames (hsub.subset he) hd hname]
  rcases listing_eq_ok_iff.mp hanswer with ⟨-, p, -, rfl⟩ | ⟨-, e, he, rfl⟩
  · exact hown (p.of devices) rfl (p.of_sublist devices)
  · exact hown [e] rfl (List.singleton_sublist.mpr (List.mem_of_find?_eq_some he))

/-- A query asks for a device by its name, or for all devices on one page. -/
def AsksFor (params : Params) (asked : String) (d : Device) : Prop :=
  asked = d.name ∧ asked ≠ Topic.allDevices ∨
    asked = Topic.allDevices ∧ params.get? "offset" = none ∧ params.get? "limit" = none

/-- Whoever asks for a device is told all of its commands. -/
theorem exists_listing {devices : Catalogue} (hnames : (devices.map (·.name)).Nodup) {d : Device}
    (hd : d ∈ devices) {params : Params} {asked : String} (hasked : AsksFor params asked d) :
    ∃ answer, devices.listing params asked = .ok answer ∧
      listedCommands? answer d.name = some (d.commands.map (listedCommand d.name)) := by
  rcases hasked with ⟨rfl, hone⟩ | ⟨hall, hoffset, hlimit⟩
  · have hlisted : devices.listed? d.name = some d :=
      (Correlation.find?_key_eq_some_iff hnames).mpr ⟨hd, rfl⟩
    exact ⟨deviceListing d, listing_eq_ok_iff.mpr (.inr ⟨hone, d, hlisted, rfl⟩),
      (listedCommands?_eq_some_iff [d] rfl (List.nodup_singleton _)).mpr
        ⟨d, List.mem_singleton_self d, rfl, rfl⟩⟩
  · have hpage : Paging.page params = .ok ⟨0, none⟩ := by
      rw [Paging.page, Paging.parameter, hoffset, Paging.parameter, hlimit]
      rfl
    exact ⟨devices.pageListing ⟨0, none⟩, listing_eq_ok_iff.mpr (.inl ⟨hall, _, hpage, rfl⟩),
      (listedCommands?_eq_some_iff devices rfl hnames).mpr ⟨d, hd, rfl, rfl⟩⟩

/-! ## What an answer is written as -/

/-- A response carries a JSON value: its payload is the written form, which reads as the value and
as nothing else. -/
def Carries (response : Envelope) (answer : Json) : Prop :=
  response.payload = answer.toOctets ∧
    Json.Document.ofOctets? response.payload = some answer.spelling

theorem wholeItems_map {α : Type} {f : α → Json} (h : ∀ a, (f a).Whole) (l : List α) :
    Json.WholeItems (l.map f) := by
  induction l with
  | nil => trivial
  | cons a l ih => exact ⟨h a, ih⟩

theorem whole_listedDevice (d : Device) : (listedDevice d).Whole := by
  have hcommand : ∀ c, (listedCommand d.name c).Whole := fun _ =>
    ⟨trivial, trivial, trivial, trivial, trivial⟩
  exact ⟨trivial, trivial, wholeItems_map hcommand d.commands, trivial⟩

/-- Every answer of the catalogue can be written and read again. -/
theorem whole_of_listing {devices : Catalogue} {params : Params} {asked : String} {answer : Json}
    (hanswer : devices.listing params asked = .ok answer) : answer.Whole := by
  rcases listing_eq_ok_iff.mp hanswer with ⟨-, p, -, rfl⟩ | ⟨-, d, -, rfl⟩
  · exact ⟨trivial, trivial, trivial, wholeItems_map whole_listedDevice (p.of devices), trivial⟩
  · exact ⟨trivial, trivial, whole_listedDevice d, trivial⟩

/-- A query is answered exactly if there is a listing, and the answer carries it. -/
theorem query_eq_ok_iff {devices : Catalogue} {request response : Envelope} {asked : String} :
    devices.query request asked = .ok response ↔
      ∃ answer, devices.listing request.queryParams asked = .ok answer ∧
        response = request.response answer.toOctets Envelope.jsonContent := by
  rw [query]
  cases devices.listing request.queryParams asked with
  | error f => simp [Except.map]
  | ok answer => simp [Except.map, eq_comm]

theorem carries_of_listing {devices : Catalogue} {params : Params} {asked : String} {answer : Json}
    (hanswer : devices.listing params asked = .ok answer) (request : Envelope)
    (contentType : String) : Carries (request.response answer.toOctets contentType) answer :=
  ⟨rfl, Json.ofOctets?_toOctets (whole_of_listing hanswer)⟩

/-! ## What the router goes by -/

section

variable {devices : Catalogue} (hnames : (devices.map (·.name)).Nodup) {d : Device}
  (hd : d ∈ devices) (base : String)

include hnames hd

/-- The router finds a device that is in the catalogue by its name, and then its own commands
decide. -/
theorem resolve_of_mem (command : String) (method : Method) :
    devices.resolve base d.name command method = (permit d command method).map fun _ =>
      ⟨d.service, requestTopic base d.service d.name command method⟩ := by
  rw [resolve, (routed?_eq_some_iff hnames).mpr ⟨hd, rfl⟩]
  simp only
  cases permit d command method with
  | error f => rfl
  | ok u => rfl

/-- The first command with a name decides. -/
theorem resolve_of_first {before : List Command} {c : Command} {behind : List Command}
    (hsplit : d.commands = before ++ c :: behind) (hfirst : ∀ b ∈ before, b.name ≠ c.name)
    (method : Method) :
    devices.resolve base d.name c.name method =
      if c.supports method then
        .ok ⟨d.service, requestTopic base d.service d.name c.name method⟩
      else .error (.unsupportedMethod c.name d.name method) := by
  have hcommand : d.command? c.name = some c :=
    List.find?_eq_some_iff_append.mpr
      ⟨beq_self_eq_true _, before, behind, hsplit, by simpa using hfirst⟩
  have hsome : d.commands.isEmpty = false := by simp [hsplit]
  rw [resolve_of_mem hnames hd, permit, hsome, hcommand, if_neg Bool.false_ne_true]
  show Except.map _ (if c.supports method = true then Except.ok () else _) = _
  by_cases hsupports : c.supports method = true
  · rw [if_pos hsupports, if_pos hsupports]
    rfl
  · rw [if_neg hsupports, if_neg hsupports]
    rfl

/-- A command that a device with commands does not have is refused. -/
theorem resolve_of_unnamed (hcommands : d.commands ≠ []) {command : String}
    (hnone : ∀ c ∈ d.commands, c.name ≠ command) (method : Method) :
    devices.resolve base d.name command method = .error (.unknownCommand command d.name) := by
  have hcommand : d.command? command = none := List.find?_eq_none.mpr (by simpa using hnone)
  have hsome : d.commands.isEmpty = false := by simpa using hcommands
  rw [resolve_of_mem hnames hd, permit, hsome, hcommand]
  rfl

/-- The first entry with a name shows what the router goes by. -/
theorem resolve_iff_shows {before behind : List Json} {entry : Json}
    (hsplit : d.commands.map (listedCommand d.name) = before ++ entry :: behind) {command : String}
    (hname : shownName? entry = some command) (hfirst : ∀ b ∈ before, shownName? b ≠ some command)
    (method : Method) :
    (∃ r, devices.resolve base d.name command method = .ok r) ↔ shows entry method = true := by
  obtain ⟨cs, cs', hcommands, rfl, hrest⟩ := List.map_eq_append_iff.mp hsplit
  obtain ⟨c, cs', rfl, rfl, rfl⟩ := List.map_eq_cons_iff.mp hrest
  obtain rfl : c.name = command := Option.some.inj hname
  have hearlier : ∀ b ∈ cs, b.name ≠ c.name := fun b hb heq =>
    hfirst _ (List.mem_map_of_mem hb) (congrArg some heq)
  rw [resolve_of_first hnames hd base hcommands hearlier, shows_listedCommand]
  cases c.supports method <;> simp

end

/-- What is listed has a route.  In a checked configuration a query that asks for a device with
commands is answered, and lists all of them.  Every answer to a query reads as a listing in which,
whatever the prefix and the method, the first entry with the name of a command shows the method as
allowed exactly if the command has a route with it; this goes for every entry where no two entries
have one name.  A command that is not listed has no route. -/
theorem listed_commands_have_routes {c : Config} (hcheck : c.check = .ok ()) {d : Device}
    (hd : d ∈ c.devices) (hcommands : d.commands ≠ []) (request : Envelope) (asked : String) :
    (AsksFor request.queryParams asked d →
      ∃ response, query c.devices request asked = .ok response) ∧
    ∀ response, query c.devices request asked = .ok response → ∃ answer, Carries response answer ∧
      (AsksFor request.queryParams asked d →
        listedCommands? answer d.name = some (d.commands.map (listedCommand d.name))) ∧
      ∀ entries, listedCommands? answer d.name = some entries →
        ∀ (base command : String) (method : Method),
          (∀ before entry behind, entries = before ++ entry :: behind →
            shownName? entry = some command → (∀ b ∈ before, shownName? b ≠ some command) →
            ((∃ r, resolve c.devices base d.name command method = .ok r) ↔
              shows entry method = true)) ∧
          ((entries.map shownName?).Nodup → ∀ entry ∈ entries, shownName? entry = some command →
            ((∃ r, resolve c.devices base d.name command method = .ok r) ↔
              shows entry method = true)) ∧
          ((∀ entry ∈ entries, shownName? entry ≠ some command) →
            ∃ f, resolve c.devices base d.name command method = .error f ∧ f.kind = .routing) := by
  have hnames := Config.nodup_of_check hcheck
  constructor
  · intro hasked
    obtain ⟨answer, hanswer, -⟩ := exists_listing hnames hd hasked
    exact ⟨_, query_eq_ok_iff.mpr ⟨answer, hanswer, rfl⟩⟩
  · intro response hresponse
    obtain ⟨answer, hanswer, rfl⟩ := query_eq_ok_iff.mp hresponse
    refine ⟨answer, carries_of_listing hanswer request _, ?_, ?_⟩
    · intro hasked
      obtain ⟨answer', hanswer', hentries⟩ := exists_listing hnames hd hasked
      rwa [Except.ok.inj (hanswer.symm.trans hanswer')]
    intro entries hentries base command method
    -- The entries of the listing are the commands of the device, one for one and in their order.
    obtain rfl := listedCommands?_of_listing hnames hanswer hd hentries
    refine ⟨?_, ?_, ?_⟩
    · intro before entry behind hsplit hname hfirst
      exact resolve_iff_shows hnames hd base hsplit hname hfirst method
    · -- With distinct names every entry is the first one of its name.
      intro hdistinct entry hentry hname
      obtain ⟨before, behind, hsplit⟩ := List.append_of_mem hentry
      refine resolve_iff_shows hnames hd base hsplit hname (fun b hb heq => ?_) method
      rw [hsplit, List.map_append, List.map_cons] at hdistinct
      exact (List.nodup_append.mp hdistinct).2.2 _ (List.mem_map_of_mem hb) _ List.mem_cons_self
        (heq.trans hname.symm)
    · intro hnone
      have hunnamed : ∀ e ∈ d.commands, e.name ≠ command := fun e he heq =>
        hnone _ (List.mem_map_of_mem he) (congrArg some heq)
      exact ⟨_, resolve_of_unnamed hnames hd base hcommands hunnamed method, rfl⟩

/-- A saw whose speed can be read and whose feed can be read and written. -/
def saw : Device :=
  { name := "saw", service := "cutting",
    commands := [{ name := "speed" }, { name := "feed", set := true }] }

/-- The theorem applied to the saw, in a workshop with a press that has no commands: its feed is
shown as something to write and has a route, its speed is not and has none, and it has no noise. -/
theorem feed_of_saw_is_listed_and_routed :
    let devices := [saw, { name := "press", service := "forming" }]
    ∃ response answer, query devices {} "saw" = .ok response ∧ Carries response answer ∧
      listedCommands? answer "saw" = some (saw.commands.map (listedCommand "saw")) ∧
      (∃ r, resolve devices "internal" "saw" "feed" .set = .ok r) ∧
      (¬ ∃ r, resolve devices "internal" "saw" "speed" .set = .ok r) ∧
      ∃ f, resolve devices "internal" "saw" "noise" .get = .error f ∧ f.kind = .routing := by
  intro devices
  obtain ⟨hanswered, hagree⟩ :=
    listed_commands_have_routes (c := { devices }) (d := saw) (by decide) List.mem_cons_self
      (List.cons_ne_nil _ _) {} "saw"
  have hasked : AsksFor Params.empty "saw" saw := .inl ⟨rfl, by decide⟩
  obtain ⟨response, hresponse⟩ := hanswered hasked
  obtain ⟨answer, hcarries, hlisted, hroutes⟩ := hagree response hresponse
  have hentries := hlisted hasked
  have hdistinct : ((saw.commands.map (listedCommand "saw")).map shownName?).Nodup := by decide
  have hroute := fun command method => hroutes _ hentries "internal" command method
  refine ⟨response, answer, hresponse, hcarries, hentries, ?_, ?_, ?_⟩
  · exact ((hroute "feed" .set).2.1 hdistinct (listedCommand "saw" ⟨"feed", true, true⟩)
      (List.mem_of_getElem? (i := 1) rfl) rfl).mpr rfl
  · intro hok
    have hshown := ((hroute "speed" .set).2.1 hdistinct (listedCommand "saw" ⟨"speed", true, false⟩)
      List.mem_cons_self rfl).mp hok
    exact absurd hshown (by decide)
  · exact (hroute "noise" .get).2.2 (by decide)

/-- A saw with a speed that is given twice, once to be read and once to be written. -/
def doubledSaw : Device :=
  { name := "saw", service := "cutting",
    commands := [{ name := "speed" }, { name := "speed", get := false, set := true }] }

/-- A configuration with this saw passes its check.  The second entry for the speed shows that it
can be written, and there is no route for that. -/
theorem repeated_command_is_listed_without_route :
    ({ devices := [doubledSaw] } : Config).check = .ok () ∧
      ∃ response answer entries entry, query [doubledSaw] {} "saw" = .ok response ∧
        Carries response answer ∧ listedCommands? answer "saw" = some entries ∧ entry ∈ entries ∧
        shownName? entry = some "speed" ∧ shows entry .set = true ∧
        resolve [doubledSaw] "internal" "saw" "speed" .set =
          .error (.unsupportedMethod "speed" "saw" .set) := by
  have hanswer : listing [doubledSaw] Params.empty "saw" = .ok (deviceListing doubledSaw) := rfl
  refine ⟨rfl, _, _, _, listedCommand "saw" ⟨"speed", false, true⟩,
    query_eq_ok_iff.mpr ⟨_, hanswer, rfl⟩, carries_of_listing hanswer _ _, rfl, ?_, rfl, rfl, rfl⟩
  exact List.mem_of_getElem? (i := 1) rfl

end Catalogue

end CommandRelay
