import CommandRelay.Proofs.Catalogue.Listing
import CommandRelay.Proofs.Catalogue.Paging
import CommandRelay.Proofs.Json.Given

/-!
# Pages of the catalogue

Whoever wants the whole catalogue asks for it page by page and puts together what it reads.

1. **Reading a listing** — `Roll.read?` takes the total and the entries of devices out of the octets
   of an answer.  It knows the names of the fields and JSON, and nothing of how a listing is made.
2. **What is read** — of a listing it reads the number of all devices and one `Device.entry` for
   each device on the page, field by field (`read?_pageListing`).
3. **Pages side by side** — pages of one size that follow each other share out a list
   (`flatMap_page_of`).
4. **The theorem** — `pages_partition_catalogue`.
-/

namespace CommandRelay

/-! ## Reading a listing -/

namespace Json.Document

/-- The member of an object with a name; of two with one name the later one counts. -/
def member? (d : Document) (name : String) : Option Document :=
  match d with
  | .object fields => (fields.reverse.find? fun f => unitText? f.1 == some name).map (·.2)
  | _ => none

/-- The text of a document that is one. -/
def text? : Document → Option String
  | .text units => unitText? units
  | _ => none

/-- The truth value of a document that is one. -/
def bool? : Document → Option Bool
  | .bool b => some b
  | _ => none

/-- The natural number that a document is: digits without sign, point and exponent. -/
def natural? : Document → Option Nat
  | .number ⟨false, whole, none, none⟩ => some (digitsValue whole)
  | _ => none

/-- The items of a document that is a list. -/
def items? : Document → Option (List Document)
  | .list items => some items
  | _ => none

/-- A field of a written object is the last one of its name, as it was written. -/
theorem member?_spelling (fields : List (String × Json)) (name : String) :
    (spelling (.object fields)).member? name = (field? fields.reverse name).map spelling := by
  have hfields : spellingFields fields =
    fields.map fun f => (textUnits f.1.toList, spelling f.2) := by
    induction fields with
    | nil => rfl
    | cons f fields ih => exact congrArg (_ :: ·) ih
  -- A name is looked up by its characters, so it does not matter how these are spelled.
  have hkey : (fun f : List TextUnit × Document => unitText? f.1 == some name) ∘
      (fun f : String × Json => (textUnits f.1.toList, spelling f.2)) = fun f => f.1 == name := by
    funext f
    rw [Function.comp_apply, unitText?_textUnits]
    rfl
  rw [spelling, member?, hfields, ← List.map_reverse, List.find?_map, hkey, field?, Option.map_map,
    Option.map_map]
  rfl

theorem text?_spelling (s : String) : (spelling (.text s)).text? = some s := unitText?_textUnits s

/-- A number without a sign is read back. -/
theorem natural?_spelling (n : Nat) : (spelling (.ofNat n)).natural? = some n := by
  have hneg : ¬ (n : Int) < 0 := Int.not_lt.mpr (Int.natCast_nonneg n)
  have hspelling : spelling (.ofNat n) = .number ⟨false, digits n, none, none⟩ := by
    show Document.number ⟨decide ((n : Int) < 0), digits (n : Int).natAbs, none, none⟩ = _
    rw [decide_eq_false hneg, Int.natAbs_natCast]
  rw [hspelling, natural?, digitsValue_digits]

/-- The items of a written list are read back, in their order. -/
theorem items?_spelling (items : List Json) :
    (spelling (.list items)).items? = some (items.map spelling) := by
  have hitems : spellingItems items = items.map spelling := by
    induction items with
    | nil => rfl
    | cons v items ih => exact congrArg (_ :: ·) ih
  rw [spelling, items?, hitems]

end Json.Document

/-- A command in a listing that is read. -/
structure CommandEntry where
  name : String
  get : Bool
  set : Bool
  path : String
  deriving DecidableEq

/-- A device in a listing that is read. -/
structure DeviceEntry where
  name : String
  profile : String
  commands : List CommandEntry
  deriving DecidableEq

/-- A page of the catalogue that is read: how many devices there are, and those on the page. -/
structure Roll where
  total : Nat
  devices : List DeviceEntry
  deriving DecidableEq

open Json (Document)

/-- Reads the entry of a command. -/
def CommandEntry.read? (d : Document) : Option CommandEntry := do
  let name ← (← d.member? "name").text?
  let get ← (← d.member? "get").bool?
  let set ← (← d.member? "set").bool?
  let path ← (← d.member? "path").text?
  some { name, get, set, path }

/-- Reads the entry of a device. -/
def DeviceEntry.read? (d : Document) : Option DeviceEntry := do
  let name ← (← d.member? "deviceName").text?
  let profile ← (← d.member? "profileName").text?
  let commands ← (← (← d.member? "coreCommands").items?).mapM CommandEntry.read?
  some { name, profile, commands }

/-- Reads the octets of an answer. -/
def Roll.read? (payload : List UInt8) : Option Roll := do
  let d ← Document.ofOctets? payload
  let total ← (← d.member? "totalCount").natural?
  let devices ← (← (← d.member? "deviceCoreCommands").items?).mapM DeviceEntry.read?
  some { total, devices }

/-! ## What is read -/

/-- What a reader should find of a device: its own name and profile, and of all its commands in
their order the name, the methods and the path. -/
def Device.entry (d : Device) : DeviceEntry where
  name := d.name
  profile := d.profile
  commands := d.commands.map fun c =>
    { name := c.name, get := c.supports .get, set := c.supports .set
      path := "/api/v3/device/name/" ++ d.name ++ "/" ++ c.name }

/-- Where each of the items is read back, so is the list. -/
theorem mapM_map_eq_some {α β γ : Type} {f : β → Option γ} {g : α → β} {e : α → γ}
    (h : ∀ a, f (g a) = some (e a)) (l : List α) : (l.map g).mapM f = some (l.map e) := by
  induction l with
  | nil => rfl
  | cons a l ih =>
    rw [List.map_cons, List.mapM_cons, h, ih]
    rfl

namespace Catalogue

open Json.Document

/-- What a reader finds of a listed command is its name, its methods and its path. -/
theorem read?_listedCommand (device : String) (c : Command) :
    CommandEntry.read? (Json.spelling (listedCommand device c)) = some {
      name := c.name, get := c.supports .get, set := c.supports .set
      path := "/api/v3/device/name/" ++ device ++ "/" ++ c.name } := by
  have hname : (Json.spelling (listedCommand device c)).member? "name" =
      some (Json.spelling (.text c.name)) := member?_spelling _ _
  have hget : (Json.spelling (listedCommand device c)).member? "get" =
      some (Json.spelling (.bool c.get)) := member?_spelling _ _
  have hset : (Json.spelling (listedCommand device c)).member? "set" =
      some (Json.spelling (.bool c.set)) := member?_spelling _ _
  have hpath : (Json.spelling (listedCommand device c)).member? "path" =
      some (Json.spelling (.text (commandPath device c.name))) := member?_spelling _ _
  have htext : commandPath device c.name = "/api/v3/device/name/" ++ device ++ "/" ++ c.name := by
    have hfront : "/api/" ++ "v3" ++ "/device/name/" = "/api/v3/device/name/" := by decide
    rw [← hfront]
    rfl
  rw [CommandEntry.read?, hname, hget, hset, hpath]
  simp only [Option.bind_eq_bind, Option.bind_some, text?_spelling, htext]
  rfl

/-- What a reader finds of a listed device is its entry, with all its commands. -/
theorem read?_listedDevice (d : Device) :
    DeviceEntry.read? (Json.spelling (listedDevice d)) = some d.entry := by
  have hname : (Json.spelling (listedDevice d)).member? "deviceName" =
      some (Json.spelling (.text d.name)) := member?_spelling _ _
  have hprofile : (Json.spelling (listedDevice d)).member? "profileName" =
      some (Json.spelling (.text d.profile)) := member?_spelling _ _
  have hcommands : (Json.spelling (listedDevice d)).member? "coreCommands" =
      some (Json.spelling (.list (d.commands.map (listedCommand d.name)))) := member?_spelling _ _
  rw [DeviceEntry.read?, hname, hprofile, hcommands]
  simp only [Option.bind_eq_bind, Option.bind_some, text?_spelling, items?_spelling, List.map_map]
  have hentries := mapM_map_eq_some (f := CommandEntry.read?)
    (g := Json.spelling ∘ listedCommand d.name) (read?_listedCommand d.name) d.commands
  rw [hentries]
  rfl

/-- Of the listing of a page the total and the entries of its devices are read. -/
theorem read?_pageListing (devices : Catalogue) (p : Paging.Page) :
    Roll.read? (devices.pageListing p).toOctets =
      some ⟨devices.length, (p.of devices).map Device.entry⟩ := by
  have hwhole : (devices.pageListing p).Whole :=
    ⟨trivial, trivial, trivial, wholeItems_map whole_listedDevice (p.of devices), trivial⟩
  have htotal : (Json.spelling (devices.pageListing p)).member? "totalCount" =
      some (Json.spelling (.ofNat devices.length)) := member?_spelling _ _
  have hdevices : (Json.spelling (devices.pageListing p)).member? "deviceCoreCommands" =
      some (Json.spelling (.list ((p.of devices).map listedDevice))) := member?_spelling _ _
  rw [Roll.read?, Json.ofOctets?_toOctets hwhole]
  simp only [Option.bind_eq_bind, Option.bind_some, htotal, hdevices, natural?_spelling,
    items?_spelling, List.map_map]
  rw [mapM_map_eq_some (f := DeviceEntry.read?) (g := Json.spelling ∘ listedDevice)
    read?_listedDevice]
  rfl

/-! ## Pages side by side -/

/-- Pages of one size that follow each other hold together what comes first in a list. -/
theorem flatMap_page_of {α : Type} (entries : List α) (size pages : Nat) :
    ((List.range pages).flatMap fun j => Paging.Page.of ⟨j * size, some size⟩ entries) =
      entries.take (pages * size) := by
  induction pages with
  | zero => rw [Nat.zero_mul, List.take_zero]; rfl
  | succ pages ih =>
    rw [List.range_succ, List.flatMap_append, ih, List.flatMap_singleton, Nat.succ_mul,
      List.take_add]
    rfl

/-! ## Asking for a page -/

/-- Parameters that ask for an offset and a limit in plain digits. -/
def asking (offset limit : Int) : Params :=
  ⟨[("limit", .text (String.ofList (Text.decimalInt limit))),
    ("offset", .text (String.ofList (Text.decimalInt offset)))],
    List.pairwise_pair.mpr (show "limit" < "offset" by decide), trivial, trivial, trivial⟩

/-- The decimal digits of an integer spell it. -/
theorem spells_decimalInt {n : Int} (h : Text.FitsSigned n) :
    Paging.Spells (String.ofList (Text.decimalInt n)) n :=
  @Paging.Spells.intro _ [] (Text.decimalInt n) [] n (by simp) (List.forall_mem_nil _)
    (List.forall_mem_nil _) (Text.numeral_decimalInt n) h

/-- Every offset and every limit of 64 bits can be asked for. -/
theorem given_asking {offset limit : Int} (hoffset : Text.FitsSigned offset)
    (hlimit : Text.FitsSigned limit) :
    Paging.Given (asking offset limit) "offset" 0 offset ∧
      Paging.Given (asking offset limit) "limit" (-1) limit :=
  ⟨.spelled rfl (spells_decimalInt hoffset), .spelled rfl (spells_decimalInt hlimit)⟩

/-- A query about all devices is answered with the page that its parameters make. -/
theorem query_all (devices : Catalogue) (request : Envelope) :
    query devices request Topic.allDevices = (Paging.page request.queryParams).map fun p =>
      request.response (devices.pageListing p).toOctets Envelope.jsonContent := by
  rw [query, listing, if_pos rfl]
  cases Paging.page request.queryParams <;> rfl

/-- Whoever asks for a page reads it in the answer. -/
theorem read?_of_asks {devices : Catalogue} {request : Envelope} {p : Paging.Page}
    (h : Paging.Asks request.queryParams p) :
    ∃ response, query devices request Topic.allDevices = .ok response ∧
      Roll.read? response.payload = some ⟨devices.length, (p.of devices).map Device.entry⟩ := by
  rw [query_all, Paging.page_of_asks h]
  exact ⟨_, rfl, read?_pageListing devices p⟩

/-- Every answer about all devices is a page that was asked for. -/
theorem asks_of_query {devices : Catalogue} {request response : Envelope}
    (h : query devices request Topic.allDevices = .ok response) :
    ∃ p, Paging.Asks request.queryParams p ∧
      Roll.read? response.payload = some ⟨devices.length, (p.of devices).map Device.entry⟩ := by
  rw [query_all] at h
  cases hpage : Paging.page request.queryParams with
  | error f =>
    rw [hpage] at h
    cases h
  | ok p =>
    rw [hpage] at h
    obtain rfl := Except.ok.inj h
    exact ⟨p, Paging.page_eq_ok_iff.mp hpage, read?_pageListing devices p⟩

/-- Nothing is on a page that begins behind the last entry or has no room. -/
theorem of_eq_nil {α : Type} {entries : List α} {params : Params} {p : Paging.Page}
    (h : Paging.Asks params p)
    (hempty : (∃ offset : Nat, entries.length ≤ offset ∧ Paging.Given params "offset" 0 offset) ∨
      Paging.Given params "limit" (-1) 0) : p.of entries = [] := by
  cases h with
  | unlimited hoffset hlimit =>
    rcases hempty with ⟨behind, hle, hbehind⟩ | hzero
    · rw [Int.ofNat_inj.mp (hoffset.unique hbehind)]
      exact List.drop_eq_nil_of_le hle
    · exact absurd (hlimit.unique hzero) (by decide)
  | @limited offset limit hoffset hlimit =>
    rcases hempty with ⟨behind, hle, hbehind⟩ | hzero
    · rw [Int.ofNat_inj.mp (hoffset.unique hbehind)]
      show (entries.drop behind).take _ = []
      rw [List.drop_eq_nil_of_le hle, List.take_nil]
    · rw [show limit = 0 from Int.ofNat_inj.mp (hlimit.unique hzero)]
      show (entries.drop offset).take 0 = []
      rw [List.take_zero]

/-! ## The theorem -/

/-- **Pages share out the catalogue.**  Queries about all devices ask for pages of one size, the
first one from the start and each further one where the last one ended, until the offset is not
below the number of devices.  All of them are answered, each answer reads as the page that was asked
for, and what is read of the pages together is one entry for each device of the catalogue, in its
order.  Every answer to such a query tells the number of all devices, whatever the page is; behind
the last device and with the limit 0 it lists none, and without a limit, or with the limit -1, all
from the offset on.  And every offset and limit of 64 bits can be asked for. -/
theorem pages_partition_catalogue (devices : Catalogue) :
    (∀ (size pages : Nat) (request : Nat → Envelope), devices.length ≤ pages * size →
      (∀ j ≤ pages, Paging.Given (request j).queryParams "offset" 0 ((j * size : Nat) : Int) ∧
        Paging.Given (request j).queryParams "limit" (-1) size) →
      ∃ roll : Nat → Roll,
        (∀ j ≤ pages, (roll j).total = devices.length ∧
          (roll j).devices = ((devices.drop (j * size)).take size).map Device.entry ∧
          ∃ response, query devices (request j) Topic.allDevices = .ok response ∧
            Roll.read? response.payload = some (roll j)) ∧
        ((List.range (pages + 1)).flatMap fun j => (roll j).devices) =
          devices.map Device.entry) ∧
    (∀ request response, query devices request Topic.allDevices = .ok response →
      ∃ roll, Roll.read? response.payload = some roll ∧ roll.total = devices.length ∧
        ((∃ offset : Nat, devices.length ≤ offset ∧
            Paging.Given request.queryParams "offset" 0 offset) ∨
          Paging.Given request.queryParams "limit" (-1) 0 → roll.devices = [])) ∧
    (∀ (request : Envelope) (offset : Nat), Paging.Given request.queryParams "offset" 0 offset →
      Paging.Given request.queryParams "limit" (-1) (-1) →
      ∃ response, query devices request Topic.allDevices = .ok response ∧
        Roll.read? response.payload =
          some ⟨devices.length, (devices.drop offset).map Device.entry⟩) ∧
    ∀ offset limit : Int, Text.FitsSigned offset → Text.FitsSigned limit →
      ∃ params, Paging.Given params "offset" 0 offset ∧ Paging.Given params "limit" (-1) limit := by
  refine ⟨fun size pages request hall hgiven => ?_, fun request response hresponse => ?_,
    fun request offset hoffset hlimit => read?_of_asks (.unlimited hoffset hlimit),
    fun offset limit hoffset hlimit => ⟨asking offset limit, given_asking hoffset hlimit⟩⟩
  · let page : Nat → Paging.Page := fun j => ⟨j * size, some size⟩
    refine ⟨fun j => ⟨devices.length, ((page j).of devices).map Device.entry⟩,
      fun j hj => ⟨rfl, rfl, read?_of_asks ?_⟩, ?_⟩
    · exact .limited (hgiven j hj).1 (hgiven j hj).2
    · -- The page behind the last device adds nothing.
      have hcover : devices.length ≤ (pages + 1) * size :=
        Nat.le_trans hall (Nat.mul_le_mul_right size (Nat.le_succ pages))
      show ((List.range (pages + 1)).flatMap fun j => List.map _ _) = _
      rw [← List.map_flatMap, flatMap_page_of, List.take_of_length_le hcover]
  · obtain ⟨p, hasks, hread⟩ := asks_of_query hresponse
    refine ⟨_, hread, rfl, fun hempty => ?_⟩
    rw [of_eq_nil hasks hempty, List.map_nil]

/-- A mill with a quote, a backslash and letters beyond ASCII in its name. -/
def quotedMill : Device :=
  { name := "Fräse \"α\\1\"", service := "milling", profile := "5-Achs"
    commands := [{ name := "Vorschub", set := true }, { name := "Ölstand" }] }

/-- A workshop with this mill. -/
def workshop : Catalogue :=
  [quotedMill, saw, { name := "lathe", service := "turning" }]

/-- Queries about the workshop in pages of two. -/
def inTwos (j : Nat) : Envelope := { queryParams := asking ((j * 2 : Nat) : Int) 2 }

/-- The theorem for the workshop: two pages and an empty one behind them read as the mill, the saw
and the lathe, and every answer says that there are three. -/
theorem workshop_is_read_in_twos :
    workshop.length ≤ 2 * 2 ∧
    (∀ j ≤ 2, Paging.Given (inTwos j).queryParams "offset" 0 ((j * 2 : Nat) : Int) ∧
      Paging.Given (inTwos j).queryParams "limit" (-1) (2 : Nat)) ∧
    ∃ roll : Nat → Roll,
      (∀ j ≤ 2, (roll j).total = 3 ∧ ∃ response,
        query workshop (inTwos j) Topic.allDevices = .ok response ∧
          Roll.read? response.payload = some (roll j)) ∧
      (roll 0).devices ++ (roll 1).devices ++ (roll 2).devices = workshop.map Device.entry ∧
      (roll 2).devices = [] := by
  have hall : workshop.length ≤ 2 * 2 := by decide
  have hgiven : ∀ j ≤ 2, Paging.Given (inTwos j).queryParams "offset" 0 ((j * 2 : Nat) : Int) ∧
      Paging.Given (inTwos j).queryParams "limit" (-1) (2 : Nat) := by
    intro j hj
    exact given_asking ⟨by omega, by omega⟩ (by decide)
  obtain ⟨hpages, hanswers, -, -⟩ := pages_partition_catalogue workshop
  obtain ⟨roll, hroll, hwhole⟩ := hpages 2 2 inTwos hall hgiven
  refine ⟨hall, hgiven, roll, fun j hj => ⟨(hroll j hj).1, (hroll j hj).2.2⟩, ?_, ?_⟩
  · rw [← hwhole]
    simp [List.range_succ]
  · obtain ⟨-, -, response, hresponse, hread⟩ := hroll 2 (Nat.le_refl 2)
    obtain ⟨roll', hread', -, hempty⟩ := hanswers _ response hresponse
    rw [Option.some.inj (hread.symm.trans hread')]
    exact hempty (.inl ⟨2 * 2, hall, (hgiven 2 (Nat.le_refl 2)).1⟩)

end Catalogue

end CommandRelay
