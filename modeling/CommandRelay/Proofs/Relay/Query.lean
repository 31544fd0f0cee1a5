import CommandRelay.Proofs.Catalogue.Listing
import CommandRelay.Proofs.Catalogue.Paging
import CommandRelay.Proofs.Envelope.RoundTrip
import CommandRelay.Proofs.Relay.Gatekeeping

/-!
# Every query is answered once

A query that can be read, and for whose answer there is a topic, asks the catalogue and publishes
one message.  What it is told hangs on the catalogue, on its parameters and on the last level of its
topic, and on nothing else.

1. **`MeansAll`** — the spellings of a last level that stand for the whole catalogue; any other
   level is the name of a device (`queriedDevice_eq`).
2. **`Told`** — what a query is told about a level: a page of the catalogue, a device, or a first
   fault.  It is said without the code that looks it up, and is what that code finds (`told_iff`).
3. **The theorem** — `query_answered_once`, for every catalogue and all collaborators beside it.
-/

namespace CommandRelay.Relay

open Program

/-! ## The last level of a topic -/

/-- A letter is lowered to a small one from it or from its capital. -/
theorem toLower_eq_iff {c small capital : Char} (hsmall : 97 ≤ small.toNat ∧ small.toNat ≤ 122)
    (hcapital : capital.toNat + 32 = small.toNat) :
    c.toLower = small ↔ c = small ∨ c = capital := by
  have hlower : c.toLower.toNat =
      if 65 ≤ c.toNat ∧ c.toNat ≤ 90 then c.toNat + 32 else c.toNat := by
    unfold Char.toLower
    split
    · rename_i h
      have hrange : 65 ≤ c.toNat ∧ c.toNat ≤ 90 := h
      have hsmall : c.val.toNat ≤ 90 := hrange.2
      rw [if_pos hrange]
      show (c.val + 32).toNat = c.val.toNat + 32
      rw [UInt32.toNat_add]
      show (c.val.toNat + 32) % 4294967296 = c.val.toNat + 32
      omega
    · rename_i h
      exact (if_neg h).symm
  rw [← Char.toNat_inj, ← Char.toNat_inj, ← Char.toNat_inj, hlower]
  split
  · omega
  · omega

/-- The level stands for the whole catalogue. -/
def MeansAll (level : String) : Prop :=
  level ∈ ["all", "alL", "aLl", "aLL", "All", "AlL", "ALl", "ALL"]

instance : DecidablePred MeansAll := fun level =>
  inferInstanceAs (Decidable (level ∈ ["all", "alL", "aLl", "aLL", "All", "AlL", "ALl", "ALL"]))

/-- These are all the spellings that differ from `all` in the case of letters. -/
theorem equalIgnoringCase_all_iff {level : String} :
    Text.equalIgnoringCase level Topic.allDevices = true ↔ MeansAll level := by
  constructor
  · intro h
    have hall : Topic.allDevices.toList.map Char.toLower = ['a', 'l', 'l'] := by decide
    unfold Text.equalIgnoringCase at h
    rw [hall, beq_iff_eq] at h
    obtain ⟨x, rest, hlevel, hx, hrest⟩ := List.map_eq_cons_iff.mp h
    obtain ⟨y, rest', rfl, hy, hrest'⟩ := List.map_eq_cons_iff.mp hrest
    obtain ⟨z, rest'', rfl, hz, hnil⟩ := List.map_eq_cons_iff.mp hrest'
    obtain rfl := List.map_eq_nil_iff.mp hnil
    -- Each of three letters is a small or a large one, which makes eight spellings.
    have ha : ∀ c : Char, c.toLower = 'a' → c = 'a' ∨ c = 'A' := fun c =>
      (toLower_eq_iff (by decide) (by decide)).mp
    have hl : ∀ c : Char, c.toLower = 'l' → c = 'l' ∨ c = 'L' := fun c =>
      (toLower_eq_iff (by decide) (by decide)).mp
    have hspelled : level = String.ofList [x, y, z] := by rw [← hlevel, String.ofList_toList]
    rw [hspelled]
    rcases ha x hx with rfl | rfl
    · rcases hl y hy with rfl | rfl
      · rcases hl z hz with rfl | rfl
        · decide
        · decide
      · rcases hl z hz with rfl | rfl
        · decide
        · decide
    · rcases hl y hy with rfl | rfl
      · rcases hl z hz with rfl | rfl
        · decide
        · decide
      · rcases hl z hz with rfl | rfl
        · decide
        · decide
  · intro h
    have hevery : ∀ l ∈ ["all", "alL", "aLl", "aLL", "All", "AlL", "ALl", "ALL"],
        Text.equalIgnoringCase l Topic.allDevices = true := by decide
    exact hevery level h

/-- A query topic names what its last level stands for. -/
theorem queriedDevice_eq {topic last : String} {front : List String}
    (h : Topic.levels topic = front ++ [last]) :
    Topic.queriedDevice topic = if MeansAll last then Topic.allDevices else last := by
  unfold Topic.queriedDevice
  rw [h, List.getLastD_concat]
  by_cases hall : MeansAll last
  · rw [if_pos hall]
    exact if_pos (equalIgnoringCase_all_iff.mpr hall)
  · rw [if_neg hall]
    exact if_neg fun hequal => hall (equalIgnoringCase_all_iff.mp hequal)

/-- Answers a query about what a topic names. -/
def answerQuery (s : Settings) (asked : String) (payload : List UInt8) : Program Unit :=
  receiving s payload fun request =>
    match s.topic? .external Keys.queryResponse with
    | none =>
      giveUp s "Query response topic is unknown" (some request)
        (.missingTopic Keys.queryResponse .external)
    | some responseTopic =>
      .perform (.query request asked) fun x =>
        match (x : Except Fault Envelope) with
        | .ok response => deliver s responseTopic response
        | .error f => deliver s responseTopic (request.failureOf f.message)

/-- The handler of queries reads nothing of a topic but what it names. -/
theorem handleQuery_eq (s : Settings) (topic : String) (payload : List UInt8) :
    handleQuery s topic payload = answerQuery s (Topic.queriedDevice topic) payload := by
  refine congrArg (receiving s payload) (funext fun request => ?_)
  cases s.topic? .external Keys.queryResponse with
  | none => rfl
  | some responseTopic =>
    refine congrArg (Program.perform _) (funext fun x => ?_)
    cases x with
    | ok response => rfl
    | error f => rfl

/-- Two topics that end alike are the same to the handler of queries, and so are two that end in a
spelling of `all`. -/
theorem handleQuery_congr {topic topic' last last' : String} {front front' : List String}
    (h : Topic.levels topic = front ++ [last]) (h' : Topic.levels topic' = front' ++ [last'])
    (hlast : last' = last ∨ MeansAll last ∧ MeansAll last') (s : Settings) (payload : List UInt8) :
    handleQuery s topic' payload = handleQuery s topic payload := by
  rw [handleQuery_eq, handleQuery_eq, queriedDevice_eq h, queriedDevice_eq h']
  rcases hlast with rfl | ⟨hall, hall'⟩
  · rfl
  · rw [if_pos hall, if_pos hall']

/-! ## What a query is told -/

/-- What a query is told about a level: the body of a listing, or the text of a fault. -/
inductive Told (devices : Catalogue) (params : Params) (level : String) :
    Except String Json → Prop
  /-- A page of the whole catalogue. -/
  | page {p : Paging.Page} (hall : MeansAll level) (hasks : Paging.Asks params p) :
      Told devices params level (.ok (devices.pageListing p))
  /-- The first device with that name. -/
  | device {before behind : List Device} {d : Device} (hone : ¬ MeansAll level)
      (hsplit : devices = before ++ d :: behind) (hfirst : ∀ b ∈ before, b.name ≠ level)
      (hname : d.name = level) : Told devices params level (.ok (Catalogue.deviceListing d))
  | badPage {f : Fault} (hall : MeansAll level) (hrefused : Paging.Refused params f) :
      Told devices params level (.error f.message)
  | unknown (hone : ¬ MeansAll level) (hnone : ∀ d ∈ devices, d.name ≠ level) :
      Told devices params level (.error s!"device '{level}' not found")

/-- A query is told what the catalogue lists for it, faults by their text. -/
theorem told_iff {devices : Catalogue} {params : Params} {level : String}
    {told : Except String Json} : Told devices params level told ↔
      told = (devices.listing params
        (if MeansAll level then Topic.allDevices else level)).mapError Fault.message := by
  -- A query about all devices is about a page, any other about the first device of the name.
  by_cases hall : MeansAll level
  · rw [if_pos hall]
    have hlisting : devices.listing params Topic.allDevices =
        (Paging.page params).map devices.pageListing := if_pos rfl
    rw [hlisting]
    -- In both directions the cases are those of `Told`; the two for one device are excluded here.
    constructor
    · intro h
      cases h with
      | page _ hasks => rw [Paging.page_of_asks hasks]; rfl
      | device hone => exact absurd hall hone
      | badPage _ hrefused => rw [Paging.page_of_refused hrefused]; rfl
      | unknown hone => exact absurd hall hone
    · rintro rfl
      cases hpage : Paging.page params with
      | ok p => exact .page hall (Paging.page_eq_ok_iff.mp hpage)
      | error f => exact .badPage hall (Paging.page_eq_error_iff.mp hpage)
  · rw [if_neg hall]
    have hother : level ≠ Topic.allDevices := by
      rintro rfl
      exact hall (by decide)
    have hlisting : devices.listing params level = (devices.listed? level).elim
        (.error (.unknownDevice level)) fun d => .ok (Catalogue.deviceListing d) := by
      unfold Catalogue.listing
      rw [if_neg hother]
      cases devices.listed? level with
      | none => rfl
      | some d => rfl
    have hunknown : (Fault.unknownDevice level).message = s!"device '{level}' not found" :=
      String.empty_append
    rw [hlisting]
    constructor
    · intro h
      cases h with
      | page hall' => exact absurd hall' hall
      | @device before behind d _ hsplit hfirst hname =>
        have hlisted : devices.listed? level = some d :=
          List.find?_eq_some_iff_append.mpr
            ⟨by simpa using hname, before, behind, hsplit, by simpa using hfirst⟩
        rw [hlisted]
        rfl
      | badPage hall' => exact absurd hall' hall
      | unknown _ hnone =>
        have hlisted : devices.listed? level = none :=
          List.find?_eq_none.mpr (by simpa using hnone)
        rw [hlisted, ← hunknown]
        rfl
    · rintro rfl
      cases hlisted : devices.listed? level with
      | some d =>
        obtain ⟨hname, before, behind, hsplit, hfirst⟩ :=
          List.find?_eq_some_iff_append.mp hlisted
        exact .device hall hsplit (by simpa using hfirst) (by simpa using hname)
      | none =>
        have hnone : ∀ d ∈ devices, d.name ≠ level := by
          simpa using List.find?_eq_none.mp hlisted
        show Told devices params level (.error (Fault.unknownDevice level).message)
        rw [hunknown]
        exact .unknown hall hnone

/-- The envelope that answers a query with what it is told. -/
def answerTo (q : Envelope) : Except String Json → Envelope
  | .ok body => q.response body.toOctets Envelope.jsonContent
  | .error text => q.failureOf text

/-- What comes of asking the catalogue is the answer with what it lists. -/
theorem envelope_query (devices : Catalogue) (q : Envelope) (asked : String) :
    Verdict.envelope q ((devices.query q asked).mapError Fault.message) =
      answerTo q ((devices.listing q.queryParams asked).mapError Fault.message) := by
  unfold Catalogue.query
  cases devices.listing q.queryParams asked with
  | ok body => rfl
  | error f => rfl

/-- An answer reads as it was written. -/
theorem ofWire?_answerTo (q : Envelope) (told : Except String Json) :
    Envelope.ofWire? (answerTo q told).toWire = some (answerTo q told) := by
  have hparams : (answerTo q told).queryParams = Params.empty := by
    cases told with
    | ok body => rfl
    | error text => rfl
  apply Envelope.ofWire?_toWire
  · rw [hparams]
    exact nofun
  · rw [hparams]
    exact nofun

/-- The body that a query is told can be read back. -/
theorem ofOctets?_told {devices : Catalogue} {params : Params} {asked : String} {body : Json}
    (h : (devices.listing params asked).mapError Fault.message = .ok body) :
    Json.Document.ofOctets? body.toOctets = some body.spelling := by
  cases hlisting : devices.listing params asked with
  | error f =>
    rw [hlisting] at h
    cases h
  | ok body' =>
    rw [hlisting] at h
    obtain rfl : body' = body := Except.ok.inj h
    exact Json.ofOctets?_toOctets (Catalogue.whole_of_listing hlisting)

/-! ## Runs against collaborators -/

/-- The handler of queries asks the catalogue about what the topic names, and hands the broker an
envelope of what comes of it. -/
theorem calls_handleQuery {σ : Type} {answer : (e : Effect) → σ → e.Answer × σ} {start : σ}
    {s : Settings} {devices : Catalogue} {responseTopic : String} {payload : List UInt8}
    {q : Envelope} (topic : String)
    (htopic : s.topic? .external Keys.queryResponse = some responseTopic)
    (hcatalogue : ∀ request device t,
      (answer (.query request device) t).1 = devices.query request device)
    (hq : Envelope.receive (answer .fresh start).1 payload s.wording = .ok q) :
    ∃ taken, calls (trace answer (handleQuery s topic payload) start) =
      [⟨.query q (Topic.queriedDevice topic), devices.query q (Topic.queriedDevice topic)⟩,
       ⟨.publish responseTopic s.delivery (Verdict.envelope q
          ((devices.query q (Topic.queriedDevice topic)).mapError Fault.message)).toWire,
        taken⟩] := by
  have hpath := path_trace answer (handleQuery s topic payload) start
  -- The ID that is made up for the query is the collaborators' first answer.
  obtain ⟨rest, htrace⟩ : ∃ rest, trace answer (handleQuery s topic payload) start =
      ⟨.fresh, (answer .fresh start).1⟩ :: rest := ⟨_, trace_perform answer .fresh _ start⟩
  have hanswered : ∀ request device x,
      ⟨.query request device, x⟩ ∈ trace answer (handleQuery s topic payload) start →
        x = devices.query request device := by
    intro request device x hx
    obtain ⟨t, rfl⟩ := answered_of_mem_trace hx
    exact hcatalogue request device t
  rw [htrace] at hpath hanswered ⊢
  obtain ⟨fresh, rest', hsplit, hways⟩ := handleQuery_cases hpath
  obtain ⟨hfirst, rfl⟩ := List.cons.inj hsplit
  obtain ⟨-, hfresh⟩ := Performed.mk.inj hfirst
  obtain rfl : fresh = (answer .fresh start).1 := (eq_of_heq hfresh).symm
  rcases hways with ⟨f, hread, -⟩ | ⟨q', -, hlacks, -⟩ |
    ⟨q', responseTopic', x, taken, hread, htopic', hcalls⟩
  · rw [hq] at hread
    cases hread
  · rw [htopic] at hlacks
    cases hlacks
  obtain rfl : q = q' := Except.ok.inj (hq.symm.trans hread)
  obtain rfl : responseTopic = responseTopic' := Option.some.inj (htopic.symm.trans htopic')
  obtain rfl : x = devices.query q (Topic.queriedDevice topic) := by
    refine hanswered _ _ _ (List.mem_cons_of_mem _ ?_)
    have hmem : ∀ p ∈ calls rest, p ∈ rest := fun p hp => (List.mem_filter.mp hp).1
    apply hmem
    rw [hcalls]
    exact List.mem_cons_self
  exact ⟨taken, hcalls⟩

/-- **Every query is answered once.**  The catalogue is any one, and the collaborators beside it
have a state of any kind and answer in any way.  The catalogue is asked, and then one message is
handed to the broker, whatever the broker says: on the topic for answers, with the delivery of the
settings.  It reads as an envelope with the IDs of the query and what the query is told.  Topics
that end in the same level, or both in a spelling of `all`, make the same program of it. -/
theorem query_answered_once {σ : Type} (answer : (e : Effect) → σ → e.Answer × σ) (start : σ)
    (s : Settings) (devices : Catalogue) (topic : String) (payload : List UInt8)
    (responseTopic : String) (q : Envelope)
    (htopic : s.externalTopics.find? Keys.queryResponse = some responseTopic)
    (hne : responseTopic ≠ "")
    (hcatalogue : ∀ request device t,
      (answer (.query request device) t).1 = devices.query request device)
    (hq : Envelope.receive (answer .fresh start).1 payload s.wording = .ok q) :
    ∃ (front : List String) (last : String) (told : Except String Json) (e : Envelope)
      (asked : String) (taken : Except Fault Unit),
      Topic.levels topic = front ++ [last] ∧
      Told devices q.queryParams last told ∧
      (∀ other, Told devices q.queryParams last other → other = told) ∧
      calls (trace answer (handleQuery s topic payload) start) =
        [⟨.query q asked, devices.query q asked⟩,
         ⟨.publish responseTopic s.delivery e.toWire, taken⟩] ∧
      publications (trace answer (handleQuery s topic payload) start) =
        [(responseTopic, s.delivery, e.toWire)] ∧
      Envelope.ofWire? e.toWire = some e ∧
      e.requestId = q.requestId ∧ e.correlationId = q.correlationId ∧
      (∀ body, told = .ok body →
        e.errorCode = 0 ∧ e.contentType = "application/json" ∧ e.payload = body.toOctets ∧
          Json.Document.ofOctets? e.payload = some body.spelling) ∧
      (∀ text, told = .error text → e.errorCode = 1 ∧ e.payload = Utf8.encode text) ∧
      ∀ (topic' last' : String) (front' : List String), Topic.levels topic' = front' ++ [last'] →
        last' = last ∨ MeansAll last ∧ MeansAll last' →
          handleQuery s topic' payload = handleQuery s topic payload := by
  obtain ⟨front, last, hlevels⟩ : ∃ front last, Topic.levels topic = front ++ [last] := by
    have hsome : Topic.levels topic ≠ [] := by
      intro hnil
      exact Text.split_ne_nil '/' topic.toList (List.map_eq_nil_iff.mp hnil)
    exact ⟨_, _, (List.dropLast_append_getLast hsome).symm⟩
  have hresponse : s.topic? .external Keys.queryResponse = some responseTopic :=
    topic?_eq_some_iff.mpr ⟨htopic, hne⟩
  obtain ⟨taken, hcalls⟩ := calls_handleQuery topic hresponse hcatalogue hq
  rw [envelope_query] at hcalls
  let told := (devices.listing q.queryParams (Topic.queriedDevice topic)).mapError Fault.message
  -- `Told` is the listing of the catalogue and so a function of the query and the last level.
  have htold : ∀ other, Told devices q.queryParams last other ↔ other = told := by
    intro other
    rw [told_iff, ← queriedDevice_eq hlevels]
  refine ⟨front, last, told, answerTo q told, Topic.queriedDevice topic, taken, hlevels,
    (htold told).mpr rfl, fun other => (htold other).mp, hcalls, ?_, ofWire?_answerTo q told,
    ?_, ?_, ?_, ?_, ?_⟩
  · have hpublished := congrArg publications hcalls
    rw [publications_calls] at hpublished
    exact hpublished
  · cases told with
    | ok body => rfl
    | error text => rfl
  · cases told with
    | ok body => rfl
    | error text => rfl
  · intro body hok
    have hread := ofOctets?_told hok
    rw [hok]
    exact ⟨rfl, rfl, rfl, hread⟩
  · intro text herror
    rw [herror]
    exact ⟨rfl, rfl⟩
  · intro topic' last' front' hlevels' hlast
    exact handleQuery_congr hlevels hlevels' hlast s payload

/-- The press shop with a topic for answers to queries. -/
def withCatalogueDesk : Settings where
  externalTopics := .ofList [(Keys.queryResponse, "replies/catalogue")]

/-- Collaborators of a bad day whose catalogue lists the press shop. -/
def listingDay : (e : Effect) → Unit → e.Answer × Unit
  | .query request device, _ => (pressShop.query request device, ())
  | e, u => badDay e u

/-- The theorem for a query about all devices, in a spelling of its own: the whole press shop goes
out although the broker refuses it, and a topic with another spelling and another front makes no
difference. -/
theorem whole_press_shop_is_listed :
    withCatalogueDesk.externalTopics.find? Keys.queryResponse = some "replies/catalogue" ∧
    (∀ request device t,
      (listingDay (.query request device) t).1 = pressShop.query request device) ∧
    Envelope.receive "c-1" bareRequest = .ok { requestId := "R1", correlationId := "c-1" } ∧
    ∃ e : Envelope,
      publications (trace listingDay (handleQuery withCatalogueDesk "site/aLL" bareRequest) ()) =
        [("replies/catalogue", {}, e.toWire)] ∧
      e.requestId = "R1" ∧ e.correlationId = "c-1" ∧ e.errorCode = 0 ∧
      e.payload = (pressShop.pageListing ⟨0, none⟩).toOctets ∧
      handleQuery withCatalogueDesk "All" bareRequest =
        handleQuery withCatalogueDesk "site/aLL" bareRequest := by
  have hdesk : withCatalogueDesk.externalTopics.find? Keys.queryResponse =
      some "replies/catalogue" := by cbv
  have hcatalogue : ∀ request device t,
      (listingDay (.query request device) t).1 = pressShop.query request device :=
    fun _ _ _ => rfl
  have hread : Envelope.receive "c-1" bareRequest =
      .ok { requestId := "R1", correlationId := "c-1" } := by cbv
  refine ⟨hdesk, hcatalogue, hread, ?_⟩
  obtain ⟨front, last, told, e, asked, taken, hlevels, -, honly, -, hpublished, -, hrequest,
    hcorrelation, hlisted, -, hsame⟩ :=
    query_answered_once listingDay () withCatalogueDesk pressShop "site/aLL" bareRequest
      "replies/catalogue" _ hdesk (by decide) hcatalogue hread
  obtain ⟨-, hlast⟩ : front = ["site"] ∧ last = "aLL" := by
    have hsplit : front ++ [last] = ["site"] ++ ["aLL"] := by
      rw [← hlevels]
      decide
    obtain ⟨hfront, hlast⟩ := List.append_inj' hsplit rfl
    exact ⟨hfront, List.singleton_injective hlast⟩
  subst hlast
  -- What is told is unique, so it is the page without a limit.
  have htold : .ok (pressShop.pageListing ⟨0, none⟩) = told :=
    honly _ (.page (by decide) (.unlimited (.absent rfl) (.absent rfl)))
  obtain ⟨hcode, -, hpayload, -⟩ := hlisted _ htold.symm
  exact ⟨e, hpublished, hrequest, hcorrelation, hcode, hpayload,
    hsame "All" "All" [] (by decide) (.inr ⟨by decide, by decide⟩)⟩

end CommandRelay.Relay
