import CommandRelay.Proofs.Relay.Gatekeeping
import CommandRelay.Relay.Session

/-!
# Messages that nobody can answer

A message is answered on a topic that it and the settings give.  Where there is no such topic, or
the message can not even be read, nobody may be bothered: the router, the internal bus and the
catalogue are not asked, and the sender hears nothing.  What is left is the fallback topic, if there
is one.

1. **`Unanswerable`** — which messages these are, said on the octets, the levels of the topic and
   the entries of the settings.
2. **`Obstacle`** — the first thing that stands in the way, with the request as far as it was read.
3. **The theorem** — `unanswerable_message_is_reported_once`: the obstacle of an unanswerable
   message is reported on the fallback topic, once, and that is all that is called.
-/

namespace CommandRelay.Relay

open Program

/-! ## Who can not be answered -/

/-- The topic under a key is missing on the external side, or empty. -/
def Settings.Lacks (s : Settings) (key : String) : Prop :=
  ∀ topic, s.externalTopics.find? key = some topic → topic = ""

/-- A message that has no topic to be answered on, or can not be read. -/
def Unanswerable (s : Settings) : Message → Prop
  | .command topic payload =>
    Envelope.ofWire? payload = none ∨ (Topic.levels topic).length < 3 ∨
      s.Lacks Keys.commandResponse
  | .query _ payload => Envelope.ofWire? payload = none ∨ s.Lacks Keys.queryResponse
  | .connect | .dispatch _ _ => False

/-- The first thing that keeps a message from being answered: the request as far as it was read, and
the fault.  `fresh` is the correlation ID that a request gets if it has none.  Why octets can not be
read is said in the words of the decoder. -/
inductive Obstacle (s : Settings) (fresh : String) : Message → Option Envelope → Fault → Prop
  | unreadableCommand {topic : String} {payload : List UInt8}
      (octets : Envelope.ofWire? payload = none) :
      Obstacle s fresh (.command topic payload) none (.undecodable (s.wording.envelope payload))
  | unreadableQuery {topic : String} {payload : List UInt8}
      (octets : Envelope.ofWire? payload = none) :
      Obstacle s fresh (.query topic payload) none (.undecodable (s.wording.envelope payload))
  /-- The topic names no device, command and method. -/
  | shortTopic {topic : String} {payload : List UInt8} {w : Envelope}
      (octets : Envelope.ofWire? payload = some w) (levels : (Topic.levels topic).length < 3) :
      Obstacle s fresh (.command topic payload) (some (w.correlated fresh))
        (.tooFewLevels topic (Topic.levels topic).length)
  | noReplyPrefix {topic : String} {payload : List UInt8} {w : Envelope}
      (octets : Envelope.ofWire? payload = some w) (levels : 3 ≤ (Topic.levels topic).length)
      (lacks : s.Lacks Keys.commandResponse) :
      Obstacle s fresh (.command topic payload) (some (w.correlated fresh))
        (.missingTopic Keys.commandResponse .external)
  | noQueryTopic {topic : String} {payload : List UInt8} {w : Envelope}
      (octets : Envelope.ofWire? payload = some w) (lacks : s.Lacks Keys.queryResponse) :
      Obstacle s fresh (.query topic payload) (some (w.correlated fresh))
        (.missingTopic Keys.queryResponse .external)

/-! ## The steps of a handler that can fail -/

/-- A message that can be read is the envelope it holds, with a correlation ID made up where it has
none. -/
theorem receive_eq_ok_iff {fresh : String} {payload : List UInt8} {words : Wording}
    {q : Envelope} : Envelope.receive fresh payload words = .ok q ↔
      ∃ w, Envelope.ofWire? payload = some w ∧ q = w.correlated fresh := by
  rw [Envelope.receive]
  cases Envelope.ofWire? payload with
  | none => simp
  | some w =>
    constructor
    · intro h
      exact ⟨w, rfl, (Except.ok.inj h).symm⟩
    · rintro ⟨w', hw, rfl⟩
      rw [Option.some.inj hw]

/-- A message that can not be read is undecodable, for the reason that the decoder gives. -/
theorem receive_eq_error_iff {fresh : String} {payload : List UInt8} {words : Wording} {f : Fault} :
    Envelope.receive fresh payload words = .error f ↔
      Envelope.ofWire? payload = none ∧ f = .undecodable (words.envelope payload) := by
  rw [Envelope.receive]
  cases Envelope.ofWire? payload with
  | none =>
    constructor
    · intro h
      exact ⟨rfl, (Except.error.inj h).symm⟩
    · rintro ⟨-, rfl⟩
      rfl
  | some w => simp

/-- A topic without an address is refused with the number of its levels. -/
theorem address_eq_error_iff {topic : String} {f : Fault} :
    Topic.address topic = .error f ↔
      (Topic.levels topic).length < 3 ∧ f = .tooFewLevels topic (Topic.levels topic).length := by
  cases ha : Topic.address topic with
  | ok a =>
    refine iff_of_false nofun fun h => ?_
    exact Nat.not_lt.mpr ((address_isOk_iff topic).mp ⟨a, ha⟩) h.1
  | error f' =>
    have hshort : (Topic.levels topic).length < 3 := by
      rw [← Nat.not_le, ← address_isOk_iff, ha]
      exact nofun
    have hf : f' = .tooFewLevels topic (Topic.levels topic).length := by
      rw [Topic.address] at ha
      split at ha
      · cases ha
      · rw [← Except.error.inj ha, List.length_reverse]
    rw [hf]
    constructor
    · intro h
      exact ⟨hshort, (Except.error.inj h).symm⟩
    · rintro ⟨-, rfl⟩
      rfl

/-- A topic is not found exactly if its key has no entry, or an empty one. -/
theorem topic?_eq_none_iff {s : Settings} {key : String} :
    s.topic? .external key = none ↔ s.Lacks key := by
  rw [Settings.topic?, TopicMap.topic?, Option.filter_eq_none_iff]
  simp [Settings.Lacks, Settings.topics]

theorem lacks_of_topic?_eq_some {s : Settings} {key topic : String}
    (h : s.topic? .external key = some topic) : ¬ s.Lacks key := by
  rw [← topic?_eq_none_iff, h]
  exact nofun

variable {s : Settings} {m : Message} {fresh : String} {tr : List Performed}

/-- A command that was read and has an address and a prefix for its reply can be answered. -/
theorem not_unanswerable_command {topic base : String} {payload : List UInt8} {q : Envelope}
    {a : Topic.Address} (hq : Envelope.receive fresh payload s.wording = .ok q)
    (ha : Topic.address topic = .ok a)
    (hb : s.topic? .external Keys.commandResponse = some base) :
    ¬ Unanswerable s (.command topic payload) := by
  obtain ⟨w, hw, -⟩ := receive_eq_ok_iff.mp hq
  rintro (hnone | hshort | hlacks)
  · rw [hw] at hnone
    cases hnone
  · exact absurd hshort (Nat.not_lt.mpr ((address_isOk_iff topic).mp ⟨a, ha⟩))
  · exact lacks_of_topic?_eq_some hb hlacks

/-- A query that was read and has a topic for its answer can be answered. -/
theorem not_unanswerable_query {topic responseTopic : String} {payload : List UInt8} {q : Envelope}
    (hq : Envelope.receive fresh payload s.wording = .ok q)
    (hb : s.topic? .external Keys.queryResponse = some responseTopic) :
    ¬ Unanswerable s (.query topic payload) := by
  obtain ⟨w, hw, -⟩ := receive_eq_ok_iff.mp hq
  rintro (hnone | hlacks)
  · rw [hw] at hnone
    cases hnone
  · exact lacks_of_topic?_eq_some hb hlacks

/-! ## What is called for an unanswerable message -/

/-- An unanswerable message comes to its first obstacle, and reports it. -/
theorem Unanswerable.reported (hm : Unanswerable s m)
    (h : Path (m.program s) (⟨.fresh, fresh⟩ :: tr) (.done ())) :
    ∃ request f, Obstacle s fresh m request f ∧ Reported s request f (calls tr) := by
  -- The ways of a handler in their order; the last one would have answered the message.
  cases m with
  | connect => cases hm
  | dispatch topic payload => cases hm
  | command topic payload =>
    obtain ⟨_, _, hsplit, hways⟩ := handleCommand_cases h
    cases hsplit
    rcases hways with ⟨f, hq, hr⟩ | ⟨q, f, hq, ha, hr⟩ | ⟨q, a, hq, ha, hb, hr⟩ |
      ⟨q, a, base, _, _, _, hq, ha, hb, -, -⟩
    · obtain ⟨hw, rfl⟩ := receive_eq_error_iff.mp hq
      exact ⟨_, _, .unreadableCommand hw, hr⟩
    · obtain ⟨w, hw, rfl⟩ := receive_eq_ok_iff.mp hq
      obtain ⟨hshort, rfl⟩ := address_eq_error_iff.mp ha
      exact ⟨_, _, .shortTopic hw hshort, hr⟩
    · obtain ⟨w, hw, rfl⟩ := receive_eq_ok_iff.mp hq
      exact ⟨_, _, .noReplyPrefix hw ((address_isOk_iff topic).mp ⟨a, ha⟩)
        (topic?_eq_none_iff.mp hb), hr⟩
    · exact absurd hm (not_unanswerable_command hq ha hb)
  | query topic payload =>
    obtain ⟨_, _, hsplit, hways⟩ := handleQuery_cases h
    cases hsplit
    rcases hways with ⟨f, hq, hr⟩ | ⟨q, hq, hb, hr⟩ | ⟨q, responseTopic, _, _, hq, hb, -⟩
    · obtain ⟨hw, rfl⟩ := receive_eq_error_iff.mp hq
      exact ⟨_, _, .unreadableQuery hw, hr⟩
    · obtain ⟨w, hw, rfl⟩ := receive_eq_ok_iff.mp hq
      exact ⟨_, _, .noQueryTopic hw (topic?_eq_none_iff.mp hb), hr⟩
    · exact absurd hm (not_unanswerable_query hq hb)

/-- An unanswerable message is one for a handler, and that reads it first. -/
theorem Unanswerable.trace_eq {σ : Type} (hm : Unanswerable s m)
    (answer : (e : Effect) → σ → e.Answer × σ) (start : σ) :
    ∃ rest, trace answer (m.program s) start = ⟨.fresh, (answer .fresh start).1⟩ :: rest := by
  cases m with
  | connect => cases hm
  | dispatch topic payload => cases hm
  | command topic payload => exact ⟨_, trace_perform answer .fresh _ start⟩
  | query topic payload => exact ⟨_, trace_perform answer .fresh _ start⟩

/-- **A message that nobody can answer is reported once, or dropped.**  Whatever state the
collaborators have and however they behave, neither the router nor the internal bus nor the
catalogue is asked.  Without a fallback topic nothing is called at all; with one, one message is
handed to the external broker, on that topic and with the delivery of the settings: a report of the
first obstacle under the IDs of the request as far as it was read. -/
theorem unanswerable_message_is_reported_once {σ : Type}
    (answer : (e : Effect) → σ → e.Answer × σ) (start : σ) (s : Settings) (m : Message)
    (hm : Unanswerable s m) :
    ∃ request f, Obstacle s (answer .fresh start).1 m request f ∧
      (s.fallbackTopic = none ∨ s.fallbackTopic = some "" →
        calls (trace answer (m.program s) start) = []) ∧
      (∀ fallback, s.fallbackTopic = some fallback → fallback ≠ "" →
        ∃ (e : Envelope) (taken : Except Fault Unit),
        calls (trace answer (m.program s) start) =
          [⟨.publish fallback s.delivery e.toWire, taken⟩] ∧
        e.errorCode = 1 ∧
        e.requestId = (request.map (·.requestId)).getD "" ∧
        e.correlationId = (request.map (·.correlationId)).getD "" ∧
        e.payload = Utf8.encode f.message) := by
  have hpath : Path (m.program s) (trace answer (m.program s) start) (.done ()) :=
    path_trace answer _ start
  -- The fresh ID is drawn first and for nothing, and the obstacle is found without asking anybody.
  obtain ⟨rest, htrace⟩ := hm.trace_eq answer start
  rw [htrace] at hpath ⊢
  obtain ⟨request, f, hobstacle, hreported⟩ := hm.reported hpath
  refine ⟨request, f, hobstacle, ?_, ?_⟩
  · intro hnone
    rcases hreported with ⟨-, hcalls⟩ | ⟨topic, _, hsome, -⟩
    · exact hcalls
    · rcases hnone with hnone | hnone <;> simp [Settings.fallback?, hnone] at hsome
  · intro fallback hsome hne
    have hfallback : s.fallback? = some fallback := by
      rw [Settings.fallback?, hsome, Option.filter_some_pos (by simpa using hne)]
    rcases hreported with ⟨hnone, -⟩ | ⟨topic, taken, htopic, hcalls⟩
    · rw [hfallback] at hnone
      cases hnone
    · obtain rfl : fallback = topic := Option.some.inj (hfallback.symm.trans htopic)
      refine ⟨report request f, taken, hcalls, ?_⟩
      cases request <;> exact ⟨rfl, rfl, rfl, rfl⟩

/-- Settings without any topic but that for dead letters, and what a decoder says of no octets at
all. -/
def lastResort : Settings where
  fallbackTopic := some "site/dead"
  delivery := { qos := .atLeastOnce, retain := true }
  wording := { envelope := fun _ => "EOF while parsing a value at line 1 column 0" }

/-- The theorem for a command with two levels, a command without octets, of which the words of the
decoder are reported, a query without a topic for its answer, and a command without octets where
there is no fallback topic either. -/
theorem short_topic_goes_to_dead_letters :
    Unanswerable lastResort (.command "speed/get" bareRequest) ∧
    Unanswerable twoSided (.query "site/all" bareRequest) ∧
    Unanswerable twoSided (.command "site/press/speed/get" []) ∧
    (∃ (e : Envelope) (taken : Except Fault Unit),
      calls (trace badDay (handleCommand lastResort "speed/get" bareRequest) ()) =
        [⟨.publish "site/dead" { qos := .atLeastOnce, retain := true } e.toWire, taken⟩] ∧
      e.requestId = "R1" ∧ e.correlationId = "c-1" ∧
      e.payload = Utf8.encode (Fault.tooFewLevels "speed/get" 2).message) ∧
    (∃ (e : Envelope) (taken : Except Fault Unit),
      calls (trace badDay (handleCommand lastResort "site/press/speed/get" []) ()) =
        [⟨.publish "site/dead" { qos := .atLeastOnce, retain := true } e.toWire, taken⟩] ∧
      e.requestId = "" ∧ e.correlationId = "" ∧
      e.payload = Utf8.encode ("failed to decode message envelope: " ++
        "EOF while parsing a value at line 1 column 0")) ∧
    calls (trace badDay (handleQuery twoSided "site/all" bareRequest) ()) = [] ∧
    calls (trace badDay (handleCommand twoSided "site/press/speed/get" []) ()) = [] := by
  have hlevels : (Topic.levels "speed/get").length = 2 := by decide
  have hshort : Unanswerable lastResort (.command "speed/get" bareRequest) :=
    .inr (.inl (by rw [hlevels]; decide))
  have hlacks : twoSided.Lacks Keys.queryResponse := by
    intro topic htopic
    have hnone : twoSided.externalTopics.find? Keys.queryResponse = none := by cbv
    rw [hnone] at htopic
    cases htopic
  have hread : Envelope.ofWire? bareRequest = some { requestId := "R1" } := by cbv
  have hempty : Envelope.ofWire? [] = none := by cbv
  refine ⟨hshort, .inr hlacks, .inl hempty, ?_, ?_, ?_, ?_⟩
  · obtain ⟨request, f, hobstacle, -, hreport⟩ :=
      unanswerable_message_is_reported_once badDay () lastResort _ hshort
    obtain ⟨e, taken, hcalls, -, hid, hcorrelation, htext⟩ := hreport "site/dead" rfl (by decide)
    refine ⟨e, taken, hcalls, ?_⟩
    -- Only the short topic can stand in the way here: the payload is read and two levels are too
    -- few.
    cases hobstacle with
    | unreadableCommand octets =>
      rw [hread] at octets
      cases octets
    | shortTopic octets levels =>
      obtain rfl := Option.some.inj (hread.symm.trans octets)
      rw [hlevels] at htext
      exact ⟨hid, hcorrelation, htext⟩
    | noReplyPrefix octets levels => exact absurd levels (by rw [hlevels]; decide)
  · obtain ⟨request, f, hobstacle, -, hreport⟩ :=
      unanswerable_message_is_reported_once badDay () lastResort
        (.command "site/press/speed/get" []) (.inl hempty)
    obtain ⟨e, taken, hcalls, -, hid, hcorrelation, htext⟩ := hreport "site/dead" rfl (by decide)
    refine ⟨e, taken, hcalls, ?_⟩
    cases hobstacle with
    | unreadableCommand octets => exact ⟨hid, hcorrelation, htext⟩
    | shortTopic octets levels =>
      rw [hempty] at octets
      cases octets
    | noReplyPrefix octets levels =>
      rw [hempty] at octets
      cases octets
  · obtain ⟨_, _, -, hnone, -⟩ :=
      unanswerable_message_is_reported_once badDay () twoSided _
        (show Unanswerable twoSided (.query "site/all" bareRequest) from .inr hlacks)
    exact hnone (.inl rfl)
  · obtain ⟨_, _, -, hnone, -⟩ :=
      unanswerable_message_is_reported_once badDay () twoSided _
        (show Unanswerable twoSided (.command "site/press/speed/get" []) from .inl hempty)
    exact hnone (.inl rfl)

end CommandRelay.Relay
