import CommandRelay.Proofs.Envelope.Head
import CommandRelay.Proofs.Relay.DeadLetters

/-!
# Nothing is lost in silence

A handler has no result that anybody looks at; what it could not do has to be read from its log.  So
every way through a handler is held against what it logs, with the lines before a message that it
hands over kept apart from those behind.

1. **The log of a trace** — `logged`, and the one place at which a message is handed over
   (`split_at_publication`).
2. **`Accounted`** — what the log owes: an error for an answer that the broker did not take, an
   error before every report of a failure, and a warning for a message that can not be answered, and
   for no other.
3. **The theorem** — `handlers_lose_nothing_silently`.
-/

namespace CommandRelay.Relay

open Program

/-! ## The log of a trace -/

/-- The event that was logged, if it was one. -/
def Performed.event? : Performed → Option Event
  | ⟨.log e, _⟩ => some e
  | _ => none

/-- The events that a trace logs. -/
def logged (tr : List Performed) : List Event := tr.filterMap (·.event?)

/-- The warnings among them. -/
def warnings (tr : List Performed) : List Event := (logged tr).filter (·.severity = .warn)

theorem logged_append (tr tr' : List Performed) : logged (tr ++ tr') = logged tr ++ logged tr' := by
  simp [logged]

theorem warnings_append (tr tr' : List Performed) :
    warnings (tr ++ tr') = warnings tr ++ warnings tr' := by
  simp [warnings, logged_append]

/-- The note of a failure is an error and no warning. -/
theorem warnings_failureNote (e : Envelope) : warnings (failureNote e) = [] := by
  rw [failureNote]
  split <;> rfl

/-- The note that a broker refused is an error and no warning. -/
theorem warnings_refusalNote (topic : String) (taken : Except Fault Unit) :
    warnings (refusalNote topic taken) = [] := by
  cases taken <;> rfl

theorem publications_failureNote (e : Envelope) : publications (failureNote e) = [] := by
  rw [failureNote]
  split <;> rfl

theorem publications_refusalNote (topic : String) (taken : Except Fault Unit) :
    publications (refusalNote topic taken) = [] := by
  cases taken <;> rfl

/-- Where one message is handed over, it is found in one place. -/
theorem split_at_publication {lead tail before behind : List Performed} {p q : Performed}
    (hlead : publications lead = []) (htail : publications tail = []) (hq : q.publication? ≠ none)
    (h : lead ++ p :: tail = before ++ q :: behind) : before = lead ∧ q = p := by
  rcases List.append_eq_append_iff.mp h with ⟨mid, hbefore, hrest⟩ | ⟨mid, hsplit, hrest⟩
  · cases mid with
    | nil =>
      obtain ⟨rfl, -⟩ := List.cons.inj hrest
      exact ⟨by rw [hbefore, List.append_nil], rfl⟩
    | cons r mid =>
      obtain ⟨-, rfl⟩ := List.cons.inj hrest
      exact absurd (List.filterMap_eq_nil_iff.mp htail q (by simp)) hq
  · cases mid with
    | nil =>
      obtain ⟨rfl, -⟩ := List.cons.inj hrest
      exact ⟨by rw [hsplit, List.append_nil], rfl⟩
    | cons r mid =>
      obtain ⟨rfl, -⟩ := List.cons.inj hrest
      exact absurd (List.filterMap_eq_nil_iff.mp hlead q (by simp [hsplit])) hq

/-! ## What the log owes -/

/-- The topic on which a message is to be answered. -/
def OwnTopic (s : Settings) (own : String) : Message → Prop
  | .command topic _ => ∃ a base, Topic.address topic = .ok a ∧
      s.topic? .external Keys.commandResponse = some base ∧ own = Topic.reply base a
  | .query _ _ => s.topic? .external Keys.queryResponse = some own
  | .connect | .dispatch _ _ => False

/-- What a trace that handles a message owes to its log. -/
structure Accounted (s : Settings) (m : Message) (tr : List Performed) : Prop where
  /-- An answer that the broker did not take leaves an error. -/
  lost : (∀ own, OwnTopic s own m → ∀ delivery payload,
      (⟨.publish own delivery payload, .ok ()⟩ : Performed) ∉ tr) →
    ∃ e ∈ logged tr, e.severity = .error
  /-- Whatever is handed over is an envelope. -/
  written : ∀ message ∈ publications tr, ∃ e : Envelope, message.2.2 = e.toWire
  /-- A report of a failure has an error with its request ID and its text before it. -/
  failures : ∀ before behind topic delivery taken (e : Envelope),
    tr = before ++ ⟨.publish topic delivery e.toWire, taken⟩ :: behind → e.errorCode = 1 →
      .failed e.payloadText [("request_id", .text e.requestId)] ∈ logged before
  /-- A message that can be answered leaves no warning. -/
  unwarned : ¬ Unanswerable s m → warnings tr = []
  /-- Any other message leaves one, which names the fallback topic if there is one. -/
  dropped : Unanswerable s m → s.fallbackTopic = none ∨ s.fallbackTopic = some "" →
    warnings tr = [.warning
      "Not publishing error message back due to insufficient information on response topic" []]
  reported : Unanswerable s m → ∀ fallback, s.fallbackTopic = some fallback → fallback ≠ "" →
    warnings tr = [.warning "Reporting unanswerable request on fallback topic"
      [("fallback_topic", .text fallback)]]

variable {s : Settings} {m : Message} {lead : List Performed} {topic fresh : String} {e : Envelope}
  {payload : List UInt8} {taken : Except Fault Unit} {tr : List Performed}

/-- The line before a report of a failure holds what any envelope with the same octets says. -/
theorem failure_logged {e' : Envelope} (hwire : e'.toWire = e.toWire) (hcode : e'.errorCode = 1) :
    .failed e'.payloadText [("request_id", .text e'.requestId)] ∈ logged (failureNote e) := by
  have hsame := Envelope.eq_but_params_of_toWire_eq hwire
  have hfailure : e.isFailure = true := by
    rw [hsame]
    exact beq_iff_eq.mpr hcode
  rw [failureNote, if_pos hfailure, hsame]
  exact List.mem_singleton_self _

/-- What comes before an envelope that is handed over does not matter to the line in the log. -/
theorem failures_of_handed (hlead : publications lead = []) {delivery : Delivery}
    {before behind : List Performed} {topic' : String} {delivery' : Delivery}
    {taken' : Except Fault Unit} {e' : Envelope}
    (h : lead ++ (failureNote e ++ ⟨.publish topic delivery e.toWire, taken⟩ ::
      refusalNote topic taken) = before ++ ⟨.publish topic' delivery' e'.toWire, taken'⟩ :: behind)
    (hcode : e'.errorCode = 1) :
    .failed e'.payloadText [("request_id", .text e'.requestId)] ∈ logged before := by
  have hbefore : publications (lead ++ failureNote e) = [] := by
    rw [publications_append, hlead, publications_failureNote]
    rfl
  rw [← List.append_assoc] at h
  have hpublication : (⟨.publish topic' delivery' e'.toWire, taken'⟩ : Performed).publication? ≠
      none := Option.some_ne_none _
  obtain ⟨rfl, hsame⟩ :=
    split_at_publication hbefore (publications_refusalNote topic taken) hpublication h
  obtain ⟨heffect, -⟩ := Performed.mk.inj hsame
  obtain ⟨-, -, hwire⟩ := Effect.publish.inj heffect
  rw [logged_append]
  exact List.mem_append_right _ (failure_logged hwire hcode)

/-- Behind a trace without messages, whatever is handed over was written down before if it reports a
failure. -/
theorem written_of_handed (hlead : publications lead = []) {delivery : Delivery} :
    ∀ message ∈ publications (lead ++ (failureNote e ++
      ⟨.publish topic delivery e.toWire, taken⟩ :: refusalNote topic taken)),
        ∃ e : Envelope, message.2.2 = e.toWire := by
  intro message hmessage
  rw [publications_append, publications_append, hlead, publications_failureNote,
    List.nil_append, List.nil_append] at hmessage
  rcases List.mem_cons.mp hmessage with rfl | hrest
  · exact ⟨e, rfl⟩
  · rw [← publications, publications_refusalNote] at hrest
    cases hrest

/-- Handing over an envelope leaves no warning. -/
theorem warnings_of_handed (lead : List Performed) {delivery : Delivery} :
    warnings (lead ++ (failureNote e ++ ⟨.publish topic delivery e.toWire, taken⟩ ::
      refusalNote topic taken)) = warnings lead := by
  have hcons : warnings (⟨.publish topic delivery e.toWire, taken⟩ :: refusalNote topic taken) =
      warnings (refusalNote topic taken) := rfl
  rw [warnings_append, warnings_append, warnings_failureNote, hcons, warnings_refusalNote,
    List.append_nil, List.append_nil]

/-- The complaint about a message that is given up is an error and a warning. -/
theorem warnings_complaint (s : Settings) (message : String) (f : Fault) (fresh : String) :
    warnings (⟨.fresh, fresh⟩ :: complaint s message f) = [unanswerableLine s] := by
  rw [complaint, unanswerableLine]
  cases s.fallback? <;> rfl

theorem unanswerableLine_of_none (h : s.fallbackTopic = none ∨ s.fallbackTopic = some "") :
    unanswerableLine s = .warning
      "Not publishing error message back due to insufficient information on response topic" [] := by
  have hnone : s.fallback? = none := by
    rcases h with h | h <;> simp [Settings.fallback?, h]
  rw [unanswerableLine, hnone]

theorem unanswerableLine_of_some {fallback : String} (h : s.fallbackTopic = some fallback)
    (hne : fallback ≠ "") : unanswerableLine s =
      .warning "Reporting unanswerable request on fallback topic"
        [("fallback_topic", .text fallback)] := by
  rw [unanswerableLine, Settings.fallback?, h, Option.filter_some_pos (by simpa using hne)]

/-- A message that is given up is accounted for. -/
theorem GivenUp.accounted {message : String} {request : Option Envelope} {f : Fault}
    (h : GivenUp s message request f tr) (hm : Unanswerable s m) (fresh : String) :
    Accounted s m (⟨.fresh, fresh⟩ :: tr) := by
  have hlead : publications (⟨.fresh, fresh⟩ :: complaint s message f) = [] := rfl
  have hline := warnings_complaint s message f fresh
  rcases h with ⟨-, rfl⟩ | ⟨topic, taken, -, rfl⟩
  · refine ⟨fun _ => ⟨_, List.mem_cons_self, rfl⟩, nofun, ?_, fun hnot => absurd hm hnot,
      fun _ hnone => by rw [hline, unanswerableLine_of_none hnone],
      fun _ fallback hsome hne => by rw [hline, unanswerableLine_of_some hsome hne]⟩
    -- Nothing is handed over, so there is no place to split the trace at.
    intro before behind topic delivery taken e hsplit
    rw [hsplit, publications_append] at hlead
    exact absurd (List.append_eq_nil_iff.mp hlead).2 (List.cons_ne_nil _ _)
  · rw [← List.cons_append]
    exact ⟨fun _ => ⟨_, List.mem_cons_self, rfl⟩, written_of_handed hlead,
      fun before behind topic' delivery taken' e' hsplit => failures_of_handed hlead hsplit,
      fun hnot => absurd hm hnot,
      fun _ hnone => by rw [warnings_of_handed, hline, unanswerableLine_of_none hnone],
      fun _ fallback hsome hne => by
        rw [warnings_of_handed, hline, unanswerableLine_of_some hsome hne]⟩

/-- A message that is answered is accounted for. -/
theorem accounted_of_answered (hm : ¬ Unanswerable s m) (hown : OwnTopic s topic m)
    (hlead : publications lead = []) (hquiet : logged lead = []) :
    Accounted s m (lead ++ (failureNote e ++ ⟨.publish topic s.delivery e.toWire, taken⟩ ::
      refusalNote topic taken)) := by
  refine ⟨fun hlost => ?_, written_of_handed hlead,
    fun before behind topic' delivery taken' e' hsplit => failures_of_handed hlead hsplit,
    fun _ => ?_, fun hnot => absurd hnot hm, fun hnot => absurd hnot hm⟩
  · cases taken with
    | ok u => exact absurd (by simp) (hlost topic hown s.delivery e.toWire)
    | error f =>
      refine ⟨.failed "Could not publish to external message broker"
        [("topic", .text topic), ("error", .fault f)], ?_, rfl⟩
      rw [logged_append, logged_append]
      exact List.mem_append_right _ (List.mem_append_right _ List.mem_cons_self)
  · rw [warnings_of_handed, warnings, hquiet]
    rfl

/-- The gates log nothing. -/
theorem Verdict.logged_eq {q : Envelope} {a : Topic.Address} {consulted : List Performed}
    {v : Except String Envelope} (h : Verdict s q a consulted v) : logged consulted = [] := by
  cases h <;> rfl

/-- Every way through a command accounts for it. -/
theorem handleCommand_accounted (h : Path (handleCommand s topic payload) tr (.done ())) :
    Accounted s (.command topic payload) tr := by
  obtain ⟨fresh, rest, rfl, hways⟩ := handleCommand_ways h
  rcases hways with ⟨f, hq, hup⟩ | ⟨q, f, hq, ha, hup⟩ | ⟨q, a, hq, ha, hb, hup⟩ |
    ⟨q, a, base, consulted, v, taken, hq, ha, hb, hv, rfl⟩
  · exact hup.accounted (m := .command topic payload) (.inl (receive_eq_error_iff.mp hq).1) fresh
  · exact hup.accounted (m := .command topic payload)
      (.inr (.inl (address_eq_error_iff.mp ha).1)) fresh
  · exact hup.accounted (m := .command topic payload) (.inr (.inr (topic?_eq_none_iff.mp hb))) fresh
  · have hlead : publications (⟨.fresh, fresh⟩ :: consulted) = [] := hv.publications_eq_nil
    have hquiet : logged (⟨.fresh, fresh⟩ :: consulted) = [] := hv.logged_eq
    exact accounted_of_answered (not_unanswerable_command hq ha hb) ⟨a, base, ha, hb, rfl⟩ hlead
      hquiet

/-- Every way through a query accounts for it. -/
theorem handleQuery_accounted (h : Path (handleQuery s topic payload) tr (.done ())) :
    Accounted s (.query topic payload) tr := by
  obtain ⟨fresh, rest, rfl, hways⟩ := handleQuery_ways h
  rcases hways with ⟨f, hq, hup⟩ | ⟨q, hq, hb, hup⟩ |
    ⟨q, responseTopic, x, e, taken, hq, hb, -, rfl⟩
  · exact hup.accounted (m := .query topic payload) (.inl (receive_eq_error_iff.mp hq).1) fresh
  · exact hup.accounted (m := .query topic payload) (.inr (topic?_eq_none_iff.mp hb)) fresh
  · have hlead : publications [⟨.fresh, fresh⟩, ⟨.query q (Topic.queriedDevice topic), x⟩] = [] :=
      rfl
    exact accounted_of_answered (not_unanswerable_query hq hb) hb hlead rfl

/-! ## All handlers -/

/-- **Nothing is lost in silence.**  Whatever the settings, the message and its topic are, and
however the router, the bus, the catalogue and the broker behave, from any state of theirs: a
command or a query leaves a log that accounts for it. -/
theorem handlers_lose_nothing_silently {σ : Type} (answer : (e : Effect) → σ → e.Answer × σ)
    (start : σ) (s : Settings) (topic : String) (payload : List UInt8) :
    Accounted s (.command topic payload) (trace answer (handleCommand s topic payload) start) ∧
    Accounted s (.query topic payload) (trace answer (handleQuery s topic payload) start) :=
  ⟨handleCommand_accounted (path_trace answer _ start),
    handleQuery_accounted (path_trace answer _ start)⟩

/-- The theorem on a bad day: a command that names no device is warned about, and the answer of one
that does, which the broker refuses, leaves an error. -/
theorem bad_day_is_in_the_log :
    Unanswerable lastResort (.command "speed/get" bareRequest) ∧
    warnings (trace badDay (handleCommand lastResort "speed/get" bareRequest) ()) =
      [.warning "Reporting unanswerable request on fallback topic"
        [("fallback_topic", .text "site/dead")]] ∧
    ∃ e ∈ logged (trace badDay (handleCommand twoSided "site/press/speed/GET" bareRequest) ()),
      e.severity = .error := by
  have hshort : Unanswerable lastResort (.command "speed/get" bareRequest) :=
    .inr (.inl (by decide))
  refine ⟨hshort, ?_, ?_⟩
  · exact (handlers_lose_nothing_silently badDay () lastResort "speed/get" bareRequest).1.reported
      hshort "site/dead" rfl (by decide)
  · refine (handlers_lose_nothing_silently badDay () twoSided "site/press/speed/GET"
      bareRequest).1.lost fun own _ delivery payload htaken => ?_
    obtain ⟨_, hanswer⟩ := answered_of_mem_trace htaken
    cases hanswer

end CommandRelay.Relay
