import CommandRelay.Proofs.Relay.Underway

/-!
# What handlers call

Every handler comes to its end on one of a few ways, and on each of them its calls of collaborators
are known.

1. **`GivenUp`, `Reported`** — what is performed for a message that can not be answered, and the
   calls in it: none, or one report on the fallback topic.
2. **`handleCommand_ways`, `handleQuery_ways`** — the ways of either handler, for every message and
   all settings, with the log; `handleCommand_cases`, `handleQuery_cases` without it.
3. **What follows for the external broker and the internal bus** — one message at most, and requests
   only where a command passes its gates.
-/

namespace CommandRelay.Relay

open Program

/-! ## Requests on the internal bus -/

/-- The request that was made on the internal bus, if it was one, with its timeout. -/
def Performed.request? : Performed → Option (Bus.Request × Duration)
  | ⟨.request r timeout, _⟩ => some (r, timeout)
  | _ => none

/-- The requests that a trace makes on the internal bus. -/
def busRequests (tr : List Performed) : List (Bus.Request × Duration) := tr.filterMap (·.request?)

theorem busRequests_append (tr tr' : List Performed) :
    busRequests (tr ++ tr') = busRequests tr ++ busRequests tr' := by
  simp [busRequests]

/-- A request is made by a call, so the calls of a trace hold all its requests. -/
theorem busRequests_calls (tr : List Performed) : busRequests (calls tr) = busRequests tr := by
  induction tr with
  | nil => rfl
  | cons p tr ih =>
    obtain ⟨e, x⟩ := p
    rw [busRequests, calls] at ih ⊢
    cases e <;> simpa [Performed.isCall, Performed.request?, busRequests] using ih

/-- The gates of a command make one request at most. -/
theorem Verdict.busRequests_length_le {s : Settings} {q : Envelope} {a : Topic.Address}
    {consulted : List Performed} {v : Except String Envelope} (h : Verdict s q a consulted v) :
    (busRequests consulted).length ≤ 1 := by
  cases h <;> simp [busRequests, Performed.request?]

/-- What was performed was answered by the collaborators. -/
theorem answered_of_mem_trace {α σ : Type} {answer : (e : Effect) → σ → e.Answer × σ}
    {p : Program α} {s : σ} {e : Effect} {x : e.Answer} (h : ⟨e, x⟩ ∈ trace answer p s) :
    ∃ t, x = (answer e t).1 := by
  induction p generalizing s with
  | done a => cases h
  | perform e' next ih =>
    rw [trace_perform] at h
    rcases List.mem_cons.mp h with hhead | hrest
    · obtain ⟨rfl, hx⟩ := Performed.mk.inj hhead
      exact ⟨s, eq_of_heq hx⟩
    · exact ih _ hrest

/-! ## Messages that can not be answered -/

/-- The calls that report a fault of a message that can not be answered. -/
def Reported (s : Settings) (request : Option Envelope) (f : Fault) (called : List Performed) :
    Prop :=
  s.fallback? = none ∧ called = [] ∨ ∃ topic taken, s.fallback? = some topic ∧
    called = [⟨.publish topic s.delivery (report request f).toWire, taken⟩]

theorem Reported.busRequests_eq {s : Settings} {request : Option Envelope} {f : Fault}
    {called : List Performed} (h : Reported s request f called) : busRequests called = [] := by
  rcases h with ⟨-, rfl⟩ | ⟨topic, taken, -, rfl⟩ <;> rfl

theorem Reported.length_le {s : Settings} {request : Option Envelope} {f : Fault}
    {called : List Performed} (h : Reported s request f called) :
    (publications called).length ≤ 1 := by
  rcases h with ⟨-, rfl⟩ | ⟨topic, taken, -, rfl⟩
  · exact Nat.zero_le 1
  · exact Nat.le_refl 1

variable {s : Settings} {topic : String} {payload : List UInt8} {tr : List Performed}

/-- The warning about a message that can not be answered. -/
def unanswerableLine (s : Settings) : Event :=
  match s.fallback? with
  | none => .warning
      "Not publishing error message back due to insufficient information on response topic" []
  | some topic => .warning "Reporting unanswerable request on fallback topic"
      [("fallback_topic", .text topic)]

/-- The lines in the log for a message that is given up. -/
def complaint (s : Settings) (message : String) (f : Fault) : List Performed :=
  [⟨.log (.failed message [("error", .fault f)]), ()⟩, ⟨.log (unanswerableLine s), ()⟩]

/-- What giving up performs: the complaint, and the report on the fallback topic if there is one. -/
def GivenUp (s : Settings) (message : String) (request : Option Envelope) (f : Fault)
    (tr : List Performed) : Prop :=
  s.fallback? = none ∧ tr = complaint s message f ∨
  ∃ topic taken, s.fallback? = some topic ∧ tr = complaint s message f ++
    (failureNote (report request f) ++
      ⟨.publish topic s.delivery (report request f).toWire, taken⟩ :: refusalNote topic taken)

/-- Whoever gives up logs the fault, and then reports it or warns that nobody hears of it. -/
theorem giveUp_path {message : String} {request : Option Envelope} {f : Fault}
    (h : Path (giveUp s message request f) tr (.done ())) : GivenUp s message request f tr := by
  obtain ⟨_, rest, rfl, hrest⟩ := path_perform h
  simp only [Program.bind, unanswerable] at hrest
  cases hfallback : s.fallback? with
  | none =>
    rw [hfallback] at hrest
    obtain ⟨_, last, rfl, hlast⟩ := path_perform hrest
    obtain ⟨rfl, -⟩ := path_done hlast
    exact .inl ⟨hfallback, by rw [complaint, unanswerableLine, hfallback]⟩
  | some fallback =>
    rw [hfallback] at hrest
    obtain ⟨_, last, rfl, hlast⟩ := path_perform hrest
    obtain ⟨taken, rfl⟩ := deliver_transcript hlast
    exact .inr ⟨fallback, taken, hfallback, by rw [complaint, unanswerableLine, hfallback]; rfl⟩

theorem calls_failureNote (e : Envelope) : calls (failureNote e) = [] := by
  rw [failureNote]
  split <;> rfl

theorem calls_refusalNote (topic : String) (taken : Except Fault Unit) :
    calls (refusalNote topic taken) = [] := by
  cases taken <;> rfl

theorem GivenUp.reported {message : String} {request : Option Envelope} {f : Fault}
    (h : GivenUp s message request f tr) : Reported s request f (calls tr) := by
  rcases h with ⟨hnone, rfl⟩ | ⟨topic, taken, hsome, rfl⟩
  · exact .inl ⟨hnone, rfl⟩
  · refine .inr ⟨topic, taken, hsome, ?_⟩
    exact calls_between (calls_failureNote _) rfl (calls_refusalNote topic taken)

/-! ## The ways of a handler -/

/-- A command is given up or answered. -/
theorem handleCommand_ways (h : Path (handleCommand s topic payload) tr (.done ())) :
    ∃ fresh rest, tr = ⟨.fresh, fresh⟩ :: rest ∧
    ((∃ f, Envelope.receive fresh payload s.wording = .error f ∧
      GivenUp s "Failed to decode request MessageEnvelope" none f rest) ∨
    (∃ q f, Envelope.receive fresh payload s.wording = .ok q ∧ Topic.address topic = .error f ∧
      GivenUp s "Failed to parse and construct response topic scheme" (some q) f rest) ∨
    (∃ q a, Envelope.receive fresh payload s.wording = .ok q ∧ Topic.address topic = .ok a ∧
      s.topic? .external Keys.commandResponse = none ∧
      GivenUp s "Command response topic prefix is unknown" (some q)
        (.missingTopic Keys.commandResponse .external) rest) ∨
    (∃ q a base consulted v taken, Envelope.receive fresh payload s.wording = .ok q ∧
      Topic.address topic = .ok a ∧ s.topic? .external Keys.commandResponse = some base ∧
      Verdict s q a consulted v ∧ rest = consulted ++ (failureNote (Verdict.envelope q v) ++
        ⟨.publish (Topic.reply base a) s.delivery (Verdict.envelope q v).toWire, taken⟩ ::
          refusalNote (Topic.reply base a) taken))) := by
  -- The three early returns in the order of the source, then the gates and the delivery.
  obtain ⟨fresh, rest, rfl, hread⟩ := path_perform h
  refine ⟨fresh, rest, rfl, ?_⟩
  simp only [Program.bind] at hread
  cases hq : Envelope.receive fresh payload s.wording with
  | error f =>
    rw [hq] at hread
    exact .inl ⟨f, rfl, giveUp_path hread⟩
  | ok q =>
    rw [hq] at hread
    right
    cases ha : Topic.address topic with
    | error f =>
      rw [ha] at hread
      exact .inl ⟨q, f, rfl, rfl, giveUp_path hread⟩
    | ok a =>
      simp only [ha] at hread
      right
      cases hb : s.topic? .external Keys.commandResponse with
      | none =>
        rw [hb] at hread
        exact .inl ⟨q, a, rfl, rfl, rfl, giveUp_path hread⟩
      | some base =>
        simp only [hb] at hread
        obtain ⟨gates, v, last, rfl, hgates, hlast⟩ := path_bind hread
        have hv := execute_path hgates
        refine .inr ⟨q, a, base, gates, v.mapError Fault.message, ?_⟩
        cases v with
        | ok r =>
          obtain ⟨taken, rfl⟩ := deliver_transcript hlast
          exact ⟨taken, rfl, rfl, rfl, hv, rfl⟩
        | error f =>
          obtain ⟨taken, rfl⟩ := deliver_transcript hlast
          exact ⟨taken, rfl, rfl, rfl, hv, rfl⟩

/-- A query is given up, or the catalogue is asked and what it says is handed over. -/
theorem handleQuery_ways (h : Path (handleQuery s topic payload) tr (.done ())) :
    ∃ fresh rest, tr = ⟨.fresh, fresh⟩ :: rest ∧
    ((∃ f, Envelope.receive fresh payload s.wording = .error f ∧
      GivenUp s "Failed to decode request MessageEnvelope" none f rest) ∨
    (∃ q, Envelope.receive fresh payload s.wording = .ok q ∧
      s.topic? .external Keys.queryResponse = none ∧
      GivenUp s "Query response topic is unknown" (some q)
        (.missingTopic Keys.queryResponse .external) rest) ∨
    (∃ q responseTopic x e taken, Envelope.receive fresh payload s.wording = .ok q ∧
      s.topic? .external Keys.queryResponse = some responseTopic ∧
      e = Verdict.envelope q (x.mapError Fault.message) ∧
      rest = ⟨.query q (Topic.queriedDevice topic), x⟩ :: (failureNote e ++
        ⟨.publish responseTopic s.delivery e.toWire, taken⟩ ::
          refusalNote responseTopic taken))) := by
  obtain ⟨fresh, rest, rfl, hread⟩ := path_perform h
  refine ⟨fresh, rest, rfl, ?_⟩
  simp only [Program.bind] at hread
  cases hq : Envelope.receive fresh payload s.wording with
  | error f =>
    rw [hq] at hread
    exact .inl ⟨f, rfl, giveUp_path hread⟩
  | ok q =>
    rw [hq] at hread
    right
    cases hb : s.topic? .external Keys.queryResponse with
    | none =>
      simp only [hb] at hread
      exact .inl ⟨q, rfl, rfl, giveUp_path hread⟩
    | some responseTopic =>
      simp only [hb] at hread
      obtain ⟨x, last, rfl, hlast⟩ := path_perform hread
      refine .inr ⟨q, responseTopic, x, Verdict.envelope q (x.mapError Fault.message), ?_⟩
      cases x with
      | ok response =>
        obtain ⟨taken, rfl⟩ := deliver_transcript hlast
        exact ⟨taken, rfl, rfl, rfl, rfl⟩
      | error f =>
        obtain ⟨taken, rfl⟩ := deliver_transcript (e := q.failureOf f.message) hlast
        exact ⟨taken, rfl, rfl, rfl, rfl⟩

/-- The log apart, a command is reported or answered. -/
theorem handleCommand_cases (h : Path (handleCommand s topic payload) tr (.done ())) :
    ∃ fresh rest, tr = ⟨.fresh, fresh⟩ :: rest ∧
    ((∃ f, Envelope.receive fresh payload s.wording = .error f ∧ Reported s none f (calls rest)) ∨
    (∃ q f, Envelope.receive fresh payload s.wording = .ok q ∧ Topic.address topic = .error f ∧
      Reported s (some q) f (calls rest)) ∨
    (∃ q a, Envelope.receive fresh payload s.wording = .ok q ∧ Topic.address topic = .ok a ∧
      s.topic? .external Keys.commandResponse = none ∧
      Reported s (some q) (.missingTopic Keys.commandResponse .external) (calls rest)) ∨
    (∃ q a base consulted v taken, Envelope.receive fresh payload s.wording = .ok q ∧
      Topic.address topic = .ok a ∧ s.topic? .external Keys.commandResponse = some base ∧
      Verdict s q a consulted v ∧ calls rest = consulted ++
        [⟨.publish (Topic.reply base a) s.delivery (Verdict.envelope q v).toWire, taken⟩])) := by
  obtain ⟨fresh, rest, htr, hways⟩ := handleCommand_ways h
  refine ⟨fresh, rest, htr, ?_⟩
  rcases hways with ⟨f, hq, hup⟩ | ⟨q, f, hq, ha, hup⟩ | ⟨q, a, hq, ha, hb, hup⟩ |
    ⟨q, a, base, consulted, v, taken, hq, ha, hb, hv, hrest⟩
  · exact .inl ⟨f, hq, hup.reported⟩
  · exact .inr (.inl ⟨q, f, hq, ha, hup.reported⟩)
  · exact .inr (.inr (.inl ⟨q, a, hq, ha, hb, hup.reported⟩))
  · refine .inr (.inr (.inr ⟨q, a, base, consulted, v, taken, hq, ha, hb, hv, ?_⟩))
    rw [hrest, calls_append, hv.calls_eq,
      calls_between (calls_failureNote _) rfl (calls_refusalNote _ taken)]

/-- The log apart, a query is reported, or the catalogue is asked and what it says is published. -/
theorem handleQuery_cases (h : Path (handleQuery s topic payload) tr (.done ())) :
    ∃ fresh rest, tr = ⟨.fresh, fresh⟩ :: rest ∧
    ((∃ f, Envelope.receive fresh payload s.wording = .error f ∧ Reported s none f (calls rest)) ∨
    (∃ q, Envelope.receive fresh payload s.wording = .ok q ∧
      s.topic? .external Keys.queryResponse = none ∧
      Reported s (some q) (.missingTopic Keys.queryResponse .external) (calls rest)) ∨
    (∃ q responseTopic x taken, Envelope.receive fresh payload s.wording = .ok q ∧
      s.topic? .external Keys.queryResponse = some responseTopic ∧ calls rest =
        [⟨.query q (Topic.queriedDevice topic), x⟩,
         ⟨.publish responseTopic s.delivery
          (Verdict.envelope q (x.mapError Fault.message)).toWire, taken⟩])) := by
  obtain ⟨fresh, rest, htr, hways⟩ := handleQuery_ways h
  refine ⟨fresh, rest, htr, ?_⟩
  rcases hways
    with ⟨f, hq, hup⟩ | ⟨q, hq, hb, hup⟩ | ⟨q, responseTopic, x, e, taken, hq, hb, rfl, rfl⟩
  · exact .inl ⟨f, hq, hup.reported⟩
  · exact .inr (.inl ⟨q, hq, hb, hup.reported⟩)
  · refine .inr (.inr ⟨q, responseTopic, x, taken, hq, hb, congrArg (_ :: ·) ?_⟩)
    exact calls_between (calls_failureNote _) rfl (calls_refusalNote responseTopic taken)

/-! ## Counting -/

theorem handleCommand_publications_le (h : Path (handleCommand s topic payload) tr (.done ())) :
    (publications tr).length ≤ 1 := by
  obtain ⟨fresh, rest, rfl, hways⟩ := handleCommand_cases h
  show (publications rest).length ≤ 1
  rw [← publications_calls]
  rcases hways with ⟨f, -, hr⟩ | ⟨q, f, -, -, hr⟩ | ⟨q, a, -, -, -, hr⟩ |
    ⟨q, a, base, consulted, v, taken, -, -, -, hv, hcalls⟩
  · exact hr.length_le
  · exact hr.length_le
  · exact hr.length_le
  · rw [hcalls, publications_append, hv.publications_eq_nil]
    exact Nat.le_refl 1

theorem handleQuery_publications_le (h : Path (handleQuery s topic payload) tr (.done ())) :
    (publications tr).length ≤ 1 := by
  obtain ⟨fresh, rest, rfl, hways⟩ := handleQuery_cases h
  show (publications rest).length ≤ 1
  rw [← publications_calls]
  rcases hways with ⟨f, -, hr⟩ | ⟨q, -, -, hr⟩ | ⟨q, responseTopic, x, taken, -, -, hcalls⟩
  · exact hr.length_le
  · exact hr.length_le
  · rw [hcalls]
    exact Nat.le_refl 1

/-- A command makes one request on the internal bus at most. -/
theorem handleCommand_busRequests_le (h : Path (handleCommand s topic payload) tr (.done ())) :
    (busRequests tr).length ≤ 1 := by
  obtain ⟨fresh, rest, rfl, hways⟩ := handleCommand_cases h
  show (busRequests rest).length ≤ 1
  rw [← busRequests_calls]
  rcases hways with ⟨f, -, hr⟩ | ⟨q, f, -, -, hr⟩ | ⟨q, a, -, -, -, hr⟩ |
    ⟨q, a, base, consulted, v, taken, -, -, -, hv, hcalls⟩
  · rw [hr.busRequests_eq]; exact Nat.zero_le 1
  · rw [hr.busRequests_eq]; exact Nat.zero_le 1
  · rw [hr.busRequests_eq]; exact Nat.zero_le 1
  · rw [hcalls, busRequests_append]
    show (busRequests consulted ++ []).length ≤ 1
    rw [List.append_nil]
    exact hv.busRequests_length_le

/-- A query never reaches the internal bus. -/
theorem handleQuery_busRequests (h : Path (handleQuery s topic payload) tr (.done ())) :
    busRequests tr = [] := by
  obtain ⟨fresh, rest, rfl, hways⟩ := handleQuery_cases h
  show busRequests rest = []
  rw [← busRequests_calls]
  rcases hways with ⟨f, -, hr⟩ | ⟨q, -, -, hr⟩ | ⟨q, responseTopic, x, taken, -, -, hcalls⟩
  · exact hr.busRequests_eq
  · exact hr.busRequests_eq
  · rw [hcalls]
    rfl

end CommandRelay.Relay
