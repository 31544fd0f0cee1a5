import CommandRelay.Proofs.Relay.Trace

/-!
# Every command is answered once

A command whose message can be read, whose topic has three levels and for which there is a response
prefix passes five gates: its method, the internal topics, its route, its parameters and the request
on the internal bus.  However the collaborators behave, it is answered by exactly one message.

1. **Specification** — `Verdict` says, for each list of calls that the gates can make, what comes of
   it: the response of the bus, or the text of the first gate that failed.  It is deterministic in
   the calls, and no call in it hands a message over.
2. **One lemma per program** — `deliver_path`, `execute_path`, `handleCommand_path` say what each
   program performs on a path to its end.
3. **The theorem** — `command_answered_once` reads this off for runs against collaborators with any
   state and any answers.
-/

namespace CommandRelay.Relay

open Program

/-! ## The levels of a command topic -/

/-- A topic addresses a command exactly when it has at least three levels. -/
theorem address_isOk_iff (topic : String) :
    (∃ a, Topic.address topic = .ok a) ↔ 3 ≤ (Topic.levels topic).length := by
  rw [← List.length_reverse, Topic.address]
  constructor
  · rintro ⟨a, ha⟩
    split at ha
    · rename_i heq
      rw [heq]
      simp
    · cases ha
  · intro h
    match hrev : (Topic.levels topic).reverse, h with
    | method :: command :: device :: _, _ => exact ⟨⟨device, command, method⟩, rfl⟩

/-! ## The specification -/

/-- What comes of the gates of a command, given the calls that they made: the response to send, or
the text of the first fault. -/
inductive Verdict (s : Settings) (q : Envelope) (a : Topic.Address) :
    List Performed → Except String Envelope → Prop
  /-- The method is neither of the two; nobody is asked. -/
  | method {f : Fault} (hm : Method.parse a.method = .error f) :
      Verdict s q a [] (.error f.message)
  /-- There is no internal topic for commands. -/
  | base {m : Method} (hm : Method.parse a.method = .ok m)
      (hb : s.topic? .internal Keys.deviceRequest = none) :
      Verdict s q a [] (.error (Fault.missingTopic Keys.deviceRequest .internal).message)
  /-- The router was asked, and knows no route. -/
  | route {m : Method} {base : String} {f : Fault} (hm : Method.parse a.method = .ok m)
      (hb : s.topic? .internal Keys.deviceRequest = some base) :
      Verdict s q a [⟨.resolve base a.device a.command m, .error f⟩] (.error f.message)
  /-- There is a route, and the parameters are refused. -/
  | params {m : Method} {base : String} {route : Route} {f : Fault}
      (hm : Method.parse a.method = .ok m)
      (hb : s.topic? .internal Keys.deviceRequest = some base)
      (hp : q.queryParams.check m = .error f) :
      Verdict s q a [⟨.resolve base a.device a.command m, .ok route⟩] (.error f.message)
  /-- The request went out as it came in, and failed. -/
  | bus {m : Method} {base : String} {route : Route} {f : Fault}
      (hm : Method.parse a.method = .ok m)
      (hb : s.topic? .internal Keys.deviceRequest = some base)
      (hp : q.queryParams.check m = .ok ()) :
      Verdict s q a
        [⟨.resolve base a.device a.command m, .ok route⟩,
         ⟨.request ⟨route.service, route.topic, q⟩ s.requestTimeout, .error f⟩]
        (.error ("Failed to send DeviceCommand request with internal MessageBus: " ++ f.message))
  /-- The request went out as it came in, and was answered. -/
  | answered {m : Method} {base : String} {route : Route} {r : Envelope}
      (hm : Method.parse a.method = .ok m)
      (hb : s.topic? .internal Keys.deviceRequest = some base)
      (hp : q.queryParams.check m = .ok ()) :
      Verdict s q a
        [⟨.resolve base a.device a.command m, .ok route⟩,
         ⟨.request ⟨route.service, route.topic, q⟩ s.requestTimeout, .ok r⟩]
        (.ok r)

/-- The envelope in which a verdict on a request is published. -/
def Verdict.envelope (q : Envelope) : Except String Envelope → Envelope
  | .ok r => r
  | .error text => q.failureOf text

theorem commandFailed_message (f : Fault) :
    (Fault.commandFailed f).message =
      "Failed to send DeviceCommand request with internal MessageBus: " ++ f.message := by
  have hkind : (Fault.commandFailed f).kind.preamble = "" := rfl
  have hreason : (Fault.commandFailed f).reason =
      "Failed to send DeviceCommand request with internal MessageBus: " ++ f.kind.preamble ++
        f.reason := rfl
  rw [Fault.message, hkind, hreason, Fault.message, String.append_assoc, String.empty_append]

/-- The gates hand no message to the external broker. -/
theorem Verdict.publications_eq_nil {s : Settings} {q : Envelope} {a : Topic.Address}
    {consulted : List Performed} {v : Except String Envelope} (h : Verdict s q a consulted v) :
    publications consulted = [] := by
  cases h <;> rfl

/-- The gates perform calls and nothing else. -/
theorem Verdict.calls_eq {s : Settings} {q : Envelope} {a : Topic.Address}
    {consulted : List Performed} {v : Except String Envelope} (h : Verdict s q a consulted v) :
    calls consulted = consulted := by
  cases h <;> rfl

/-- A verdict takes two calls at most: of the router and of the bus. -/
theorem Verdict.length_le {s : Settings} {q : Envelope} {a : Topic.Address}
    {consulted : List Performed} {v : Except String Envelope} (h : Verdict s q a consulted v) :
    consulted.length ≤ 2 := by
  cases h <;> simp

/-! ## What each program performs -/

/-- What is left of handing over once the broker has answered: a refusal goes to the log. -/
def noteRefusal (topic : String) : Except Fault Unit → Program Unit
  | .ok () => .done ()
  | .error f => Program.log (.failed "Could not publish to external message broker"
      [("topic", .text topic), ("error", .fault f)])

/-- A failure goes to the log, and then the envelope is handed over in any case. -/
theorem deliver_eq (s : Settings) (topic : String) (e : Envelope) : deliver s topic e =
    (if e.isFailure then Program.log (.failed e.payloadText [("request_id", .text e.requestId)])
      else .done ()).bind fun _ =>
        .perform (.publish topic s.delivery e.toWire) (noteRefusal topic) := by
  unfold deliver
  split
  · refine congrArg (Program.perform _) (funext fun _ => ?_)
    refine congrArg (Program.perform _) (funext fun taken => ?_)
    cases taken <;> rfl
  · refine congrArg (Program.perform _) (funext fun taken => ?_)
    cases taken <;> rfl

/-- The line in the log before an envelope that reports a failure. -/
def failureNote (e : Envelope) : List Performed :=
  if e.isFailure then [⟨.log (.failed e.payloadText [("request_id", .text e.requestId)]), ()⟩]
  else []

/-- The line in the log behind an envelope that the broker refused. -/
def refusalNote (topic : String) : Except Fault Unit → List Performed
  | .ok () => []
  | .error f => [⟨.log (.failed "Could not publish to external message broker"
      [("topic", .text topic), ("error", .fault f)]), ()⟩]

/-- Whatever the broker says, an envelope is handed over once, between these two lines. -/
theorem deliver_transcript {s : Settings} {topic : String} {e : Envelope} {tr : List Performed}
    (h : Path (deliver s topic e) tr (.done ())) : ∃ taken,
      tr = failureNote e ++ ⟨.publish topic s.delivery e.toWire, taken⟩ ::
        refusalNote topic taken := by
  rw [deliver_eq] at h
  obtain ⟨pre, _, rest, rfl, hlogged, hrest⟩ := path_bind h
  have hpre : pre = failureNote e := by
    rw [failureNote]
    split at hlogged
    · rename_i hfailure
      obtain ⟨_, _, rfl, hend⟩ := path_perform hlogged
      obtain ⟨rfl, -⟩ := path_done hend
      rw [if_pos hfailure]
    · rename_i hfine
      obtain ⟨rfl, -⟩ := path_done hlogged
      rw [if_neg hfine]
  obtain ⟨taken, post, rfl, hpost⟩ := path_perform hrest
  refine ⟨taken, ?_⟩
  rw [hpre]
  cases taken with
  | ok u =>
    obtain ⟨rfl, -⟩ := path_done hpost
    rfl
  | error f =>
    obtain ⟨_, _, rfl, hend⟩ := path_perform hpost
    obtain ⟨rfl, -⟩ := path_done hend
    rfl

/-- Lines in the log are no calls, and there is one at most on either side. -/
theorem deliver_path {s : Settings} {topic : String} {e : Envelope} {tr : List Performed}
    (h : Path (deliver s topic e) tr (.done ())) : ∃ pre taken post,
      tr = pre ++ ⟨.publish topic s.delivery e.toWire, taken⟩ :: post ∧
      calls pre = [] ∧ pre.length ≤ 1 ∧ calls post = [] ∧ post.length ≤ 1 := by
  obtain ⟨taken, htr⟩ := deliver_transcript h
  have hpre : calls (failureNote e) = [] ∧ (failureNote e).length ≤ 1 := by
    rw [failureNote]
    split
    · exact ⟨rfl, Nat.le_refl 1⟩
    · exact ⟨rfl, Nat.zero_le 1⟩
  refine ⟨failureNote e, taken, refusalNote topic taken, htr, hpre.1, hpre.2, ?_⟩
  cases taken with
  | ok u => exact ⟨rfl, Nat.zero_le 1⟩
  | error f => exact ⟨rfl, Nat.le_refl 1⟩

/-- The gates perform the calls of their verdict, and come to it. -/
theorem execute_path {s : Settings} {q : Envelope} {a : Topic.Address} {tr : List Performed}
    {v : Except Fault Envelope} (h : Path (execute s q a) tr (.done v)) :
    Verdict s q a tr (v.mapError Fault.message) := by
  -- Down the gates in their order: each one ends the path with its fault or lets it go on.
  unfold execute at h
  split at h
  · rename_i f hm
    obtain ⟨rfl, hv⟩ := path_done h
    cases hv
    exact .method hm
  rename_i m hm
  split at h
  · rename_i hb
    obtain ⟨rfl, hv⟩ := path_done h
    cases hv
    exact .base hm hb
  rename_i base hb
  obtain ⟨x, rest, rfl, hrouted⟩ := path_perform h
  cases x with
  | error f =>
    obtain ⟨rfl, hv⟩ := path_done hrouted
    cases hv
    exact .route hm hb
  | ok route =>
    simp only [Program.bind] at hrouted
    split at hrouted
    · rename_i f hp
      obtain ⟨rfl, hv⟩ := path_done hrouted
      cases hv
      exact .params hm hb hp
    · rename_i hp
      obtain ⟨y, last, rfl, hanswered⟩ := path_perform hrouted
      cases y with
      | ok r =>
        obtain ⟨rfl, hv⟩ := path_done hanswered
        cases hv
        exact .answered hm hb hp
      | error f =>
        obtain ⟨rfl, hv⟩ := path_done hanswered
        cases hv
        show Verdict s q a _ (.error (Fault.commandFailed f).message)
        rw [commandFailed_message]
        exact .bus hm hb hp

/-- A command that can be answered performs the calls of its gates and then hands over one message:
the envelope of their verdict, on the topic of its reply. -/
theorem handleCommand_path {s : Settings} {topic base : String} {payload : List UInt8}
    {e : Envelope} {a : Topic.Address} {tr : List Performed}
    (he : Envelope.ofWire? payload = some e) (ha : Topic.address topic = .ok a)
    (hb : s.topic? .external Keys.commandResponse = some base)
    (h : Path (handleCommand s topic payload) tr (.done ())) :
    ∃ (fresh : String) (consulted : List Performed) (v : Except String Envelope)
      (pre : List Performed) (taken : Except Fault Unit) (post : List Performed),
      tr = ⟨.fresh, fresh⟩ :: (consulted ++ (pre ++
        ⟨.publish (Topic.reply base a) s.delivery
          (Verdict.envelope (e.correlated fresh) v).toWire, taken⟩ :: post)) ∧
      Verdict s (e.correlated fresh) a consulted v ∧
      calls pre = [] ∧ pre.length ≤ 1 ∧ calls post = [] ∧ post.length ≤ 1 := by
  obtain ⟨fresh, rest, rfl, hread⟩ := path_perform h
  simp only [Program.bind, Envelope.receive, he, ha, hb] at hread
  obtain ⟨gates, v, last, rfl, hgates, hlast⟩ := path_bind hread
  have hv := execute_path hgates
  cases v with
  | ok r =>
    obtain ⟨pre, taken, post, rfl, hquiet⟩ := deliver_path hlast
    exact ⟨fresh, gates, .ok r, pre, taken, post, rfl, hv, hquiet⟩
  | error f =>
    obtain ⟨pre, taken, post, rfl, hquiet⟩ := deliver_path hlast
    exact ⟨fresh, gates, .error f.message, pre, taken, post, rfl, hv, hquiet⟩

/-- Without the log, a command performs the calls of its gates and the one message. -/
theorem handleCommand_calls {s : Settings} {topic base : String} {payload : List UInt8}
    {e : Envelope} {a : Topic.Address} {tr : List Performed}
    (he : Envelope.ofWire? payload = some e) (ha : Topic.address topic = .ok a)
    (hb : s.topic? .external Keys.commandResponse = some base)
    (h : Path (handleCommand s topic payload) tr (.done ())) :
    ∃ (fresh : String) (rest : List Performed) (consulted : List Performed)
      (v : Except String Envelope) (taken : Except Fault Unit),
      tr = ⟨.fresh, fresh⟩ :: rest ∧ Verdict s (e.correlated fresh) a consulted v ∧
      calls rest = consulted ++
        [⟨.publish (Topic.reply base a) s.delivery
          (Verdict.envelope (e.correlated fresh) v).toWire, taken⟩] := by
  obtain ⟨fresh, consulted, v, pre, taken, post, rfl, hv, hpre, -, hpost, -⟩ :=
    handleCommand_path he ha hb h
  refine ⟨fresh, _, consulted, v, taken, rfl, hv, ?_⟩
  rw [calls_append, hv.calls_eq, calls_between hpre rfl hpost]

/-- A command performs six effects at most. -/
theorem handleCommand_length {s : Settings} {topic base : String} {payload : List UInt8}
    {e : Envelope} {a : Topic.Address} {tr : List Performed}
    (he : Envelope.ofWire? payload = some e) (ha : Topic.address topic = .ok a)
    (hb : s.topic? .external Keys.commandResponse = some base)
    (h : Path (handleCommand s topic payload) tr (.done ())) : tr.length ≤ 6 := by
  obtain ⟨fresh, consulted, v, pre, taken, post, rfl, hv, -, hpre, -, hpost⟩ :=
    handleCommand_path he ha hb h
  have hgates := hv.length_le
  simp only [List.length_cons, List.length_append]
  omega

/-! ## Runs against collaborators -/

/-- **Every command is answered once.**  The collaborators have a state of any kind and answer in
any way; the gates are asked in their order up to the first that fails, and what is handed to the
broker afterwards, once and whatever the broker says, is their verdict. -/
theorem command_answered_once {σ : Type} (answer : (e : Effect) → σ → e.Answer × σ) (start : σ)
    (s : Settings) (topic : String) (payload : List UInt8) (base : String) (q : Envelope)
    (hbase : s.externalTopics.find? Keys.commandResponse = some base) (hne : base ≠ "")
    (hq : Envelope.receive (answer .fresh start).1 payload s.wording = .ok q)
    (hlevels : 3 ≤ (Topic.levels topic).length) :
    ∃ (a : Topic.Address) (consulted : List Performed) (v : Except String Envelope)
      (e : Envelope) (taken : Except Fault Unit),
      Topic.address topic = .ok a ∧
      Verdict s q a consulted v ∧
      calls (trace answer (handleCommand s topic payload) start) =
        consulted ++ [⟨.publish (Topic.reply base a) s.delivery e.toWire, taken⟩] ∧
      publications (trace answer (handleCommand s topic payload) start) =
        [(Topic.reply base a, s.delivery, e.toWire)] ∧
      (∀ r, v = .ok r → e = r) ∧
      (∀ text, v = .error text →
        e.errorCode = 1 ∧ e.requestId = q.requestId ∧ e.correlationId = q.correlationId ∧
          e.payload = Utf8.encode text) := by
  obtain ⟨a, ha⟩ := (address_isOk_iff topic).mpr hlevels
  have htopic : s.topic? .external Keys.commandResponse = some base := by
    show (s.externalTopics.find? Keys.commandResponse).filter (· ≠ "") = some base
    rw [hbase]
    simp [hne]
  obtain ⟨w, hw, rfl⟩ : ∃ w, Envelope.ofWire? payload = some w ∧
      q = w.correlated (answer .fresh start).1 := by
    rw [Envelope.receive] at hq
    split at hq
    · rename_i w hw
      exact ⟨w, hw, (Except.ok.inj hq).symm⟩
    · cases hq
  obtain ⟨fresh, rest, consulted, v, taken, htrace, hv, hcalls⟩ :=
    handleCommand_calls hw ha htopic (path_trace answer _ start)
  -- The ID that was made up is the collaborators' first answer.
  have hfresh : fresh = (answer .fresh start).1 := by
    have hhead : trace answer (handleCommand s topic payload) start = ⟨.fresh, _⟩ :: _ :=
      trace_perform answer .fresh _ start
    rw [hhead] at htrace
    injection htrace with hfirst
    injection hfirst with _ hanswer
    exact hanswer.symm
  subst hfresh
  have hall : calls (trace answer (handleCommand s topic payload) start) = calls rest := by
    rw [htrace]
    rfl
  refine ⟨a, consulted, v, Verdict.envelope _ v, taken, ha, hv, hall.trans hcalls, ?_, ?_, ?_⟩
  · rw [← publications_calls, hall, hcalls, publications_append, hv.publications_eq_nil]
    rfl
  · rintro r rfl
    rfl
  · rintro text rfl
    exact ⟨rfl, rfl, rfl, rfl⟩

/-- Collaborators of a bad day: the router knows every device, the bus is silent until its time is
up, and the broker refuses whatever it is given. -/
def badDay : (e : Effect) → Unit → e.Answer × Unit
  | .fresh, _ => ("c-1", ())
  | .log _, _ => ((), ())
  | .resolve base device command method, _ =>
    (.ok ⟨"svc", Topic.join [base, "svc", device, command, method.word]⟩, ())
  | .query _ device, _ => (.error (.unknownDevice device), ())
  | .request r timeout, _ => (.error (.timedOut r.envelope.requestId timeout), ())
  | .publish topic _ _, _ => (.error (.notPublished topic "broker unavailable"), ())
  | .subscribe filter _, _ => (.error (.notSubscribed filter "broker unavailable"), ())

/-- Settings with a topic on either side. -/
def twoSided : Settings where
  externalTopics := .ofList [(Keys.commandResponse, "replies/")]
  internalTopics := .ofList [(Keys.deviceRequest, "internal")]
  requestTimeout := .ofMillis 500

/-- A message that holds a request ID and nothing else. -/
def bareRequest : List UInt8 := Utf8.encode "\x7b\"requestID\":\"R1\"\x7d"

/-- The theorem on a bad day: the answer goes out although the bus timed out, and although the
broker refuses it. -/
theorem command_answered_on_bad_day :
    twoSided.externalTopics.find? Keys.commandResponse = some "replies/" ∧
    3 ≤ (Topic.levels "site/press/speed/GET").length ∧
    ∃ (a : Topic.Address) (consulted : List Performed) (v : Except String Envelope)
      (e : Envelope) (taken : Except Fault Unit),
      Topic.address "site/press/speed/GET" = .ok a ∧
      Verdict twoSided { requestId := "R1", correlationId := "c-1" } a consulted v ∧
      calls (trace badDay (handleCommand twoSided "site/press/speed/GET" bareRequest) ()) =
        consulted ++ [⟨.publish (Topic.reply "replies/" a) twoSided.delivery e.toWire, taken⟩] ∧
      publications (trace badDay (handleCommand twoSided "site/press/speed/GET" bareRequest) ()) =
        [(Topic.reply "replies/" a, twoSided.delivery, e.toWire)] ∧
      (∀ r, v = .ok r → e = r) ∧
      (∀ text, v = .error text →
        e.errorCode = 1 ∧ e.requestId = "R1" ∧ e.correlationId = "c-1" ∧
          e.payload = Utf8.encode text) :=
  ⟨by cbv, by decide,
    command_answered_once badDay () twoSided "site/press/speed/GET" bareRequest "replies/"
      { requestId := "R1", correlationId := "c-1" } (by cbv) (by decide) (by cbv) (by decide)⟩

end CommandRelay.Relay
