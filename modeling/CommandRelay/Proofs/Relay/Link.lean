import CommandRelay.Proofs.Mqtt.Answers
import CommandRelay.Proofs.Relay.DeadLetters

/-!
# Commands over a broker link

A command goes to a service in a packet of the internal link, and the response comes back in a
message.  On the way every envelope is written and read again, twice in each direction.

1. **The handler** — where it has come to its request, that holds what was read of the message, and
   what is published afterwards is the response (`command_at_request`).
2. **The link** — a request that has its response keeps it as long as it waits for room
   (`Run.Promised.after`); a call that is over does not come back (`Run.Tracked.stays_over`).
3. **Both together** — `command_and_response_pass_unchanged`: what a service reads of the packet is
   what was read of the command, and what the sender of the command reads is what was read of the
   response.
-/

namespace CommandRelay

/-- An envelope that was received without a double in its parameters is received again as it is. -/
theorem Envelope.received_again {bs : List UInt8} {fresh : String} {e : Envelope}
    {words : Wording} (hfresh : fresh ≠ "") (h : receive fresh bs words = .ok e)
    (hwhole : e.queryParams.Whole) (other : String) (words' : Wording) :
    receive other e.toWire words' = .ok e := by
  obtain ⟨w, hw, rfl⟩ := Relay.receive_eq_ok_iff.mp h
  have hparams : (w.correlated fresh).queryParams = w.queryParams := by
    rw [correlated]
    split <;> rfl
  have hid : (w.correlated fresh).correlationId ≠ "" := by
    rw [correlated]
    split
    · exact hfresh
    · assumption
  have hshallow : (w.correlated fresh).queryParams.Shallow := by
    rw [hparams]
    exact shallow_of_ofWire? hw
  rw [receive, ofWire?_toWire hwhole hshallow]
  exact congrArg Except.ok (correlated_eq_self hid other)

/-! ## The link -/

namespace Mqtt.Run

open Correlation
open CommandRelay.Bus (Inquiry)

variable {s : Run} {ks : List Inquiry} {r : Envelope}

/-- A call that has its result is over. -/
theorem Ended.over {call : CallId} {result : CallResult} (h : s.Ended call result)
    (ht : s.Tracked ks) : ¬ s.Outstanding call := by
  obtain ⟨t, htmem, rfl, hresult⟩ := h
  rintro ⟨u, hu, hcall, hnone⟩
  rw [List.inj_on_of_nodup_map ht.booked.taskCalls hu htmem hcall, hresult] at hnone
  cases hnone

/-- A call that is over does not come back. -/
theorem Tracked.stays_over (h : s.Tracked ks) {k : Inquiry} (hk : k ∈ ks)
    (hover : ¬ s.Outstanding k.call) (fresh : Nat → String) (a : Step) :
    ¬ (s.step fresh a).2.2.Outstanding k.call := by
  -- Only a new call enters a guard.
  have hkeep : ∀ {d d' : Desk}, (∀ g ∈ d.guards, g.caller ≠ k.call) →
      (∀ g ∈ d'.guards, ∃ g₀ ∈ d.guards, g₀.waiter = g.waiter) →
      ∀ g ∈ d'.guards, g.caller ≠ k.call := by
    intro d d' hd hold g hg hc
    obtain ⟨g₀, hg₀, hw⟩ := hold g hg
    exact hd g₀ hg₀ ((congrArg Waiter.caller hw).trans hc)
  have hgone : ∀ g ∈ s.bus.desk.guards, g.caller ≠ k.call := (h.gone hover).1
  have hregister : ∀ requestId, ∀ g ∈ (s.bus.desk.register s.nextCall requestId).2.guards,
      g.caller ≠ k.call := by
    intro requestId g hg
    rcases Desk.register_cases s.bus.desk s.nextCall requestId with
      ⟨-, heq⟩ | ⟨-, -, heq⟩ | ⟨-, -, heq⟩
    · rw [heq] at hg
      exact hgone g hg
    · rw [heq] at hg
      exact hgone g hg
    · rw [heq] at hg
      rcases List.mem_append.mp hg with hold | hlast
      · exact hgone g hold
      · rw [List.mem_singleton.mp hlast]
        exact Nat.ne_of_gt (h.booked.old k hk)
  obtain ⟨client, desk, heq, -, hguards⟩ := step_bus
    (P := fun d => d.Matched ∧ ∀ g ∈ d.guards, g.caller ≠ k.call) (s := s) (a := a) fresh
    ⟨h.sound.matched, hgone⟩
    (fun name r timeout _ => ⟨h.sound.matched.register _ h.new_guard, hregister _⟩)
    (fun d r hd => ⟨hd.1.complete r, hkeep hd.2 (hd.1.registered_complete r)⟩)
    (fun d c hd => ⟨hd.1.drop c, hkeep hd.2 (hd.1.registered_drop c)⟩)
    (fun d c timeout now hd =>
      ⟨hd.1.await c timeout now, hkeep hd.2 (hd.1.registered_await c timeout now)⟩)
  intro hout
  obtain ⟨g, hg, hc⟩ := ((h.step fresh a).manned.waits k.call).mp hout
  rw [heq] at hg
  exact hguards g hg hc

/-- A call that is over stays so. -/
theorem Tracked.over_after (h : s.Tracked ks) {k : Inquiry} (hk : k ∈ ks)
    (hover : ¬ s.Outstanding k.call) (fresh : Nat → String) (steps : List Step) :
    ¬ (s.after fresh steps).Outstanding k.call := by
  induction steps generalizing s ks with
  | nil => exact hover
  | cons a steps ih =>
    exact ih (h.step fresh a) (List.mem_append_left _ hk) (h.stays_over hk hover fresh a)

/-- A request that has its response keeps it while it waits for room, whatever else happens on the
link. -/
theorem Promised.after {k : Inquiry} (hp : s.Promised k.call r) (h : s.Tracked ks) (hk : k ∈ ks)
    {qos : Qos} (hqos : s.bus.qos = qos)
    (hline : ∃ before gone, InLine qos s.bus.client ks before gone)
    (fresh : Nat → String) {steps : List Step}
    (hout : (s.after fresh steps).Outstanding k.call) :
    (s.after fresh steps).Promised k.call r := by
  induction steps generalizing s ks with
  | nil => exact hp
  | cons a steps ih =>
    obtain ⟨before, gone, hline⟩ := hline
    have hk' : k ∈ ks ++ (s.asked? a).toList := List.mem_append_left _ hk
    have hline' := inLine_after hline h hqos fresh [a]
    rw [inquiries, inquiries, List.append_nil] at hline'
    -- What ends the request would have ended it for good.
    have hstays : (s.step fresh a).2.2.Outstanding k.call := by
      by_contra hover
      exact (h.step fresh a).over_after hk' hover fresh steps hout
    have hkept : (s.step fresh a).2.2.Promised k.call r := by
      have hfate := h.fate hk hline.waiting hp fresh a
      cases a with
      | drain => exact absurd hstays (Ended.over hfate (h.step fresh _))
      | close => exact absurd hstays (Ended.over hfate (h.step fresh _))
      | cancel name =>
        rw [Fate] at hfate
        split at hfate
        · exact absurd hstays hfate
        · exact hfate
      | _ => exact hfate
    exact ih hkept (h.step fresh a) hk' ((step_frame fresh s a).1.trans hqos) ⟨_, _, hline'⟩ hout

/-- What becomes of a request whose response has come, from the state before to the state behind. -/
structure Heard (fresh : Nat → String) (s s' : Run) (k : Inquiry) (r : Envelope) : Prop where
  /-- If its packet has entered the queue, the request ends. -/
  sent : ¬ s.WaitsForRoom k.call → s'.Ended k.call (.ok r)
  /-- If it waits for room, the response is kept as long as the request is there, and is its result
  when there is room. -/
  waiting : s.WaitsForRoom k.call → ∀ later, (s'.after fresh later).Outstanding k.call → ∀ b,
    Fate (s'.after fresh later) ((s'.after fresh later).step fresh b).2.2 k r b

/-- A message that is taken while a request has no response, and holds one to it, is for that
request. -/
theorem Tracked.heard (h : s.Tracked ks) (hc : s.Counted ks) {k : Inquiry} (hk : k ∈ ks) {qos : Qos}
    (hqos : s.bus.qos = qos) {before : List Entry} {gone : List Packet}
    (hline : InLine qos s.bus.client ks before gone) (hunanswered : s.Unanswered k.call)
    {fresh : Nat → String} {topic : String} {payload : List UInt8}
    (hreceive : Envelope.receive (fresh s.made) payload s.wording = .ok r)
    (hsame : k.requestId = r.requestId)
    (htaken : (s.step fresh (.incoming topic payload)).1 = .done true) :
    s.Heard fresh (s.step fresh (.incoming topic payload)).2.2 k r := by
  have haccepts : Topic.accepts s.bus.responseFilter topic = true := by
    rw [(step_incoming fresh s topic payload).1] at htaken
    exact ((h.taken_iff hc topic payload).mp (Reply.done.inj htaken)).1
  obtain ⟨-, hwaiting, hout⟩ :=
    h.answered hc haccepts hreceive (mem_unanswered.mpr ⟨hk, hunanswered⟩) hsame
  refine ⟨fun hsent => (hout hsent).1, fun hroom later houtstanding b => ?_⟩
  have hfirst := inLine_after hline h hqos fresh [.incoming topic payload]
  have hall := inLine_after hline h hqos fresh (.incoming topic payload :: later)
  have htracked := h.after fresh (.incoming topic payload :: later)
  have hqos' := (step_frame fresh s (.incoming topic payload)).1.trans hqos
  rw [after_cons, Run.after, List.foldl_nil, inquiries, inquiries, List.append_nil] at hfirst
  rw [after_cons] at hall htracked
  have hkept := (hwaiting hroom).1.after (h.step fresh _) (List.mem_append_left _ hk) hqos'
    ⟨_, _, hfirst⟩ fresh houtstanding
  exact htracked.fate (List.mem_append_left _ hk) hall.waiting hkept fresh b

end Mqtt.Run

/-! ## The handler -/

namespace Relay

open Program

variable {s : Settings} {topic : String} {payload : List UInt8} {tr : List Performed}
  {req : Bus.Request} {timeout : Duration} {next : Except Fault Envelope → Program Unit}

/-- A command that gets a response to its request has made it with what was read of its message, and
publishes the response. -/
theorem command_with_response {id : String} {gates rest : List Performed} {r : Envelope}
    (h : Path (handleCommand s topic payload)
      (⟨.fresh, id⟩ :: (gates ++ ⟨.request req timeout, .ok r⟩ :: rest)) (.done ())) :
    ∃ a base, Envelope.receive id payload s.wording = .ok req.envelope ∧
    timeout = s.requestTimeout ∧
      Topic.address topic = .ok a ∧ s.topic? .external Keys.commandResponse = some base ∧
      publications rest = [(Topic.reply base a, s.delivery, r.toWire)] := by
  obtain ⟨_, _, hsplit, hways⟩ := handleCommand_cases h
  cases hsplit
  have hcalls : calls (gates ++ ⟨.request req timeout, .ok r⟩ :: rest) =
      calls gates ++ ⟨.request req timeout, .ok r⟩ :: calls rest := by
    rw [calls_append]
    rfl
  have hrequests : busRequests (calls (gates ++ ⟨.request req timeout, .ok r⟩ :: rest)) ≠ [] := by
    rw [hcalls, busRequests_append]
    exact List.append_ne_nil_of_right_ne_nil _ (List.cons_ne_nil _ _)
  rcases hways with ⟨f, -, hr⟩ | ⟨q, f, -, -, hr⟩ | ⟨q, a, -, -, -, hr⟩ |
    ⟨q, a, base, consulted, v, taken, hq, ha, hb, hv, hall⟩
  · exact absurd hr.busRequests_eq hrequests
  · exact absurd hr.busRequests_eq hrequests
  · exact absurd hr.busRequests_eq hrequests
  · rw [hcalls] at hall
    obtain ⟨init, rfl, hrest⟩ := gates_of_request hall
    obtain ⟨htimeout, rfl, -⟩ := hv.request_eq
    have hquiet : publications init = [] := by
      have hnone := hv.publications_eq_nil
      rw [publications_append, List.append_eq_nil_iff] at hnone
      exact hnone.2
    -- The verdict is the response, since the gates got one.
    have hverdict : v = .ok r := by
      have hmem : r ∈ busResponses (calls gates ++ ⟨.request req timeout, .ok r⟩ :: init) := by
        rw [busResponses_append]
        exact List.mem_append_right _ List.mem_cons_self
      rw [hv.busResponses_eq] at hmem
      cases v with
      | ok r' => rw [List.mem_singleton.mp hmem]
      | error text => cases hmem
    subst hverdict
    refine ⟨a, base, hq, htimeout, ha, hb, ?_⟩
    rw [← publications_calls, hrest, publications_append, hquiet]
    rfl

/-! ## Both together -/

open CommandRelay.Bus (Inquiry)

/-- **Envelopes pass a relay on a broker link unchanged.**  A command has come to its request, and a
run of the link has made it, among whatever else happens there.  Then the request holds what was
read of the message of the command, and so does its packet, for whoever reads it.  A response to it
that the link takes is what the request ends with: at once if its packet has entered the queue;
otherwise it is kept as long as the request waits for room and ends it when there is room, unless
the link goes away or the command is given up before.  With that response, the one message that is
published holds what was read of it.  Only doubles in parameters are not promised to come
through. -/
theorem command_and_response_pass_unchanged (fresh : Nat → String) (hfresh : ∀ n, fresh n ≠ "")
    (capacity : Nat) (responsePrefix : String) (qos : Qos) (words : Wording)
    (steps : List Mqtt.Step) (s : Settings) (topic : String) (payload : List UInt8) (id : String)
    (hid : id ≠ "")
    (gates : List Performed) (next : Except Fault Envelope → Program Unit) (k : Inquiry)
    (hcommand : Path (handleCommand s topic payload) (⟨.fresh, id⟩ :: gates)
      (.perform (.request k.request k.timeout) next))
    (hmade : k ∈ (Mqtt.Run.start capacity responsePrefix qos words).inquiries fresh steps)
    (hroom : ((Mqtt.Run.start capacity responsePrefix qos words).inquiries fresh steps).length <
      2 ^ 64) :
    let start := Mqtt.Run.start capacity responsePrefix qos words
    let link := start.after fresh steps
    ∃ a base, Envelope.receive id payload s.wording = .ok k.request.envelope ∧
      Topic.address topic = .ok a ∧ s.topic? .external Keys.commandResponse = some base ∧
      (k.request.envelope.queryParams.Whole → ∀ e ∈ start.entered fresh steps,
        e.1 = some k.call → ∃ wire, e.2 = .publish k.request.topic { qos, retain := false } wire ∧
          ∀ other words', Envelope.receive other wire words' = .ok k.request.envelope) ∧
      ∀ responseTopic responsePayload r, link.Unanswered k.call →
        Envelope.receive (fresh link.made) responsePayload link.wording = .ok r →
        r.requestId = k.request.envelope.requestId →
        (link.step fresh (.incoming responseTopic responsePayload)).1 = .done true →
        link.Heard fresh (link.step fresh (.incoming responseTopic responsePayload)).2.2 k r ∧
        ∀ rest, Path (next (.ok r)) rest (.done ()) → ∃ wire,
          publications rest = [(Topic.reply base a, s.delivery, wire)] ∧
            (r.queryParams.Whole →
              ∀ other words', Envelope.receive other wire words' = .ok r) := by
  intro start link
  -- Whatever response ends the request, the rest of the command publishes it as it is; the gates
  -- are passed already.
  have hanswered : ∀ r rest, Path (next (.ok r)) rest (.done ()) → ∃ a base,
      Envelope.receive id payload s.wording = .ok k.request.envelope ∧
      k.timeout = s.requestTimeout ∧
      Topic.address topic = .ok a ∧ s.topic? .external Keys.commandResponse = some base ∧
      publications rest = [(Topic.reply base a, s.delivery, r.toWire)] := by
    intro r rest hrest
    have hresponse : Path (.perform (.request k.request k.timeout) next)
        (⟨.request k.request k.timeout, Except.ok r⟩ :: rest) (.done ()) := .go _ hrest
    exact command_with_response (hcommand.trans hresponse)
  -- Some response ends it, and from that path the envelope and the topics are read off.
  obtain ⟨rest, _, hrest⟩ := exists_path_done (next (.ok {}))
  obtain ⟨a, base, hq, -, ha, hb, -⟩ := hanswered {} rest hrest
  have hstart : start.Tracked [] := Mqtt.Run.tracked_start capacity responsePrefix qos words
  have htracked : link.Tracked (start.inquiries fresh steps) := hstart.after fresh steps
  have hcounted : link.Counted (start.inquiries fresh steps) :=
    (Mqtt.Run.counted_start capacity responsePrefix qos words).after hstart fresh hroom
  -- Each packet of a request in the queue is the packet that its inquiry was made with.
  have hline : Mqtt.InLine qos link.bus.client (start.inquiries fresh steps)
      (start.entered fresh steps) (start.left fresh steps) := by
    have hafter := Mqtt.Run.inLine_after (Mqtt.InLine.start qos capacity) hstart rfl fresh steps
    rwa [List.nil_append, List.nil_append, List.nil_append] at hafter
  have hqos : link.bus.qos = qos := (Mqtt.Run.step_frame_after fresh start steps).1
  refine ⟨a, base, hq, ha, hb, fun hwhole e he hcall => ?_, ?_⟩
  · obtain ⟨k', hk', hsame, hpacket⟩ := hline.packets e he k.call hcall
    obtain rfl := htracked.booked.inquiry_eq hk' hmade hsame
    exact ⟨_, hpacket, Envelope.received_again hid hq hwhole⟩
  intro responseTopic responsePayload r hunanswered hr hsame htaken
  refine ⟨htracked.heard hcounted hmade hqos hline hunanswered hr hsame.symm htaken, ?_⟩
  intro rest hrest
  obtain ⟨a', base', -, -, ha', hb', hpublished⟩ := hanswered r rest hrest
  obtain rfl := Except.ok.inj (ha.symm.trans ha')
  obtain rfl := Option.some.inj (hb.symm.trans hb')
  exact ⟨_, hpublished, Envelope.received_again (hfresh _) hr⟩

/-- What `bareRequest` has requested on a bad day. -/
def speedRequest : Bus.Request where
  service := "svc"
  topic := "internal/svc/press/speed/get"
  envelope := { requestId := "R1", correlationId := "c-1" }

/-- A response to it, of a failure. -/
def speedResponse : Envelope where
  requestId := "R1"
  correlationId := "c-2"
  errorCode := 7
  payload := [52, 50]

theorem receive_speedResponse : Envelope.receive "fresh" speedResponse.toWire = .ok speedResponse :=
  receive_eq_ok_iff.mpr ⟨speedResponse, Envelope.ofWire?_toWire nofun nofun, rfl⟩

/-- Collaborators of a bad day on which the internal bus answers. -/
def answering (result : Except Fault Envelope) : (e : Effect) → Unit → e.Answer × Unit
  | .request _ _, _ => (result, ())
  | e, u => badDay e u

/-- What is performed before the request. -/
def speedGates : List Performed :=
  [⟨.resolve "internal" "press" "speed" .get, Except.ok ⟨"svc", "internal/svc/press/speed/get"⟩⟩]

/-- The command of this message passes all gates and asks for the speed of the press. -/
theorem bareRequest_comes_to_speedRequest : ∃ next,
    Path (handleCommand twoSided "site/press/speed/get" bareRequest) (⟨.fresh, "c-1"⟩ :: speedGates)
      (.perform (.request speedRequest (.ofMillis 500)) next) := by
  have hpath := path_trace (answering (.ok speedResponse))
    (handleCommand twoSided "site/press/speed/get" bareRequest) ()
  obtain ⟨rest, htrace⟩ : ∃ rest, trace (answering (.ok speedResponse))
      (handleCommand twoSided "site/press/speed/get" bareRequest) () =
        (⟨.fresh, "c-1"⟩ :: speedGates) ++
          ⟨.request speedRequest (.ofMillis 500), Except.ok speedResponse⟩ :: rest := ⟨_, rfl⟩
  rw [htrace] at hpath
  obtain ⟨_, hgates, hrest⟩ := path_append hpath
  cases hrest
  exact ⟨_, hgates⟩

/-- The request is made while another one fills the queue. -/
def crowdedSteps : List Mqtt.Step :=
  [.request "first" (Mqtt.Run.getReading "R0") (.ofMillis 500),
    .request "second" speedRequest (.ofMillis 500)]

/-- A link on which the request waits for room. -/
def crowdedLink : Mqtt.Run :=
  (Mqtt.Run.start 1 "edgex/response" .atMostOnce).after (fun _ => "fresh") crowdedSteps

/-- The message of the response arrives there. -/
def heardLink : Mqtt.Reply × List Event × Mqtt.Run :=
  crowdedLink.step (fun _ => "fresh") (.incoming "edgex/response/svc/R1" speedResponse.toWire)

theorem heardLink_taken : heardLink.1 = .done true := by
  have htaken : (crowdedLink.bus.incoming {} "fresh" "edgex/response/svc/R1"
      speedResponse.toWire).1 = true := by decide +kernel
  exact (Mqtt.Run.step_incoming _ crowdedLink _ _).1.trans (congrArg Mqtt.Reply.done htaken)

/-- The theorem for a request that waits for room: it ends with the response when the link takes its
packet, and the response is published. -/
theorem response_heard_before_room_is_published :
    ∃ next, Path (handleCommand twoSided "site/press/speed/get" bareRequest)
        (⟨.fresh, "c-1"⟩ :: speedGates) (.perform (.request speedRequest (.ofMillis 500)) next) ∧
      heardLink.1 = .done true ∧
      (heardLink.2.2.step (fun _ => "fresh") .drain).2.2.Ended 1 (.ok speedResponse) ∧
      ∀ rest, Path (next (.ok speedResponse)) rest (.done ()) → ∃ wire,
        publications rest = [("replies/press/speed/get", twoSided.delivery, wire)] ∧
          ∀ other words, Envelope.receive other wire words = .ok speedResponse := by
  obtain ⟨next, hcommand⟩ := bareRequest_comes_to_speedRequest
  obtain ⟨a, base, -, ha, hb, -, hanswered⟩ :=
    command_and_response_pass_unchanged (fun _ => "fresh") (fun _ => by decide) 1 "edgex/response"
      .atMostOnce {} crowdedSteps twoSided "site/press/speed/get" bareRequest "c-1" (by decide)
      speedGates next ⟨1, speedRequest, .ofMillis 500, 0⟩ hcommand
      (List.mem_cons_of_mem _ List.mem_cons_self) (by decide)
  obtain ⟨hheard, hpublished⟩ := hanswered "edgex/response/svc/R1" speedResponse.toWire
    speedResponse (by decide +kernel) receive_speedResponse rfl heardLink_taken
  -- The request waits for room, so the response is promised to it until the queue is drained.
  have hwaits : ∃ r ∈ crowdedLink.senders, r.call = 1 := by decide +kernel
  have hout : heardLink.2.2.Outstanding 1 := by decide +kernel
  refine ⟨next, hcommand, heardLink_taken, hheard.waiting hwaits [] hout .drain,
    fun rest hrest => ?_⟩
  obtain ⟨wire, hwire, hread⟩ := hpublished rest hrest
  have haddress : Topic.address "site/press/speed/get" = .ok ⟨"press", "speed", "get"⟩ := by cbv
  have hprefix : twoSided.topic? .external Keys.commandResponse = some "replies/" := by cbv
  obtain rfl := Except.ok.inj (ha.symm.trans haddress)
  obtain rfl := Option.some.inj (hb.symm.trans hprefix)
  have hreply : Topic.reply "replies/" ⟨"press", "speed", "get"⟩ = "replies/press/speed/get" := by
    cbv
  have hwhole : speedResponse.queryParams.Whole := fun f hf => absurd hf List.not_mem_nil
  exact ⟨wire, hreply ▸ hwire, hread hwhole⟩

/-- The response is taken while the request waits for room, the link goes away, and the command is
answered with a report of that. -/
theorem response_taken_before_room_is_lost :
    let lost : Fault := .notSent "svc" "internal/svc/press/speed/get" Mqtt.refusal
    let report := speedRequest.envelope.failureOf (Fault.commandFailed lost).message
    let handled := trace (answering (.error lost))
      (handleCommand twoSided "site/press/speed/get" bareRequest) ()
    Envelope.receive "fresh" speedResponse.toWire = .ok speedResponse ∧ heardLink.1 = .done true ∧
      (heardLink.2.2.step (fun _ => "fresh") .close).2.2.tasks.map (·.result) =
        [some (.error lost), none] ∧
      busRequests handled = [(speedRequest, .ofMillis 500)] ∧
      publications handled = [("replies/press/speed/get", twoSided.delivery, report.toWire)] ∧
      Envelope.receive "fresh" report.toWire = .ok report ∧ report ≠ speedResponse := by
  intro lost report handled
  have hreport : Envelope.ofWire? report.toWire = some report := Envelope.ofWire?_toWire nofun nofun
  exact ⟨receive_speedResponse, heardLink_taken, by decide +kernel, rfl, rfl,
    receive_eq_ok_iff.mpr ⟨_, hreport, rfl⟩, by decide +kernel⟩

end Relay

end CommandRelay
