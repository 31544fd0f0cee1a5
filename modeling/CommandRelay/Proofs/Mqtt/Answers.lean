import CommandRelay.Proofs.Correlation.Early
import CommandRelay.Proofs.Envelope.RoundTrip
import CommandRelay.Proofs.Mqtt.Deadline
import CommandRelay.Proofs.Mqtt.InFlight

/-!
# What becomes of the requests over a broker link

A response can arrive while its request still waits for room, while its packet is queued, or when
the packet is long gone.  In each case it is taken exactly if the request is there and has no
response yet, and it is what the request ends with.

1. **Messages that arrive** — which are taken, and what they do (`Run.Tracked.answered`); all others
   change nothing (`Run.Counted.ignored`).
2. **Responses before there was room** — such a response is kept until the request has found room,
   and is its result then (`Run.Tracked.fate`).
3. **Whole runs** — `Run.packets_in_line_and_requests_answered` puts this together with the way of
   the packets.
-/

namespace CommandRelay.Mqtt.Run

open Correlation
open CommandRelay.Bus (Inquiry Task)

/-- A request waits for room and has its response. -/
def Promised (s : Run) (call : CallId) (r : Envelope) : Prop := s.bus.desk.Answered call r none

/-- The task of a call has a result. -/
def Ended (s : Run) (call : CallId) (result : CallResult) : Prop :=
  ∃ t ∈ s.tasks, t.call = call ∧ t.result = some result

variable {s : Run} {ks : List Inquiry} {fresh : Nat → String} {r : Envelope}

/-- A call that is over holds no guard and no entry of the table, and does not wait for room. -/
theorem Tracked.gone (h : s.Tracked ks) {call : CallId} (hover : ¬ s.Outstanding call) :
    (∀ g ∈ s.bus.desk.guards, g.caller ≠ call) ∧ (∀ w ∈ s.bus.desk.waiters, w.caller ≠ call) ∧
      ¬ s.WaitsForRoom call := by
  have hguards : ∀ g ∈ s.bus.desk.guards, g.caller ≠ call :=
    fun g hg hc => hover ((h.manned.waits call).mpr ⟨g, hg, hc⟩)
  refine ⟨hguards, ?_, ?_⟩
  · intro w hw hc
    obtain ⟨g, hg, -, rfl⟩ := h.sound.matched.waiting w hw
    exact hguards g hg hc
  · rintro ⟨sender, hsender, hc⟩
    obtain ⟨g, hg, hgc⟩ := h.manned.senders sender hsender
    exact hguards g hg (hgc.trans hc)

/-- The call of a guard is outstanding. -/
theorem Tracked.outstanding (h : s.Tracked ks) {g : Guard} (hg : g ∈ s.bus.desk.guards) :
    s.Outstanding g.caller :=
  (h.manned.waits g.caller).mpr ⟨g, hg, rfl⟩

/-- A request that is outstanding has no response yet, or waits for room and has one. -/
theorem Tracked.unanswered_iff (h : s.Tracked ks) (hc : s.Counted ks) (call : CallId) :
    s.Unanswered call ↔ s.Outstanding call ∧ ∀ r, ¬ s.Promised call r := by
  constructor
  · rintro ⟨g, hg, rfl, hnone⟩
    refine ⟨h.outstanding hg, ?_⟩
    rintro r ⟨g', hg', hcall, hr, -⟩
    rw [h.sound.matched.guard_eq hg' hg hcall, hnone] at hr
    cases hr
  · rintro ⟨hout, hnone⟩
    obtain ⟨g, hg, hcall⟩ := (h.manned.waits call).mp hout
    refine ⟨g, hg, hcall, ?_⟩
    cases hr : g.response with
    | none => rfl
    | some r =>
      -- A caller that waits would have its response by now.
      have hidle : g.wait = none := by
        by_contra hwait
        obtain ⟨w, hw⟩ := Option.ne_none_iff_exists'.mp hwait
        have hopen := (h.sound.matched.outcome?_eq_none_iff hg).mp (hc.settled g hg) w hw
        rw [hopen.1] at hr
        cases hr
      exact absurd ⟨g, hg, hcall, hr, hidle⟩ (hnone r)

/-! ## Messages that arrive -/

/-- A message that is no response for this bus changes nothing. -/
theorem incoming_of_foreign {b : Bus} {words : Wording} {fresh topic : String}
    {payload : List UInt8} (h : ¬ (Topic.accepts b.responseFilter topic = true ∧
      ∃ r, Envelope.receive fresh payload words = .ok r)) :
    (b.incoming words fresh topic payload).1 = false ∧
      (b.incoming words fresh topic payload).2.2 = b := by
  rw [Bus.incoming]
  split
  · exact ⟨rfl, rfl⟩
  · rename_i haccepts
    cases hreceive : Envelope.receive fresh payload words with
    | error f => exact ⟨rfl, rfl⟩
    | ok r => exact absurd ⟨by simpa using haccepts, r, hreceive⟩ h

/-- A response is handed to the desk. -/
theorem incoming_of_response {b : Bus} {words : Wording} {fresh topic : String}
    {payload : List UInt8} (haccepts : Topic.accepts b.responseFilter topic = true)
    (hreceive : Envelope.receive fresh payload words = .ok r) :
    (b.incoming words fresh topic payload).1 = (b.desk.complete r).1 ∧
      (b.incoming words fresh topic payload).2.2 = { b with desk := (b.desk.complete r).2 } := by
  rw [Bus.incoming, haccepts, hreceive]
  exact ⟨rfl, rfl⟩

theorem step_incoming (fresh : Nat → String) (s : Run) (topic : String) (payload : List UInt8) :
    (s.step fresh (.incoming topic payload)).1 =
        .done (s.bus.incoming s.wording (fresh s.made) topic payload).1 ∧
      (s.step fresh (.incoming topic payload)).2.2 = settle { s with
        bus := (s.bus.incoming s.wording (fresh s.made) topic payload).2.2
        made := s.made + 1 } := by
  constructor <;> simp only [step, stepNow]

/-- A response nobody waits for is not taken. -/
theorem Tracked.missed (h : s.Tracked ks) {topic : String} {payload : List UInt8}
    (haccepts : Topic.accepts s.bus.responseFilter topic = true)
    (hreceive : Envelope.receive (fresh s.made) payload s.wording = .ok r)
    (hnobody : ∀ k ∈ s.unanswered ks, k.requestId ≠ r.requestId) :
    (s.bus.incoming s.wording (fresh s.made) topic payload).1 = false ∧
      (s.bus.incoming s.wording (fresh s.made) topic payload).2.2 = s.bus := by
  have hcomplete : s.bus.desk.complete r = (false, s.bus.desk) := by
    rcases h.sound.matched.complete_cases r with ⟨-, heq⟩ | ⟨g, -, hw, -, hid, -⟩
    · exact heq
    · obtain ⟨k, hk, -, hkid⟩ := h.unanswered_of_waiter hw
      exact absurd (hkid.trans hid) (hnobody k hk)
  obtain ⟨htaken, hbus⟩ := incoming_of_response haccepts hreceive
  rw [htaken, hbus, hcomplete]
  exact ⟨rfl, rfl⟩

/-- The response of a request that is there is taken: it is the result of a request that has gone
out, and is kept for one that waits for room. -/
theorem Tracked.answered (h : s.Tracked ks) (hc : s.Counted ks) {topic : String}
    {payload : List UInt8} (haccepts : Topic.accepts s.bus.responseFilter topic = true)
    (hreceive : Envelope.receive (fresh s.made) payload s.wording = .ok r) {k : Inquiry}
    (hk : k ∈ s.unanswered ks) (hid : k.requestId = r.requestId) :
    (s.bus.incoming s.wording (fresh s.made) topic payload).1 = true ∧
    (s.WaitsForRoom k.call → (s.step fresh (.incoming topic payload)).2.2.Promised k.call r ∧
      (s.step fresh (.incoming topic payload)).2.2.tasks = s.tasks) ∧
    (¬ s.WaitsForRoom k.call → (s.step fresh (.incoming topic payload)).2.2.Ended k.call (.ok r) ∧
      (s.step fresh (.incoming topic payload)).2.2.tasks =
        Task.note s.tasks [(k.call, .ok r)]) := by
  -- The guard of the request is in the table; whether its wait has begun decides between the two
  -- parts.
  obtain ⟨g, hg, hcall, hgid, hw⟩ := h.guard_of_unanswered hc hk
  obtain ⟨htaken, hbus⟩ := incoming_of_response haccepts hreceive
  have hmatch : g.requestId = r.requestId := hgid.trans hid
  have hstate := (step_incoming fresh s topic payload).2
  rw [hbus] at hstate
  refine ⟨by rw [htaken, h.sound.matched.complete_eq hw hmatch], fun hroom => ?_, fun hout => ?_⟩
  · have hwait : g.wait = none := by
      rw [h.sound.idle g hg, hcall]
      exact hroom
    have hsettled := hc.settled.complete_idle h.sound.matched hg hw hmatch hwait
    have hkept := h.sound.matched.mem_complete hg hw hmatch
    rw [hstate, settle_eq (s := { s with bus := _, made := _ }) hsettled]
    exact ⟨⟨_, hkept, hcall, rfl, hwait⟩, rfl⟩
  · have hwait : g.wait ≠ none := by
      rw [Ne, h.sound.idle g hg, hcall]
      exact hout
    have hsettle := hc.settled.settle_complete h.sound.matched hg hw hmatch hwait
    have htasks : (s.step fresh (.incoming topic payload)).2.2.tasks =
        Task.note s.tasks [(k.call, .ok r)] := by
      rw [hstate, ← hcall]
      simp only [settle, Bus.settle, hsettle]
    have hmem : k.call ∈ s.tasks.map (·.call) := hcall ▸ Task.Waits.mem (h.outstanding hg)
    refine ⟨?_, htasks⟩
    rw [Ended, htasks]
    refine Task.exists_mem_note hmem (List.mem_singleton_self _) fun e he _ => ?_
    rw [List.mem_singleton.mp he]

/-- A message is taken exactly if it is the response of a request that is there and has none yet. -/
theorem Tracked.taken_iff (h : s.Tracked ks) (hc : s.Counted ks) (topic : String)
    (payload : List UInt8) : (s.bus.incoming s.wording (fresh s.made) topic payload).1 = true ↔
      Topic.accepts s.bus.responseFilter topic = true ∧
        ∃ r, Envelope.receive (fresh s.made) payload s.wording = .ok r ∧
          ∃ k ∈ s.unanswered ks, k.requestId = r.requestId := by
  constructor
  · intro htaken
    by_cases hresponse : Topic.accepts s.bus.responseFilter topic = true ∧
        ∃ r, Envelope.receive (fresh s.made) payload s.wording = .ok r
    · obtain ⟨haccepts, r, hreceive⟩ := hresponse
      refine ⟨haccepts, r, hreceive, ?_⟩
      by_contra hnobody
      have hmissed := h.missed haccepts hreceive fun k hk hid => hnobody ⟨k, hk, hid⟩
      rw [hmissed.1] at htaken
      cases htaken
    · rw [(incoming_of_foreign hresponse).1] at htaken
      cases htaken
  · rintro ⟨haccepts, r, hreceive, k, hk, hid⟩
    exact (h.answered hc haccepts hreceive hk hid).1

/-- A message that is not taken changes nothing. -/
theorem Tracked.ignored (h : s.Tracked ks) (hc : s.Counted ks) {topic : String}
    {payload : List UInt8}
    (hleft : (s.bus.incoming s.wording (fresh s.made) topic payload).1 = false) :
    (s.step fresh (.incoming topic payload)).2.2 = { s with made := s.made + 1 } := by
  have hbus : (s.bus.incoming s.wording (fresh s.made) topic payload).2.2 = s.bus := by
    by_cases hresponse : Topic.accepts s.bus.responseFilter topic = true ∧
        ∃ r, Envelope.receive (fresh s.made) payload s.wording = .ok r
    · obtain ⟨haccepts, r, hreceive⟩ := hresponse
      refine (h.missed haccepts hreceive fun k hk hid => ?_).2
      rw [(h.answered hc haccepts hreceive hk hid).1] at hleft
      cases hleft
    · exact (incoming_of_foreign hresponse).2
  rw [(step_incoming fresh s topic payload).2, hbus]
  exact settle_eq (s := { s with made := s.made + 1 }) hc.settled

/-! ## Responses before there was room -/

/-- What a step does to a request that waits for room and has its response. -/
def Fate (s s' : Run) (k : Inquiry) (r : Envelope) : Step → Prop
  | .drain => s'.Ended k.call (.ok r)
  | .close => s'.Ended k.call (.error (.notSent k.request.service k.request.topic refusal))
  | .cancel name =>
    if (Task.find? s.tasks name).map (·.call) = some k.call then ¬ s'.Outstanding k.call
    else s'.Promised k.call r
  | _ => s'.Promised k.call r

/-- A response stays where it is while other waits begin, and its own wait begins once. -/
theorem answered_foldl_await {d : Desk} {call : CallId} {wait : Option Wait} (now : Instant)
    (hm : d.Matched) {senders : List Sender} (h : d.Answered call r wait)
    (hin : wait = none → ∃ s ∈ senders, s.call = call) :
    ∃ w, (senders.foldl (fun d s => d.await s.call s.timeout now) d).Answered call r (some w) := by
  induction senders generalizing d wait with
  | nil =>
    cases wait with
    | none =>
      obtain ⟨s, hs, -⟩ := hin rfl
      cases hs
    | some w => exact ⟨w, h⟩
  | cons s senders ih =>
    have hm' := hm.await s.call s.timeout now
    by_cases hc : s.call = call
    · subst hc
      exact ih hm' (h.await_self hm s.timeout now) nofun
    · refine ih hm' (h.await hm hc s.timeout now) fun hnone => ?_
      obtain ⟨s', hs', hc'⟩ := hin hnone
      rcases List.mem_cons.mp hs' with rfl | hlater
      · exact absurd hc' hc
      · exact ⟨s', hlater, hc'⟩

namespace Promised

variable {call : CallId}

/-- Settling leaves the response where it is. -/
theorem settle (h : s.Promised call r) (hm : s.bus.desk.Matched) : s.settle.Promised call r :=
  Desk.Answered.settle h hm

/-- A request with a promised response waits for room. -/
theorem waitsForRoom (h : s.Promised call r) (hs : s.Sound) : s.WaitsForRoom call := by
  obtain ⟨g, hg, rfl, -, hw⟩ := h
  exact (hs.idle g hg).mp hw

/-- A request with a promised response is not over. -/
theorem outstanding (h : s.Promised call r) (ht : s.Tracked ks) : s.Outstanding call := by
  obtain ⟨g, hg, rfl, -⟩ := h
  exact ht.outstanding hg

/-- A request of another call does not touch the response. -/
theorem startTask (h : s.Promised call r) (hs : s.Sound) (name : String)
    (request : CommandRelay.Bus.Request) (timeout : Duration) :
    (s.startTask name request timeout).Promised call r := by
  have hother : s.nextCall ≠ call := by
    obtain ⟨g, hg, rfl, -⟩ := h
    exact Nat.ne_of_gt (hs.freshGuards g hg)
  have hnew : ∀ g ∈ s.bus.desk.guards, g.caller ≠ s.nextCall :=
    fun g hg => Nat.ne_of_lt (hs.freshGuards g hg)
  obtain ⟨client, desk, hbus, -, hdesk⟩ := startTask_bus
    (P := fun d => d.Matched ∧ d.Answered call r none) s name request timeout
    ⟨hs.matched.register _ hnew, Desk.Answered.register h _ _⟩
    (fun d hd => ⟨hd.1.drop _, hd.2.drop hd.1 hother⟩)
    (fun d hd => ⟨hd.1.await _ _ _, hd.2.await hd.1 hother _ _⟩)
  rw [Promised, hbus]
  exact hdesk

/-- The link has room for the request: it ends with its response. -/
theorem drain (h : s.Promised call r) (ht : s.Tracked ks) :
    (s.step fresh .drain).2.2.Ended call (.ok r) := by
  obtain ⟨sender, hsender, hcall⟩ := h.waitsForRoom ht.sound
  have hbus : (s.stepNow fresh .drain).2.2.bus.desk =
      s.senders.foldl (fun d s' => d.await s'.call s'.timeout s.now) s.bus.desk := by
    show (s.bus.drain s.now).2.desk = _
    rw [s.bus.drain_bus]
    rfl
  have hmatched : Desk.Matched (s.senders.foldl
      (fun d s' => d.await s'.call s'.timeout s.now) s.bus.desk) :=
    matched_foldl_await ht.sound.matched s.senders
  obtain ⟨w, hwaiting⟩ := answered_foldl_await s.now ht.sound.matched h
    fun _ => ⟨sender, hsender, hcall⟩
  have hended := hwaiting.ends s.now
  have htasks : (s.step fresh .drain).2.2.tasks =
      Task.note s.tasks ((s.stepNow fresh .drain).2.2.bus.desk.settle s.now).1 := rfl
  rw [Ended, htasks, hbus]
  refine Task.exists_mem_note (Task.Waits.mem (h.outstanding ht)) hended fun e he hc => ?_
  exact congrArg Prod.snd (hmatched.settle_result_eq e he _ hended hc)

/-- The link goes away: the request fails, whatever response it has. -/
theorem close {k : Inquiry} (h : s.Promised k.call r) (ht : s.Tracked ks) (hk : k ∈ ks) {qos : Qos}
    (hwaiting : ∀ b ∈ s.bus.client.blocked, ∃ k ∈ ks, b = blockedOf qos k) :
    (s.step fresh .close).2.2.Ended k.call
      (.error (.notSent k.request.service k.request.topic refusal)) := by
  obtain ⟨sender, hsender, hcall⟩ := h.waitsForRoom ht.sound
  -- Whatever is noted for the call is noted for its own request.
  have hresults : ∀ e ∈ s.bus.close.1, e.1 = k.call →
      e = (k.call, .error (.notSent k.request.service k.request.topic refusal)) := by
    intro e he hc
    obtain ⟨sender', hsender', rfl⟩ := List.mem_map.mp he
    obtain ⟨b, hb, rfl⟩ := List.mem_map.mp hsender'
    obtain ⟨k', hk', rfl⟩ := hwaiting b hb
    obtain rfl := ht.booked.inquiry_eq hk' hk hc
    rfl
  have hended : (k.call, .error (.notSent k.request.service k.request.topic refusal)) ∈
      s.bus.close.1 := by
    have he := List.mem_map_of_mem (f := fun sender : Sender =>
      (sender.call, (.error (.notSent sender.service sender.topic refusal) : CallResult))) hsender
    rw [← hresults _ he hcall]
    exact he
  have hmem : k.call ∈ s.tasks.map (·.call) := Task.Waits.mem (h.outstanding ht)
  obtain ⟨t, htmem, htc, hresult⟩ := Task.exists_mem_note hmem hended
    fun e he hc => congrArg Prod.snd (hresults e he hc)
  have htasks : (s.step fresh .close).2.2.tasks = Task.note
      (Task.note s.tasks s.bus.close.1) (s.bus.close.2.desk.settle s.now).1 := rfl
  have hguards : ∀ g ∈ s.bus.close.2.desk.guards, g.caller ≠ k.call := by
    intro g hg hgc
    rw [s.bus.close_bus] at hg
    obtain ⟨-, hkept⟩ := (Desk.mem_guards_foldl_drop ht.sound.matched).mp hg
    exact hkept (List.mem_map.mpr ⟨sender, hsender, hcall.trans hgc.symm⟩)
  rw [Ended, htasks]
  refine ⟨t, Task.mem_note_of_mem htmem ?_, htc, hresult⟩
  -- Its guard is gone, so nothing else is noted for the call.
  rintro ⟨c, result⟩ he hc
  obtain ⟨g, hg, hgc, -⟩ := Desk.mem_settle_results.mp he
  exact hguards g hg (hgc.trans (hc.trans htc))

end Promised

/-- A step lets a request that waits for room keep its response, unless the link takes its packet or
goes away, or its task is given up. -/
theorem Tracked.fate (h : s.Tracked ks) {k : Inquiry} (hk : k ∈ ks) {qos : Qos}
    (hwaiting : ∀ b ∈ s.bus.client.blocked, ∃ k ∈ ks, b = blockedOf qos k)
    (hp : s.Promised k.call r) (fresh : Nat → String) (a : Step) :
    Fate s (s.step fresh a).2.2 k r a := by
  have hsettle : (s.stepNow fresh a).2.2.Promised k.call r →
    (s.step fresh a).2.2.Promised k.call r :=
    fun hnow => hnow.settle (h.sound.stepNow fresh a).1.matched
  -- Packets that are offered change the queue and no guard.
  have hoffer : ∀ p refused, (s.offer p refused).2.Promised k.call r := by
    intro p refused
    rcases s.offer_cases p refused with heq | ⟨queue, heq⟩
    · rw [heq]
      exact hp
    · rw [heq]
      exact hp
  cases a with
  | filter => exact hsettle hp
  | subscribeResponses => exact hsettle (hoffer _ _)
  | subscribe filter qos => exact hsettle (hoffer _ _)
  | publish topic delivery payload => exact hsettle (hoffer _ _)
  | disconnect => exact hsettle (hoffer _ _)
  | request name request timeout => exact hsettle (hp.startTask h.sound name request timeout)
  | poll name => exact hsettle hp
  | advance d => exact hsettle hp
  | incoming topic payload =>
    have hbus : (s.stepNow fresh (.incoming topic payload)).2.2.bus =
        (s.bus.incoming s.wording (fresh s.made) topic payload).2.2 := by rw [stepNow_incoming]
    refine hsettle ?_
    rw [Promised, hbus]
    rcases s.bus.incoming_cases s.wording (fresh s.made) topic payload with heq | ⟨response, heq⟩
    · rw [heq]
      exact hp
    · rw [heq]
      exact Desk.Answered.complete hp h.sound.matched response
  | cancel name =>
    cases hfind : Task.find? s.tasks name with
    | none =>
      rw [Fate, hfind, if_neg (by simp)]
      refine hsettle ?_
      rw [stepNow, hfind]
      exact hp
    | some t =>
      have hnow : (s.stepNow fresh (.cancel name)).2.2 = { s with
          bus := s.bus.cancel t.call, tasks := Task.remove s.tasks t.call } := by
        rw [stepNow, hfind]
      rw [Fate, hfind, Option.map_some]
      split
      · -- If it is the task of this request, it does not wait any longer; any other leaves the
        -- guard as it is.
        rename_i hcall
        intro hleft
        have hnoted : Task.Waits (s.stepNow fresh (.cancel name)).2.2.tasks k.call :=
          (Task.waits_note.mp hleft).1
        rw [hnow] at hnoted
        exact (Task.waits_remove.mp hnoted).2 (Option.some.inj hcall).symm
      · rename_i hother
        refine hsettle ?_
        rw [hnow]
        exact Desk.Answered.drop hp h.sound.matched fun hcall => hother (congrArg some hcall)
  | drain => exact hp.drain h
  | close => exact hp.close h hk hwaiting

/-! ## Whole runs -/

theorem step_frame_after (fresh : Nat → String) (s : Run) (steps : List Step) :
    (s.after fresh steps).bus.qos = s.bus.qos ∧
      (s.after fresh steps).bus.responsePrefix = s.bus.responsePrefix := by
  induction steps generalizing s with
  | nil => exact ⟨rfl, rfl⟩
  | cons a steps ih =>
    obtain ⟨hqos, hprefix⟩ := step_frame fresh s a
    obtain ⟨hqos', hprefix'⟩ := ih (s.step fresh a).2.2
    exact ⟨hqos'.trans hqos, hprefix'.trans hprefix⟩

/-- The line is kept along a run. -/
theorem inLine_after {qos : Qos} {before : List Entry} {gone : List Packet}
    (h : InLine qos s.bus.client ks before gone) (ht : s.Tracked ks) (hqos : s.bus.qos = qos)
    (fresh : Nat → String) (steps : List Step) :
    InLine qos (s.after fresh steps).bus.client (ks ++ s.inquiries fresh steps)
      (before ++ s.entered fresh steps) (gone ++ s.left fresh steps) := by
  induction steps generalizing s ks before gone with
  | nil =>
    rw [inquiries, entered, left, List.append_nil, List.append_nil, List.append_nil]
    exact h
  | cons a steps ih =>
    have hshift := step_shift fresh s a
    rw [hqos] at hshift
    have hnew : ∀ k ∈ s.asked? a, ∀ k' ∈ ks, k'.call < k.call := by
      intro k hk k' hk'
      obtain ⟨name, r, timeout, -, rfl⟩ := asked?_eq_some hk
      exact ht.booked.old k' hk'
    rw [inquiries, entered, left, ← List.append_assoc, ← List.append_assoc, ← List.append_assoc]
    exact ih (h.shift hshift hnew) (ht.step fresh a) ((step_frame fresh s a).1.trans hqos)

/-- What a run does with requests and messages in a state, told by the requests that were made
before it. -/
structure Faithful (fresh : Nat → String) (s : Run) (ks : List Inquiry) : Prop where
  /-- A request has no response yet if it is outstanding and none is kept for it. -/
  pending : ∀ call, s.Unanswered call ↔ s.Outstanding call ∧ ∀ r, ¬ s.Promised call r
  /-- The requests in flight are those that have no response yet. -/
  inFlight : s.bus.desk.inFlight = (s.unanswered ks).length
  distinct : ((s.unanswered ks).map (·.requestId)).Nodup
  begun : ∀ name r timeout, (s.step fresh (.request name r timeout)).2.2.tasks = Task.add s.tasks
    ⟨name, s.nextCall, s.atOnce? ((s.unanswered ks).map (·.requestId)) r timeout⟩
  /-- A message is taken exactly if it is the response of a request without one. -/
  taken : ∀ topic payload, (s.step fresh (.incoming topic payload)).1 = .done true ↔
    Topic.accepts s.bus.responseFilter topic = true ∧
      ∃ r, Envelope.receive (fresh s.made) payload s.wording = .ok r ∧
        ∃ k ∈ s.unanswered ks, k.requestId = r.requestId
  /-- Any other message changes nothing, but that a correlation ID may have been made up. -/
  ignored : ∀ topic payload, (s.step fresh (.incoming topic payload)).1 ≠ .done true →
    (s.step fresh (.incoming topic payload)).1 = .done false ∧
      (s.step fresh (.incoming topic payload)).2.2 = { s with made := s.made + 1 }
  /-- The response is the result of its request, or is kept if that waits for room. -/
  answered : ∀ topic payload r, Topic.accepts s.bus.responseFilter topic = true →
    Envelope.receive (fresh s.made) payload s.wording = .ok r →
      ∀ k ∈ s.unanswered ks, k.requestId = r.requestId →
        (s.WaitsForRoom k.call → (s.step fresh (.incoming topic payload)).2.2.Promised k.call r ∧
          (s.step fresh (.incoming topic payload)).2.2.tasks = s.tasks) ∧
        (¬ s.WaitsForRoom k.call →
          (s.step fresh (.incoming topic payload)).2.2.Ended k.call (.ok r) ∧
            (s.step fresh (.incoming topic payload)).2.2.tasks =
              Task.note s.tasks [(k.call, .ok r)])

/-- A state that is tracked and counted does with requests and messages what it should. -/
theorem Tracked.faithful (h : s.Tracked ks) (hc : s.Counted ks) (fresh : Nat → String) :
    s.Faithful fresh ks := by
  have hids := hc.ids_perm h
  have hreply := fun topic payload => (step_incoming fresh s topic payload).1
  refine ⟨h.unanswered_iff hc, ?_, ?_, hc.request_tasks h fresh, fun topic payload => ?_,
    fun topic payload hleft => ?_, ?_⟩
  · have hlength := hids.length_eq
    rwa [List.length_map, List.length_map] at hlength
  · exact hids.nodup_iff.mp h.sound.matched.requestIds
  · rw [hreply, Reply.done.injEq]
    exact h.taken_iff hc topic payload
  · rw [hreply] at hleft ⊢
    have huntaken : (s.bus.incoming s.wording (fresh s.made) topic payload).1 = false := by
      rw [← Bool.not_eq_true]
      exact fun htaken => hleft (congrArg Reply.done htaken)
    exact ⟨congrArg Reply.done huntaken, h.ignored hc huntaken⟩
  · intro topic payload r haccepts hreceive k hk hid
    exact (h.answered hc haccepts hreceive hk hid).2

/-- **Requests over a broker link.**  In every run, whatever the capacity of the queue: packets
leave the queue in the order in which they entered it and requests enter it in the order in which
they were made, each once at most and with its own packet, from which the request is read back; a
request that is over has left nothing behind; a request that waits for room and has its response
ends with that as soon as there is room.  As long as fewer than `2 ^ 64` requests were made, a
message is taken exactly if it is the response of a request that is there and has none yet, and
every other message changes nothing. -/
theorem packets_in_line_and_requests_answered (fresh : Nat → String) (capacity : Nat)
    (responsePrefix : String) (qos : Qos) (words : Wording) (steps : List Step) :
    let s₀ := start capacity responsePrefix qos words
    let s := s₀.after fresh steps
    let ks := s₀.inquiries fresh steps
    InLine qos s.bus.client ks (s₀.entered fresh steps) (s₀.left fresh steps) ∧
    (∀ k ∈ ks,
      (∀ f ∈ k.request.envelope.queryParams.fields, Json.Whole f.2 ∧ Json.depth f.2 ≤ 125) →
        ∀ id, Envelope.receive id k.request.envelope.toWire words =
          .ok (k.request.envelope.correlated id)) ∧
    (∀ k ∈ ks, ¬ s.Outstanding k.call → (∀ g ∈ s.bus.desk.guards, g.caller ≠ k.call) ∧
      (∀ w ∈ s.bus.desk.waiters, w.caller ≠ k.call) ∧ ¬ s.WaitsForRoom k.call) ∧
    (∀ k ∈ ks, ∀ r, s.Promised k.call r → s.WaitsForRoom k.call ∧ s.Outstanding k.call ∧
      ∀ a, Fate s (s.step fresh a).2.2 k r a) ∧
    s.bus.responseFilter = Topic.join [responsePrefix, "#"] ∧
    (ks.length < 2 ^ 64 → s.Faithful fresh ks) := by
  intro s₀ s ks
  -- Four invariants hold at the start and along the run; each part of the statement is one of them
  -- or what it says of the next step.
  have hstart : s₀.Tracked [] := tracked_start capacity responsePrefix qos words
  have hcounted : s₀.Counted [] := counted_start capacity responsePrefix qos words
  have htracked : s.Tracked ks := hstart.after fresh steps
  have hline : InLine qos s.bus.client ks (s₀.entered fresh steps) (s₀.left fresh steps) := by
    have hafter := inLine_after (InLine.start qos capacity) hstart rfl fresh steps
    rwa [List.nil_append, List.nil_append, List.nil_append] at hafter
  have hprefix : s.bus.responsePrefix = responsePrefix := (step_frame_after fresh s₀ steps).2
  refine ⟨hline, fun k hk hparams id => ?_, fun k hk hover => htracked.gone hover,
    fun k hk r hp => ?_, ?_, fun hroom => ?_⟩
  · have hread :=
      Envelope.ofWire?_toWire (fun f hf => (hparams f hf).1) fun f hf => (hparams f hf).2
    rw [Envelope.receive, hread]
  · exact ⟨hp.waitsForRoom htracked.sound, hp.outstanding htracked,
      htracked.fate hk hline.waiting hp fresh⟩
  · rw [Bus.responseFilter, hprefix]
  · exact htracked.faithful (hcounted.after hstart fresh hroom) fresh

/-- A response arrives while its request waits for room, and is its result when there is room. -/
example :
    let response : Envelope := { requestId := "R2", correlationId := "c", payload := [52, 50] }
    let s := (start 1 "edgex/response" .atMostOnce).after (fun _ => "fresh")
      [.request "t1" (getReading "R1") (.ofMillis 500),
        .request "t2" (getReading "R2") (.ofMillis 500),
        .incoming "edgex/response/svcA/R2" response.toWire, .advance (.ofMillis 900), .drain]
    s.tasks.map (·.result) =
      [some (.ok response), some (.error (.timedOut "R1" (.ofMillis 500)))] := by
  decide +kernel

/-- Lists in lists. -/
def nested : Nat → Json
  | 0 => .null
  | n + 1 => .list [nested n]

theorem canonical_nested (n : Nat) : Json.Canonical (nested n) := by
  induction n with
  | zero => trivial
  | succ n ih => exact ⟨ih, trivial⟩

/-- A request with a parameter. -/
def getReadingWith (requestId : String) {v : Json} (h : Json.Canonical v) :
    CommandRelay.Bus.Request where
  service := "svcA"
  topic := "internal/svcA/d/c/get"
  envelope :=
    { requestId
      correlationId := "c"
      queryParams := ⟨[("x", v)], List.pairwise_singleton _ _, h, trivial⟩ }

/-- A request without a correlation ID, one with the double that `1e-28` is read as, and one with
126 lists in one another. -/
def strayRequests : List CommandRelay.Bus.Request :=
  [getReading "R1",
   getReadingWith "R2" (v := .number (.double ⟨false, 8920298079412250, -146⟩)) trivial,
   getReadingWith "R3" (canonical_nested 126)]

/-- None of these requests is read back from its packet as it is: the first one gets a correlation
ID, the double of the second one comes back as another double, and the third one is not read at
all. -/
theorem packets_of_stray_requests_read_otherwise :
    let s := (start 3 "edgex/response" .atMostOnce).after (fun _ => "fresh")
      (strayRequests.map fun r => .request "t" r (.ofMillis 500))
    s.bus.client.queue = strayRequests.map s.bus.requestPacket ∧
      ∀ r ∈ strayRequests, Envelope.receive "fresh" r.envelope.toWire ≠ .ok r.envelope := by
  decide +kernel

end CommandRelay.Mqtt.Run
