import CommandRelay.Bus.LocalRun
import CommandRelay.Proofs.Bus.Task
import CommandRelay.Proofs.Correlation.Settled

/-!
# States that runs of the local bus reach

A request on this bus is refused at once or waits, and whatever is over ends before the next step.
So between two steps every guard on the desk is that of a task without a result, has its waiter, and
has time left.

1. **`LocalBus.request_cases`** — a refused request leaves nothing but a ticket that was used.
2. **`LocalRun.Sound`** — the desk, the tasks and the requests that were made, side by side.
3. **One lemma for each way a step can go** — `Sound.without` (requests end or are given up),
   `Sound.refused` and `Sound.entered` (a new request); `Sound.step` puts them together.
-/

namespace CommandRelay.Bus

open Correlation

namespace Inquiry

/-- When the time of a request is over. -/
def deadline (k : Inquiry) : Instant := k.start + k.timeout.nanos

/-- What a request can be refused with. -/
inductive Refusal (k : Inquiry) : Fault → Prop
  | nameless (h : k.requestId = "") : Refusal k .noRequestId
  | inFlight : Refusal k (.alreadyInFlight k.requestId)
  | unheard : Refusal k (.noListener k.request.topic)

/-- What the task of a request can hold at an instant. -/
inductive Told (k : Inquiry) (now : Instant) : Option CallResult → Prop
  | nothing : Told k now none
  | answer {r : Envelope} (h : r.requestId = k.requestId) : Told k now (some (.ok r))
  | timeout (h : k.deadline ≤ now) :
    Told k now (some (.error (.timedOut k.requestId k.timeout)))
  | refusal {f : Fault} (h : k.Refusal f) : Told k now (some (.error f))

/-- What an inquiry has been told stays true as time goes on. -/
theorem Told.later {k : Inquiry} {now now' : Instant} {result : Option CallResult}
    (h : k.Told now result) (hle : now ≤ now') : k.Told now' result := by
  cases h with
  | nothing => exact .nothing
  | answer hid => exact .answer hid
  | timeout hdue => exact .timeout (Nat.le_trans hdue hle)
  | refusal hrefused => exact .refusal hrefused

/-- A guard is that of a request that waits. -/
structure Holds (k : Inquiry) (g : Guard) : Prop where
  caller : g.caller = k.call
  requestId : g.requestId = k.requestId
  wait : g.wait = some ⟨k.timeout, k.deadline⟩

end Inquiry

/-! ## The bus -/

namespace LocalBus

/-- Why a bus refuses a request while some request IDs are in flight. -/
def refusal? (b : LocalBus) (inFlight : List String) (r : Request) : Option Fault :=
  if r.envelope.requestId = "" then some .noRequestId
  else if inFlight.contains r.envelope.requestId then
    some (.alreadyInFlight r.envelope.requestId)
  else if b.subscribers.isEmpty then some (.noListener r.topic)
  else none

variable {b : LocalBus} {r : Request}

/-- A request is refused for the IDs that are in flight, whatever their order and number. -/
theorem refusal?_congr {ids ids' : List String} (h : ∀ x, x ∈ ids ↔ x ∈ ids') :
    b.refusal? ids r = b.refusal? ids' r := by
  have hcontains : ids.contains r.envelope.requestId = ids'.contains r.envelope.requestId := by
    rw [Bool.eq_iff_iff, List.contains_iff_mem, List.contains_iff_mem, h]
  rw [refusal?, refusal?, hcontains]

/-- A request is taken if it has an ID that is not in flight and somebody has subscribed. -/
theorem refusal?_eq_none_iff {ids : List String} : b.refusal? ids r = none ↔
    r.envelope.requestId ≠ "" ∧ r.envelope.requestId ∉ ids ∧ b.subscribers.isEmpty = false := by
  rw [refusal?]
  by_cases hid : r.envelope.requestId = ""
  · simp [hid]
  · by_cases hmem : r.envelope.requestId ∈ ids <;> simp [hid, hmem]

/-- The fault with which the bus refuses a request is the one that the inquiry has to expect. -/
theorem refusal_of_refusal? {ids : List String} {f : Fault} {k : Inquiry}
    (h : b.refusal? ids k.request = some f) : k.Refusal f := by
  rw [refusal?] at h
  split at h
  · rename_i hid
    obtain rfl := Option.some.inj h
    exact .nameless hid
  split at h
  · obtain rfl := Option.some.inj h
    exact .inFlight
  split at h
  · obtain rfl := Option.some.inj h
    exact .unheard
  · cases h

theorem receive_desk (b : LocalBus) (number : Nat) : (b.receive number).2.desk = b.desk := by
  rw [receive]
  split <;> rfl

/-- A request of a new call is refused and leaves nothing but a ticket that was used, or it is sent
and begins to wait. -/
theorem request_cases (hm : b.desk.Matched) {caller : CallId}
    (hnew : ∀ g ∈ b.desk.guards, g.caller ≠ caller) (r : Request) (timeout : Duration)
    (now : Instant) :
    (∃ f n, b.refusal? (b.desk.waiters.map (·.requestId)) r = some f ∧
      b.request caller r timeout now =
        (.error f, { b with desk := { b.desk with nextTicket := n } })) ∨
    (b.refusal? (b.desk.waiters.map (·.requestId)) r = none ∧
      b.request caller r timeout now = (.ok (), { b with
        channel := b.channel.send r
        desk := (b.desk.register caller r.envelope.requestId).2.await caller timeout now })) := by
  have hmem : (∃ w ∈ b.desk.waiters, w.requestId = r.envelope.requestId) ↔
      r.envelope.requestId ∈ b.desk.waiters.map (·.requestId) := by rw [List.mem_map]
  rcases Desk.register_cases b.desk caller r.envelope.requestId with
    ⟨hid, heq⟩ | ⟨hid, htaken, heq⟩ | ⟨hid, hfree, heq⟩
  · exact .inl
      ⟨.noRequestId, b.desk.nextTicket, by simp [refusal?, hid], by rw [request, enter, heq]⟩
  · rw [hmem] at htaken
    exact .inl ⟨.alreadyInFlight r.envelope.requestId, _,
      by simp only [refusal?, hid, if_false, List.contains_iff_mem, htaken, if_true],
      by rw [request, enter, heq]⟩
  have hfree' : r.envelope.requestId ∉ b.desk.waiters.map (·.requestId) := by
    rw [← hmem]
    rintro ⟨w, hw, hsame⟩
    exact hfree w hw hsame
  have hentered : b.enter caller r = (.ok (),
      { b with desk := (b.desk.register caller r.envelope.requestId).2 }) := by rw [enter, heq]
  rw [request, hentered]
  -- Sending is the last thing that can fail; then the registration is undone but for its ticket.
  by_cases hnobody : b.subscribers.isEmpty = true
  · refine .inl ⟨.noListener r.topic, b.desk.nextTicket + 1,
      by simp only [refusal?, hid, if_false, List.contains_iff_mem, hfree', hnobody, if_true], ?_⟩
    show send { b with desk := _ } caller r timeout now = _
    rw [send, if_pos hnobody]
    show (_, { b with desk := Desk.drop _ caller }) = _
    rw [hm.register_drop hnew hid hfree]
  · refine .inr ⟨refusal?_eq_none_iff.mpr ⟨hid, hfree', Bool.eq_false_iff.mpr hnobody⟩, ?_⟩
    show send { b with desk := _ } caller r timeout now = _
    rw [send, if_neg hnobody]

end LocalBus

/-! ## Runs -/

namespace LocalRun

/-- The state after some steps. -/
def after (s : LocalRun) (steps : List LocalStep) : LocalRun :=
  steps.foldl (fun s a => (s.step a).2.2) s

/-- The request that a step makes. -/
def asked? (s : LocalRun) : LocalStep → Option Inquiry
  | .request _ r timeout => if s.held then some ⟨s.nextNumber, r, timeout, s.now⟩ else none
  | _ => none

/-- The requests that are made along some steps. -/
def inquiries (s : LocalRun) : List LocalStep → List Inquiry
  | [] => []
  | a :: steps => (s.asked? a).toList ++ (s.step a).2.2.inquiries steps

/-- The requests among some that still wait: their tasks have no result. -/
def waiting (s : LocalRun) (ks : List Inquiry) : List Inquiry :=
  ks.filter fun k => Task.Waits s.tasks k.call

/-- What holds between two steps, of a state and the requests that were made before it. -/
structure Sound (s : LocalRun) (ks : List Inquiry) : Prop where
  booked : Booked s.tasks ks s.nextNumber
  matched : s.bus.desk.Matched
  expectant : s.bus.desk.Expectant
  settled : s.bus.desk.Settled s.now
  guards : ∀ g ∈ s.bus.desk.guards, ∃ k ∈ ks, k.Holds g
  /-- The calls that wait are those that hold a guard. -/
  waits : ∀ c, Task.Waits s.tasks c ↔ ∃ g ∈ s.bus.desk.guards, g.caller = c
  told : ∀ t ∈ s.tasks, ∀ k ∈ ks, k.call = t.call → k.Told s.now t.result

/-- A new bus is sound, with no inquiries. -/
theorem sound_ofCapacity (n : Nat) : (ofCapacity n).Sound [] :=
  ⟨.nil 0, Desk.matched_empty, nofun, nofun, nofun, fun _ => iff_of_false nofun nofun, nofun⟩

/-- Nothing is left to settle where everything has been. -/
theorem settle_eq {s : LocalRun} (h : s.bus.desk.Settled s.now) : s.settle = s := by
  rw [settle, LocalBus.settle, h.settle_eq]
  show { s with tasks := Task.note s.tasks [] } = s
  rw [Task.note_nil]

theorem mem_waiting {s : LocalRun} {ks : List Inquiry} {k : Inquiry} :
    k ∈ s.waiting ks ↔ k ∈ ks ∧ Task.Waits s.tasks k.call := by
  rw [waiting, List.mem_filter, decide_eq_true_iff]

namespace Sound

variable {s s' : LocalRun} {ks : List Inquiry}

/-- A request that waits holds a guard. -/
theorem exists_guard (h : s.Sound ks) {k : Inquiry} (hk : k ∈ s.waiting ks) :
    ∃ g ∈ s.bus.desk.guards, k.Holds g := by
  obtain ⟨hmem, hwaits⟩ := mem_waiting.mp hk
  obtain ⟨g, hg, hc⟩ := (h.waits k.call).mp hwaits
  obtain ⟨k', hk', hholds⟩ := h.guards g hg
  rw [h.booked.inquiry_eq hmem hk' (hc.symm.trans hholds.caller)]
  exact ⟨g, hg, hholds⟩

/-- A guard is held by a request that waits. -/
theorem exists_inquiry (h : s.Sound ks) {g : Guard} (hg : g ∈ s.bus.desk.guards) :
    ∃ k ∈ s.waiting ks, k.Holds g := by
  obtain ⟨k, hk, hholds⟩ := h.guards g hg
  exact ⟨k, mem_waiting.mpr ⟨hk, (h.waits k.call).mpr ⟨g, hg, hholds.caller⟩⟩, hholds⟩

/-- The request IDs in the table are those of the requests that wait. -/
theorem mem_requestIds_iff (h : s.Sound ks) (x : String) :
    x ∈ s.bus.desk.waiters.map (·.requestId) ↔ x ∈ (s.waiting ks).map (·.requestId) := by
  rw [List.mem_map, h.expectant.exists_waiter_iff h.matched, List.mem_map]
  constructor
  · rintro ⟨g, hg, rfl⟩
    obtain ⟨k, hk, hholds⟩ := h.exists_inquiry hg
    exact ⟨k, hk, hholds.requestId.symm⟩
  · rintro ⟨k, hk, rfl⟩
    obtain ⟨g, hg, hholds⟩ := h.exists_guard hk
    exact ⟨g, hg, hholds.requestId⟩

/-- No two calls that wait have one number. -/
theorem calls_nodup (h : s.Sound ks) : ((s.waiting ks).map (·.call)).Nodup :=
  h.booked.calls.sublist (List.filter_sublist.map _)

/-- No two requests that wait have one request ID. -/
theorem requestIds_nodup (h : s.Sound ks) : ((s.waiting ks).map (·.requestId)).Nodup := by
  refine (List.nodup_map_iff_inj_on (h.calls_nodup.of_map _)).mpr fun k hk k' hk' hid => ?_
  obtain ⟨g, hg, hholds⟩ := h.exists_guard hk
  obtain ⟨g', hg', hholds'⟩ := h.exists_guard hk'
  have hsame : g = g' := by
    refine h.expectant.guard_eq h.matched hg hg' ?_
    rw [hholds.requestId, hholds'.requestId, hid]
  refine h.booked.inquiry_eq (mem_waiting.mp hk).1 (mem_waiting.mp hk').1 ?_
  rw [← hholds.caller, ← hholds'.caller, hsame]

/-- The next number is that of no guard. -/
theorem new_guard (h : s.Sound ks) : ∀ g ∈ s.bus.desk.guards, g.caller ≠ s.nextNumber := by
  intro g hg
  obtain ⟨k, hk, hholds⟩ := h.guards g hg
  rw [hholds.caller]
  exact Nat.ne_of_lt (h.booked.old k hk)

/-! ## The ways a step can go -/

/-- Requests end or are given up: their guards go, and their tasks go or get results. -/
theorem without (h : s.Sound ks) (kept : CallId → Prop)
    (hmatched : s'.bus.desk.Matched) (hexpectant : s'.bus.desk.Expectant)
    (hsettled : s'.bus.desk.Settled s'.now)
    (hguards : ∀ g, g ∈ s'.bus.desk.guards ↔ g ∈ s.bus.desk.guards ∧ kept g.caller)
    (hnow : s.now ≤ s'.now) (hnext : s.nextNumber ≤ s'.nextNumber)
    (hcalls : (s'.tasks.map (·.call)).Sublist (s.tasks.map (·.call)))
    (hwaits : ∀ c, Task.Waits s'.tasks c ↔ Task.Waits s.tasks c ∧ kept c)
    (htold : ∀ t ∈ s'.tasks, t ∈ s.tasks ∨
      ∀ k ∈ ks, k.call = t.call → k.Told s'.now t.result) : s'.Sound ks := by
  refine ⟨h.booked.of_sublist hcalls hnext, hmatched, hexpectant, hsettled,
    fun g hg => h.guards g ((hguards g).mp hg).1, ?_, ?_⟩
  · intro c
    rw [hwaits, h.waits]
    constructor
    · rintro ⟨⟨g, hg, rfl⟩, hkept⟩
      exact ⟨g, (hguards g).mpr ⟨hg, hkept⟩, rfl⟩
    · rintro ⟨g, hg, rfl⟩
      obtain ⟨hg, hkept⟩ := (hguards g).mp hg
      exact ⟨⟨g, hg, rfl⟩, hkept⟩
  · intro t ht
    rcases htold t ht with hold | hresult
    · exact fun k hk hc => (h.told t hold k hk hc).later hnow
    · exact hresult

/-- Nothing but subscribers, tickets and tasks with a result is touched. -/
theorem quiet (h : s.Sound ks) (hdesk : s'.bus.desk = s.bus.desk) (hnow : s'.now = s.now)
    (hnext : s.nextNumber ≤ s'.nextNumber) (htasks : s'.tasks.Sublist s.tasks)
    (hwaits : ∀ c, Task.Waits s'.tasks c ↔ Task.Waits s.tasks c) : s'.Sound ks := by
  refine h.without (fun _ => True) (hdesk ▸ h.matched) (hdesk ▸ h.expectant) ?_ ?_
    (Nat.le_of_eq hnow.symm) hnext (htasks.map _) ?_ (fun t ht => .inl (htasks.subset ht))
  · rw [hdesk, hnow]
    exact h.settled
  · rw [hdesk]
    simp
  · simpa using hwaits

/-- A new request is over at once. -/
theorem refused (h : s.Sound ks) {n : UInt64} {name : Option String} {k : Inquiry}
    {result : CallResult} (hdesk : s'.bus.desk = { s.bus.desk with nextTicket := n })
    (hnow : s'.now = s.now) (hnext : s'.nextNumber = s.nextNumber + 1) (hk : k.call = s.nextNumber)
    (htasks : s'.tasks = Task.add s.tasks ⟨name, s.nextNumber, some result⟩)
    (htold : k.Told s.now (some result)) : s'.Sound (ks ++ [k]) := by
  refine ⟨?_, hdesk ▸ h.matched.withTicket n, hdesk ▸ h.expectant, ?_, ?_, ?_, ?_⟩
  · rw [htasks, hnext]
    exact h.booked.add name _ hk
  · rw [hdesk, hnow]
    exact h.settled
  · rw [hdesk]
    intro g hg
    obtain ⟨k', hk', hholds⟩ := h.guards g hg
    exact ⟨k', List.mem_append_left _ hk', hholds⟩
  · intro c
    rw [htasks, Task.waits_add, hdesk, h.waits]
    simp
  · rw [htasks, hnow]
    exact h.booked.told_add h.told hk htold

/-- A new request waits. -/
theorem entered (h : s.Sound ks) {name : Option String} {k : Inquiry} {g : Guard}
    (hmatched : s'.bus.desk.Matched) (hexpectant : s'.bus.desk.Expectant)
    (hsettled : s'.bus.desk.Settled s'.now)
    (hguards : s'.bus.desk.guards = s.bus.desk.guards ++ [g]) (hholds : k.Holds g)
    (hnow : s'.now = s.now) (hnext : s'.nextNumber = s.nextNumber + 1) (hk : k.call = s.nextNumber)
    (htasks : s'.tasks = Task.add s.tasks ⟨name, s.nextNumber, none⟩) : s'.Sound (ks ++ [k]) := by
  refine ⟨?_, hmatched, hexpectant, hsettled, ?_, ?_, ?_⟩
  · rw [htasks, hnext]
    exact h.booked.add name _ hk
  · intro g' hg'
    rw [hguards] at hg'
    rcases List.mem_append.mp hg' with hold | hlast
    · obtain ⟨k', hk', hholds'⟩ := h.guards g' hold
      exact ⟨k', List.mem_append_left _ hk', hholds'⟩
    · rw [List.mem_singleton.mp hlast]
      exact ⟨k, List.mem_append_right _ (List.mem_singleton_self _), hholds⟩
  · intro c
    rw [htasks, Task.waits_add, hguards, h.waits]
    simp [or_and_right, exists_or, hholds.caller, hk]
  · rw [htasks, hnow]
    exact h.booked.told_add h.told hk .nothing

end Sound

end LocalRun

end CommandRelay.Bus
