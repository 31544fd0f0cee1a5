import CommandRelay.Proofs.Mqtt.Tracked

/-!
# The requests in flight over a broker link

The table holds the IDs of the requests that have no response yet, each once, also of those that
still wait for room (`Run.Counted.ids_perm`).  So whether a request ends at once is told by the
requests that were made and by the client, without the desk (`Run.Counted.request_tasks`).
-/

namespace CommandRelay.Mqtt.Run

open Correlation
open CommandRelay.Bus (Inquiry Task)

/-- A request is registered and has no response yet. -/
def Unanswered (s : Run) (call : CallId) : Prop :=
  ∃ g ∈ s.bus.desk.guards, g.caller = call ∧ g.response = none

instance (s : Run) (call : CallId) : Decidable (s.Unanswered call) :=
  decidable_of_iff (s.bus.desk.guards.any fun g => g.caller == call && g.response.isNone)
    (by simp [Unanswered, List.any_eq_true])

/-- Of some requests those that have no response yet. -/
def unanswered (s : Run) (ks : List Inquiry) : List Inquiry :=
  ks.filter fun k => s.Unanswered k.call

/-- How a request ends that is over at once, while some request IDs are in flight. -/
def atOnce? (s : Run) (inFlight : List String) (r : CommandRelay.Bus.Request)
    (timeout : Duration) : Option CallResult :=
  match s.bus.refusal? inFlight r with
  | some f => some (.error f)
  | none =>
    if s.bus.client.queue.length < s.bus.client.capacity ∧ timeout.nanos = 0 then
      some (.error (.timedOut r.envelope.requestId timeout))
    else none

variable {s : Run} {ks : List Inquiry} {fresh : Nat → String}

theorem mem_unanswered {k : Inquiry} : k ∈ s.unanswered ks ↔ k ∈ ks ∧ s.Unanswered k.call := by
  rw [unanswered, List.mem_filter, decide_eq_true_iff]

/-- Nothing is left to settle where everything has been. -/
theorem settle_eq (h : s.bus.desk.Settled s.now) : s.settle = s := by
  rw [settle, Bus.settle, h.settle_eq]
  show { s with tasks := CommandRelay.Bus.Task.note s.tasks [] } = s
  rw [Task.note_nil]

/-- The guard of a request without a response, which is in the table. -/
theorem Tracked.guard_of_unanswered (h : s.Tracked ks) (hc : s.Counted ks) {k : Inquiry}
    (hk : k ∈ s.unanswered ks) : ∃ g ∈ s.bus.desk.guards, g.caller = k.call ∧
      g.requestId = k.requestId ∧ g.waiter ∈ s.bus.desk.waiters := by
  obtain ⟨hk, g, hg, hcall, hr⟩ := mem_unanswered.mp hk
  obtain ⟨k', hk', hcall', hid⟩ := h.guards g hg
  obtain rfl := h.booked.inquiry_eq hk' hk (hcall'.trans hcall)
  exact ⟨g, hg, hcall, hid.symm, hc.numbered.waiter_mem g hg hr⟩

/-- The request that an entry of the table is for. -/
theorem Tracked.unanswered_of_waiter (h : s.Tracked ks) {w : Waiter}
    (hw : w ∈ s.bus.desk.waiters) :
    ∃ k ∈ s.unanswered ks, k.call = w.caller ∧ k.requestId = w.requestId := by
  obtain ⟨g, hg, hr, rfl⟩ := h.sound.matched.waiting w hw
  obtain ⟨k, hk, hcall, hid⟩ := h.guards g hg
  exact ⟨k, mem_unanswered.mpr ⟨hk, g, hg, hcall.symm, hr⟩, hcall, hid⟩

/-- The table holds the IDs of the requests without a response, each once. -/
theorem Counted.ids_perm (hc : s.Counted ks) (h : s.Tracked ks) :
    (s.bus.desk.waiters.map (·.requestId)).Perm ((s.unanswered ks).map (·.requestId)) := by
  -- Calls tell the requests apart, and request IDs the entries: the pairs are the same.
  have hcalls : ((s.unanswered ks).map (·.call)).Nodup :=
    h.booked.calls.sublist (List.filter_sublist.map _)
  have hentries : (s.bus.desk.waiters.map fun w => (w.caller, w.requestId)).Nodup := by
    refine List.Nodup.of_map Prod.snd ?_
    rw [List.map_map]
    exact h.sound.matched.requestIds
  have hrequests : ((s.unanswered ks).map fun k => (k.call, k.requestId)).Nodup := by
    refine List.Nodup.of_map Prod.fst ?_
    rw [List.map_map]
    exact hcalls
  have hpairs : (s.bus.desk.waiters.map fun w => (w.caller, w.requestId)).Perm
      ((s.unanswered ks).map fun k => (k.call, k.requestId)) := by
    rw [List.perm_ext_iff_of_nodup hentries hrequests]
    intro pair
    constructor
    · intro hpair
      obtain ⟨w, hw, rfl⟩ := List.mem_map.mp hpair
      obtain ⟨k, hk, hcall, hid⟩ := h.unanswered_of_waiter hw
      exact List.mem_map.mpr ⟨k, hk, by rw [hcall, hid]⟩
    · intro hpair
      obtain ⟨k, hk, rfl⟩ := List.mem_map.mp hpair
      obtain ⟨g, -, hcall, hid, hw⟩ := h.guard_of_unanswered hc hk
      exact List.mem_map.mpr ⟨g.waiter, hw, by rw [← hcall, ← hid]; rfl⟩
  have hids := hpairs.map Prod.snd
  rw [List.map_map, List.map_map] at hids
  exact hids

/-- The task of a new request has a result at once exactly if it is refused, or has room and no time
to wait. -/
theorem Counted.request_tasks (hc : s.Counted ks) (h : s.Tracked ks) (fresh : Nat → String)
    (name : String) (r : CommandRelay.Bus.Request) (timeout : Duration) :
    (s.step fresh (.request name r timeout)).2.2.tasks = Task.add s.tasks
      ⟨name, s.nextCall, s.atOnce? ((s.unanswered ks).map (·.requestId)) r timeout⟩ := by
  have hadmission := Bus.request_admission h.sound.matched h.new_guard r timeout s.now
  have hids : s.bus.refusal? ((s.unanswered ks).map (·.requestId)) r =
      s.bus.refusal? (s.bus.desk.waiters.map (·.requestId)) r :=
    Bus.refusal?_congr fun x => (hc.ids_perm h).mem_iff.symm
  have hstate : (s.step fresh (.request name r timeout)).2.2 =
      (s.startTask name r timeout).settle := rfl
  rw [hstate, atOnce?, hids]
  generalize hrefusal : s.bus.refusal? (s.bus.desk.waiters.map (·.requestId)) r = refusal
    at hadmission
  generalize hrequest : s.bus.request s.nextCall r timeout s.now = outcome at hadmission
  cases hadmission with
  | refused f ticket =>
    -- A ticket more or less does not matter to the waits.
    have hsettled : Desk.Settled { s.bus.desk with nextTicket := ticket } s.now := hc.settled
    simp only [startTask, hrequest, settle, Bus.settle, hsettled.settle_eq]
    exact Task.note_nil _
  | sent hid hfree hroom =>
    have hsettle := hc.settled.settle_register_await h.sound.matched h.new_guard hid hfree timeout
    have hnew : ∀ t ∈ s.tasks, t.call ≠ s.nextCall :=
      fun t ht => Nat.ne_of_lt (h.booked.call_lt ht)
    simp only [startTask, hrequest, settle, Bus.settle, hsettle]
    by_cases hzero : timeout.nanos = 0
    · simp only [hzero, hroom, and_self, if_true]
      exact Task.note_add hnew (some name) _
    · simp only [hzero, and_false, if_false]
      exact Task.note_nil _
  | blocked hid hfree hfull =>
    have hsettled := hc.settled.register h.sound.matched h.new_guard hid hfree
    simp only [startTask, hrequest, settle, Bus.settle, hsettled.settle_eq]
    rw [if_neg fun hroom => absurd hroom.1 (Nat.not_lt.mpr hfull)]
    exact Task.note_nil _

end CommandRelay.Mqtt.Run
