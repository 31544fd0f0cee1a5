import CommandRelay.Mqtt.Bus
import CommandRelay.Proofs.Correlation.Settled

/-!
# How a request begins over a broker link

Whether a request is refused is told by the request IDs in flight and by the client
(`Bus.refusal?`).  One that is refused leaves nothing but a ticket that was used; any other one
finds room in the queue and begins its wait, or waits for room first (`Bus.request_admission`).
-/

namespace CommandRelay.Mqtt

open Correlation

/-! ## The client -/

/-- A packet is refused, or put into the queue if there is room. -/
theorem Client.offer_cases {τ : Type} (c : Client τ) (p : Packet) :
    ((c.closed = true ∨ p.allowed = false) ∧ c.offer p = (.refused, c)) ∨
    (c.closed = false ∧ p.allowed = true ∧ c.queue.length < c.capacity ∧
      c.offer p = (.sent, { c with queue := c.queue ++ [p] })) ∨
    (c.closed = false ∧ p.allowed = true ∧ c.capacity ≤ c.queue.length ∧
      c.offer p = (.blocked, c)) := by
  by_cases hrefused : (c.closed || !p.allowed) = true
  · left
    refine ⟨by simpa using hrefused, ?_⟩
    rw [offer, if_pos hrefused]
  obtain ⟨hopen, hallowed⟩ : c.closed = false ∧ p.allowed = true := by simpa using hrefused
  right
  by_cases hroom : c.queue.length < c.capacity
  · exact .inl ⟨hopen, hallowed, hroom, by rw [offer, if_neg hrefused, if_pos hroom]⟩
  · exact .inr ⟨hopen, hallowed, Nat.le_of_not_lt hroom,
      by rw [offer, if_neg hrefused, if_neg hroom]⟩

/-- A packet that is sent under a tag waits for room, behind all others, where it can not be put
into the queue. -/
theorem Client.send_cases {τ : Type} (c : Client τ) (tag : τ) (p : Packet) :
    ((c.closed = true ∨ p.allowed = false) ∧ c.send tag p = (.refused, c)) ∨
    (c.closed = false ∧ p.allowed = true ∧ c.queue.length < c.capacity ∧
      c.send tag p = (.sent, { c with queue := c.queue ++ [p] })) ∨
    (c.closed = false ∧ p.allowed = true ∧ c.capacity ≤ c.queue.length ∧
      c.send tag p = (.blocked, { c with blocked := c.blocked ++ [(tag, p)] })) := by
  rcases c.offer_cases p with
    ⟨hgone, heq⟩ | ⟨hopen, hallowed, hroom, heq⟩ | ⟨hopen, hallowed, hfull, heq⟩
  · exact .inl ⟨hgone, by rw [send, heq]⟩
  · exact .inr (.inl ⟨hopen, hallowed, hroom, by rw [send, heq]⟩)
  · exact .inr (.inr ⟨hopen, hallowed, hfull, by rw [send, heq]⟩)

/-! ## The bus -/

namespace Bus

/-- What is noted of a request while it waits for room. -/
def senderOf (call : CallId) (r : CommandRelay.Bus.Request) (timeout : Duration) : Sender :=
  { call, service := r.service, topic := r.topic, timeout }

/-- Why a bus refuses a request while some request IDs are in flight. -/
def refusal? (b : Bus) (inFlight : List String) (r : CommandRelay.Bus.Request) : Option Fault :=
  if r.envelope.requestId = "" then some .noRequestId
  else if inFlight.contains r.envelope.requestId then
    some (.alreadyInFlight r.envelope.requestId)
  else if b.client.closed || !(b.requestPacket r).allowed then
    some (.notSent r.service r.topic refusal)
  else none

variable {b : Bus} {r : CommandRelay.Bus.Request}

/-- A request is refused for the IDs that are in flight, whatever their order and number. -/
theorem refusal?_congr {ids ids' : List String} (h : ∀ x, x ∈ ids ↔ x ∈ ids') :
    b.refusal? ids r = b.refusal? ids' r := by
  have hcontains : ids.contains r.envelope.requestId = ids'.contains r.envelope.requestId := by
    rw [Bool.eq_iff_iff, List.contains_iff_mem, List.contains_iff_mem, h]
  rw [refusal?, refusal?, hcontains]

/-- Who has an ID of its own passes the desk. -/
theorem refusal?_of_free {ids : List String} (hid : r.envelope.requestId ≠ "")
    (hfree : r.envelope.requestId ∉ ids) : b.refusal? ids r =
      if b.client.closed || !(b.requestPacket r).allowed then
        some (.notSent r.service r.topic refusal) else none := by
  have hcontains : ids.contains r.envelope.requestId = false := by simpa using hfree
  rw [refusal?, if_neg hid, hcontains]
  rfl

/-- What becomes of a request of a new call. -/
inductive Admission (b : Bus) (call : CallId) (r : CommandRelay.Bus.Request) (timeout : Duration)
    (now : Instant) : Option Fault → Except Fault Unit × Bus → Prop
  /-- It is refused and leaves nothing but a ticket that was used. -/
  | refused (f : Fault) (ticket : UInt64) : Admission b call r timeout now (some f)
      (.error f, { b with desk := { b.desk with nextTicket := ticket } })
  /-- It finds room, and its wait begins. -/
  | sent (hid : r.envelope.requestId ≠ "")
      (hfree : ∀ w ∈ b.desk.waiters, w.requestId ≠ r.envelope.requestId)
      (hroom : b.client.queue.length < b.client.capacity) :
      Admission b call r timeout now none (.ok (), { b with
        client := { b.client with queue := b.client.queue ++ [b.requestPacket r] }
        desk := (b.desk.register call r.envelope.requestId).2.await call timeout now })
  /-- It waits for room. -/
  | blocked (hid : r.envelope.requestId ≠ "")
      (hfree : ∀ w ∈ b.desk.waiters, w.requestId ≠ r.envelope.requestId)
      (hfull : b.client.capacity ≤ b.client.queue.length) :
      Admission b call r timeout now none (.ok (), { b with
        client := { b.client with
          blocked := b.client.blocked ++ [(senderOf call r timeout, b.requestPacket r)] }
        desk := (b.desk.register call r.envelope.requestId).2 })

/-- A request that the desk took goes to the client. -/
theorem request_of_registered {call : CallId} {desk : Desk}
    (hreg : b.desk.register call r.envelope.requestId = (.ok (), desk)) (timeout : Duration)
    (now : Instant) : b.request call r timeout now =
      match b.client.send (senderOf call r timeout) (b.requestPacket r) with
      | (.sent, client) => (.ok (), { b with client, desk := desk.await call timeout now })
      | (.blocked, client) => (.ok (), { b with client, desk })
      | (.refused, client) =>
        (.error (.notSent r.service r.topic refusal),
          { b with client, desk := desk.drop call }) := by
  rw [request, hreg]
  rfl

/-- The IDs in the table and the client tell what becomes of a request. -/
theorem request_admission (hm : b.desk.Matched) {call : CallId}
    (hnew : ∀ g ∈ b.desk.guards, g.caller ≠ call) (r : CommandRelay.Bus.Request)
    (timeout : Duration) (now : Instant) :
    Admission b call r timeout now (b.refusal? (b.desk.waiters.map (·.requestId)) r)
      (b.request call r timeout now) := by
  -- The desk is asked first; only with a registration does the client come into it.
  rcases Desk.register_cases b.desk call r.envelope.requestId with
    ⟨hid, heq⟩ | ⟨hid, ⟨w, hw, hsame⟩, heq⟩ | ⟨hid, hfree, heq⟩
  · have hf : b.refusal? (b.desk.waiters.map (·.requestId)) r = some .noRequestId := by
      rw [refusal?, if_pos hid]
    have hrequest : b.request call r timeout now = (.error .noRequestId, b) := by
      rw [request, heq]
    rw [hf, hrequest]
    exact .refused _ b.desk.nextTicket
  · have hcontains : (b.desk.waiters.map (·.requestId)).contains r.envelope.requestId = true := by
      rw [List.contains_iff_mem, ← hsame]
      exact List.mem_map_of_mem hw
    have hf : b.refusal? (b.desk.waiters.map (·.requestId)) r =
        some (.alreadyInFlight r.envelope.requestId) := by
      rw [refusal?, if_neg hid, if_pos hcontains]
    have hrequest : b.request call r timeout now = (.error (.alreadyInFlight r.envelope.requestId),
        { b with desk := { b.desk with nextTicket := b.desk.nextTicket + 1 } }) := by
      rw [request, heq]
    rw [hf, hrequest]
    exact .refused _ _
  have hreg : b.desk.register call r.envelope.requestId =
      (.ok (), (b.desk.register call r.envelope.requestId).2) := by rw [heq]
  have hfree' : r.envelope.requestId ∉ b.desk.waiters.map (·.requestId) := by
    intro hmem
    obtain ⟨w, hw, hsame⟩ := List.mem_map.mp hmem
    exact hfree w hw hsame
  rw [refusal?_of_free hid hfree', request_of_registered hreg]
  rcases b.client.send_cases (senderOf call r timeout) (b.requestPacket r) with
    ⟨hgone, hsend⟩ | ⟨hopen, hallowed, hroom, hsend⟩ | ⟨hopen, hallowed, hfull, hsend⟩
  · have hrefused : (b.client.closed || !(b.requestPacket r).allowed) = true := by
      rcases hgone with hclosed | hwild
      · simp [hclosed]
      · simp [hwild]
    rw [if_pos hrefused, hsend]
    show Admission b call r timeout now _ (_, { b with desk := Desk.drop _ call })
    -- The client refused, so the registration that was just made is undone.
    rw [hm.register_drop hnew hid hfree]
    exact .refused _ _
  · rw [if_neg (by simp [hopen, hallowed]), hsend]
    exact .sent hid hfree hroom
  · rw [if_neg (by simp [hopen, hallowed]), hsend]
    exact .blocked hid hfree hfull

end Bus

end CommandRelay.Mqtt
