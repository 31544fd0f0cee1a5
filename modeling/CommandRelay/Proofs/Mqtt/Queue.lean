import CommandRelay.Proofs.Mqtt.Run

/-!
# The way of a packet

A packet enters the queue of the client when there is room, at its end, and leaves it when the link
takes it.  Requests that find no room enter later, in the order in which they came.

1. **`Run.entering`, `Run.leaving`** — what a step puts into the queue, with the call it belongs to,
   and what the link takes.
2. **`Shift`** — the ways in which a step can move packets (`Run.step_shift`).  Nothing below looks
   at a step again.
3. **`InLine`** — what has left and what is queued is what has entered, in its order; requests enter
   in the order of their calls (`Run.inLine_after`).
-/

namespace CommandRelay.Mqtt

open CommandRelay.Bus (Inquiry)

/-- A packet in the queue, with its call if it is that of a request. -/
abbrev Entry := Option CallId × Packet

/-- The packet of a request. -/
def packetOf (qos : Qos) (k : Inquiry) : Packet :=
  .publish k.request.topic { qos, retain := false } k.request.envelope.toWire

/-- What waits for room of a request. -/
def blockedOf (qos : Qos) (k : Inquiry) : Sender × Packet :=
  (Bus.senderOf k.call k.request k.timeout, packetOf qos k)

/-- The requests that find room when the queue is emptied. -/
def Client.movingUp (c : Client Sender) : List Entry := c.blocked.map fun b => (some b.1.call, b.2)

/-! ## What a step moves -/

/-- Whether the link takes packets in a step. -/
def Step.takes : Step → Bool
  | .drain => true
  | _ => false

namespace Run

/-- The request that a step makes. -/
def asked? (s : Run) : Step → Option Inquiry
  | .request _ r timeout => some ⟨s.nextCall, r, timeout, s.now⟩
  | _ => none

/-- The requests that are made along some steps. -/
def inquiries (fresh : Nat → String) (s : Run) : List Step → List Inquiry
  | [] => []
  | a :: steps => (s.asked? a).toList ++ (s.step fresh a).2.2.inquiries fresh steps

/-- What a step puts into the queue: those that find room when the link takes all, or what is new at
the end. -/
def entering (fresh : Nat → String) (s : Run) (a : Step) : List Entry :=
  match a with
  | .drain => s.bus.client.movingUp
  | a => ((s.step fresh a).2.2.bus.client.queue.drop s.bus.client.queue.length).map fun p =>
      ((s.asked? a).map (·.call), p)

/-- What the link takes in a step. -/
def leaving (fresh : Nat → String) (s : Run) (a : Step) : List Packet :=
  match (s.step fresh a).1 with
  | .packets ps => ps
  | _ => []

/-- What enters along some steps. -/
def entered (fresh : Nat → String) (s : Run) : List Step → List Entry
  | [] => []
  | a :: steps => s.entering fresh a ++ (s.step fresh a).2.2.entered fresh steps

/-- What leaves along some steps. -/
def left (fresh : Nat → String) (s : Run) : List Step → List Packet
  | [] => []
  | a :: steps => s.leaving fresh a ++ (s.step fresh a).2.2.left fresh steps

end Run

/-- How the packets of a client move in a step that makes a request or none, with what enters and
what leaves. -/
inductive Shift (qos : Qos) (c : Client Sender) :
    Option Inquiry → List Entry → List Packet → Client Sender → Prop
  /-- Nothing moves. -/
  | rest (asked : Option Inquiry) : Shift qos c asked [] [] c
  /-- A packet finds room, of the client's own or of the request. -/
  | sent {asked : Option Inquiry} {p : Packet} (hopen : c.closed = false)
      (hroom : c.queue.length < c.capacity) (hpacket : ∀ k ∈ asked, p = packetOf qos k) :
      Shift qos c asked [(asked.map (·.call), p)] [] { c with queue := c.queue ++ [p] }
  /-- The request finds no room. -/
  | blocked {k : Inquiry} (hopen : c.closed = false) (hfull : c.capacity ≤ c.queue.length) :
      Shift qos c (some k) [] [] { c with blocked := c.blocked ++ [blockedOf qos k] }
  /-- Requests that wait for room are given up. -/
  | withdrawn (keep : Sender → Bool) : Shift qos c none [] [] (c.withdraw keep)
  /-- The link takes everything. -/
  | drained : Shift qos c none c.movingUp (c.queue ++ c.movingUp.map (·.2))
      { c with queue := [], blocked := [] }
  /-- The link goes away. -/
  | closed : Shift qos c none [] [] { c with queue := [], blocked := [], closed := true }

namespace Run

variable {fresh : Nat → String} {s : Run} {a : Step}

theorem step_client (fresh : Nat → String) (s : Run) (a : Step) :
    (s.step fresh a).2.2.bus.client = (s.stepNow fresh a).2.2.bus.client := rfl

/-- Only where the link takes packets is it told of packets. -/
theorem reply_ne_packets (fresh : Nat → String) (s : Run) (ha : a.takes = false)
    (ps : List Packet) :
    (s.step fresh a).1 ≠ .packets ps := by
  -- An offer is answered by the refusal that was given or by its success.
  have hoffer : ∀ p refused, refused ≠ .packets ps → (s.offer p refused).1 ≠ .packets ps := by
    intro p refused hrefused
    rw [offer]
    rcases s.bus.client.offer_cases p with ⟨-, heq⟩ | ⟨-, -, -, heq⟩ | ⟨-, -, -, heq⟩
    · simpa only [heq] using hrefused
    · simp [heq]
    · simp [heq]
  cases a with
  | filter => simp [step, stepNow]
  | subscribeResponses => exact hoffer _ _ (by simp)
  | subscribe filter qos => exact hoffer _ _ (by simp)
  | publish topic delivery payload => exact hoffer _ _ (by simp)
  | disconnect => exact hoffer _ _ (by simp)
  | request name r timeout => simp [step, stepNow]
  | poll name => simp [step, stepNow]
  | cancel name =>
    cases hfind : CommandRelay.Bus.Task.find? s.tasks name <;> simp [step, stepNow, hfind]
  | advance d => simp [step, stepNow]
  | incoming topic payload => simp [step, stepNow]
  | drain => cases ha
  | close => simp [step, stepNow]

/-- Only a link that takes packets takes any. -/
theorem leaving_eq_nil (fresh : Nat → String) (s : Run) (ha : a.takes = false) :
    s.leaving fresh a = [] := by
  rw [leaving]
  split
  · rename_i ps heq
    exact absurd heq (reply_ne_packets fresh s ha ps)
  · rfl

/-- What is new at the end of the queue has entered. -/
theorem entering_eq (ha : a.takes = false) {new : List Packet}
    (hqueue : (s.step fresh a).2.2.bus.client.queue = s.bus.client.queue ++ new) :
    s.entering fresh a = new.map fun p => ((s.asked? a).map (·.call), p) := by
  rw [entering, hqueue, List.drop_left]
  rintro rfl
  cases ha

/-- Nothing enters where the queue stays as it is. -/
theorem shift_still {qos : Qos} (ha : a.takes = false)
    (hqueue : (s.step fresh a).2.2.bus.client.queue = s.bus.client.queue)
    (h : Shift qos s.bus.client (s.asked? a) [] [] (s.step fresh a).2.2.bus.client) :
    Shift qos s.bus.client (s.asked? a) (s.entering fresh a) (s.leaving fresh a)
      (s.step fresh a).2.2.bus.client := by
  rw [← List.append_nil s.bus.client.queue] at hqueue
  rw [entering_eq ha hqueue, leaving_eq_nil fresh s ha]
  exact h

/-- Nothing moves in a step that leaves the client alone. -/
theorem shift_rest {qos : Qos} (ha : a.takes = false)
    (hclient : (s.step fresh a).2.2.bus.client = s.bus.client) :
    Shift qos s.bus.client (s.asked? a) (s.entering fresh a) (s.leaving fresh a)
      (s.step fresh a).2.2.bus.client := by
  refine shift_still ha (congrArg Client.queue hclient) ?_
  rw [hclient]
  exact .rest _

/-- A packet finds room at the end of the queue. -/
theorem shift_sent {qos : Qos} (ha : a.takes = false) {p : Packet}
    (hopen : s.bus.client.closed = false)
    (hroom : s.bus.client.queue.length < s.bus.client.capacity)
    (hpacket : ∀ k ∈ s.asked? a, p = packetOf qos k)
    (hclient : (s.step fresh a).2.2.bus.client =
      { s.bus.client with queue := s.bus.client.queue ++ [p] }) :
    Shift qos s.bus.client (s.asked? a) (s.entering fresh a) (s.leaving fresh a)
      (s.step fresh a).2.2.bus.client := by
  rw [entering_eq ha (congrArg Client.queue hclient), leaving_eq_nil fresh s ha, hclient]
  exact .sent hopen hroom hpacket

/-- A packet of the client's own goes into the queue or nowhere. -/
theorem shift_offer {qos : Qos} (p : Packet) (refused : Reply) (ha : a.takes = false)
    (hasked : s.asked? a = none)
    (hclient : (s.step fresh a).2.2.bus.client = (s.offer p refused).2.bus.client) :
    Shift qos s.bus.client (s.asked? a) (s.entering fresh a) (s.leaving fresh a)
      (s.step fresh a).2.2.bus.client := by
  rw [offer] at hclient
  rcases s.bus.client.offer_cases p with ⟨-, heq⟩ | ⟨hopen, -, hroom, heq⟩ | ⟨-, -, -, heq⟩
  · simp only [heq] at hclient
    exact shift_rest ha hclient
  · simp only [heq] at hclient
    refine shift_sent ha hopen hroom (fun k hk => ?_) hclient
    rw [hasked] at hk
    cases hk
  · simp only [heq] at hclient
    exact shift_rest ha hclient

/-- A request leaves the client as it is, goes into the queue, or waits for room behind all
others. -/
theorem startTask_client (s : Run) (name : String) (r : CommandRelay.Bus.Request)
    (timeout : Duration) :
    (s.startTask name r timeout).bus.client = s.bus.client ∨
    (s.startTask name r timeout).bus.client =
      (s.bus.client.send (Bus.senderOf s.nextCall r timeout) (s.bus.requestPacket r)).2 := by
  rcases hregister : s.bus.desk.register s.nextCall r.envelope.requestId with ⟨entered, desk⟩
  cases entered with
  | error f =>
    left
    simp only [startTask, Bus.request, hregister]
  | ok _ =>
    right
    rcases hsend : s.bus.client.send (Bus.senderOf s.nextCall r timeout) (s.bus.requestPacket r)
      with ⟨sending, client⟩
    rw [Bus.senderOf] at hsend
    cases sending <;> simp only [startTask, Bus.request, hregister, hsend]

/-- What a request does to the packets. -/
theorem shift_request (fresh : Nat → String) (s : Run) (name : String)
    (r : CommandRelay.Bus.Request) (timeout : Duration) :
    Shift s.bus.qos s.bus.client (s.asked? (.request name r timeout))
      (s.entering fresh (.request name r timeout)) (s.leaving fresh (.request name r timeout))
      (s.step fresh (.request name r timeout)).2.2.bus.client := by
  have hclient : (s.step fresh (.request name r timeout)).2.2.bus.client =
      (s.startTask name r timeout).bus.client := rfl
  rcases s.startTask_client name r timeout with heq | heq
  · exact shift_rest rfl (hclient.trans heq)
  rcases s.bus.client.send_cases (Bus.senderOf s.nextCall r timeout) (s.bus.requestPacket r) with
    ⟨-, hsend⟩ | ⟨hopen, -, hroom, hsend⟩ | ⟨hopen, -, hfull, hsend⟩
  · rw [hsend] at heq
    exact shift_rest rfl (hclient.trans heq)
  · rw [hsend] at heq
    refine shift_sent rfl hopen hroom (fun k hk => ?_) (hclient.trans heq)
    obtain rfl := Option.some.inj hk
    rfl
  · rw [hsend] at heq
    refine shift_still rfl (by rw [hclient, heq]) ?_
    rw [hclient, heq]
    exact .blocked hopen hfull

/-- What the link does to the packets when it takes all. -/
theorem shift_drain (fresh : Nat → String) (s : Run) :
    Shift s.bus.qos s.bus.client (s.asked? .drain) (s.entering fresh .drain)
      (s.leaving fresh .drain) (s.step fresh .drain).2.2.bus.client := by
  have hclient : (s.stepNow fresh .drain).2.2.bus.client =
      { s.bus.client with queue := [], blocked := [] } := by
    show (s.bus.drain s.now).2.client = _
    rw [s.bus.drain_bus]
  have hleaving : s.leaving fresh .drain =
      s.bus.client.queue ++ s.bus.client.movingUp.map (·.2) := by
    have hreply : (s.step fresh .drain).1 =
        .packets (s.bus.client.queue ++ s.bus.client.blocked.map (·.2)) := by
      simp only [step, stepNow, Bus.drain, Client.drain]
    rw [leaving, hreply, Client.movingUp, List.map_map]
    rfl
  have hasked : s.asked? .drain = none := rfl
  have hentering : s.entering fresh .drain = s.bus.client.movingUp := rfl
  rw [hasked, hentering, hleaving, step_client, hclient]
  exact .drained

/-- **What a step moves.** -/
theorem step_shift (fresh : Nat → String) (s : Run) (a : Step) :
    Shift s.bus.qos s.bus.client (s.asked? a) (s.entering fresh a) (s.leaving fresh a)
      (s.step fresh a).2.2.bus.client := by
  -- A step rests, offers one packet at the back, makes a request, withdraws, drains or closes.
  cases a with
  | filter => exact shift_rest rfl rfl
  | subscribeResponses =>
    exact shift_offer s.bus.subscription
      (.refused (.notSubscribed s.bus.responseFilter refusal)) rfl rfl rfl
  | subscribe filter qos =>
    exact shift_offer (.subscribe filter qos) (.refused (.notSubscribed filter refusal))
      rfl rfl rfl
  | publish topic delivery payload =>
    exact shift_offer (.publish topic delivery payload) (.refused (.notPublished topic refusal))
      rfl rfl rfl
  | disconnect => exact shift_offer .disconnect (.done true) rfl rfl rfl
  | request name r timeout => exact shift_request fresh s name r timeout
  | poll name => exact shift_rest rfl rfl
  | cancel name =>
    cases hfind : CommandRelay.Bus.Task.find? s.tasks name with
    | none =>
      refine shift_rest rfl ?_
      simp only [step_client, stepNow, hfind]
    | some t =>
      have hclient : (s.step fresh (.cancel name)).2.2.bus.client =
          s.bus.client.withdraw (·.call != t.call) := by
        simp only [step_client, stepNow, hfind, Bus.cancel]
      refine shift_still rfl (by rw [hclient]; rfl) ?_
      rw [hclient]
      exact .withdrawn _
  | advance d => exact shift_rest rfl rfl
  | incoming topic payload =>
    refine shift_rest rfl ?_
    rw [step_client, stepNow_incoming]
    rcases s.bus.incoming_cases s.wording (fresh s.made) topic payload with heq | ⟨response, heq⟩
    · simp only [heq]
    · simp only [heq]
  | drain => exact shift_drain fresh s
  | close =>
    have hclient : (s.step fresh .close).2.2.bus.client =
        { s.bus.client with queue := [], blocked := [], closed := true } := rfl
    have hentering : s.entering fresh .close = [] := by
      show (([] : List Packet).drop s.bus.client.queue.length).map _ = []
      rw [List.drop_nil, List.map_nil]
    rw [hentering, leaving_eq_nil fresh s rfl, hclient]
    exact .closed

end Run

/-! ## First come, first served -/

/-- What holds of a client between two steps, of the requests that were made, what has entered the
queue and what has left it. -/
structure InLine (qos : Qos) (c : Client Sender) (ks : List Inquiry) (entered : List Entry)
    (left : List Packet) : Prop where
  /-- Nobody waits where there is room. -/
  full : c.blocked ≠ [] → c.capacity ≤ c.queue.length
  /-- What has left and what is queued comes from the front of what has entered. -/
  line : left ++ c.queue <+: entered.map (·.2)
  /-- Nothing is lost while the link is there. -/
  whole : c.closed = false → left ++ c.queue = entered.map (·.2)
  gone : c.closed = true → c.queue = [] ∧ c.blocked = []
  /-- Requests stand in the order of their calls, and each of them once. -/
  ordered : (entered.filterMap (·.1) ++ c.blocked.map (·.1.call)).Pairwise (· < ·)
  packets : ∀ e ∈ entered, ∀ call ∈ e.1, ∃ k ∈ ks, k.call = call ∧ e.2 = packetOf qos k
  waiting : ∀ b ∈ c.blocked, ∃ k ∈ ks, b = blockedOf qos k

namespace InLine

variable {qos : Qos} {c : Client Sender} {ks : List Inquiry} {entered : List Entry}
  {left : List Packet}

theorem start (qos : Qos) (capacity : Nat) : InLine qos { capacity } [] [] [] :=
  ⟨fun h => absurd rfl h, List.prefix_refl _, fun _ => rfl, nofun, List.Pairwise.nil, nofun, nofun⟩

/-- What has entered belongs to inquiries, also where one more is made. -/
theorem packets_append (h : InLine qos c ks entered left) (asked : Option Inquiry) :
    ∀ e ∈ entered, ∀ call ∈ e.1, ∃ k ∈ ks ++ asked.toList, k.call = call ∧
    e.2 = packetOf qos k := by
  intro e he call hcall
  obtain ⟨k, hk, hboth⟩ := h.packets e he call hcall
  exact ⟨k, List.mem_append_left _ hk, hboth⟩

/-- What waits for room belongs to inquiries, also where one more is made. -/
theorem waiting_append (h : InLine qos c ks entered left) (asked : Option Inquiry) :
    ∀ b ∈ c.blocked, ∃ k ∈ ks ++ asked.toList, b = blockedOf qos k := by
  intro b hb
  obtain ⟨k, hk, heq⟩ := h.waiting b hb
  exact ⟨k, List.mem_append_left _ hk, heq⟩

/-- A new call comes after all that have entered or wait. -/
theorem call_lt (h : InLine qos c ks entered left) {k : Inquiry}
    (hnew : ∀ k' ∈ ks, k'.call < k.call) :
    ∀ call ∈ entered.filterMap (·.1) ++ c.blocked.map (·.1.call), call < k.call := by
  intro call hcall
  rcases List.mem_append.mp hcall with hentered | hblocked
  · obtain ⟨e, he, htag⟩ := List.mem_filterMap.mp hentered
    obtain ⟨k', hk', rfl, -⟩ := h.packets e he call htag
    exact hnew k' hk'
  · obtain ⟨b, hb, rfl⟩ := List.mem_map.mp hblocked
    obtain ⟨k', hk', rfl⟩ := h.waiting b hb
    exact hnew k' hk'

/-- Some that wait for room are given up. -/
theorem withdraw (h : InLine qos c ks entered left) (keep : Sender → Bool) :
    InLine qos (c.withdraw keep) ks entered left := by
  have hsub : (c.withdraw keep).blocked.Sublist c.blocked := List.filter_sublist
  refine ⟨fun hne => h.full ?_, h.line, h.whole, fun hclosed => ?_, ?_, h.packets,
    fun b hb => h.waiting b (hsub.subset hb)⟩
  · rintro hnil
    rw [hnil] at hsub
    exact hne (List.sublist_nil.mp hsub)
  · obtain ⟨hqueue, hblocked⟩ := h.gone hclosed
    rw [hblocked] at hsub
    exact ⟨hqueue, List.sublist_nil.mp hsub⟩
  · exact h.ordered.sublist ((List.Sublist.refl _).append (hsub.map _))

/-- A packet goes to the end of the queue.  Nobody waits then, for there is room. -/
theorem sent (h : InLine qos c ks entered left) {asked : Option Inquiry} {p : Packet}
    (hopen : c.closed = false) (hroom : c.queue.length < c.capacity)
    (hpacket : ∀ k ∈ asked, p = packetOf qos k)
    (hnew : ∀ k ∈ asked, ∀ k' ∈ ks, k'.call < k.call) :
    InLine qos { c with queue := c.queue ++ [p] } (ks ++ asked.toList)
      (entered ++ [(asked.map (·.call), p)]) left := by
  -- Senders are blocked only while the queue is full, and here it is not.
  have hnobody : c.blocked = [] := by
    by_contra hne
    exact absurd hroom (Nat.not_lt.mpr (h.full hne))
  have hwhole : left ++ (c.queue ++ [p]) =
      (entered ++ [(asked.map (·.call), p)]).map (·.2) := by
    rw [← List.append_assoc, h.whole hopen, List.map_append, List.map_singleton]
  refine ⟨fun hne => absurd hnobody hne, hwhole ▸ List.prefix_refl _, fun _ => hwhole,
    fun hclosed => ?_, ?_, ?_, h.waiting_append asked⟩
  · rw [hopen] at hclosed
    cases hclosed
  · have hbefore := h.ordered
    show (List.filterMap _ _ ++ c.blocked.map _).Pairwise _
    rw [hnobody, List.map_nil, List.append_nil] at hbefore ⊢
    rw [List.filterMap_append]
    cases asked with
    | none => simpa using hbefore
    | some k =>
      refine List.pairwise_append.mpr
        ⟨hbefore, List.pairwise_singleton _ _, fun call hcall _ hlast => ?_⟩
      obtain rfl := List.mem_singleton.mp hlast
      exact h.call_lt (hnew k rfl) call (List.mem_append_left _ hcall)
  · intro e he call hcall
    rcases List.mem_append.mp he with hold | hlast
    · exact h.packets_append asked e hold call hcall
    · obtain rfl := List.mem_singleton.mp hlast
      obtain ⟨k, hk, rfl⟩ := Option.map_eq_some_iff.mp hcall
      exact ⟨k, List.mem_append_right _ (by simp [hk]), rfl, hpacket k hk⟩

/-- Who finds no room waits behind all others. -/
theorem block (h : InLine qos c ks entered left) {k : Inquiry} (hopen : c.closed = false)
    (hfull : c.capacity ≤ c.queue.length) (hnew : ∀ k' ∈ ks, k'.call < k.call) :
    InLine qos { c with blocked := c.blocked ++ [blockedOf qos k] } (ks ++ [k]) entered left := by
  refine ⟨fun _ => hfull, h.line, h.whole, fun hclosed => ?_, ?_, h.packets_append (some k),
    fun b hb => ?_⟩
  · rw [hopen] at hclosed
    cases hclosed
  · show (_ ++ (c.blocked ++ [blockedOf qos k]).map _).Pairwise _
    rw [List.map_append, ← List.append_assoc, List.map_singleton]
    refine List.pairwise_append.mpr
      ⟨h.ordered, List.pairwise_singleton _ _, fun call hcall _ hlast => ?_⟩
    obtain rfl := List.mem_singleton.mp hlast
    exact h.call_lt hnew call hcall
  · rcases List.mem_append.mp hb with hold | hlast
    · exact h.waiting_append (some k) b hold
    · exact ⟨k, List.mem_append_right _ (List.mem_singleton_self _), List.mem_singleton.mp hlast⟩

/-- The link takes everything, and whoever waits finds room on the way. -/
theorem drain (h : InLine qos c ks entered left) :
    InLine qos { c with queue := [], blocked := [] } ks (entered ++ c.movingUp)
      (left ++ (c.queue ++ c.movingUp.map (·.2))) := by
  -- Whoever was blocked goes out behind the queue; a link that is gone has neither.
  have hline : left ++ (c.queue ++ c.movingUp.map (·.2)) <+:
      (entered ++ c.movingUp).map (·.2) := by
    rw [← List.append_assoc, List.map_append]
    cases hclosed : c.closed with
    | false => rw [h.whole hclosed]
    | true =>
      have hnobody : c.movingUp = [] := by rw [Client.movingUp, (h.gone hclosed).2, List.map_nil]
      rw [hnobody, List.map_nil, List.append_nil, List.append_nil]
      exact h.line
  refine ⟨fun hne => absurd rfl hne, by rwa [List.append_nil], fun hopen => ?_, fun _ => ⟨rfl, rfl⟩,
    ?_, ?_, nofun⟩
  · rw [List.append_nil, ← List.append_assoc, h.whole hopen, List.map_append]
  · have hmoved : c.movingUp.filterMap (·.1) = c.blocked.map (·.1.call) := by
      rw [Client.movingUp, List.filterMap_map]
      show c.blocked.filterMap (some ∘ fun b : Sender × Packet => b.1.call) = _
      rw [List.filterMap_eq_map]
    rw [List.filterMap_append, hmoved, List.map_nil, List.append_nil]
    exact h.ordered
  · intro e he call hcall
    rcases List.mem_append.mp he with hold | hmoved
    · exact h.packets e hold call hcall
    · obtain ⟨b, hb, rfl⟩ := List.mem_map.mp hmoved
      obtain ⟨k, hk, rfl⟩ := h.waiting b hb
      exact ⟨k, hk, Option.some.inj hcall, rfl⟩

/-- The link goes away, and the queue with it. -/
theorem close (h : InLine qos c ks entered left) :
    InLine qos { c with queue := [], blocked := [], closed := true } ks entered left := by
  refine ⟨fun hne => absurd rfl hne, ?_, nofun, fun _ => ⟨rfl, rfl⟩, ?_, h.packets, nofun⟩
  · rw [List.append_nil]
    exact (List.prefix_append left c.queue).trans h.line
  · exact h.ordered.sublist ((List.Sublist.refl _).append (List.nil_sublist _))

/-- Whatever a step moves, the line is kept. -/
theorem shift (h : InLine qos c ks entered left) {asked : Option Inquiry} {entering : List Entry}
    {leaving : List Packet} {c' : Client Sender} (hshift : Shift qos c asked entering leaving c')
    (hnew : ∀ k ∈ asked, ∀ k' ∈ ks, k'.call < k.call) :
    InLine qos c' (ks ++ asked.toList) (entered ++ entering) (left ++ leaving) := by
  cases hshift with
  | rest =>
    rw [List.append_nil, List.append_nil]
    exact ⟨h.full, h.line, h.whole, h.gone, h.ordered, h.packets_append _, h.waiting_append _⟩
  | sent hopen hroom hpacket =>
    rw [List.append_nil]
    exact h.sent hopen hroom hpacket hnew
  | blocked hopen hfull =>
    rw [List.append_nil, List.append_nil]
    exact h.block hopen hfull (hnew _ rfl)
  | withdrawn keep =>
    rw [List.append_nil, List.append_nil, Option.toList_none, List.append_nil]
    exact h.withdraw keep
  | drained =>
    rw [Option.toList_none, List.append_nil]
    exact h.drain
  | closed =>
    rw [List.append_nil, List.append_nil, Option.toList_none, List.append_nil]
    exact h.close

end InLine

end CommandRelay.Mqtt
