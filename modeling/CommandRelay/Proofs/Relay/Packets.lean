import CommandRelay.Proofs.Mqtt.Admission
import CommandRelay.Relay.Session

/-!
# What a world asks its links for

Handlers publish and subscribe.  Whatever a world does, its handlers, its services, its clock and
its links going on in any order, none of the packets that wait in its two clients asks a link to
disconnect.

1. **`Client.Staying`, `World.Staying`** — no request to disconnect waits in a client, or in either
   client of a world.
2. **One lemma for each operation** — from a single handler (`Staying.runHandler`, by induction on
   its program) to the whole queue (`Staying.settle`) and the links (`Staying.drainExternal`).
-/

namespace CommandRelay

namespace Mqtt

variable {τ : Type}

/-- No request to disconnect waits in the client. -/
def Client.Staying (c : Client τ) : Prop :=
  (∀ p ∈ c.queue, p ≠ .disconnect) ∧ ∀ b ∈ c.blocked, b.2 ≠ .disconnect

variable {c : Client τ}

theorem Client.Staying.queued {p : Packet} (h : c.Staying) (hp : p ≠ .disconnect) :
    Client.Staying { c with queue := c.queue ++ [p] } := by
  refine ⟨?_, h.2⟩
  intro q hq
  rcases List.mem_append.mp hq with hq | hq
  · exact h.1 q hq
  · rwa [List.mem_singleton.mp hq]

theorem Client.Staying.offer {p : Packet} (h : c.Staying) (hp : p ≠ .disconnect) :
    (c.offer p).2.Staying := by
  rcases c.offer_cases p with ⟨-, heq⟩ | ⟨-, -, -, heq⟩ | ⟨-, -, -, heq⟩
  · rw [heq]
    exact h
  · rw [heq]
    exact h.queued hp
  · rw [heq]
    exact h

/-- Another packet than the request to disconnect may enter the queue or wait for room. -/
theorem Client.Staying.send {p : Packet} (h : c.Staying) (tag : τ) (hp : p ≠ .disconnect) :
    (c.send tag p).2.Staying := by
  rcases c.send_cases tag p with ⟨-, heq⟩ | ⟨-, -, -, heq⟩ | ⟨-, -, -, heq⟩
  · rw [heq]
    exact h
  · rw [heq]
    exact h.queued hp
  · rw [heq]
    refine ⟨h.1, ?_⟩
    intro b hb
    rcases List.mem_append.mp hb with hb | hb
    · exact h.2 b hb
    · rwa [List.mem_singleton.mp hb]

/-- What a link takes from such a client is no request to disconnect. -/
theorem Client.Staying.of_drained (h : c.Staying) : ∀ p ∈ c.drain.1, p ≠ .disconnect := by
  intro p hp
  rcases List.mem_append.mp hp with hp | hp
  · exact h.1 p hp
  · obtain ⟨b, hb, rfl⟩ := List.mem_map.mp hp
    exact h.2 b hb

theorem Client.staying_drain (c : Client τ) : c.drain.2.2.Staying := ⟨nofun, nofun⟩

theorem Client.staying_close (c : Client τ) : c.close.2.Staying := ⟨nofun, nofun⟩

namespace Bus

variable {b : Bus}

/-- A request on the bus offers its own packet and no other one. -/
theorem staying_request (h : b.client.Staying) (call : CallId) (r : CommandRelay.Bus.Request)
    (timeout : Duration) (now : Instant) : (b.request call r timeout now).2.client.Staying := by
  have hsend : ∀ sender, (b.client.send sender (b.requestPacket r)).2.Staying :=
    fun sender => h.send sender (by simp [requestPacket])
  unfold request
  split
  · exact h
  · rename_i desk _
    have hsent := hsend { call, service := r.service, topic := r.topic, timeout }
    dsimp only
    split
    · rename_i heq
      rw [heq] at hsent
      exact hsent
    · rename_i heq
      rw [heq] at hsent
      exact hsent
    · rename_i heq
      rw [heq] at hsent
      exact hsent

/-- When its wait begins, a request is in the queue already. -/
theorem foldl_begin_client (senders : List Sender) (b : Bus) (now : Instant) :
    (senders.foldl (fun b s => b.begin now s) b).client = b.client := by
  induction senders generalizing b with
  | nil => rfl
  | cons s senders ih => exact ih (b.begin now s)

theorem drain_client (b : Bus) (now : Instant) : (b.drain now).2.client = b.client.drain.2.2 :=
  foldl_begin_client _ _ _

theorem incoming_client (b : Bus) (words : Wording) (fresh topic : String)
    (payload : List UInt8) : (b.incoming words fresh topic payload).2.2.client = b.client := by
  unfold incoming
  split
  · rfl
  · split
    · rfl
    · rfl

end Bus

end Mqtt

namespace Relay

/-- No request to disconnect waits for the external broker. -/
def Broker.Staying : Broker → Prop
  | .recording _ _ => True
  | .link client => client.Staying

/-- No request to disconnect waits for the broker of the internal bus. -/
def InternalBus.Staying : InternalBus → Prop
  | .link b => b.client.Staying
  | .process _ | .broken _ => True

theorem InternalBus.Staying.withDesk {b : InternalBus} (h : b.Staying) (desk : Correlation.Desk) :
    (b.withDesk desk).Staying := by
  cases b with
  | process bus => exact trivial
  | link bus => exact h
  | broken f => exact trivial

namespace World

/-- No request to disconnect waits in either client of a world. -/
def Staying (w : World) : Prop := w.broker.Staying ∧ w.bus.Staying

variable {w : World}

/-! ## The queue of jobs and the timers -/

theorem enqueue_ends (w : World) (j : Job) :
    (w.enqueue j).broker = w.broker ∧ (w.enqueue j).bus = w.bus := by
  unfold enqueue
  split
  · exact ⟨rfl, rfl⟩
  · exact ⟨rfl, rfl⟩

theorem Staying.enqueue (h : w.Staying) (j : Job) : (w.enqueue j).Staying := by
  unfold Staying
  rw [(w.enqueue_ends j).1, (w.enqueue_ends j).2]
  exact h

theorem Staying.setWaitTimers (h : w.Staying) : w.setWaitTimers.Staying := by
  unfold World.setWaitTimers
  generalize w.bus.desk.guards = guards
  induction guards generalizing w with
  | nil => exact h
  | cons g guards ih =>
    rw [List.foldl_cons]
    apply ih
    split
    · split
      · exact h
      · exact h
    · exact h

/-! ## Handlers -/

/-- What a handler publishes is no request to disconnect. -/
theorem Staying.publish (h : w.Staying) (call : CallId) (topic : String) (delivery : Delivery)
    (payload : List UInt8) : (w.publish call topic delivery payload).2.Staying := by
  unfold World.publish
  dsimp only
  split
  · rename_i hbroker
    exact ⟨h.1, h.2⟩
  · rename_i client hbroker
    have hclient : client.Staying := by
      have hends := h.1
      rwa [hbroker] at hends
    have hsent := hclient.send call (show Mqtt.Packet.publish topic delivery payload ≠ .disconnect
      from nofun)
    split
    · rename_i heq
      rw [heq] at hsent
      exact ⟨hsent, h.2⟩
    · rename_i heq
      rw [heq] at hsent
      exact ⟨hsent, h.2⟩
    · rename_i heq
      rw [heq] at hsent
      exact ⟨hsent, h.2⟩

/-- What a handler subscribes to is no request to disconnect. -/
theorem Staying.subscribe (h : w.Staying) (call : CallId) (filter : String) (qos : Qos) :
    (w.subscribe call filter qos).2.Staying := by
  unfold World.subscribe
  dsimp only
  split
  · rename_i hbroker
    exact ⟨h.1, h.2⟩
  · rename_i client hbroker
    have hclient : client.Staying := by
      have hends := h.1
      rwa [hbroker] at hends
    have hsent := hclient.send call (show Mqtt.Packet.subscribe filter qos ≠ .disconnect from nofun)
    split
    · rename_i heq
      rw [heq] at hsent
      exact ⟨hsent, h.2⟩
    · rename_i heq
      rw [heq] at hsent
      exact ⟨hsent, h.2⟩
    · rename_i heq
      rw [heq] at hsent
      exact ⟨hsent, h.2⟩

theorem Staying.conclude (h : w.Staying) (call : CallId) : (w.conclude call).2.Staying := by
  unfold World.conclude
  dsimp only
  split
  · exact h
  · exact ⟨h.1, h.2.withDesk _⟩

/-- A request of a handler asks no client to disconnect. -/
theorem Staying.request (h : w.Staying) (call : CallId) (r : Bus.Request) (timeout : Duration) :
    (w.request call r timeout).2.Staying := by
  unfold World.request
  split
  · exact h
  · rename_i b hbus
    split
    · exact ⟨h.1, trivial⟩
    · rename_i b' _
      have hsent : World.Staying { w with bus := .process b' } := ⟨h.1, trivial⟩
      exact (hsent.enqueue .services).conclude call
  · rename_i b hbus
    have hclient : b.client.Staying := by
      have hends := h.2
      rwa [hbus] at hends
    have hsent := Mqtt.Bus.staying_request hclient call r timeout w.now
    split
    · rename_i heq
      rw [heq] at hsent
      exact ⟨h.1, hsent⟩
    · rename_i b' heq
      rw [heq] at hsent
      have hlinked : World.Staying { w with bus := .link b' } := ⟨h.1, hsent⟩
      exact hlinked.conclude call

/-- A handler publishes and subscribes, and asks for nothing else of a link. -/
theorem Staying.runHandler (call : CallId) (p : Program Unit) (h : w.Staying) :
    (runHandler call p w).Staying := by
  -- By induction along the program: an effect leaves the packets fit, and if it blocks, the rest
  -- waits with it.
  induction p generalizing w with
  | done u => exact h
  | perform e next ih =>
    cases e with
    | fresh => exact ih _ h
    | log e => exact ih _ h
    | resolve base device command method => exact ih _ h
    | query request device => exact ih _ h
    | request r timeout =>
      have hasked := h.request call r timeout
      unfold World.runHandler
      split
      · rename_i heq
        rw [heq] at hasked
        exact ih _ hasked
      · rename_i heq
        rw [heq] at hasked
        exact hasked
    | publish topic delivery payload =>
      have hasked := h.publish call topic delivery payload
      unfold World.runHandler
      split
      · rename_i heq
        rw [heq] at hasked
        exact ih _ hasked
      · rename_i heq
        rw [heq] at hasked
        exact hasked
    | subscribe filter qos =>
      have hasked := h.subscribe call filter qos
      unfold World.runHandler
      split
      · rename_i heq
        rw [heq] at hasked
        exact ih _ hasked
      · rename_i heq
        rw [heq] at hasked
        exact hasked

/-! ## Services -/

/-- A service that receives its requests touches no client. -/
theorem Staying.serve (h : w.Staying) (index : Nat) (service : Service) :
    (w.serve index service).Staying := by
  have hscripts : ∀ (rs : List Bus.Request) {w : World}, w.Staying →
      (rs.foldl (fun w r => w.startScript index service r) w).Staying := by
    intro rs
    induction rs with
    | nil => exact fun h => h
    | cons r rs ih =>
      intro w h
      rw [List.foldl_cons]
      apply ih
      unfold World.startScript
      exact Staying.enqueue (w := { w with
        nextNumber := w.nextNumber + 1
        notes := w.notes ++ [(index, .request r)]
        scripts := w.scripts ++ [⟨w.nextNumber, index, r.envelope, service.replies⟩] }) h _
  unfold World.serve
  split
  · exact hscripts _ ⟨h.1, trivial⟩
  · exact h
  · exact h

theorem Staying.respond (h : w.Staying) (response : Envelope) : (w.respond response).2.Staying := by
  have hdesk : World.Staying { w with
      bus := w.bus.withDesk (w.bus.desk.complete response).2 } := ⟨h.1, h.2.withDesk _⟩
  unfold World.respond
  dsimp only
  split
  · exact hdesk.enqueue _
  · exact hdesk

theorem Staying.runReplies (script : Script) (replies : List Reply) (h : w.Staying) :
    (runReplies script replies w).Staying := by
  induction replies generalizing w with
  | nil => exact h
  | cons reply rest ih =>
    unfold World.runReplies
    split
    · exact h
    · exact ih (h.respond (reply.edit script.request))

theorem Staying.runScript (h : w.Staying) (number : Nat) : (w.runScript number).Staying := by
  unfold World.runScript
  split
  · exact h
  · exact h.runReplies _ _

/-! ## Everything that can run -/

/-- Whatever is next in the queue of jobs, no client is asked to disconnect. -/
theorem Staying.perform (h : w.Staying) (j : Job) : (w.perform j).Staying := by
  cases j with
  | start call =>
    unfold World.perform
    dsimp only
    split
    · exact h
    · exact Staying.runHandler call _ h
  | wake call =>
    have hended := h.conclude call
    unfold World.perform
    dsimp only
    split
    · exact h
    · split
      · rename_i heq
        rw [heq] at hended
        exact hended
      · rename_i heq
        rw [heq] at hended
        exact Staying.runHandler call _ hended
  | services =>
    show ((w.services.zipIdx.foldl (fun w x => w.serve x.2 x.1) w).Staying)
    generalize w.services.zipIdx = services
    induction services generalizing w with
    | nil => exact h
    | cons x services ih => exact ih (h.serve x.2 x.1)
  | script number => exact h.runScript number

theorem Staying.runQueue (fuel : Nat) (h : w.Staying) : (runQueue fuel w).Staying := by
  induction fuel generalizing w with
  | zero => exact h
  | succ fuel ih =>
    unfold World.runQueue
    split
    · exact h
    · rename_i j rest _
      have hrest : World.Staying { w with queue := rest } := h
      exact ih (hrest.perform j).setWaitTimers

theorem Staying.settle (h : w.Staying) : w.settle.Staying := h.runQueue _

theorem Staying.launch (h : w.Staying) (p : Program Unit) : (w.launch p).2.Staying := by
  unfold World.launch
  exact Staying.enqueue (w := { w with
    nextNumber := w.nextNumber + 1
    starting := w.starting ++ [(w.nextNumber, p)] }) h _

theorem Staying.enqueueAll (timers : List Timer) (h : w.Staying) :
    (timers.foldl (fun w x => w.enqueue x.job) w).Staying := by
  induction timers generalizing w with
  | nil => exact h
  | cons x timers ih => exact ih (h.enqueue x.job)

theorem Staying.advance (h : w.Staying) (d : Duration) : (w.advance d).Staying := by
  unfold World.advance World.fire
  dsimp only
  apply Staying.settle
  apply Staying.enqueueAll
  exact h

/-! ## The links -/

/-- A message for the bus touches no client. -/
theorem Staying.incoming (h : w.Staying) (topic : String) (payload : List UInt8) :
    (w.incoming topic payload).2.Staying := by
  unfold World.incoming
  split
  · exact h
  · exact h
  · rename_i b hbus
    have hclient : b.client.Staying := by
      have hends := h.2
      rwa [hbus] at hends
    rw [← b.incoming_client w.settings.wording (w.fresh w.made) topic payload] at hclient
    generalize b.incoming w.settings.wording (w.fresh w.made) topic payload = heard at hclient ⊢
    have hlinked : World.Staying { w with
        bus := .link heard.2.2, made := w.made + 1, log := w.log ++ heard.2.1 } := ⟨h.1, hclient⟩
    dsimp only
    split
    · exact hlinked.enqueue _
    · exact hlinked

theorem Staying.goOn (h : w.Staying) (call : CallId) : (w.goOn call).Staying := by
  unfold World.goOn
  split
  · exact h
  · rename_i next _
    exact Staying.enqueue (w := { w with
      publishing := w.publishing.filter (·.1 != call)
      starting := w.starting ++ [(call, next (.ok ()))] }) h _

/-- The external link takes no request to disconnect. -/
theorem Staying.drainExternal (h : w.Staying) :
    w.drainExternal.2.Staying ∧ ∀ p ∈ w.drainExternal.1, p ≠ .disconnect := by
  have hall : ∀ (calls : List CallId) {w : World}, w.Staying →
    (calls.foldl World.goOn w).Staying := by
    intro calls
    induction calls with
    | nil => exact fun h => h
    | cons call calls ih => exact fun h => ih (h.goOn call)
  unfold World.drainExternal
  split
  · exact ⟨h, nofun⟩
  · rename_i client hbroker
    have hclient : client.Staying := by
      have hends := h.1
      rwa [hbroker] at hends
    refine ⟨Staying.settle (hall _ ⟨?_, h.2⟩), hclient.of_drained⟩
    exact client.staying_drain

/-- The link of the internal bus takes no request to disconnect. -/
theorem Staying.drainInternal (h : w.Staying) :
    w.drainInternal.2.Staying ∧ ∀ p ∈ w.drainInternal.1, p ≠ .disconnect := by
  unfold World.drainInternal
  split
  · exact ⟨h, nofun⟩
  · exact ⟨h, nofun⟩
  · rename_i b hbus
    have hclient : b.client.Staying := by
      have hends := h.2
      rwa [hbus] at hends
    refine ⟨Staying.setWaitTimers ⟨h.1, ?_⟩, hclient.of_drained⟩
    show (b.drain w.now).2.client.Staying
    rw [b.drain_client w.now]
    exact b.client.staying_drain

end World

end Relay

end CommandRelay
