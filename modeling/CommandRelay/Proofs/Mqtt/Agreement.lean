import CommandRelay.Proofs.Bus.Answers
import CommandRelay.Proofs.Correlation.Renaming
import CommandRelay.Proofs.Envelope.RoundTrip
import CommandRelay.Proofs.Mqtt.Answers

/-!
# The two buses agree

The bus inside one process and the bus over a broker link send a request in different ways and hear
of its response in different ways.  Where somebody listens to the one and the client of the other
has room, that makes no difference: the same requests, responses, cancellations and steps of the
clock have the same results on both, at the same times.

The runs go side by side (`Twin.Move`), each with steps of its own in between.  What ties their
states together is a renumbering of the calls (`Twin.Together`): the local bus numbers its
subscribers together with its calls, so a request has different numbers on the two.

1. **Other numbers for tasks** — the operations on tasks commute with a renumbering, as those of the
   desk do.
2. **One bus alone** — both do with their desks what `Desk.ask` does when a request is taken, and no
   request notices the steps about subscribers or packets only.
3. **Moves** — each keeps the states together and is answered alike (`Twin.Together.answered`).
4. **Runs** — a request gets the number that its call has on the other side (`Twin.Sides.move`), and
   keeps it (`Twin.Sides.run`); so `Twin.buses_agree`.
-/

namespace CommandRelay

open Correlation

/-! ## Other numbers for tasks -/

namespace Bus

/-- A task whose call has another number. -/
def Task.rename (ρ : Equiv.Perm CallId) (t : Task) : Task := { t with call := ρ t.call }

/-- A request whose call has another number. -/
def Inquiry.rename (ρ : Equiv.Perm CallId) (k : Inquiry) : Inquiry := { k with call := ρ k.call }

theorem Inquiry.map_rename_congr {ρ ρ' : Equiv.Perm CallId} {ks : List Inquiry}
    (h : ∀ k ∈ ks, ρ' k.call = ρ k.call) : ks.map (·.rename ρ') = ks.map (·.rename ρ) :=
  List.map_congr_left fun k hk => by rw [rename, rename, h k hk]

namespace Task

variable (ρ : Equiv.Perm CallId) (tasks : List Task)

theorem find?_rename (name : String) :
    find? (tasks.map (·.rename ρ)) name = (find? tasks name).map (·.rename ρ) :=
  List.find?_map ..

theorem add_rename (t : Task) :
    add (tasks.map (·.rename ρ)) (t.rename ρ) = (add tasks t).map (·.rename ρ) := by
  unfold add
  rw [List.map_cons, List.map_map, List.map_map]
  congr 1
  refine List.map_congr_left fun u _ => ?_
  by_cases hname : u.name = t.name
  · simp [rename, hname]
  · simp [rename, hname]

theorem remove_rename (call : CallId) :
    remove (tasks.map (·.rename ρ)) (ρ call) = (remove tasks call).map (·.rename ρ) := by
  have hsame : ((fun t : Task => t.call != ρ call) ∘ rename ρ) = fun t => t.call != call := by
    funext t
    exact Bool.eq_iff_iff.mpr (by simp [rename])
  unfold remove
  rw [List.filter_map, hsame]

/-- Results are noted for the same tasks under new numbers. -/
theorem note_rename (ended : List (CallId × CallResult)) :
    note (tasks.map (·.rename ρ)) (renameResults ρ ended) =
      (note tasks ended).map (·.rename ρ) := by
  unfold note
  rw [List.map_map, List.map_map]
  refine List.map_congr_left fun t _ => ?_
  have hsame : ((fun e : CallId × CallResult => e.1 == ρ t.call) ∘
      fun e : CallId × CallResult => (ρ e.1, e.2)) = fun e => e.1 == t.call := by
    funext e
    exact Bool.eq_iff_iff.mpr (by simp)
  have hfind : (renameResults ρ ended).find? (·.1 == (t.rename ρ).call) =
      (ended.find? (·.1 == t.call)).map fun e => (ρ e.1, e.2) := by
    unfold renameResults
    rw [List.find?_map]
    exact congrArg (fun p => (ended.find? p).map _) hsame
  simp only [Function.comp_apply, hfind]
  cases ended.find? (·.1 == t.call) with
  | none => rfl
  | some e => rfl

/-- A task is asked for its result by its name, which has not changed. -/
theorem poll_rename (name : String) : poll (tasks.map (·.rename ρ)) name =
    ((poll tasks name).1, (poll tasks name).2.map (·.rename ρ)) := by
  unfold poll
  rw [find?_rename]
  cases find? tasks name with
  | none => rfl
  | some t =>
    have hresult : (t.rename ρ).result = t.result := rfl
    simp only [Option.map_some, hresult]
    cases t.result with
    | none => rfl
    | some r => exact congrArg (Prod.mk _) (remove_rename ρ tasks t.call)

end Task

/-! ## One bus alone -/

/-- The result of a request so far, from how it was started. -/
def begun : Except Fault Unit → Option CallResult
  | .ok () => none
  | .error f => some (.error f)

/-- A request on the local bus that somebody hears. -/
theorem LocalBus.request_heard {b : LocalBus} (hheard : b.subscribers ≠ []) (call : CallId)
    (r : Request) (timeout : Duration) (now : Instant) :
    ∃ channel, b.request call r timeout now =
      ((b.desk.ask call r.envelope.requestId timeout now).1,
        { b with channel, desk := (b.desk.ask call r.envelope.requestId timeout now).2 }) := by
  have hlistens : b.subscribers.isEmpty = false := List.isEmpty_eq_false_iff.mpr hheard
  unfold request enter Desk.ask
  cases b.desk.register call r.envelope.requestId with
  | mk entered desk =>
    cases entered with
    | error f => exact ⟨b.channel, rfl⟩
    | ok =>
      refine ⟨b.channel.send r, ?_⟩
      simp only [send, hlistens]
      rfl

/-- Where somebody listens, a request is sent and waits. -/
theorem LocalRun.start_heard {s : LocalRun} (hheard : s.bus.subscribers ≠ []) (name : String)
    (r : Request) (timeout : Duration) :
    ∃ channel, s.start name r timeout = { s with
      bus := { s.bus with
        channel
        desk := (s.bus.desk.ask s.nextNumber r.envelope.requestId timeout s.now).2 }
      nextNumber := s.nextNumber + 1
      tasks := Task.add s.tasks ⟨name, s.nextNumber,
        begun (s.bus.desk.ask s.nextNumber r.envelope.requestId timeout s.now).1⟩ } := by
  obtain ⟨channel, heq⟩ := LocalBus.request_heard hheard s.nextNumber r timeout s.now
  refine ⟨channel, ?_⟩
  simp only [start, heq]
  rfl

theorem LocalRun.after_append (s : LocalRun) (front back : List LocalStep) :
    s.after (front ++ back) = (s.after front).after back := List.foldl_append

/-- The inquiries of a run are those of its parts. -/
theorem LocalRun.inquiries_append (s : LocalRun) (front back : List LocalStep) :
    s.inquiries (front ++ back) = s.inquiries front ++ (s.after front).inquiries back := by
  induction front generalizing s with
  | nil => rfl
  | cons a front ih =>
    rw [List.cons_append, inquiries, inquiries, ih, List.append_assoc]
    rfl

/-- Whether a step is about subscribers only. -/
def LocalStep.readersOnly : LocalStep → Bool
  | .subscribe _ _ | .unsubscribe _ | .receive _ => true
  | _ => false

/-- Subscribers come and go and read: the calls do not notice. -/
theorem LocalRun.stepNow_readers (s : LocalRun) {a : LocalStep} (ha : a.readersOnly = true) :
    (s.stepNow a).2.2.bus.desk = s.bus.desk ∧ (s.stepNow a).2.2.now = s.now ∧
      (s.stepNow a).2.2.tasks = s.tasks ∧ (s.stepNow a).2.2.held = s.held := by
  have hgone : ∀ name, (s.unsubscribe name).held = s.held := by
    intro name
    rw [unsubscribe]
    split
    · rfl
    · rfl
  cases a with
  | subscribe name base =>
    rw [stepNow]
    split
    · exact ⟨rfl, rfl, rfl, rfl⟩
    · obtain ⟨hdesk, hnow, -, htasks⟩ := s.unsubscribe_frame name
      exact ⟨hdesk, hnow, htasks, hgone name⟩
  | unsubscribe name =>
    rw [stepNow]
    obtain ⟨hdesk, hnow, -, htasks⟩ := s.unsubscribe_frame name
    exact ⟨hdesk, hnow, htasks, hgone name⟩
  | receive name =>
    rw [stepNow]
    split
    · exact ⟨rfl, rfl, rfl, rfl⟩
    · exact ⟨s.bus.receive_desk _, rfl, rfl, rfl⟩
  | _ => cases ha

end Bus

namespace Mqtt

/-- A request on the bus over a link whose client has room for it. -/
theorem Bus.request_room {b : Bus} (hopen : b.client.closed = false)
    (hroom : b.client.queue.length < b.client.capacity) {r : CommandRelay.Bus.Request}
    (hallowed : (b.requestPacket r).allowed = true) (call : CallId) (timeout : Duration)
    (now : Instant) :
    ∃ queue, b.request call r timeout now =
      ((b.desk.ask call r.envelope.requestId timeout now).1,
        { b with
          client := { b.client with queue }
          desk := (b.desk.ask call r.envelope.requestId timeout now).2 }) := by
  cases hreg : b.desk.register call r.envelope.requestId with
  | mk entered desk =>
    cases entered with
    | error f =>
      refine ⟨b.client.queue, ?_⟩
      unfold request Desk.ask
      rw [hreg]
    | ok =>
      refine ⟨b.client.queue ++ [b.requestPacket r], ?_⟩
      rw [request_of_registered hreg]
      unfold Desk.ask
      rw [hreg]
      -- There is room and the client is open, so it takes the packet.
      rcases b.client.send_cases (senderOf call r timeout) (b.requestPacket r) with
        ⟨hgone, -⟩ | ⟨-, -, -, hsend⟩ | ⟨-, -, hfull, -⟩
      · rcases hgone with hclosed | hwild
        · rw [hopen] at hclosed
          cases hclosed
        · rw [hallowed] at hwild
          cases hwild
      · rw [hsend]
      · exact absurd hroom (Nat.not_lt.mpr hfull)

/-- Where there is room and the topic has no wildcard, a request is queued and waits. -/
theorem Run.startTask_room {s : Run} (hopen : s.bus.client.closed = false)
    (hroom : s.bus.client.queue.length < s.bus.client.capacity) {r : CommandRelay.Bus.Request}
    (hallowed : (s.bus.requestPacket r).allowed = true) (name : String) (timeout : Duration) :
    ∃ queue, s.startTask name r timeout = { s with
      bus := { s.bus with
        client := { s.bus.client with queue }
        desk := (s.bus.desk.ask s.nextCall r.envelope.requestId timeout s.now).2 }
      nextCall := s.nextCall + 1
      tasks := CommandRelay.Bus.Task.add s.tasks ⟨name, s.nextCall, CommandRelay.Bus.begun
        (s.bus.desk.ask s.nextCall r.envelope.requestId timeout s.now).1⟩ } := by
  obtain ⟨queue, heq⟩ := Bus.request_room hopen hroom hallowed s.nextCall timeout s.now
  refine ⟨queue, ?_⟩
  simp only [startTask, heq]
  rfl

/-- The inquiries of a run over a link are those of its parts. -/
theorem Run.inquiries_append (fresh : Nat → String) (s : Run) (front back : List Step) :
    s.inquiries fresh (front ++ back) =
      s.inquiries fresh front ++ (s.after fresh front).inquiries fresh back := by
  induction front generalizing s with
  | nil => rfl
  | cons a front ih =>
    rw [List.cons_append, inquiries, inquiries, ih, List.append_assoc]
    rfl

/-- Whether a step is about the client only: packets of its own, and the link taking what is
queued. -/
def Step.clientOnly : Step → Bool
  | .filter | .subscribeResponses | .subscribe _ _ | .publish _ _ _ | .disconnect | .drain => true
  | _ => false

/-- Where no request waits for room, such steps fill the queue and empty it. -/
theorem Run.stepNow_client {s : Run} (hroomy : s.bus.client.blocked = []) (fresh : Nat → String)
    {a : Step} (ha : a.clientOnly = true) : ∃ queue, (s.stepNow fresh a).2.2 =
      { s with bus := { s.bus with client := { s.bus.client with queue } } } := by
  have hoffer : ∀ p refused, ∃ queue, (s.offer p refused).2 =
      { s with bus := { s.bus with client := { s.bus.client with queue } } } := by
    intro p refused
    rcases s.offer_cases p refused with heq | hqueued
    · exact ⟨s.bus.client.queue, heq⟩
    · exact hqueued
  cases a with
  | filter => exact ⟨s.bus.client.queue, rfl⟩
  | subscribeResponses => exact hoffer _ _
  | subscribe filter qos => exact hoffer _ _
  | publish topic delivery payload => exact hoffer _ _
  | disconnect => exact hoffer _ _
  | drain =>
    refine ⟨[], ?_⟩
    show { s with bus := (s.bus.drain s.now).2 } = { s with bus := { s.bus with
      client := { s.bus.client with queue := [], blocked := s.bus.client.blocked } } }
    rw [s.bus.drain_bus, hroomy]
    rfl
  | _ => cases ha

end Mqtt

/-! ## Moves -/

namespace Twin

open Bus (LocalRun LocalStep Request Task Inquiry)
open Mqtt (Run Step)

/-- A move of two runs side by side: a step of both, or one that concerns one bus only. -/
inductive Move where
  | request (task : String) (r : Request) (timeout : Duration)
  | cancel (task : String)
  | poll (task : String)
  | advance (d : Duration)
  /-- A response is handed to the local bus, and arrives over the link on a topic. -/
  | respond (r : Envelope) (topic : String)
  | onlyLocal (a : LocalStep)
  | onlyLink (a : Step)

namespace Move

/-- The steps of the local bus. -/
def here : Move → List LocalStep
  | .request task r timeout => [.request task r timeout]
  | .cancel task => [.cancel task]
  | .poll task => [.poll task]
  | .advance d => [.advance d]
  | .respond r _ => [.respond r]
  | .onlyLocal a => [a]
  | .onlyLink _ => []

/-- The steps of the bus over the link. -/
def there : Move → List Step
  | .request task r timeout => [.request task r timeout]
  | .cancel task => [.cancel task]
  | .poll task => [.poll task]
  | .advance d => [.advance d]
  | .respond r topic => [.incoming topic r.toWire]
  | .onlyLocal _ => []
  | .onlyLink a => [a]

end Move

/-- What a move asks for.  A request is heard on the local bus and finds room in the queue of the
client, on a topic that names no wildcard.  A response survives its way over the link: it has a
correlation ID, and its parameters hold no double and are nested no deeper than is read back. -/
def Move.Fits (s : LocalRun) (t : Run) : Move → Prop
  | .request _ r _ => s.bus.subscribers ≠ [] ∧
      t.bus.client.queue.length < t.bus.client.capacity ∧
      '+' ∉ r.topic.toList ∧ '#' ∉ r.topic.toList
  | .respond r topic => r.correlationId ≠ "" ∧ r.queryParams.Whole ∧ r.queryParams.Shallow ∧
      Topic.accepts t.bus.responseFilter topic = true
  | .cancel _ | .poll _ | .advance _ => True
  | .onlyLocal a => a.readersOnly = true
  | .onlyLink a => a.clientOnly = true

/-- Every move of a sequence fits where it is made. -/
def Fit (fresh : Nat → String) (s : LocalRun) (t : Run) : List Move → Prop
  | [] => True
  | a :: moves => a.Fits s t ∧ Fit fresh (s.after a.here) (t.after fresh a.there) moves

/-- A response is taken on both buses or on none, and tasks stand alike. -/
def Move.AnsweredAlike (fresh : Nat → String) (s : LocalRun) (t : Run) : Move → Prop
  | .respond r topic => ∃ taken, (s.step (.respond r)).1 = .done taken ∧
      (t.step fresh (.incoming topic r.toWire)).1 = .done taken
  | .poll task => ∃ standing, (s.step (.poll task)).1 = .standing standing ∧
      (t.step fresh (.poll task)).1 = .standing standing
  | _ => True

/-! ### States that belong together -/

/-- Two states that are the same, but for the numbers of the calls. -/
structure Together (ρ : Equiv.Perm CallId) (s : LocalRun) (t : Run) : Prop where
  now : t.now = s.now
  desk : t.bus.desk = s.bus.desk.rename ρ
  tasks : t.tasks = s.tasks.map (·.rename ρ)
  held : s.held = true
  linked : t.bus.client.closed = false
  /-- No request waits for room. -/
  roomy : t.bus.client.blocked = []

variable {ρ ρ' : Equiv.Perm CallId} {s : LocalRun} {t : Run} {ks : List Inquiry}
  {fresh : Nat → String}

namespace Together

/-- The tasks go on alike. -/
theorem settle (h : Together ρ s t) : Together ρ s.settle t.settle := by
  have hended : t.bus.desk.settle t.now =
      (renameResults ρ (s.bus.desk.settle s.now).1, (s.bus.desk.settle s.now).2.rename ρ) := by
    rw [h.desk, h.now, Desk.settle_rename]
  refine ⟨h.now, congrArg Prod.snd hended, ?_, h.held, h.linked, h.roomy⟩
  show Task.note t.tasks (t.bus.desk.settle t.now).1 = _
  rw [h.tasks, hended, Task.note_rename]
  rfl

/-- After a step of both the tasks go on. -/
theorem after {a : LocalStep} {b : Step}
    (h : Together ρ (s.stepNow a).2.2 (t.stepNow fresh b).2.2) :
    Together ρ (s.after [a]) (t.after fresh [b]) := h.settle

/-- A number that no call has may be given away. -/
theorem congr (h : Together ρ s t) (hs : s.Sound ks) (hsame : ∀ k ∈ ks, ρ' k.call = ρ k.call) :
    Together ρ' s t := by
  have hguards : ∀ g ∈ s.bus.desk.guards, ρ' g.caller = ρ g.caller := by
    intro g hg
    obtain ⟨k, hk, hholds⟩ := hs.guards g hg
    rw [hholds.caller]
    exact hsame k hk
  have hwaiters : ∀ w ∈ s.bus.desk.waiters, ρ' w.caller = ρ w.caller := by
    intro w hw
    obtain ⟨g, hg, -, rfl⟩ := hs.matched.waiting w hw
    exact hguards g hg
  refine ⟨h.now, ?_, ?_, h.held, h.linked, h.roomy⟩
  · rw [h.desk, Desk.rename_congr _ hwaiters hguards]
  · rw [h.tasks]
    refine List.map_congr_left fun u hu => ?_
    obtain ⟨k, hk, hc⟩ := hs.booked.asked u hu
    rw [Task.rename, Task.rename, ← hc, hsame k hk]

/-! ### What one bus does alone -/

/-- Subscribers come and go and read: the calls do not notice. -/
theorem onlyLocal (h : Together ρ s t) (hs : s.Sound ks) {a : LocalStep}
    (ha : a.readersOnly = true) :
    Together ρ (s.step a).2.2 t := by
  obtain ⟨hdesk, hnow, htasks, hheld⟩ := s.stepNow_readers ha
  have hsettled : (s.stepNow a).2.2.bus.desk.Settled (s.stepNow a).2.2.now := by
    rw [hdesk, hnow]
    exact hs.settled
  rw [LocalRun.step_state, LocalRun.settle_eq hsettled]
  refine ⟨?_, ?_, ?_, ?_, h.linked, h.roomy⟩
  · rw [hnow, h.now]
  · rw [hdesk, h.desk]
  · rw [htasks, h.tasks]
  · rw [hheld, h.held]

/-- The client queues packets and the link takes them: no request waits for that. -/
theorem onlyLink (h : Together ρ s t) (hs : s.Sound ks) {a : Step} (ha : a.clientOnly = true) :
    Together ρ s (t.step fresh a).2.2 := by
  obtain ⟨queue, hstep⟩ := Run.stepNow_client h.roomy fresh ha
  have hsettled : t.bus.desk.Settled t.now := by
    rw [h.desk, h.now]
    exact hs.settled.rename ρ
  have hstate : (t.step fresh a).2.2 =
      { t with bus := { t.bus with client := { t.bus.client with queue } } } := by
    show (t.stepNow fresh a).2.2.settle = _
    rw [hstep]
    exact Run.settle_eq hsettled
  rw [hstate]
  exact ⟨h.now, h.desk, h.tasks, h.held, h.linked, h.roomy⟩

/-! ### What both do -/

/-- A request that fits gets the same result on both sides, or waits on both. -/
theorem request (h : Together ρ s t) {r : Request} {timeout : Duration} (name : String)
    (hfits : (Move.request name r timeout).Fits s t) (hnew : ρ s.nextNumber = t.nextCall) :
    Together ρ (s.start name r timeout) (t.startTask name r timeout) := by
  obtain ⟨hheard, hroom, hplus, hhash⟩ := hfits
  have hallowed : (t.bus.requestPacket r).allowed = true := by
    refine List.all_eq_true.mpr fun c hc => ?_
    rw [Bool.and_eq_true, bne_iff_ne, bne_iff_ne]
    constructor
    · rintro rfl
      exact hplus hc
    · rintro rfl
      exact hhash hc
  obtain ⟨channel, hstart⟩ := LocalRun.start_heard hheard name r timeout
  obtain ⟨queue, hstart'⟩ := Run.startTask_room h.linked hroom hallowed name timeout
  have hask : t.bus.desk.ask t.nextCall r.envelope.requestId timeout t.now =
      ((s.bus.desk.ask s.nextNumber r.envelope.requestId timeout s.now).1,
        (s.bus.desk.ask s.nextNumber r.envelope.requestId timeout s.now).2.rename ρ) := by
    rw [h.desk, h.now, ← hnew, Desk.ask_rename]
  rw [hstart, hstart', hask]
  refine ⟨h.now, rfl, ?_, h.held, h.linked, h.roomy⟩
  show Task.add t.tasks _ = _
  rw [h.tasks, ← hnew]
  exact Task.add_rename ρ s.tasks ⟨name, s.nextNumber, _⟩

/-- A call that is given up goes on both sides. -/
theorem cancel (h : Together ρ s t) (name : String) :
    Together ρ (s.stepNow (.cancel name)).2.2 (t.stepNow fresh (.cancel name)).2.2 := by
  have hfind : Task.find? t.tasks name = (Task.find? s.tasks name).map (·.rename ρ) := by
    rw [h.tasks, Task.find?_rename]
  rw [LocalRun.stepNow, Run.stepNow, hfind]
  cases Task.find? s.tasks name with
  | none => exact h
  | some u =>
    refine ⟨h.now, ?_, ?_, h.held, h.linked, ?_⟩
    · show t.bus.desk.drop (ρ u.call) = _
      rw [h.desk, Desk.drop_rename]
      rfl
    · show Task.remove t.tasks (ρ u.call) = _
      rw [h.tasks, Task.remove_rename]
    · show t.bus.client.blocked.filter _ = []
      rw [h.roomy]
      rfl

/-- A task is asked for its result on both sides. -/
theorem poll (h : Together ρ s t) (name : String) :
    Together ρ (s.stepNow (.poll name)).2.2 (t.stepNow fresh (.poll name)).2.2 := by
  refine ⟨h.now, h.desk, ?_, h.held, h.linked, h.roomy⟩
  show (Task.poll t.tasks name).2 = (Task.poll s.tasks name).2.map _
  rw [h.tasks, Task.poll_rename]

/-- Time passes on both sides alike. -/
theorem advance (h : Together ρ s t) (d : Duration) :
    Together ρ (s.stepNow (.advance d)).2.2 (t.stepNow fresh (.advance d)).2.2 :=
  ⟨congrArg (· + d.nanos) h.now, h.desk, h.tasks, h.held, h.linked, h.roomy⟩

/-- A response that went over the link is the response that was sent. -/
theorem incoming {r : Envelope} {topic : String} (hfits : (Move.respond r topic).Fits s t)
    (words : Wording) (id : String) :
    (t.bus.incoming words id topic r.toWire).1 = (t.bus.desk.complete r).1 ∧
      (t.bus.incoming words id topic r.toWire).2.2 =
        { t.bus with desk := (t.bus.desk.complete r).2 } := by
  obtain ⟨hid, hwhole, hshallow, haccepts⟩ := hfits
  have hreceive : Envelope.receive id r.toWire words = .ok r := by
    rw [Envelope.receive, Envelope.ofWire?_toWire hwhole hshallow]
    exact congrArg Except.ok (Envelope.correlated_eq_self hid id)
  exact Run.incoming_of_response haccepts hreceive

/-- A response on the one side and its message on the other are taken by calls of the same place. -/
theorem respond (h : Together ρ s t) {r : Envelope} {topic : String}
    (hfits : (Move.respond r topic).Fits s t) :
    Together ρ (s.stepNow (.respond r)).2.2
      (t.stepNow fresh (.incoming topic r.toWire)).2.2 := by
  have hcomplete : t.bus.desk.complete r =
      ((s.bus.desk.complete r).1, (s.bus.desk.complete r).2.rename ρ) := by
    rw [h.desk, Desk.complete_rename]
  rw [LocalRun.stepNow, if_pos h.held, Run.stepNow_incoming, ((incoming hfits t.wording _).2),
    hcomplete]
  exact ⟨h.now, rfl, h.tasks, h.held, h.linked, h.roomy⟩

/-- A move has the same answer on both sides. -/
theorem answered (h : Together ρ s t) {a : Move} (hfits : a.Fits s t) :
    a.AnsweredAlike fresh s t := by
  cases a with
  | respond r topic =>
    refine ⟨(s.bus.desk.complete r).1, ?_, ?_⟩
    · show (s.stepNow (.respond r)).1 = _
      rw [LocalRun.stepNow, if_pos h.held]
      rfl
    · rw [(Run.step_incoming fresh t topic r.toWire).1, (incoming hfits t.wording _).1, h.desk,
        Desk.complete_rename]
  | poll name =>
    refine ⟨(Task.poll s.tasks name).1, rfl, ?_⟩
    show Mqtt.Reply.standing (Task.poll t.tasks name).1 = _
    rw [h.tasks, Task.poll_rename]
  | _ => trivial

end Together

/-! ## Runs -/

/-- Two states that belong together, after runs that made the same requests. -/
structure Sides (ρ : Equiv.Perm CallId) (s : LocalRun) (t : Run) (ks : List Inquiry) : Prop where
  together : Together ρ s t
  here : s.Sound ks
  there : t.Tracked (ks.map (·.rename ρ))

namespace Sides

/-- A request that is made on both buses gets the number that its call has on the other one. -/
theorem exists_rename (h : Sides ρ s t ks) :
    ∃ ρ' : Equiv.Perm CallId, ρ' s.nextNumber = t.nextCall ∧ ∀ k ∈ ks, ρ' k.call = ρ k.call := by
  have hnew : ¬ ∃ k ∈ ks, k.call = s.nextNumber := by
    rintro ⟨k, hk, hc⟩
    exact Nat.ne_of_lt (h.here.booked.old k hk) hc
  have hfree : ∀ c, (∃ k ∈ ks, k.call = c) → ρ c ≠ t.nextCall := by
    rintro _ ⟨k, hk, rfl⟩
    exact Nat.ne_of_lt (h.there.booked.old (k.rename ρ) (List.mem_map_of_mem hk))
  obtain ⟨ρ', hfresh, hold⟩ := exists_rename_new ρ hnew hfree
  exact ⟨ρ', hfresh, fun k hk => hold k.call ⟨k, hk, rfl⟩⟩

theorem congr (h : Sides ρ s t ks) (hsame : ∀ k ∈ ks, ρ' k.call = ρ k.call) :
    Sides ρ' s t ks := by
  refine ⟨h.together.congr h.here hsame, h.here, ?_⟩
  rw [Inquiry.map_rename_congr hsame]
  exact h.there

/-- What a move does to both sides, and which request it makes. -/
theorem together_move (h : Sides ρ s t ks) (fresh : Nat → String) {a : Move} (hfits : a.Fits s t) :
    ∃ ρ' : Equiv.Perm CallId, (∀ k ∈ ks, ρ' k.call = ρ k.call) ∧
      Together ρ' (s.after a.here) (t.after fresh a.there) ∧
      t.inquiries fresh a.there = (s.inquiries a.here).map (·.rename ρ') := by
  have hsame : ∀ k ∈ ks, ρ k.call = ρ k.call := fun _ _ => rfl
  cases a with
  | request name r timeout =>
    -- The two buses number their calls on their own, so a new call gets a new pair of numbers.
    obtain ⟨ρ', hnew, hold⟩ := h.exists_rename
    have hstarted := (h.together.congr h.here hold).request name hfits hnew
    have hstep : s.after [.request name r timeout] = (s.start name r timeout).settle := by
      show (s.stepNow (.request name r timeout)).2.2.settle = _
      rw [LocalRun.stepNow, if_pos h.together.held]
    have hasked : s.inquiries [.request name r timeout] =
        [⟨s.nextNumber, r, timeout, s.now⟩] := by
      rw [LocalRun.inquiries, LocalRun.inquiries, LocalRun.asked?, if_pos h.together.held]
      rfl
    refine ⟨ρ', hold, ?_, ?_⟩
    · show Together ρ' (s.after [.request name r timeout]) _
      rw [hstep]
      exact hstarted.settle
    · show [Inquiry.mk t.nextCall r timeout t.now] =
        (s.inquiries [.request name r timeout]).map (·.rename ρ')
      rw [hasked, ← hnew, h.together.now]
      rfl
  | cancel name => exact ⟨ρ, hsame, (h.together.cancel name).after, rfl⟩
  | poll name => exact ⟨ρ, hsame, (h.together.poll name).after, rfl⟩
  | advance d => exact ⟨ρ, hsame, (h.together.advance d).after, rfl⟩
  | respond r topic =>
    refine ⟨ρ, hsame, ?_, rfl⟩
    rw [Move.here, Move.there]
    exact (h.together.respond hfits).after
  | onlyLocal a =>
    refine ⟨ρ, hsame, h.together.onlyLocal h.here hfits, ?_⟩
    cases a with
    | subscribe _ _ | unsubscribe _ | receive _ => rfl
    | _ => cases hfits
  | onlyLink a =>
    refine ⟨ρ, hsame, h.together.onlyLink h.here hfits, ?_⟩
    cases a with
    | request _ _ _ => cases hfits
    | _ => rfl

/-- A move that fits keeps the sides together, by a renumbering that agrees with the one before on
all calls there were. -/
theorem move (h : Sides ρ s t ks) (fresh : Nat → String) {a : Move} (hfits : a.Fits s t) :
    ∃ ρ' : Equiv.Perm CallId, (∀ k ∈ ks, ρ' k.call = ρ k.call) ∧
      Sides ρ' (s.after a.here) (t.after fresh a.there) (ks ++ s.inquiries a.here) ∧
      t.inquiries fresh a.there = (s.inquiries a.here).map (·.rename ρ') := by
  obtain ⟨ρ', hold, htogether, hasked⟩ := h.together_move fresh hfits
  refine ⟨ρ', hold, ⟨htogether, h.here.after a.here, ?_⟩, hasked⟩
  have hthere := h.there.after fresh a.there
  rw [← Inquiry.map_rename_congr hold, hasked, ← List.map_append] at hthere
  exact hthere

/-- Along whole runs one renumbering will do: a call keeps its number. -/
theorem run (h : Sides ρ s t ks) {moves : List Move} (hfit : Fit fresh s t moves) :
    ∃ ρ' : Equiv.Perm CallId, (∀ k ∈ ks, ρ' k.call = ρ k.call) ∧
      ∀ front back, moves = front ++ back →
        Sides ρ' (s.after (front.flatMap Move.here)) (t.after fresh (front.flatMap Move.there))
          (ks ++ s.inquiries (front.flatMap Move.here)) ∧
        t.inquiries fresh (front.flatMap Move.there) =
          (s.inquiries (front.flatMap Move.here)).map (·.rename ρ') ∧
        ∀ a later, back = a :: later → a.AnsweredAlike fresh
          (s.after (front.flatMap Move.here)) (t.after fresh (front.flatMap Move.there)) := by
  induction moves generalizing ρ s t ks with
  | nil =>
    refine ⟨ρ, fun _ _ => rfl, fun front back hsplit => ?_⟩
    obtain ⟨rfl, rfl⟩ := List.append_eq_nil_iff.mp hsplit.symm
    rw [List.flatMap_nil, LocalRun.inquiries, List.append_nil]
    exact ⟨h, rfl, fun a later hmore => absurd hmore.symm (List.cons_ne_nil a later)⟩
  | cons a moves ih =>
    obtain ⟨hfits, hrest⟩ := hfit
    obtain ⟨ρ₁, hold₁, hnext, hasked⟩ := h.move fresh hfits
    -- The renumbering of the rest keeps the calls of this move, so it serves from the start.
    obtain ⟨ρ', hold', hlater⟩ := ih hnext hrest
    have hold : ∀ k ∈ ks, ρ' k.call = ρ k.call :=
      fun k hk => (hold' k (List.mem_append_left _ hk)).trans (hold₁ k hk)
    refine ⟨ρ', hold, fun front back hsplit => ?_⟩
    cases front with
    | nil =>
      obtain rfl : back = a :: moves := hsplit.symm
      rw [List.flatMap_nil, LocalRun.inquiries, List.append_nil]
      refine ⟨h.congr hold, rfl, fun b later hb => ?_⟩
      obtain ⟨rfl, -⟩ := List.cons.inj hb
      exact h.together.answered hfits
    | cons b front =>
      obtain ⟨rfl, htail⟩ := List.cons.inj hsplit
      obtain ⟨hsides, hsame, hnow⟩ := hlater front back htail
      have hfirst : t.inquiries fresh a.there = (s.inquiries a.here).map (·.rename ρ') := by
        rw [hasked]
        exact (Inquiry.map_rename_congr fun k hk =>
          hold' k (List.mem_append_right _ hk)).symm
      rw [List.flatMap_cons, List.flatMap_cons, LocalRun.after_append, Run.after_append,
        LocalRun.inquiries_append, Run.inquiries_append, ← List.append_assoc, List.map_append]
      exact ⟨hsides, by rw [hfirst, hsame], hnow⟩

end Sides

/-- **The two buses agree.**  Let moves be made side by side, each of which fits where it is made.
Then one renumbering `ρ` of the calls does for the whole run, such that after every part of it:

* the clocks show the same time;
* the same requests were made, in the same order, with the same timeouts and at the same times;
* the tasks have the same names and the same results, so a request ends on both buses together: with
  its response, at its deadline, or with one refusal;
* as many requests are in flight on the one as on the other;
* no request is left whose deadline has come;
* the next move has one answer: a response is taken on both buses or on neither, and a task that is
  asked for stands alike. -/
theorem buses_agree (fresh : Nat → String) (n capacity : Nat) (responsePrefix : String) (qos : Qos)
    (words : Wording) (moves : List Move)
    (h : Fit fresh (.ofCapacity n) (.start capacity responsePrefix qos words) moves) :
    ∃ ρ : Equiv.Perm CallId, ∀ front back, moves = front ++ back →
      let s := (LocalRun.ofCapacity n).after (front.flatMap Move.here)
      let t := (Run.start capacity responsePrefix qos words).after fresh (front.flatMap Move.there)
      let asked := (LocalRun.ofCapacity n).inquiries (front.flatMap Move.here)
      t.now = s.now ∧
      (Run.start capacity responsePrefix qos words).inquiries fresh (front.flatMap Move.there) =
        asked.map (·.rename ρ) ∧
      t.tasks = s.tasks.map (·.rename ρ) ∧
      t.bus.desk.inFlight = s.bus.inFlight ∧
      (∀ k ∈ asked, k.deadline ≤ s.now → ¬ Task.Waits s.tasks k.call) ∧
      ∀ a later, back = a :: later → a.AnsweredAlike fresh s t := by
  -- At the start no call was made, so any renumbering will do.
  have hstart : Sides 1 (LocalRun.ofCapacity n) (Run.start capacity responsePrefix qos words) [] :=
    ⟨⟨rfl, rfl, rfl, rfl, rfl, rfl⟩, LocalRun.sound_ofCapacity n,
      Run.tracked_start capacity responsePrefix qos words⟩
  obtain ⟨ρ, -, hall⟩ := hstart.run h
  refine ⟨ρ, fun front back hsplit => ?_⟩
  intro s t asked
  obtain ⟨hsides, hasked, hanswered⟩ := hall front back hsplit
  refine ⟨hsides.together.now, hasked, hsides.together.tasks, ?_, ?_, hanswered⟩
  · show t.bus.desk.waiters.length = s.bus.desk.waiters.length
    rw [hsides.together.desk]
    exact List.length_map ..
  · intro k hk hdue hwaits
    have hwaiting : k ∈ s.waiting asked := LocalRun.mem_waiting.mpr ⟨hk, hwaits⟩
    exact Nat.not_lt.mpr hdue (hsides.here.waiting_proper hwaiting).2

/-- A response to a request. -/
def answerTo (requestId : String) : Envelope := { requestId, correlationId := "C1" }

/-- Three requests, of which the second has the ID of the first.  The first is answered, and the
answer to the third comes when its time is over. -/
def contested : List Move :=
  [.onlyLocal (.subscribe "svcA" "internal/svcA/"), .onlyLink .subscribeResponses,
    .request "t1" (Run.getReading "R1") (.ofMillis 500),
    .request "t2" (Run.getReading "R1") (.ofMillis 500), .onlyLink .drain,
    .request "t3" (Run.getReading "R2") (.ofMillis 500),
    .respond (answerTo "R1") "edgex/response/svcA/R1", .advance (.ofMillis 500),
    .respond (answerTo "R2") "edgex/response/svcA/R2"]

/-- Over the link the three end as they do on the local bus. -/
theorem contested_requests_end_alike :
    Fit (fun _ => "fresh") (.ofCapacity 4) (.start 3 "edgex/response" .atMostOnce) contested ∧
    let t := (Run.start 3 "edgex/response" .atMostOnce).after (fun _ => "fresh")
      (contested.flatMap Move.there)
    t.tasks.map (fun u => (u.name, u.result)) =
      [(some "t3", some (.error (.timedOut "R2" (.ofMillis 500)))),
        (some "t2", some (.error (.alreadyInFlight "R1"))),
        (some "t1", some (.ok (answerTo "R1")))] := by
  have hfit : Fit (fun _ => "fresh") (.ofCapacity 4) (.start 3 "edgex/response" .atMostOnce)
      contested := by
    refine ⟨rfl, rfl, ?_, ?_, rfl, ?_, ?_, trivial, ?_, trivial⟩
    · exact ⟨by decide +kernel, by decide +kernel, by decide, by decide⟩
    · exact ⟨by decide +kernel, by decide +kernel, by decide, by decide⟩
    · exact ⟨by decide +kernel, by decide +kernel, by decide, by decide⟩
    · exact ⟨by decide, nofun, nofun, by decide +kernel⟩
    · exact ⟨by decide, nofun, nofun, by decide +kernel⟩
  refine ⟨hfit, ?_⟩
  obtain ⟨ρ, hagree⟩ :=
    buses_agree (fun _ => "fresh") 4 3 "edgex/response" .atMostOnce {} contested hfit
  obtain ⟨-, -, htasks, -⟩ := hagree contested [] (List.append_nil _).symm
  have hlocal : ((LocalRun.ofCapacity 4).after (contested.flatMap Move.here)).tasks.map
      (fun u => (u.name, u.result)) =
      [(some "t3", some (.error (.timedOut "R2" (.ofMillis 500)))),
        (some "t2", some (.error (.alreadyInFlight "R1"))),
        (some "t1", some (.ok (answerTo "R1")))] := by
    decide +kernel
  intro t
  show ((Run.start 3 "edgex/response" .atMostOnce).after _ _).tasks.map _ = _
  rw [htasks, List.map_map]
  exact hlocal

end Twin

end CommandRelay
