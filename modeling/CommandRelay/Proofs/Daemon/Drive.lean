import CommandRelay.Proofs.Daemon.Links
import CommandRelay.Proofs.Relay.Subscribing

/-!
# What a drive does until shutdown

A drive polls its link, and it watches a value that says whether to shut down.  Whoever holds the
sender of the value may raise it or go away; the drive notices a raised value sooner or later, in
the middle of a pause or between two polls, and until it does it goes on as before.  All the while
the rest of the daemon goes about its own business.

1. **`Moment`, `Watching.Admits`, `Timely`** — what can happen around a drive, and when.  Nothing is
   said on what a link gives, on when and in which order the value is raised and its sender goes
   away, or on what else the daemon does meanwhile, but that it leaves this drive alone.
2. **`Deed`, `deeds`** — what is to be done for a link at each moment: a handler is launched, a
   message is handed to the bus, a packet is offered to its client, something is logged.
   `daemon_next` says that the daemon does this and nothing else.
3. **`stopped_next_iff`, `drive_stopped_iff`** — only a shutdown that is noticed ends a drive.
4. **The theorem** — `drive_serves_until_shutdown_is_noticed`, and right after it a drive with a
   lost connection, a raised value that is noticed late, and a sender that goes away.
-/

namespace CommandRelay.Daemon

open Relay

/-! ## Moments -/

/-- Something that happens around a drive. -/
inductive Moment where
  | polled (p : Polled)
  | pauseOver
  /-- The value that is watched says that the daemon shuts down. -/
  | raised
  /-- The sender of the value goes away. -/
  | abandoned
  /-- The drive notices that the value was raised. -/
  | noticed
  /-- Something else goes on in the daemon, and this is what it comes to. -/
  | meanwhile (s : State)

/-- Where a drive stands after a moment. -/
def Moment.drive (d : Drive) : Moment → Drive
  | .polled .failed => .pausing
  | .pauseOver => .polling
  | .noticed => .stopped
  | .polled .accepted | .polled (.message _ _) | .polled .other | .raised | .abandoned
  | .meanwhile _ => d

/-- A daemon, and the value that a drive of it watches. -/
structure Watching where
  daemon : State
  raised : Bool := false
  /-- Whether the value still has a sender. -/
  held : Bool := true

/-- Where the drive of a link stands. -/
def Watching.drive (w : Watching) (id : LinkId) : Drive := (w.daemon.link id).drive

/-- What can happen next: a link is polled, or a pause ends, only as the drive stands, a value is
raised by its sender, only a raised value is noticed, and the rest of the daemon leaves the drive
alone. -/
def Watching.Admits (w : Watching) (id : LinkId) : Moment → Prop
  | .polled _ => w.drive id = .polling
  | .pauseOver => w.drive id = .pausing
  | .raised | .abandoned => w.held = true
  | .noticed => w.raised = true ∧ w.drive id ≠ .stopped
  | .meanwhile s => (s.link id).drive = w.drive id

/-- The daemon and the value after a moment. -/
def Watching.next (id : LinkId) (w : Watching) : Moment → Watching
  | .polled p => { w with daemon := w.daemon.signal id (.polled p) }
  | .pauseOver => { w with daemon := w.daemon.signal id .pauseOver }
  | .raised => { w with raised := true }
  | .abandoned => { w with daemon := w.daemon.signal id .abandoned, held := false }
  | .noticed => { w with daemon := w.daemon.signal id .shutdown }
  | .meanwhile s => { w with daemon := s }

/-- The daemon and the value after a sequence of moments. -/
def Watching.after (id : LinkId) (w : Watching) (ms : List Moment) : Watching :=
  ms.foldl (next id) w

/-- Each moment can happen when it does. -/
def Timely (id : LinkId) : Watching → List Moment → Prop
  | _, [] => True
  | w, m :: ms => w.Admits id m ∧ Timely id (w.next id m) ms

/-! ## What is to be done -/

/-- Something that is done in the world for a link. -/
inductive Deed where
  /-- A handler is launched, and goes as far as it can. -/
  | launch (p : Program Unit)
  /-- A message is handed to the internal bus, and whoever it wakes goes as far as it can. -/
  | hand (topic : String) (payload : List UInt8)
  /-- A packet is offered to the client of the internal bus. -/
  | offer (p : Mqtt.Packet)
  | log (e : Event)

/-- The world when something was done in it. -/
def Deed.done (w : World) : Deed → World
  | .launch p => (w.launch p).2.settle
  | .hand topic payload => (w.incoming topic payload).2.settle
  | .offer p =>
    match w.bus with
    | .link b => { w with bus := .link { b with client := (b.client.offer p).2 } }
    | .process _ | .broken _ => w
  | .log e => { w with log := w.log ++ [e] }

/-- What is to be done on a new connection. -/
def resubscription (w : World) : LinkId → List Deed
  | .external => [.launch (connect w.settings)]
  | .internal =>
    match w.bus with
    | .link b =>
      .offer (.subscribe (Topic.join [b.responsePrefix, "#"]) b.qos) ::
        if b.client.closed then [.log (State.refusedResponses b)] else []
    | .process _ | .broken _ => []

/-- What is to be done with a message. -/
def forwarding (w : World) (topic : String) (payload : List UInt8) : LinkId → List Deed
  | .external => [.launch (dispatch w.settings topic payload)]
  | .internal => [.hand topic payload]

/-- What is to be done for a link at a moment. -/
def deeds (w : World) (id : LinkId) : Moment → List Deed
  | .polled .accepted => resubscription w id
  | .polled (.message topic payload) => forwarding w topic payload id
  | .polled .failed => [.log (lostEvent id)]
  | .polled .other | .pauseOver | .raised | .abandoned | .noticed | .meanwhile _ => []

namespace State

/-- A daemon about to serve a link: before a new connection is subscribed on, the link sends what
was queued. -/
def ready (s : State) (id : LinkId) : Moment → State
  | .polled .accepted => s.flush id
  | _ => s

/-- A daemon that has served a link at a moment: in its world, what was to be done was done, one
thing after the other and nothing besides, and outside of it the drive of the link has moved. -/
def served (s : State) (id : LinkId) (m : Moment) : State :=
  let s := s.ready id m
  let done : State := { s with world := (deeds s.world id m).foldl Deed.done s.world }
  done.setLink id { s.link id with drive := m.drive (s.link id).drive }

/-! ## What is done -/

variable {s : State} {id : LinkId}

/-- A link that is given the drive it has is as it was. -/
theorem setLink_self {d : Drive} (h : (s.link id).drive = d) :
    s.setLink id { s.link id with drive := d } = s := by
  subst h
  cases id with
  | external => rfl
  | internal => rfl

/-- What a link sends leaves its drive alone. -/
theorem drive_flush (s : State) (id : LinkId) :
    ((s.flush id).link id).drive = (s.link id).drive := by
  have hlink : ((s.flush id).link id).bare = (s.link id).bare :=
    congrFun (congrArg Frame.links (frame_flush s id)) id
  exact (congrArg Link.drive hlink : _)

/-- The client of the bus refuses to subscribe if it is closed, and only then. -/
theorem offer_subscription_refused_iff (b : Mqtt.Bus) :
    (b.client.offer b.subscription).1 = .refused ↔ b.client.closed = true := by
  unfold Mqtt.Client.offer
  cases b.client.closed with
  | true => exact iff_of_true rfl rfl
  | false =>
    refine iff_of_false ?_ Bool.false_ne_true
    split
    · rename_i hrefused
      cases hrefused
    · split <;> exact nofun

/-- A new connection is subscribed on as it is to be. -/
theorem subscribe_eq (s : State) (id : LinkId) : s.subscribe id =
    { s with world := (resubscription s.world id).foldl Deed.done s.world } := by
  cases id with
  | external => rfl
  | internal =>
    cases hbus : s.world.bus with
    | process b => simp only [subscribe, resubscription, hbus, List.foldl_nil]
    | broken f => simp only [subscribe, resubscription, hbus, List.foldl_nil]
    | link b =>
      have hdeeds : resubscription s.world .internal = .offer b.subscription ::
          if b.client.closed then [.log (refusedResponses b)] else [] := by
        simp only [resubscription, hbus, Mqtt.Bus.subscription, Mqtt.Bus.responseFilter]
      have hoffer : Deed.done s.world (.offer b.subscription) =
          { s.world with bus := .link { b with client := (b.client.offer b.subscription).2 } } := by
        simp only [Deed.done, hbus]
      rw [hdeeds, List.foldl_cons, hoffer]
      simp only [subscribe, hbus, offer_subscription_refused_iff]
      split
      · rfl
      · rfl

/-- A message is forwarded as it is to be. -/
theorem forward_eq (s : State) (topic : String) (payload : List UInt8) (id : LinkId) :
    s.forward topic payload id =
      { s with world := (forwarding s.world topic payload id).foldl Deed.done s.world } := by
  cases id with
  | external => rfl
  | internal => rfl

/-- A signal, told by what the drive makes of it. -/
theorem signal_eq {g : Signal} {actions : List Action} {d : Drive}
    (h : (s.link id).drive.step id g = (actions, d)) : s.signal id g =
      actions.foldl (fun s a => s.obey id a) (s.setLink id { s.link id with drive := d }) := by
  unfold signal
  dsimp only
  rw [h]

/-- What comes to a polling drive is dealt with as it is to be. -/
theorem signal_polled (h : (s.link id).drive = .polling) (p : Polled) :
    s.signal id (.polled p) = s.served id (.polled p) := by
  have hself := setLink_self h
  -- One case for each outcome of a poll: what the drive does with it is one step of the drive.
  cases p with
  | accepted =>
    have hstep : (s.link id).drive.step id (.polled .accepted) = ([.subscribe], .polling) := by
      rw [h]
      rfl
    rw [signal_eq hstep, hself]
    exact (subscribe_eq (s.flush id) id).trans (setLink_self rfl).symm
  | message topic payload =>
    have hstep : (s.link id).drive.step id (.polled (.message topic payload)) =
        ([.forward topic payload], .polling) := by
      rw [h]
      rfl
    rw [signal_eq hstep, hself]
    exact (forward_eq s topic payload id).trans (setLink_self rfl).symm
  | other =>
    have hstep : (s.link id).drive.step id (.polled .other) = ([], .polling) := by
      rw [h]
      rfl
    rw [signal_eq hstep, hself]
    exact (setLink_self rfl).symm
  | failed =>
    have hstep : (s.link id).drive.step id (.polled .failed) =
        ([.log (lostEvent id)], .pausing) := by
      rw [h]
      rfl
    rw [signal_eq hstep]
    cases id with
    | external => rfl
    | internal => rfl

end State

/-! ## Runs of a drive -/

variable {id : LinkId} {w : Watching} {m : Moment} {ms : List Moment}

/-- At each moment that can come, the daemon does what is to be done, unless it is about something
else. -/
theorem daemon_next (h : w.Admits id m) (hm : ∀ s, m ≠ .meanwhile s) :
    (w.next id m).daemon = w.daemon.served id m := by
  -- where nothing is to be done, only the drive may have moved
  have hquiet : ∀ {g : Signal}, (w.drive id).step id g = ([], m.drive (w.drive id)) →
      deeds w.daemon.world id m = [] → w.daemon.ready id m = w.daemon →
        w.daemon.signal id g = w.daemon.served id m := by
    intro g hstep hnone hready
    unfold State.served
    dsimp only
    rw [State.signal_eq hstep, hready, hnone]
    rfl
  cases m with
  | polled p => exact State.signal_polled h p
  | pauseOver =>
    have hpausing : w.drive id = .pausing := h
    exact hquiet (by rw [hpausing]; rfl) rfl rfl
  | raised => exact (State.setLink_self rfl).symm
  | abandoned =>
    refine hquiet ?_ rfl rfl
    cases w.drive id with
    | polling => rfl
    | pausing => rfl
    | stopped => rfl
  | noticed => exact hquiet (Drive.step_shutdown id _) rfl rfl
  | meanwhile s => exact absurd rfl (hm s)

/-- Where the drive stands next. -/
theorem drive_next (h : w.Admits id m) : (w.next id m).drive id = m.drive (w.drive id) := by
  by_cases hm : ∃ s, m = .meanwhile s
  · obtain ⟨s, rfl⟩ := hm
    exact h
  · have hserved := daemon_next h fun s hs => hm ⟨s, hs⟩
    have hlink : (w.next id m).drive id = m.drive ((w.daemon.ready id m).link id).drive := by
      unfold Watching.drive
      rw [hserved, State.served, State.link_setLink_self]
    rw [hlink]
    congr 1
    cases m with
    | polled p =>
      cases p with
      | accepted => exact State.drive_flush w.daemon id
      | message topic payload => rfl
      | other => rfl
      | failed => rfl
    | _ => rfl

/-- Moments are timely if the first ones are, and the others after them. -/
theorem timely_append {ms' : List Moment} :
    Timely id w (ms ++ ms') ↔ Timely id w ms ∧ Timely id (w.after id ms) ms' := by
  induction ms generalizing w with
  | nil => exact ⟨fun h => ⟨trivial, h⟩, fun h => h.2⟩
  | cons m ms ih =>
    show w.Admits id m ∧ Timely id (w.next id m) (ms ++ ms') ↔
      (w.Admits id m ∧ Timely id (w.next id m) ms) ∧ Timely id ((w.next id m).after id ms) ms'
    rw [ih, and_assoc]

theorem after_append (id : LinkId) (w : Watching) (ms ms' : List Moment) :
    w.after id (ms ++ ms') = (w.after id ms).after id ms' := List.foldl_append

/-! ## When a drive ends -/

/-- The flag of shutdown is up after some moments if it was before or is raised in one of them. -/
theorem raised_after : (w.after id ms).raised = true ↔ w.raised = true ∨ .raised ∈ ms := by
  induction ms generalizing w with
  | nil => simp [Watching.after]
  | cons m ms ih =>
    show ((w.next id m).after id ms).raised = true ↔ _
    rw [ih, List.mem_cons, ← or_assoc]
    refine or_congr ?_ Iff.rfl
    cases m with
    | raised => exact iff_of_true rfl (.inr rfl)
    | _ => exact (or_iff_left nofun).symm

/-- Around a drive that has stopped, only others act. -/
theorem quiet_of_stopped (h : Timely id w ms) (hstopped : w.drive id = .stopped) :
    ∀ m ∈ ms, m = .raised ∨ m = .abandoned ∨ ∃ s, m = .meanwhile s := by
  induction ms generalizing w with
  | nil => exact List.forall_mem_nil _
  | cons m ms ih =>
    obtain ⟨hnow, hlater⟩ := h
    have hm : m = .raised ∨ m = .abandoned ∨ ∃ s, m = .meanwhile s := by
      cases m with
      | polled p =>
        have hpolling : w.drive id = .polling := hnow
        rw [hstopped] at hpolling
        cases hpolling
      | pauseOver =>
        have hpausing : w.drive id = .pausing := hnow
        rw [hstopped] at hpausing
        cases hpausing
      | raised => exact .inl rfl
      | abandoned => exact .inr (.inl rfl)
      | noticed => exact absurd hstopped hnow.2
      | meanwhile s => exact .inr (.inr ⟨s, rfl⟩)
    have hstill : (w.next id m).drive id = .stopped := by
      rw [drive_next hnow, hstopped]
      rcases hm with rfl | rfl | ⟨s, rfl⟩ <;> rfl
    exact List.forall_mem_cons.mpr ⟨hm, ih hlater hstill⟩

/-- Only a shutdown that is noticed stops a drive. -/
theorem stopped_next_iff (h : w.Admits id m) (hgoes : w.drive id ≠ .stopped) :
    (w.next id m).drive id = .stopped ↔ m = .noticed := by
  rw [drive_next h]
  cases m with
  | polled p =>
    cases p with
    | failed => exact iff_of_false nofun nofun
    | _ => exact iff_of_false hgoes nofun
  | pauseOver => exact iff_of_false nofun nofun
  | noticed => exact iff_of_true rfl rfl
  | _ => exact iff_of_false hgoes nofun

/-- A drive that has stopped stays so. -/
theorem stopped_after (h : Timely id w ms) (hstopped : w.drive id = .stopped) :
    (w.after id ms).drive id = .stopped := by
  induction ms generalizing w with
  | nil => exact hstopped
  | cons m ms ih =>
    refine ih h.2 ?_
    rw [drive_next h.1, hstopped]
    rcases quiet_of_stopped h hstopped m List.mem_cons_self with rfl | rfl | ⟨s, rfl⟩ <;> rfl

/-- A drive ends exactly if it notices the shutdown. -/
theorem drive_stopped_iff (h : Timely id w ms) (hgoes : w.drive id ≠ .stopped) :
    (w.after id ms).drive id = .stopped ↔ .noticed ∈ ms := by
  induction ms generalizing w with
  | nil => exact iff_of_false hgoes List.not_mem_nil
  | cons m ms ih =>
    obtain ⟨hnow, hlater⟩ := h
    show ((w.next id m).after id ms).drive id = .stopped ↔ _
    by_cases hm : m = .noticed
    · subst hm
      have hstopped := (stopped_next_iff hnow hgoes).mpr rfl
      exact iff_of_true (stopped_after hlater hstopped) List.mem_cons_self
    · have hstill : (w.next id m).drive id ≠ .stopped := fun hstopped =>
        hm ((stopped_next_iff hnow hgoes).mp hstopped)
      rw [ih hlater hstill, List.mem_cons, or_iff_right (Ne.symm hm)]

/-! ## What is queued on a new connection -/

/-- Once a connected link of the bus has sent what was queued, its queue is empty. -/
theorem queue_of_flush {s : State} {b : Mqtt.Bus} (hwire : (s.link .internal).wire = .connected)
    (hbus : (s.flush .internal).world.bus = .link b) : b.client.queue = [] := by
  unfold State.flush at hbus
  rw [if_pos hwire] at hbus
  replace hbus : s.world.drainInternal.2.bus = .link b := hbus
  unfold World.drainInternal at hbus
  split at hbus
  · rename_i hprocess
    rw [hprocess] at hbus
    cases hbus
  · rename_i hbroken
    rw [hbroken] at hbus
    cases hbus
  · rename_i b' hlink
    obtain ⟨timers, htimers⟩ := World.exists_setWaitTimers
      { s.world with bus := .link (b'.drain s.world.now).2 }
    obtain rfl : (b'.drain s.world.now).2 = b := by
      have hdrained := hbus
      dsimp only at hdrained
      rw [htimers] at hdrained
      exact InternalBus.link.inj hdrained
    rw [Mqtt.Bus.drain_client]
    rfl

/-- On a client with room, the subscription to the responses is queued at once. -/
theorem bus_of_resubscription {w : World} {b : Mqtt.Bus} (hbus : w.bus = .link b)
    (hopen : b.client.closed = false) (hroom : b.client.queue.length < b.client.capacity) :
    ((resubscription w .internal).foldl Deed.done w).bus = .link { b with
      client := { b.client with queue :=
        b.client.queue ++ [.subscribe (Topic.join [b.responsePrefix, "#"]) b.qos] } } := by
  have hoffer : b.client.offer (.subscribe (Topic.join [b.responsePrefix, "#"]) b.qos) =
      (.sent, { b.client with queue :=
        b.client.queue ++ [.subscribe (Topic.join [b.responsePrefix, "#"]) b.qos] }) := by
    simp only [Mqtt.Client.offer, hopen, Mqtt.Packet.allowed, Bool.not_true, Bool.or_false,
      Bool.false_eq_true, if_false, if_pos hroom]
  simp only [resubscription, hbus, hopen, Bool.false_eq_true, if_false, List.foldl_cons,
    List.foldl_nil, Deed.done, hoffer]

/-! ## The theorem -/

/-- **A drive serves its link until it notices the shutdown.**  Whatever its link gives, whenever
the value that it watches is raised or its sender goes away, and whatever else the daemon does
meanwhile:

* at each moment the daemon does what is to be done for the link, and nothing else.  So for every
  message that was polled, and in their order, one handler of messages is launched, or the bus is
  handed the message once; on every accepted connection what was queued is sent, and then one
  handler of connections is launched, or the client of the bus is asked once for the filter of
  responses;
* the drive ends exactly if it notices that the value was raised, and does nothing afterwards, also
  when it was in a pause; until then there is always something that it goes on with, and a raised
  value can be noticed;
* the handler of connections asks for each filter of requests that is configured and not empty, the
  queries first and whatever the broker answers; if nothing else is left to run and there is room,
  these packets are queued in this order as soon as it was launched;
* a connected link of the bus has room, and there the filter of responses is queued at once. -/
theorem drive_serves_until_shutdown_is_noticed (id : LinkId) (s₀ : State) (moments : List Moment)
    (hpolling : (s₀.link id).drive = .polling) (htimely : Timely id { daemon := s₀ } moments) :
    let daemon (ms : List Moment) : State := (Watching.after id { daemon := s₀ } ms).daemon
    (∀ before m after, moments = before ++ m :: after → (∀ s, m ≠ .meanwhile s) →
      daemon (before ++ [m]) = (daemon before).served id m) ∧
    (((daemon moments).link id).drive = .stopped ↔ .noticed ∈ moments) ∧
    (∀ before after, moments = before ++ .noticed :: after →
      .raised ∈ before ∧ ∀ m ∈ after, m = .raised ∨ m = .abandoned ∨ ∃ s, m = .meanwhile s) ∧
    (.noticed ∉ moments →
      ((∀ p, Timely id { daemon := s₀ } (moments ++ [.polled p])) ∨
        Timely id { daemon := s₀ } (moments ++ [.pauseOver])) ∧
      (.raised ∈ moments → Timely id { daemon := s₀ } (moments ++ [.noticed]))) ∧
    (∀ {σ : Type} (answer : (e : Effect) → σ → e.Answer × σ) (start : σ) (s : Settings),
      subscriptions (Program.trace answer (connect s) start) =
        (requestFilters s).map (·, s.delivery.qos)) ∧
    (∀ (w : World) (client : Mqtt.Client CallId), w.Resting → w.broker = .link client →
      client.closed = false →
      client.queue.length + (requestFilters w.settings).length ≤ client.capacity →
        ((resubscription w .external).foldl Deed.done w).broker = .link { client with
          queue := client.queue ++
            (requestFilters w.settings).map (.subscribe · w.settings.delivery.qos) }) ∧
    ∀ (s : State) (b : Mqtt.Bus), (s.link .internal).wire = .connected →
      (s.flush .internal).world.bus = .link b → b.client.closed = false → 0 < b.client.capacity →
        ((resubscription (s.flush .internal).world .internal).foldl Deed.done
          (s.flush .internal).world).bus = .link { b with client := { b.client with
            queue := [.subscribe (Topic.join [b.responsePrefix, "#"]) b.qos] } } := by
  intro daemon
  -- A drive that polls has not stopped, so it stops at a moment of the run or never.
  have hgoes : ({ daemon := s₀ } : Watching).drive id ≠ .stopped := by
    rw [Watching.drive, hpolling]
    exact nofun
  have hends := drive_stopped_iff htimely hgoes
  refine ⟨?_, hends, ?_, ?_, ?_, ?_, ?_⟩
  · -- What a moment does depends on the daemon just before it only.
    rintro before m after rfl hm
    obtain ⟨-, hnow, -⟩ := timely_append.mp htimely
    show (Watching.after id _ (before ++ [m])).daemon = _
    rw [after_append]
    exact daemon_next hnow hm
  · -- A noticed value has stopped the drive, and it can only be noticed if it was raised before.
    rintro before after rfl
    obtain ⟨-, hnoticed, hafter⟩ := timely_append.mp htimely
    have hstopped := (stopped_next_iff hnoticed hnoticed.2).mpr rfl
    refine ⟨?_, quiet_of_stopped hafter hstopped⟩
    rcases raised_after.mp hnoticed.1 with hstart | hraised
    · cases hstart
    · exact hraised
  · -- A drive that noticed nothing polls or pauses, and each of these has a moment that goes on.
    intro hsilent
    have hgoing : (Watching.after id { daemon := s₀ } moments).drive id ≠ .stopped :=
      fun hstopped => hsilent (hends.mp hstopped)
    have hnext : ∀ {m}, (Watching.after id { daemon := s₀ } moments).Admits id m →
        Timely id { daemon := s₀ } (moments ++ [m]) := fun hm =>
      timely_append.mpr ⟨htimely, hm, trivial⟩
    refine ⟨?_, fun hraised => hnext ⟨raised_after.mpr (.inr hraised), hgoing⟩⟩
    cases hdrive : (Watching.after id { daemon := s₀ } moments).drive id with
    | polling => exact .inl fun p => hnext hdrive
    | pausing => exact .inr (hnext hdrive)
    | stopped => exact absurd hdrive hgoing
  · intro σ answer start s
    exact subscriptions_connect (Program.path_trace answer (connect s) start)
  · intro w client hrest hbroker hopen hroom
    exact World.broker_of_connect hrest hbroker hopen hroom
  · intro s b hwire hbus hopen hcapacity
    have hempty := queue_of_flush hwire hbus
    have hqueued := bus_of_resubscription hbus hopen (by rw [hempty]; exact hcapacity)
    rwa [hempty] at hqueued

/-- What is queued at the client of the internal bus. -/
def queued : InternalBus → List Mqtt.Packet
  | .link b => b.client.queue
  | .process _ | .broken _ => []

/-- A daemon whose links are polled, with what a decoder says of no octets at all. -/
def alone : State := .initial {} "edgex/response" true toString
  { envelope := fun _ => "EOF while parsing a value at line 1 column 0" }

/-- A drive loses its connection, is accepted after the pause, and loses it again; the shutdown is
raised before the last message is polled, and noticed in the second pause. -/
def lateNotice : List Moment :=
  [.polled .failed, .pauseOver, .polled .accepted, .polled (.message "edgex/response/a" []),
    .raised, .polled (.message "b" []), .abandoned, .polled .failed, .noticed]

/-- The theorem for this drive: one subscription is queued, both losses are logged, and of the
messages only the one that is no response goes unnoticed. -/
theorem late_notice_ends_the_second_pause :
    (alone.link .internal).drive = .polling ∧ Timely .internal { daemon := alone } lateNotice ∧
    let s := (Watching.after .internal { daemon := alone } lateNotice).daemon
    (s.link .internal).drive = .stopped ∧
    s.world.log = [lostEvent .internal,
      .warning "dropping undecodable internal response"
        [("topic", .text "edgex/response/a"),
          ("error", .fault (.undecodable "EOF while parsing a value at line 1 column 0"))],
      lostEvent .internal] ∧
    queued s.world.bus = [.subscribe "edgex/response/#" .atMostOnce] := by
  have htimely : Timely .internal { daemon := alone } lateNotice :=
    ⟨rfl, rfl, rfl, rfl, rfl, rfl, rfl, rfl, ⟨rfl, nofun⟩, trivial⟩
  obtain ⟨-, hstopped, -⟩ :=
    drive_serves_until_shutdown_is_noticed .internal alone lateNotice rfl htimely
  refine ⟨rfl, htimely, hstopped.mpr ?_, by decide +kernel, by decide +kernel⟩
  exact List.mem_append_right (lateNotice.take 8) List.mem_cons_self

end CommandRelay.Daemon
