import CommandRelay.Proofs.Daemon.Links

/-!
# How the daemon takes its leave

Once shutdown is signalled, both drives stop and their links go; only then are the two clients asked
to disconnect.  A client whose link is gone refuses everything, and so no broker is ever told.

1. **`Signalled`** — which sequences of steps shut the daemon down.
2. **`offerDisconnect_of_shut`, `departed_stop`** — a client that was shut refuses the farewell, and
   when both are asked, both are shut.
3. **`Goes`** — nothing but the shutdown decides the farewell of a link (`goes_act`).
4. **The theorem** — `farewells_are_refused`: in every run, whenever shutdown comes and whatever
   state the two links are in then, both farewells are refused and no broker has ever received one;
   and right after it a run with two connected links that ends so.
-/

namespace CommandRelay.Daemon

open Relay

/-! ## Which runs end -/

/-- Shutdown is signalled, and whoever signals it has not gone away before. -/
def Signalled (steps : List Step) : Prop :=
  ∃ before after, steps = before ++ .shutdown :: after ∧ .disarm ∉ before

/-- A daemon has been told to shut down by the last step or was before. -/
theorem signalled_concat {past : List Step} {a : Step} :
    Signalled (past ++ [a]) ↔ Signalled past ∨ a = .shutdown ∧ .disarm ∉ past := by
  constructor
  · rintro ⟨before, after, hsplit, harmed⟩
    rcases List.eq_nil_or_concat after with rfl | ⟨after, last, rfl⟩
    · obtain ⟨rfl, hlast⟩ := List.append_inj' hsplit rfl
      exact .inr ⟨List.singleton_injective hlast, harmed⟩
    · left
      refine ⟨before, after, ?_, harmed⟩
      have hsplit' : past ++ [a] = (before ++ .shutdown :: after) ++ [last] := by
        rw [hsplit, List.concat_eq_append, List.append_assoc, List.cons_append]
      exact (List.append_inj' hsplit' rfl).1
  · rintro (⟨before, after, rfl, harmed⟩ | ⟨rfl, harmed⟩)
    · exact ⟨before, after ++ [a], by rw [List.append_assoc, List.cons_append], harmed⟩
    · exact ⟨past, [], rfl, harmed⟩

/-- A link has been left: it is gone, its drive has stopped, and nobody took the farewell. -/
def Link.Departed (l : Link) : Prop :=
  l.farewell = some .refused ∧ l.wire = .gone ∧ l.drive = .stopped

namespace State

variable {s : State}

/-! ## Shutting down -/

/-- The client of a link, if it has one, takes nothing more. -/
def Shut (s : State) : LinkId → Prop
  | .external => ∀ client, s.world.broker = .link client → client.closed = true
  | .internal => ∀ b, s.world.bus = .link b → b.client.closed = true

/-- Nobody says farewell on a link whose client was shut. -/
theorem offerDisconnect_of_shut {id : LinkId} (h : s.Shut id) :
    s.offerDisconnect id = (.refused, s) := by
  have hoffer : ∀ {τ : Type} {client : Mqtt.Client τ}, client.closed = true →
      client.offer .disconnect = (.refused, client) := by
    intro τ client hclosed
    unfold Mqtt.Client.offer
    rw [hclosed]
    rfl
  unfold offerDisconnect
  cases id with
  | external =>
    dsimp only
    split
    · rename_i client hbroker
      rw [hoffer (h client hbroker), ← hbroker]
    · rfl
  | internal =>
    dsimp only
    split
    · rename_i b hbus
      rw [hoffer (h b hbus), ← hbus]
    · rfl
    · rfl

/-- A client that is shut refuses the request to disconnect. -/
theorem disconnect_of_shut {id : LinkId} (h : s.Shut id) :
    s.disconnect id = s.setLink id { s.link id with farewell := some .refused } := by
  unfold disconnect
  rw [offerDisconnect_of_shut h]

/-- A client that is shut stays so whatever becomes of a link. -/
theorem Shut.setLink {id : LinkId} (h : s.Shut id) (id' : LinkId) (l : Link) :
    (s.setLink id' l).Shut id := by
  have hworld := setLink_world s id' l
  cases id with
  | external =>
    intro client hbroker
    rw [hworld] at hbroker
    exact h client hbroker
  | internal =>
    intro b hbus
    rw [hworld] at hbus
    exact h b hbus

/-- To signal shutdown changes nothing in the world. -/
theorem signal_shutdown_world (s : State) (id : LinkId) :
    (s.signal id .shutdown).world = s.world := by
  have hquiet : ((s.link id).drive.step id .shutdown).1 = [] := by rw [Drive.step_shutdown]
  rw [signal_of_quiet hquiet]
  exact setLink_world s id _

/-- A link that goes shuts its client. -/
theorem shut_release (s : State) (id : LinkId) : (s.release id).Shut id := by
  unfold release
  cases id with
  | external =>
    dsimp only
    split
    · intro client hbroker
      cases hbroker
      rfl
    · rename_i hrecording
      intro client hbroker
      rw [hrecording] at hbroker
      cases hbroker
  | internal =>
    dsimp only
    split
    · intro b hbus
      cases hbus
      rfl
    · rename_i hprocess
      intro b hbus
      rw [hprocess] at hbus
      cases hbus
    · rename_i hbroken
      intro b hbus
      rw [hbroken] at hbus
      cases hbus

/-- The other client stays shut when the external link goes. -/
theorem Shut.release_external (h : s.Shut .internal) : (s.release .external).Shut .internal := by
  have hworld : ((s.signal .external .shutdown).setLink .external
      { (s.signal .external .shutdown).link .external with
        wire := .gone
        hungUp := ((s.signal .external .shutdown).link .external).wire = .connected }).world =
      s.world := by
    rw [setLink_world, signal_shutdown_world]
  unfold release
  dsimp only
  split
  · intro b hbus
    rw [hworld] at hbus
    exact h b hbus
  · intro b hbus
    rw [hworld] at hbus
    exact h b hbus

/-- When the daemon shuts down, it leaves both links. -/
theorem departed_stop (s : State) (id : LinkId) : (s.stop.link id).Departed := by
  -- Both drives are released first, so both links are shut when the clients are told to leave.
  have hexternal : ((s.release .internal).release .external).Shut .external := shut_release _ _
  have hinternal : ((s.release .internal).release .external).Shut .internal :=
    (shut_release s .internal).release_external
  have hframe : s.stop.frame.links id = (((s.release .internal).release .external).disconnect
      .external |>.disconnect .internal).frame.links id := by
    unfold stop frame
    cases id with
    | external => rfl
    | internal => rfl
  have hother : LinkId.external ≠ .internal := nofun
  show s.stop.frame.links id |>.Departed
  rw [hframe, disconnect_of_shut hexternal, disconnect_of_shut (hinternal.setLink _ _),
    frame_setLink, frame_setLink]
  cases id with
  | external =>
    rw [Frame.set_of_ne _ hother, Frame.set_self]
    have hlink : ((s.release .internal).release .external).frame.links .external = _ :=
      congrArg (fun f : Frame => f.links .external) (frame_release (s.release .internal) .external)
    rw [Frame.set_self] at hlink
    exact ⟨rfl, congrArg Link.wire hlink, congrArg Link.drive hlink⟩
  | internal =>
    rw [Frame.set_self]
    have hkept : ∀ l, (((s.release .internal).release .external).setLink .external l).link .internal
        = ((s.release .internal).release .external).link .internal := fun _ => rfl
    have hlink : ((s.release .internal).release .external).frame.links .internal = _ :=
      congrArg (fun f : Frame => f.links .internal) (frame_release (s.release .internal) .external)
    rw [Frame.set_of_ne _ hother.symm, frame_release s .internal, Frame.set_self] at hlink
    rw [hkept]
    exact ⟨rfl, congrArg Link.wire hlink, congrArg Link.drive hlink⟩

/-- Stopping asks clients to disconnect that refuse it. -/
theorem Staying.stop (h : s.Staying) : s.stop.Staying := by
  have hexternal : ((s.release .internal).release .external).Shut .external := shut_release _ _
  have hinternal : ((s.release .internal).release .external).Shut .internal :=
    (shut_release s .internal).release_external
  have hreleased := (h.release .internal).release .external
  have hboth : ((((s.release .internal).release .external).disconnect .external).disconnect
      .internal).Staying := by
    rw [disconnect_of_shut hexternal, disconnect_of_shut (hinternal.setLink _ _)]
    apply Staying.setLink
    · apply Staying.setLink
      · exact hreleased
      · exact hreleased.2 .external
    · exact hreleased.2 .internal
  exact ⟨hboth.1, hboth.2⟩

end State

/-! ## Going on -/

/-- Two frames of a daemon that has not shut down in between. -/
structure Frame.Goes (f f' : Frame) : Prop where
  standing : f'.standing = f.standing
  armed : f'.armed = f.armed
  farewell : ∀ id, (f'.links id).farewell = (f.links id).farewell

theorem Frame.goes_refl (f : Frame) : f.Goes f := ⟨rfl, rfl, fun _ => rfl⟩

theorem Frame.Goes.trans {f f' f'' : Frame} (h : f.Goes f') (h' : f'.Goes f'') : f.Goes f'' :=
  ⟨h'.standing.trans h.standing, h'.armed.trans h.armed,
    fun id => (h'.farewell id).trans (h.farewell id)⟩

/-- A link may change as it goes on, but not in how its farewell went. -/
theorem Frame.goes_set {f : Frame} {id : LinkId} {l : Link}
    (h : l.farewell = (f.links id).farewell) : f.Goes (f.set id l) := by
  refine ⟨rfl, rfl, ?_⟩
  intro id'
  by_cases hid : id' = id
  · rw [hid, set_self, h]
  · rw [set_of_ne f hid]

namespace State

variable {s : State}

theorem goes_signal (s : State) (id : LinkId) (g : Signal) :
    s.frame.Goes (s.signal id g).frame := by
  rw [frame_signal]
  exact Frame.goes_set rfl

theorem goes_setWire (s : State) (id : LinkId) (w : Wire) :
    s.frame.Goes (s.setWire id w).frame := by
  rw [frame_setWire]
  exact Frame.goes_set rfl

theorem goes_lose (s : State) (id : LinkId) : s.frame.Goes (s.lose id).frame :=
  (goes_signal s id _).trans (goes_setWire _ id _)

theorem goes_connect (s : State) (id : LinkId) : s.frame.Goes (s.connect id).frame := by
  unfold connect
  split
  · exact goes_setWire s id _
  · exact goes_lose s id

theorem goes_wake (s : State) (id : LinkId) : s.frame.Goes (s.wake id).frame := by
  unfold wake
  split
  · split
    · exact goes_lose s id
    · exact s.frame.goes_refl
  · split
    · exact (goes_signal s id _).trans (goes_connect _ id)
    · exact s.frame.goes_refl
  · exact s.frame.goes_refl
  · exact s.frame.goes_refl

theorem goes_flushAll (s : State) : s.frame.Goes s.flushAll.frame := by
  rw [frame_flushAll]
  exact s.frame.goes_refl

theorem goes_advance (s : State) (d : Duration) : s.frame.Goes (s.advance d).frame :=
  ((goes_wake { s with world := s.world.advance d } .external).trans
    (goes_wake _ .internal)).trans (goes_flushAll _)

theorem goes_clear (s : State) : s.frame.Goes s.clear.frame := by
  refine ⟨rfl, rfl, ?_⟩
  intro id
  cases id with
  | external => rfl
  | internal => rfl

/-- What neither shuts the daemon down nor disarms it. -/
def Ordinary (s : State) : Step → Prop
  | .shutdown => s.armed = false
  | .disarm => False
  | .answer _ _ | .deliver _ _ _ | .hangUp _ | .advance _ => True

/-- Every step but the one that shuts down leaves the shutdown where it is. -/
theorem goes_act {a : Step} (h : s.Ordinary a) : s.frame.Goes (s.act a).2.frame := by
  -- Steps that find the daemon in another state do nothing; the others are made of moves that go
  -- on.
  cases a with
  | answer id code =>
    unfold act
    dsimp only
    split
    · split
      · exact ((goes_setWire s id _).trans (goes_signal _ id _)).trans (goes_flushAll _)
      · exact goes_lose s id
    · exact s.frame.goes_refl
    · exact s.frame.goes_refl
    · exact s.frame.goes_refl
  | deliver id topic payload =>
    unfold act
    dsimp only
    split
    · exact (goes_signal s id _).trans (goes_flushAll _)
    · exact s.frame.goes_refl
  | hangUp id =>
    unfold act
    dsimp only
    split
    · exact goes_lose s id
    · exact s.frame.goes_refl
  | advance d => exact goes_advance s d
  | shutdown =>
    have hdisarmed : s.armed = false := h
    unfold act
    rw [hdisarmed]
    exact s.frame.goes_refl
  | disarm => exact h.elim

/-- Every step keeps requests to disconnect away from the clients. -/
theorem Staying.act (h : s.Staying) (a : Step) : (s.act a).2.Staying := by
  -- No step of the daemon asks to disconnect; each comes down to moves that keep this.
  cases a with
  | answer id code =>
    unfold State.act
    dsimp only
    split
    · split
      · exact ((h.setWire id _).signal id _).flushAll
      · exact h.lose id
    · exact h
    · exact h
    · exact h
  | deliver id topic payload =>
    unfold State.act
    dsimp only
    split
    · exact (h.signal id _).flushAll
    · exact h
  | hangUp id =>
    unfold State.act
    dsimp only
    split
    · exact h.lose id
    · exact h
  | advance d => exact h.advance d
  | shutdown =>
    unfold State.act
    dsimp only
    split
    · exact h.stop
    · exact h
  | disarm =>
    have hsignalled := (h.signal .external .abandoned).signal .internal .abandoned
    exact ⟨hsignalled.1, hsignalled.2⟩

theorem Staying.clear (h : s.Staying) : s.clear.Staying := by
  refine ⟨h.1, ?_⟩
  intro id
  cases id with
  | external => exact nofun
  | internal => exact nofun

theorem Staying.step (h : s.Staying) (a : Step) : (s.step a).2.Staying := by
  unfold State.step
  split
  · exact h.clear.act a
  · exact ⟨h.clear.1, h.clear.2⟩
  · exact ⟨h.clear.1, h.clear.2⟩

/-! ## Whole runs -/

/-- The daemon after a sequence of steps. -/
def after (s : State) (steps : List Step) : State := steps.foldl (fun s a => (s.step a).2) s

/-- Everything that the broker of a link receives in a sequence of steps. -/
def transcript (s : State) (id : LinkId) : List Step → List Mqtt.Packet
  | [] => []
  | a :: steps => ((s.step a).2.link id).received ++ (s.step a).2.transcript id steps

/-- How the daemon stands after the steps that are past: it runs until it was shut down, no farewell
is decided before, and both links are departed from then on. -/
structure Parting (s : State) (past : List Step) : Prop where
  running_iff : s.standing = .running ↔ ¬ Signalled past
  armed_iff : s.standing = .running → (s.armed = true ↔ .disarm ∉ past)
  undecided : s.standing = .running → ∀ id, (s.link id).farewell = none
  departed : s.standing ≠ .running → ∀ id, (s.link id).Departed

/-- An ordinary step of a running daemon decides nothing. -/
theorem Parting.ordinary {past : List Step} {a : Step} (h : s.Parting past)
    (hrunning : s.standing = .running) (ha : s.clear.Ordinary a) :
    (s.step a).2.Parting (past ++ [a]) := by
  have hstep : s.step a = s.clear.act a := by
    unfold step
    rw [hrunning]
  have hgoes : s.frame.Goes (s.step a).2.frame := by
    rw [hstep]
    exact (goes_clear s).trans (goes_act ha)
  have hstanding : (s.step a).2.standing = .running := hgoes.standing.trans hrunning
  have hdisarm : a ≠ .disarm := by
    rintro rfl
    exact ha
  have hsilent : ¬ Signalled (past ++ [a]) := by
    rw [signalled_concat, not_or]
    refine ⟨h.running_iff.mp hrunning, ?_⟩
    rintro ⟨rfl, hpast⟩
    have hdisarmed : s.armed = false := ha
    rw [(h.armed_iff hrunning).mpr hpast] at hdisarmed
    cases hdisarmed
  refine ⟨iff_of_true hstanding hsilent, ?_, ?_, ?_⟩
  · intro _
    have harmed : (s.step a).2.armed = s.armed := hgoes.armed
    rw [harmed, h.armed_iff hrunning, List.mem_append, List.mem_singleton, not_or]
    exact ⟨fun hpast => ⟨hpast, hdisarm.symm⟩, fun hall => hall.1⟩
  · intro _ id
    exact (hgoes.farewell id).trans (h.undecided hrunning id)
  · intro hnot
    exact absurd hstanding hnot

/-- Once the running daemon is shut down, both links are departed from. -/
theorem Parting.shutdown {past : List Step} (h : s.Parting past) (hrunning : s.standing = .running)
    (harmed : s.armed = true) : (s.step .shutdown).2.Parting (past ++ [.shutdown]) := by
  have hstop : (s.step .shutdown).2 = s.clear.stop := by
    unfold State.step
    rw [hrunning]
    exact if_pos harmed
  have hpast : .disarm ∉ past := (h.armed_iff hrunning).mp harmed
  have hover : (s.step .shutdown).2.standing ≠ .running := by
    rw [hstop]
    exact nofun
  refine ⟨iff_of_false hover ?_, fun hnot => absurd hnot hover, fun hnot => absurd hnot hover, ?_⟩
  · rw [not_not]
    exact signalled_concat.mpr (.inr ⟨rfl, hpast⟩)
  · intro _ id
    rw [hstop]
    exact departed_stop s.clear id

/-- Once the running daemon is disarmed, it goes on. -/
theorem Parting.disarm {past : List Step} (h : s.Parting past) (hrunning : s.standing = .running) :
    (s.step .disarm).2.Parting (past ++ [.disarm]) := by
  have hstep : s.step .disarm = s.clear.act .disarm := by
    unfold State.step
    rw [hrunning]
  have hgoes : s.frame.Goes
      ((s.clear.signal .external .abandoned).signal .internal .abandoned).frame :=
    ((goes_clear s).trans (goes_signal _ _ _)).trans (goes_signal _ _ _)
  have hstanding : (s.step .disarm).2.standing = .running := by
    rw [hstep]
    exact hgoes.standing.trans hrunning
  have hsilent : ¬ Signalled (past ++ [Step.disarm]) := by
    rw [signalled_concat, not_or]
    exact ⟨h.running_iff.mp hrunning, fun hboth => nomatch hboth.1⟩
  refine ⟨iff_of_true hstanding hsilent, ?_, ?_, fun hnot => absurd hstanding hnot⟩
  · intro _
    have hdisarmed : (s.step .disarm).2.armed = false := by rw [hstep]; rfl
    rw [hdisarmed]
    exact iff_of_false Bool.false_ne_true fun hnone =>
      hnone (List.mem_append_right _ List.mem_cons_self)
  · intro _ id
    rw [hstep]
    exact (hgoes.farewell id).trans (h.undecided hrunning id)

/-- A daemon that has returned keeps its links. -/
theorem Parting.returned {past : List Step} (h : s.Parting past) (hover : s.standing ≠ .running)
    (a : Step) : (s.step a).2.Parting (past ++ [a]) := by
  have hkept : (s.step a).2.standing ≠ .running ∧
      ∀ id, (s.link id).Departed → ((s.step a).2.link id).Departed := by
    unfold State.step
    split
    · rename_i hstanding
      exact absurd hstanding hover
    · exact ⟨nofun, fun id hid => by cases id <;> exact hid⟩
    · exact ⟨nofun, fun id hid => by cases id <;> exact hid⟩
  have hsignalled : Signalled past := not_not.mp fun hnot => hover (h.running_iff.mpr hnot)
  refine ⟨iff_of_false hkept.1 ?_, fun hnot => absurd hnot hkept.1,
    fun hnot => absurd hnot hkept.1, ?_⟩
  · rw [not_not]
    exact signalled_concat.mpr (.inl hsignalled)
  · intro _ id
    exact hkept.2 id (h.departed hover id)

/-- Every step keeps what is known of the farewells. -/
theorem Parting.step {past : List Step} (h : s.Parting past) (a : Step) :
    (s.step a).2.Parting (past ++ [a]) := by
  by_cases hrunning : s.standing = .running
  · by_cases ha : s.clear.Ordinary a
    · exact h.ordinary hrunning ha
    cases a with
    | answer id code => exact absurd trivial ha
    | deliver id topic payload => exact absurd trivial ha
    | hangUp id => exact absurd trivial ha
    | advance d => exact absurd trivial ha
    | shutdown => exact h.shutdown hrunning (Bool.not_eq_false _ ▸ ha)
    | disarm => exact h.disarm hrunning
  · exact h.returned hrunning a

/-- Whatever steps come next, what is known of the farewells stays so. -/
theorem Parting.after {past : List Step} (h : s.Parting past) (steps : List Step) :
    (s.after steps).Parting (past ++ steps) := by
  induction steps generalizing s past with
  | nil =>
    rw [List.append_nil]
    exact h
  | cons a steps ih =>
    have hrest := ih (h.step a)
    rw [List.append_assoc] at hrest
    exact hrest

/-- No broker receives a request to disconnect. -/
theorem Staying.transcript (h : s.Staying) (id : LinkId) (steps : List Step) :
    .disconnect ∉ s.transcript id steps := by
  induction steps generalizing s with
  | nil => exact List.not_mem_nil
  | cons a steps ih =>
    intro hmem
    rcases List.mem_append.mp hmem with hnow | hlater
    · exact (h.step a).2 id _ hnow rfl
    · exact ih (h.step a) hlater

/-- The daemon starts without a farewell, and with two clients that hold nothing. -/
theorem parting_start {c : Config} {reachable : Bool} {fresh : Nat → String} {words : Wording}
    (h : start c reachable fresh words = .ok s) : s.Parting [] ∧ s.Staying := by
  unfold start at h
  split at h
  · cases h
  · rename_i base _
    obtain rfl := Except.ok.inj h
    have hgoes : (initial c base reachable fresh words).frame.Goes
        (((initial c base reachable fresh words).connect .internal).connect .external).frame :=
      (goes_connect _ .internal).trans (goes_connect _ .external)
    -- Nothing has been signalled at the start, so the daemon stands and no farewell is due.
    have hsilent : ¬ Signalled [] := by
      rintro ⟨before, after, hsplit, -⟩
      exact absurd hsplit.symm (by simp)
    have hstaying : (initial c base reachable fresh words).Staying := by
      refine ⟨⟨⟨nofun, nofun⟩, ⟨nofun, nofun⟩⟩, ?_⟩
      intro id
      cases id with
      | external => exact nofun
      | internal => exact nofun
    refine ⟨⟨iff_of_true hgoes.standing hsilent, ?_, ?_, ?_⟩,
      (hstaying.connect .internal).connect .external⟩
    · intro _
      exact iff_of_true hgoes.armed List.not_mem_nil
    · intro _ id
      refine (hgoes.farewell id).trans ?_
      cases id with
      | external => rfl
      | internal => rfl
    · intro hnot
      exact absurd hgoes.standing hnot

/-- **Both farewells are refused.**  However the brokers behave and whatever comes before it, the
daemon goes on until shutdown is signalled while somebody can, and returns then.  Until then no link
has asked to disconnect; from then on both have, and both were refused, since their event loops were
gone.  So no broker ever receives a request to disconnect. -/
theorem farewells_are_refused {c : Config} {reachable : Bool} {fresh : Nat → String}
    {words : Wording} {s₀ : State} (hstart : start c reachable fresh words = .ok s₀)
    (steps : List Step) :
    (∀ id, .disconnect ∉ s₀.transcript id steps) ∧
    ((s₀.after steps).standing = .running ↔ ¬ Signalled steps) ∧
    (¬ Signalled steps → ∀ id, ((s₀.after steps).link id).farewell = none) ∧
    (Signalled steps → ∀ id, ((s₀.after steps).link id).farewell = some .refused ∧
      ((s₀.after steps).link id).wire = .gone ∧ ((s₀.after steps).link id).drive = .stopped) := by
  obtain ⟨hparting, hstaying⟩ := parting_start hstart
  have hend : (s₀.after steps).Parting steps := hparting.after steps
  refine ⟨fun id => hstaying.transcript id steps, hend.running_iff, ?_, ?_⟩
  · intro hsilent
    exact hend.undecided (hend.running_iff.mpr hsilent)
  · intro hsignalled
    exact hend.departed fun hrunning => hend.running_iff.mp hrunning hsignalled

/-- A daemon with the default configuration whose brokers can be reached. -/
def atHome : State :=
  ((initial {} "edgex/response" true toString {}).connect .internal).connect .external

theorem start_atHome : start {} true toString = .ok atHome := by
  have hbase : ({} : Config).settings.topic? .internal Keys.commandResponse =
      some "edgex/response" := by cbv
  unfold start
  rw [hbase]
  rfl

/-- Both brokers accept the connection, and then shutdown is signalled. -/
def shortVisit : List Step := [.answer .internal 0, .answer .external 0, .shutdown]

/-- The theorem for a short visit: nobody takes the farewells, and no broker hears of them. -/
theorem short_visit_ends_without_farewell :
    start {} true toString = .ok atHome ∧ Signalled shortVisit ∧
    (∀ id, .disconnect ∉ atHome.transcript id shortVisit) ∧
    ∀ id, ((atHome.after shortVisit).link id).farewell = some .refused := by
  have hsignalled : Signalled shortVisit :=
    ⟨[.answer .internal 0, .answer .external 0], [], rfl, by simp⟩
  obtain ⟨hsilent, -, -, hdeparted⟩ := farewells_are_refused start_atHome shortVisit
  exact ⟨start_atHome, hsignalled, hsilent, fun id => (hdeparted hsignalled id).1⟩

/-- The daemon returns although either broker has received subscriptions only, and closes both
connections without a word. -/
theorem brokers_hear_no_farewell :
    start {} true toString = .ok atHome ∧
    (atHome.after shortVisit).standing = .finished ∧
    (∀ id, ((atHome.after shortVisit).link id).hungUp = true ∧
      ((atHome.after shortVisit).link id).farewell = some .refused) ∧
    atHome.transcript .internal shortVisit = [.subscribe "edgex/response/#" .atMostOnce] ∧
    atHome.transcript .external shortVisit =
      [.subscribe "edgex/commandquery/request/#" .atMostOnce,
       .subscribe "edgex/command/request/#" .atMostOnce] := by
  refine ⟨start_atHome, rfl, ?_, by decide +kernel, by decide +kernel⟩
  intro id
  cases id with
  | external => decide +kernel
  | internal => decide +kernel

end State

end CommandRelay.Daemon
