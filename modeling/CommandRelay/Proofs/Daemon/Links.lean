import CommandRelay.Daemon.Run
import CommandRelay.Proofs.Relay.Packets

/-!
# What the daemon does to its links

The daemon is a world with two links.  Most of what it does, it does in the world; a link changes in
a few places only, and this module says in which.

1. **`Frame`** — the daemon without its world and without what the brokers received in this step.
   `frame_signal`, `frame_setWire` and `frame_release` say what is done to it; what the drives ask
   for (`frame_obey`) and what the links send (`frame_flush`) leaves it alone.
2. **`State.Staying`** — no request to disconnect waits anywhere or was received in this step.
   Every operation but the last farewell keeps it up (`Staying.signal`, `Staying.flush`).
-/

namespace CommandRelay.Daemon

open Relay

/-- A link without what its broker received. -/
def Link.bare (l : Link) : Link := { l with received := [] }

/-- What the world has no part in. -/
structure Frame where
  links : LinkId → Link
  reachable : Bool
  armed : Bool
  standing : Standing

/-- A frame with a link replaced. -/
def Frame.set (f : Frame) (id : LinkId) (l : Link) : Frame :=
  { f with links := Function.update f.links id l }

@[simp]
theorem Frame.set_self (f : Frame) (id : LinkId) (l : Link) : (f.set id l).links id = l :=
  Function.update_self _ _ _

theorem Frame.set_of_ne (f : Frame) {id id' : LinkId} (h : id' ≠ id) (l : Link) :
    (f.set id l).links id' = f.links id' := Function.update_of_ne h _ _

@[simp]
theorem Frame.set_set (f : Frame) (id : LinkId) (l l' : Link) :
    (f.set id l).set id l' = f.set id l' := by
  unfold set
  rw [Function.update_idem]

@[simp]
theorem Frame.set_links (f : Frame) (id : LinkId) : f.set id (f.links id) = f := by
  unfold set
  rw [Function.update_eq_self]

/-- Shutdown ends a drive wherever it stands. -/
theorem Drive.step_shutdown (id : LinkId) (d : Drive) : d.step id .shutdown = ([], .stopped) := by
  cases d with
  | polling => rfl
  | pausing => rfl
  | stopped => rfl

namespace State

variable {s : State}

/-- The frame of the daemon. -/
def frame (s : State) : Frame where
  links id := (s.link id).bare
  reachable := s.reachable
  armed := s.armed
  standing := s.standing

/-- What is done to one link leaves the other as it is. -/
theorem frame_setLink (s : State) (id : LinkId) (l : Link) :
    (s.setLink id l).frame = s.frame.set id l.bare := by
  have hlinks : (fun id' => ((s.setLink id l).link id').bare) =
      Function.update (fun id' => (s.link id').bare) id l.bare := by
    funext id'
    by_cases h : id' = id
    · subst h
      rw [Function.update_self]
      cases id' with
      | external => rfl
      | internal => rfl
    · rw [Function.update_of_ne h]
      cases id with
      | external =>
        cases id' with
        | external => exact absurd rfl h
        | internal => rfl
      | internal =>
        cases id' with
        | external => rfl
        | internal => exact absurd rfl h
  unfold frame Frame.set
  rw [hlinks]
  cases id with
  | external => rfl
  | internal => rfl

theorem link_setLink_self (s : State) (id : LinkId) (l : Link) : (s.setLink id l).link id = l := by
  cases id with
  | external => rfl
  | internal => rfl

theorem setLink_world (s : State) (id : LinkId) (l : Link) : (s.setLink id l).world = s.world := by
  cases id with
  | external => rfl
  | internal => rfl

/-! ## What drives ask for -/

/-- What a link sends is seen by its broker only. -/
theorem frame_flush (s : State) (id : LinkId) : (s.flush id).frame = s.frame := by
  unfold flush
  split
  · cases id with
    | external => exact frame_setLink s.takeExternal.2 .external _ |>.trans (Frame.set_links _ _)
    | internal => exact frame_setLink s.takeInternal.2 .internal _ |>.trans (Frame.set_links _ _)
  · rfl

/-- A subscription is the business of the client, and at most of the log. -/
theorem frame_subscribe (s : State) (id : LinkId) : (s.subscribe id).frame = s.frame := by
  cases id with
  | external => rfl
  | internal =>
    unfold subscribe
    dsimp only
    split
    · split
      · rfl
      · rfl
    · rfl
    · rfl

/-- What is handed to the bus leaves the links alone. -/
theorem frame_forward (s : State) (topic : String) (payload : List UInt8) (id : LinkId) :
    (s.forward topic payload id).frame = s.frame := by
  cases id with
  | external => rfl
  | internal => rfl

/-- Whatever a drive asks for, it is done in the world. -/
theorem frame_obey (s : State) (id : LinkId) (a : Action) : (s.obey id a).frame = s.frame := by
  cases a with
  | subscribe => exact (frame_subscribe _ id).trans (frame_flush s id)
  | forward topic payload => exact frame_forward s topic payload id
  | log e => rfl

/-- A signal moves the drive of its link. -/
theorem frame_signal (s : State) (id : LinkId) (g : Signal) : (s.signal id g).frame =
    s.frame.set id { s.frame.links id with drive := ((s.link id).drive.step id g).2 } := by
  have hobey : ∀ (actions : List Action) (s : State),
      (actions.foldl (fun s a => s.obey id a) s).frame = s.frame := by
    intro actions
    induction actions with
    | nil => exact fun _ => rfl
    | cons a actions ih => exact fun s => (ih (s.obey id a)).trans (frame_obey s id a)
  unfold signal
  exact (hobey _ _).trans (frame_setLink _ _ _)

/-- A signal that asks for nothing moves the drive only. -/
theorem signal_of_quiet {id : LinkId} {g : Signal} (h : ((s.link id).drive.step id g).1 = []) :
    s.signal id g =
      s.setLink id { s.link id with drive := ((s.link id).drive.step id g).2 } := by
  unfold signal
  dsimp only
  rw [h]
  rfl

/-! ## Connections -/

theorem frame_setWire (s : State) (id : LinkId) (w : Wire) :
    (s.setWire id w).frame = s.frame.set id { s.frame.links id with wire := w } :=
  frame_setLink s id _

theorem frame_flushAll (s : State) : s.flushAll.frame = s.frame := by
  unfold flushAll
  rw [frame_flush, frame_flush]

/-! ## The end -/

/-- A link that is released has stopped, has no wire, and has hung up if it was connected. -/
theorem frame_release (s : State) (id : LinkId) : (s.release id).frame = s.frame.set id
    { s.frame.links id with
      drive := .stopped, wire := .gone, hungUp := (s.link id).wire = .connected } := by
  have hquiet : ((s.link id).drive.step id .shutdown).1 = [] := by rw [Drive.step_shutdown]
  have hstopped : s.signal id .shutdown = s.setLink id { s.link id with drive := .stopped } := by
    rw [signal_of_quiet hquiet, Drive.step_shutdown]
  have hdown : ((s.signal id .shutdown).setLink id { (s.signal id .shutdown).link id with
      wire := .gone
      hungUp := ((s.signal id .shutdown).link id).wire = .connected }).frame = s.frame.set id
      { s.frame.links id with
        drive := .stopped, wire := .gone, hungUp := (s.link id).wire = .connected } := by
    rw [hstopped, link_setLink_self, frame_setLink, frame_setLink, Frame.set_set]
    rfl
  unfold release
  cases id with
  | external =>
    dsimp only
    split
    · exact hdown
    · exact hdown
  | internal =>
    dsimp only
    split
    · exact hdown
    · exact hdown
    · exact hdown

/-! ## No request to disconnect -/

/-- No request to disconnect waits in the world, and no broker received one in this step. -/
def Staying (s : State) : Prop :=
  s.world.Staying ∧ ∀ id, ∀ p ∈ (s.link id).received, p ≠ .disconnect

/-- A link may be set to anything that was sent no request to disconnect. -/
theorem Staying.setLink (h : s.Staying) {id : LinkId} {l : Link}
    (hl : ∀ p ∈ l.received, p ≠ .disconnect) : (s.setLink id l).Staying := by
  refine ⟨?_, ?_⟩
  · rw [setLink_world]
    exact h.1
  · intro id'
    cases id with
    | external =>
      cases id' with
      | external => exact hl
      | internal => exact h.2 .internal
    | internal =>
      cases id' with
      | external => exact h.2 .external
      | internal => exact hl

/-- Nothing that a link sends is a request to disconnect. -/
theorem Staying.flush (h : s.Staying) (id : LinkId) : (s.flush id).Staying := by
  -- What is taken from the world goes to what was received.
  have htaken : ∀ {packets : List Mqtt.Packet} {w : World},
      (w.Staying ∧ ∀ p ∈ packets, p ≠ .disconnect) →
      (State.setLink { s with world := w } id { s.link id with
        received := (s.link id).received ++ packets }).Staying := by
    intro packets w hw
    have hworld : State.Staying { s with world := w } := ⟨hw.1, h.2⟩
    apply hworld.setLink
    intro p hp
    rcases List.mem_append.mp hp with hp | hp
    · exact h.2 id p hp
    · exact hw.2 p hp
  unfold State.flush
  split
  · cases id with
    | external => exact htaken h.1.drainExternal
    | internal => exact htaken h.1.drainInternal
  · exact h

/-- A subscription is no request to disconnect. -/
theorem Staying.subscribe (h : s.Staying) (id : LinkId) : (s.subscribe id).Staying := by
  cases id with
  | external => exact ⟨(h.1.launch _).settle, h.2⟩
  | internal =>
    unfold State.subscribe
    dsimp only
    split
    · rename_i b hbus
      have hclient : b.client.Staying := by
        have hends := h.1.2
        rwa [hbus] at hends
      have hoffered := hclient.offer (show b.subscription ≠ .disconnect from nofun)
      -- a refusal is logged besides, which no link sees
      split
      · exact ⟨⟨h.1.1, hoffered⟩, h.2⟩
      · exact ⟨⟨h.1.1, hoffered⟩, h.2⟩
    · exact h
    · exact h

/-- What is handed to the bus is no request to disconnect. -/
theorem Staying.forward (h : s.Staying) (topic : String) (payload : List UInt8) (id : LinkId) :
    (s.forward topic payload id).Staying := by
  cases id with
  | external => exact ⟨(h.1.launch _).settle, h.2⟩
  | internal => exact ⟨(h.1.incoming topic payload).settle, h.2⟩

theorem Staying.obey (h : s.Staying) (id : LinkId) (a : Action) : (s.obey id a).Staying := by
  cases a with
  | subscribe => exact (h.flush id).subscribe id
  | forward topic payload => exact h.forward topic payload id
  | log e => exact ⟨h.1, h.2⟩

/-- Nothing that a drive asks for is a request to disconnect. -/
theorem Staying.signal (h : s.Staying) (id : LinkId) (g : Signal) : (s.signal id g).Staying := by
  have hobey : ∀ (actions : List Action) {s : State}, s.Staying →
      (actions.foldl (fun s a => s.obey id a) s).Staying := by
    intro actions
    induction actions with
    | nil => exact fun h => h
    | cons a actions ih => exact fun h => ih (h.obey id a)
  unfold State.signal
  exact hobey _ (h.setLink (h.2 id))

theorem Staying.setWire (h : s.Staying) (id : LinkId) (w : Wire) : (s.setWire id w).Staying :=
  h.setLink (h.2 id)

theorem Staying.lose (h : s.Staying) (id : LinkId) : (s.lose id).Staying :=
  (h.signal id _).setWire id _

theorem Staying.connect (h : s.Staying) (id : LinkId) : (s.connect id).Staying := by
  unfold State.connect
  split
  · exact h.setWire id _
  · exact h.lose id

theorem Staying.wake (h : s.Staying) (id : LinkId) : (s.wake id).Staying := by
  unfold State.wake
  split
  · split
    · exact h.lose id
    · exact h
  · split
    · exact (h.signal id _).connect id
    · exact h
  · exact h
  · exact h

theorem Staying.flushAll (h : s.Staying) : s.flushAll.Staying :=
  (h.flush .external).flush .internal

theorem Staying.advance (h : s.Staying) (d : Duration) : (s.advance d).Staying := by
  have hworld : State.Staying { s with world := s.world.advance d } := ⟨h.1.advance d, h.2⟩
  exact ((hworld.wake .external).wake .internal).flushAll

/-- Releasing a link asks for nothing. -/
theorem Staying.release (h : s.Staying) (id : LinkId) : (s.release id).Staying := by
  have hdown : ((s.signal id .shutdown).setLink id { (s.signal id .shutdown).link id with
      wire := .gone
      hungUp := ((s.signal id .shutdown).link id).wire = .connected }).Staying :=
    (h.signal id .shutdown).setLink ((h.signal id .shutdown).2 id)
  unfold State.release
  cases id with
  | external =>
    dsimp only
    split
    · rename_i client _
      exact ⟨⟨client.staying_close, hdown.1.2⟩, hdown.2⟩
    · exact hdown
  | internal =>
    dsimp only
    split
    · rename_i b _
      exact ⟨⟨hdown.1.1, b.client.staying_close⟩, hdown.2⟩
    · exact hdown
    · exact hdown

end State

end CommandRelay.Daemon
