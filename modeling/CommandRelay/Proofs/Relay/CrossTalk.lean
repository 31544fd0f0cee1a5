import CommandRelay.Proofs.Relay.Progress

/-!
# No cross-talk

Commands that are handled side by side do not get in each other's way, whatever their request IDs
are: each is answered once, in time, for its own request, and the response of a service goes to one
of them at most.

The invariant says what is in the guards and where the responses went; what a handler has published
follows from its path (`published_underway`).  The theorem puts the two together.
-/

namespace CommandRelay.Relay.Concurrent

open Program Correlation

variable {s : Settings} {base : String} {σ : State} {i : CallId} {v : Invocation}

/-- A handler goes on with what was handed to the bus by a call of `respond`: the response went into
its guard. -/
def State.Forwards (σ : State) (i : CallId) (j : Nat) : Prop :=
  ∃ v x, σ.invocations[i]? = some v ∧ σ.responses[j]? = some x ∧ x.recipient = some i ∧
    v.forwarded = [x.envelope]

/-- Messages with their instants are the messages of the trace. -/
theorem Invocation.map_published (v : Invocation) :
    v.published.map (·.2) = publications v.trace := by
  rw [published, publications, trace, List.map_filterMap, List.filterMap_map]
  congr 1
  funext n
  obtain ⟨t, p⟩ := n
  cases hp : p.publication? <;> simp [hp]

/-- What was published was performed then. -/
theorem Invocation.mem_past_of_published {t : Instant} {m : String × Delivery × List UInt8}
    (h : (t, m) ∈ v.published) : ∃ p, (t, p) ∈ v.past := by
  obtain ⟨⟨t', p⟩, hp, hm⟩ := List.mem_filterMap.mp h
  obtain ⟨m', -, heq⟩ := Option.map_eq_some_iff.mp hm
  obtain ⟨rfl, -⟩ := Prod.mk.inj heq
  exact ⟨p, hp⟩

/-- Two responses at different places did not go to the same handler. -/
theorem eq_of_recipient_eq {responses : List Response}
    (h : (responses.filterMap (·.recipient)).Nodup) {j j' : Nat} {x x' : Response}
    (hx : responses[j]? = some x) (hx' : responses[j']? = some x') (hi : x.recipient = some i)
    (hi' : x'.recipient = some i) : j = j' := by
  have hpair := List.pairwise_filterMap.mp h
  rw [List.pairwise_iff_getElem] at hpair
  obtain ⟨hj, rfl⟩ := List.getElem?_eq_some_iff.mp hx
  obtain ⟨hj', rfl⟩ := List.getElem?_eq_some_iff.mp hx'
  rcases Nat.lt_trichotomy j j' with hlt | heq | hlt
  · exact absurd rfl (hpair j j' hj hj' hlt i hi i hi')
  · exact heq
  · exact absurd rfl (hpair j' j hj' hj hlt i hi' i hi)

namespace Inv

/-- What a handler goes on with was taken by the bus during its call. -/
theorem forwards (h : Inv s σ) (hv : σ.invocations[i]? = some v) {e : Envelope}
    (he : v.forwarded = [e]) : ∃ j x c, σ.Forwards i j ∧ σ.responses[j]? = some x ∧
      x.envelope = e ∧ x.taken = true ∧ e.requestId = v.command.request.requestId ∧
      v.called = some c ∧ c.heard ≤ j ∧ c.instant ≤ x.instant ∧
      x.instant ≤ c.instant + s.requestTimeout.nanos := by
  obtain ⟨x, hx, rfl, hi⟩ := h.forwarded i v hv e (by rw [he]; exact List.mem_singleton_self _)
  obtain ⟨j, hj⟩ := List.getElem?_of_mem hx
  obtain ⟨c, hc, hid, hrest⟩ := h.call_of_recipient hv hj hi
  have htaken : x.taken = true := by
    rw [h.taken x hx, hi]
    rfl
  exact ⟨j, x, c, ⟨v, x, hv, hj, hi, he⟩, hj, rfl, htaken, hid, hc, hrest⟩

/-- What a handler has published so far. -/
theorem published (h : Inv s σ) (hbase : s.topic? .external Keys.commandResponse = some base)
    (hv : σ.invocations[i]? = some v) : v.published = [] ∨ ∃ t e,
      v.published = [(t, Topic.reply base v.command.address, s.delivery, e.toWire)] ∧
      (∀ c, v.called = some c → t ≤ c.instant + s.requestTimeout.nanos) ∧
      (v.forwarded = [e] ∨ v.forwarded = [] ∧
        ∃ fresh text, e = (v.command.request.correlated fresh).failureOf text) := by
  have hproper := h.proper i v hv
  have hmap := v.map_published
  rcases published_underway v.command.decodes v.command.addressed hbase hproper.path with
    hnone | ⟨e, hone, hkind⟩
  · left
    rwa [hnone, List.map_eq_nil_iff] at hmap
  · right
    rw [hone, List.map_eq_singleton_iff] at hmap
    obtain ⟨⟨t, m⟩, hpublished, rfl⟩ := hmap
    refine ⟨t, e, hpublished, ?_, hkind⟩
    intro c hc
    obtain ⟨p, hp⟩ := v.mem_past_of_published (t := t) (m := _)
      (by rw [hpublished]; exact List.mem_singleton_self _)
    exact (hproper.call c hc).2.2 _ hp

/-- A handler that is done has published. -/
theorem published_of_finished (h : Inv s σ)
    (hbase : s.topic? .external Keys.commandResponse = some base)
    (hv : σ.invocations[i]? = some v) (hdone : v.Finished) : v.published ≠ [] := by
  intro hnone
  have hpath := (h.proper i v hv).path
  rw [show v.stage = _ from hdone] at hpath
  refine published_done v.command.decodes v.command.addressed hbase hpath ?_
  rw [← v.map_published, hnone]
  rfl

end Inv

/-- **No cross-talk.**  Whatever the order of moves of any number of handlers, services and the
clock, and whatever the request IDs: each command is answered once, in time, on its own topic and
for its own request; a response that goes out was taken by the bus during the call of that handler,
and goes out from no other; and there is always a way on in which all commands are answered. -/
theorem no_cross_talk (s : Settings) (base : String) (capacity : Nat) (σ : State)
    (hbase : s.externalTopics.find? Keys.commandResponse = some base) (hne : base ≠ "")
    (hreach : Steps s (State.start capacity) σ) :
    -- What a handler has published, if it has: one message, the response that it forwards or a
    -- report.
    (∀ (i : CallId) (v : Invocation), σ.invocations[i]? = some v →
      v.published = [] ∧ ¬ v.Finished ∨ ∃ t e,
      v.published = [(t, Topic.reply base v.command.address, s.delivery, e.toWire)] ∧
      e.requestId = v.command.request.requestId ∧
      (∀ c, v.called = some c → t ≤ c.instant + s.requestTimeout.nanos) ∧
      ((v.forwarded = [e] ∧ ∃ j x c, σ.Forwards i j ∧ σ.responses[j]? = some x ∧
          x.envelope = e ∧ x.taken = true ∧ v.called = some c ∧ c.heard ≤ j ∧
          c.instant ≤ x.instant ∧ x.instant ≤ c.instant + s.requestTimeout.nanos) ∨
        (v.forwarded = [] ∧
          ∃ fresh text, e = (v.command.request.correlated fresh).failureOf text))) ∧
    -- Once its time is up, a handler is done.
    (∀ (i : CallId) (v : Invocation) (c : Call), σ.invocations[i]? = some v →
      v.called = some c → c.instant + s.requestTimeout.nanos < σ.now → v.Finished) ∧
    -- A response is forwarded by one handler at most, and by none if it was not taken.
    (∀ i i' j, σ.Forwards i j → σ.Forwards i' j → i = i') ∧
    (∀ i j j', σ.Forwards i j → σ.Forwards i j' → j = j') ∧
    (∀ i j x, σ.responses[j]? = some x → x.taken = false → ¬ σ.Forwards i j) ∧
    -- Whom a response is noted for is the handler whose guard gets it, and no other guard changes.
    (∀ e, recipient? σ.bus e = none ∧ (σ.bus.respond e).1 = false ∧
        (σ.bus.respond e).2.desk = σ.bus.desk ∨
      ∃ g ∈ σ.bus.desk.guards, g.response = none ∧ g.requestId = e.requestId ∧
        recipient? σ.bus e = some g.caller ∧ (σ.bus.respond e).1 = true ∧
        (σ.bus.respond e).2.desk.guards = σ.bus.desk.guards.map fun g' =>
          if g'.caller = g.caller then { g' with response := some e } else g') ∧
    -- A handler does not go on for ever, and all commands can be answered from here.
    (∀ v ∈ σ.invocations, v.past.length ≤ 6) ∧
    (∃ σ', Steps s σ σ' ∧ (∀ v ∈ σ'.invocations, v.Finished) ∧
      σ'.invocations.map (·.command) = σ.invocations.map (·.command)) := by
  have htopic : s.topic? .external Keys.commandResponse = some base := by
    show (s.externalTopics.find? Keys.commandResponse).filter (· ≠ "") = some base
    rw [hbase]
    simp [hne]
  have h : Inv s σ := (inv_start s capacity).steps htopic hreach
  refine ⟨?_, ?_, ?_, ?_, ?_, h.recipient_cases, ?_, h.canFinish htopic⟩
  · intro i v hv
    rcases h.published htopic hv with hnone | ⟨t, e, hone, hintime, hkind⟩
    · left
      exact ⟨hnone, fun hdone => h.published_of_finished htopic hv hdone hnone⟩
    right
    rcases hkind with hforwarded | ⟨hnothing, fresh, text, he⟩
    · obtain ⟨j, x, c, hj, hx, hxe, htaken, hid, hrest⟩ := h.forwards hv hforwarded
      exact ⟨t, e, hone, hid, hintime, .inl ⟨hforwarded, j, x, c, hj, hx, hxe, htaken, hrest⟩⟩
    · refine ⟨t, e, hone, ?_, hintime, .inr ⟨hnothing, fresh, text, he⟩⟩
      rw [he]
      exact correlated_requestId fresh v.command.request
  · intro i v c hv hc hlate
    by_contra hdone
    exact absurd ((h.proper i v hv).inTime c hc hdone) (Nat.not_le.mpr hlate)
  · rintro i i' j ⟨-, x, -, hx, hi, -⟩ ⟨-, x', -, hx', hi', -⟩
    obtain rfl : x = x' := Option.some.inj (hx.symm.trans hx')
    exact Option.some.inj (hi.symm.trans hi')
  · rintro i j j' ⟨-, x, -, hx, hi, -⟩ ⟨-, x', -, hx', hi', -⟩
    exact eq_of_recipient_eq h.once hx hx' hi hi'
  · rintro i j x hx hfalse ⟨-, x', -, hx', hi, -⟩
    obtain rfl : x = x' := Option.some.inj (hx.symm.trans hx')
    have htaken := h.taken x (List.mem_of_getElem? hx)
    rw [hfalse, hi] at htaken
    cases htaken
  · intro v hv
    obtain ⟨i, hi⟩ := List.getElem?_of_mem hv
    have hlength := length_underway v.command.decodes v.command.addressed htopic
      (h.proper i v hi).path
    rwa [Invocation.trace, List.length_map] at hlength

/-- A command whose message holds a request ID and nothing else. -/
def bareCommand : Command where
  topic := "site/press/speed/GET"
  payload := bareRequest
  request := { requestId := "R1" }
  address := { device := "press", command := "speed", method := "GET" }
  decodes := by cbv
  addressed := by cbv

/-- The theorem for two commands with one request ID: there is a way on in which either is answered,
by one message for its request. -/
theorem two_commands_with_one_id_are_answered :
    twoSided.externalTopics.find? Keys.commandResponse = some "replies/" ∧ "replies/" ≠ "" ∧
    ∃ σ, Steps twoSided (State.start 1) σ ∧
      σ.invocations.map (·.command) = [bareCommand, bareCommand] ∧
      ∀ (i : CallId) (v : Invocation), σ.invocations[i]? = some v →
        ∃ (t : Instant) (e : Envelope), v.published =
          [(t, Topic.reply "replies/" v.command.address, twoSided.delivery, e.toWire)] ∧
        e.requestId = v.command.request.requestId := by
  have hbase : twoSided.externalTopics.find? Keys.commandResponse = some "replies/" := by cbv
  have hne : "replies/" ≠ "" := by decide
  have hboth : Steps twoSided (State.start 1) _ :=
    .tail (.single (.launch bareCommand)) (.launch bareCommand)
  obtain ⟨-, -, -, -, -, -, -, σ, hsteps, hall, hcommands⟩ :=
    no_cross_talk twoSided "replies/" 1 _ hbase hne hboth
  have hreach := hboth.trans hsteps
  refine ⟨hbase, hne, σ, hreach, hcommands, ?_⟩
  intro i v hv
  obtain ⟨hpublished, -⟩ := no_cross_talk twoSided "replies/" 1 σ hbase hne hreach
  rcases hpublished i v hv with ⟨-, hleft⟩ | ⟨t, e, hone, hid, -⟩
  · exact absurd (hall v (List.mem_of_getElem? hv)) hleft
  · exact ⟨t, e, hone, hid⟩

end CommandRelay.Relay.Concurrent
