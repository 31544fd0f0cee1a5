import CommandRelay.Proofs.Correlation.Settling
import CommandRelay.Proofs.Relay.Concurrent

/-!
# What holds while commands share a bus

An invariant ties the handlers, the guards of the desk and the responses together.

1. **`Proper`** — what holds of one handler: its past is the beginning of a command, and it is not
   late.
2. **`Inv`** — what holds of all: a guard stands for the call of one handler; a response went to one
   handler at most, one that was in the middle of its call; what a handler goes on with was a
   response to it.
3. **`Inv.update`** — a handler that moves touches its own guard only.  With it each move of a
   handler comes down to facts about that handler.
-/

namespace CommandRelay.Relay.Concurrent

open Program Correlation

/-! ## The invariant -/

/-- What holds of one handler. -/
structure Invocation.Proper (s : Settings) (now : Instant) (heard : Nat) (v : Invocation) :
    Prop where
  path : Path (handleCommand s v.command.topic v.command.payload) v.trace v.stage.program
  past : ∀ p ∈ v.past, p.1 ≤ now
  /-- A handler that has called the bus is in the middle of the call, or has its result. -/
  asked : ∀ p, v.stage = .running p → v.called ≠ none →
    ∃ x ∈ v.trace, x.effect.isRequest = true
  call : ∀ c, v.called = some c → c.instant ≤ now ∧ c.heard ≤ heard ∧
    ∀ p ∈ v.past, p.1 ≤ c.instant + s.requestTimeout.nanos
  inTime : ∀ c, v.called = some c → ¬ v.Finished → now ≤ c.instant + s.requestTimeout.nanos
  /-- Registering and sending are one instant. -/
  entered : ∀ r timeout next, v.stage = .entered r timeout next →
    ∃ c, v.called = some c ∧ c.instant = now

/-- A guard stands for the call that a handler is in the middle of. -/
def Invocation.Holds (s : Settings) (v : Invocation) (g : Guard) : Prop :=
  g.requestId = v.command.request.requestId ∧
  match v.stage with
  | .running _ => False
  | .entered _ _ _ => g.wait = none
  | .waiting _ _ _ => ∃ c, v.called = some c ∧
      g.wait = some ⟨s.requestTimeout, c.instant + s.requestTimeout.nanos⟩

/-- What is in a guard is the response that its handler was sent, if it was sent one. -/
def Accounted (responses : List Response) (g : Guard) : Prop :=
  match g.response with
  | none => g.caller ∉ responses.filterMap (·.recipient)
  | some e => ∃ x ∈ responses, x.envelope = e ∧ x.recipient = some g.caller

/-- What holds of all handlers and their bus. -/
structure Inv (s : Settings) (σ : State) : Prop where
  matched : σ.bus.desk.Matched
  proper : ∀ (i : CallId) (v : Invocation), σ.invocations[i]? = some v →
    v.Proper s σ.now σ.responses.length
  guards : ∀ g ∈ σ.bus.desk.guards, ∃ v, σ.invocations[g.caller]? = some v ∧ v.Holds s g
  held : ∀ (i : CallId) (v : Invocation), σ.invocations[i]? = some v → v.stage.inBus = true →
    ∃ g ∈ σ.bus.desk.guards, g.caller = i
  accounted : ∀ g ∈ σ.bus.desk.guards, Accounted σ.responses g
  once : (σ.responses.filterMap (·.recipient)).Nodup
  taken : ∀ x ∈ σ.responses, x.taken = x.recipient.isSome
  /-- Who was sent a response had called the bus for it and was not late. -/
  received : ∀ (j : Nat) (x : Response) (i : CallId), σ.responses[j]? = some x →
    x.recipient = some i → ∃ (v : Invocation) (c : Call),
      σ.invocations[i]? = some v ∧ v.called = some c ∧
      x.envelope.requestId = v.command.request.requestId ∧ c.heard ≤ j ∧
      c.instant ≤ x.instant ∧ x.instant ≤ c.instant + s.requestTimeout.nanos
  forwarded : ∀ (i : CallId) (v : Invocation), σ.invocations[i]? = some v → ∀ e ∈ v.forwarded,
    ∃ x ∈ σ.responses, x.envelope = e ∧ x.recipient = some i

variable {s : Settings} {base : String} {σ : State} {i : CallId} {v : Invocation}

/-- Before anything happens nobody holds a guard. -/
theorem inv_start (s : Settings) (capacity : Nat) : Inv s (State.start capacity) := by
  refine ⟨Desk.matched_empty, ?_, ?_, ?_, ?_, List.nodup_nil, ?_, ?_, ?_⟩
  · intro i v hv
    cases hv
  · intro g hg
    cases hg
  · intro i v hv
    cases hv
  · intro g hg
    cases hg
  · intro x hx
    cases hx
  · intro j x i hx
    cases hx
  · intro i v hv
    cases hv

/-- A response to somebody else changes nothing for a guard. -/
theorem Accounted.append {responses : List Response} {g : Guard} (hin : Accounted responses g)
    {x : Response} (hx : x.recipient ≠ some g.caller) : Accounted (responses ++ [x]) g := by
  rw [Accounted] at hin ⊢
  split at hin
  · intro hmem
    rw [List.filterMap_append] at hmem
    rcases List.mem_append.mp hmem with hold | hnew
    · exact hin hold
    · obtain ⟨y, hy, hc⟩ := List.mem_filterMap.mp hnew
      rw [List.mem_singleton.mp hy] at hc
      exact hx hc
  · obtain ⟨y, hy, hrest⟩ := hin
    exact ⟨y, List.mem_append_left _ hy, hrest⟩

/-! ## One handler -/

theorem Invocation.trace_goOn (v : Invocation) (now : Instant) (p : Performed)
    (rest : Program Unit) : (v.goOn now p rest).trace = v.trace ++ [p] := by
  simp [trace, goOn]

theorem Invocation.not_finished_of_perform {e : Effect} {next : e.Answer → Program Unit}
    (hp : v.stage.program = .perform e next) : ¬ v.Finished := by
  intro hdone
  rw [Finished] at hdone
  rw [hdone] at hp
  cases hp

namespace Invocation.Proper

variable {now : Instant} {heard : Nat}

/-- A handler stays proper when an effect of its program is answered.  A call of the bus that is
answered at once is noted with the answer. -/
theorem goOn (h : v.Proper s now heard) {e : Effect} {next : e.Answer → Program Unit}
    (hp : v.stage.program = .perform e next) (x : e.Answer) (called : Option Call)
    (hcall : ∀ c, called = some c → c.instant ≤ now ∧ c.heard ≤ heard ∧
      now ≤ c.instant + s.requestTimeout.nanos)
    (hasked : called ≠ none → e.isRequest = true ∨ ∃ y ∈ v.trace, y.effect.isRequest = true) :
    ({ v with called }.goOn now ⟨e, x⟩ (next x)).Proper s now heard := by
  -- Path, past, request made, call, deadline and stage: the new effect is the last of its path.
  refine ⟨?_, ?_, ?_, ?_, ?_, ?_⟩
  · rw [trace_goOn]
    exact h.path.trans (hp ▸ .go x (.stay _))
  · intro p hpast
    rcases List.mem_append.mp hpast with hold | hnew
    · exact h.past p hold
    · exact Nat.le_of_eq (congrArg Prod.fst (List.mem_singleton.mp hnew))
  · intro p _ hsome
    rw [trace_goOn]
    rcases hasked hsome with hreq | ⟨y, hy, hreq⟩
    · exact ⟨_, List.mem_append_right _ (List.mem_singleton_self _), hreq⟩
    · exact ⟨y, List.mem_append_left _ hy, hreq⟩
  · intro c hc
    obtain ⟨hinstant, hheard, hlate⟩ := hcall c hc
    refine ⟨hinstant, hheard, ?_⟩
    intro p hpast
    rcases List.mem_append.mp hpast with hold | hnew
    · exact Nat.le_trans (h.past p hold) hlate
    · rw [List.mem_singleton.mp hnew]
      exact hlate
  · intro c hc _
    exact (hcall c hc).2.2
  · intro r timeout next' hs
    cases hs

/-- What is known of the call of a handler that is not done. -/
theorem call_of_not_finished (h : v.Proper s now heard) (hdone : ¬ v.Finished) (c : Call)
    (hc : v.called = some c) :
    c.instant ≤ now ∧ c.heard ≤ heard ∧ now ≤ c.instant + s.requestTimeout.nanos := by
  obtain ⟨hinstant, hheard, -⟩ := h.call c hc
  exact ⟨hinstant, hheard, h.inTime c hc hdone⟩

/-- What a handler asks the bus for. -/
theorem request (h : v.Proper s now heard)
    (hb : s.topic? .external Keys.commandResponse = some base) {r : Bus.Request}
    {timeout : Duration} {next : Except Fault Envelope → Program Unit}
    (hp : v.stage.program = .perform (.request r timeout) next) :
    timeout = s.requestTimeout ∧ r.envelope.requestId = v.command.request.requestId ∧
      ∀ p ∈ v.trace, p.effect.isRequest = false :=
  before_request v.command.decodes v.command.addressed hb (hp ▸ h.path)

/-- A handler that is about to call the bus has not called it before. -/
theorem uncalled (h : v.Proper s now heard)
    (hb : s.topic? .external Keys.commandResponse = some base) {r : Bus.Request}
    {timeout : Duration} {next : Except Fault Envelope → Program Unit}
    (hs : v.stage = .running (.perform (.request r timeout) next)) : v.called = none := by
  by_contra hcalled
  obtain ⟨x, hx, hreq⟩ := h.asked _ hs hcalled
  obtain ⟨-, -, hnone⟩ := h.request hb (congrArg Stage.program hs)
  rw [hnone x hx] at hreq
  cases hreq

/-- A guard belongs to a handler that has called the bus and is not done. -/
theorem called_of_holds (h : v.Proper s now heard) {g : Guard} (hholds : v.Holds s g) :
    ¬ v.Finished ∧ ∃ c, v.called = some c := by
  obtain ⟨-, hstage⟩ := hholds
  cases hs : v.stage with
  | running p =>
    rw [hs] at hstage
    exact hstage.elim
  | entered r timeout next =>
    obtain ⟨c, hc, -⟩ := h.entered r timeout next hs
    exact ⟨Invocation.not_finished_of_perform (congrArg Stage.program hs), c, hc⟩
  | waiting r timeout next =>
    rw [hs] at hstage
    obtain ⟨c, hc, -⟩ := hstage
    exact ⟨Invocation.not_finished_of_perform (congrArg Stage.program hs), c, hc⟩

end Invocation.Proper

/-! ## A handler that moves -/

/-- An update changes one handler and leaves all others in their places. -/
theorem getElem?_update (hv : σ.invocations[i]? = some v) (v' : Invocation) (bus : Bus.LocalBus)
    (k : CallId) : (σ.update i v' bus).invocations[k]? =
      if k = i then some v' else σ.invocations[k]? := by
  obtain ⟨hlt, -⟩ := List.getElem?_eq_some_iff.mp hv
  show (σ.invocations.set i v')[k]? = _
  rw [List.getElem?_set]
  by_cases hk : k = i
  · subst hk
    simp [hlt]
  · rw [if_neg (Ne.symm hk), if_neg hk]

namespace Inv

/-- The guard of a handler stands for its call. -/
theorem holds (h : Inv s σ) {g : Guard} (hg : g ∈ σ.bus.desk.guards)
    (hv : σ.invocations[g.caller]? = some v) : v.Holds s g := by
  obtain ⟨v', hv', hholds⟩ := h.guards g hg
  rwa [Option.some.inj (hv.symm.trans hv')]

/-- A handler that was sent a response had called the bus for it and was not late. -/
theorem call_of_recipient (h : Inv s σ) (hv : σ.invocations[i]? = some v) {j : Nat} {x : Response}
    (hx : σ.responses[j]? = some x) (hi : x.recipient = some i) : ∃ c, v.called = some c ∧
      x.envelope.requestId = v.command.request.requestId ∧ c.heard ≤ j ∧
      c.instant ≤ x.instant ∧ x.instant ≤ c.instant + s.requestTimeout.nanos := by
  obtain ⟨w, c, hw, hrest⟩ := h.received j x i hx hi
  obtain rfl : v = w := Option.some.inj (hv.symm.trans hw)
  exact ⟨c, hrest⟩

/-- A handler that is not in the middle of a call has no guard. -/
theorem no_guard (h : Inv s σ) (hv : σ.invocations[i]? = some v) {p : Program Unit}
    (hs : v.stage = .running p) : ∀ g ∈ σ.bus.desk.guards, g.caller ≠ i := by
  rintro g hg rfl
  obtain ⟨-, hholds⟩ := h.holds hg hv
  rw [hs] at hholds
  exact hholds

/-- A handler that moves touches its own guard only, so all that has to be shown is about this
handler and its guard. -/
theorem update (h : Inv s σ) (hv : σ.invocations[i]? = some v) {v' : Invocation}
    {bus : Bus.LocalBus} (hmatched : bus.desk.Matched)
    (hothers : ∀ g ∈ bus.desk.guards, g.caller ≠ i → g ∈ σ.bus.desk.guards)
    (hkept : ∀ g ∈ σ.bus.desk.guards, g.caller ≠ i → g ∈ bus.desk.guards)
    (hproper : v'.Proper s σ.now σ.responses.length) (hcommand : v'.command = v.command)
    (hcalled : ∀ c, v.called = some c → v'.called = some c)
    (hown : ∀ g ∈ bus.desk.guards, g.caller = i → v'.Holds s g ∧ Accounted σ.responses g)
    (hheld : v'.stage.inBus = true → ∃ g ∈ bus.desk.guards, g.caller = i)
    (hforwarded : ∀ e ∈ v'.forwarded, ∃ x ∈ σ.responses, x.envelope = e ∧ x.recipient = some i) :
    Inv s (σ.update i v' bus) := by
  have hget := getElem?_update hv v' bus
  -- Each clause is asked of one handler or one guard: of this one it is a hypothesis, of all others
  -- it is the invariant from before.
  refine ⟨hmatched, ?_, ?_, ?_, ?_, h.once, h.taken, ?_, ?_⟩
  · intro k w hw
    rw [hget] at hw
    split at hw
    · obtain rfl := Option.some.inj hw
      exact hproper
    · exact h.proper k w hw
  · intro g hg
    rw [hget]
    by_cases hc : g.caller = i
    · rw [if_pos hc]
      exact ⟨v', rfl, (hown g hg hc).1⟩
    · rw [if_neg hc]
      exact h.guards g (hothers g hg hc)
  · intro k w hw hbus
    rw [hget] at hw
    split at hw
    · rename_i hk
      obtain rfl := Option.some.inj hw
      rw [hk]
      exact hheld hbus
    · rename_i hk
      obtain ⟨g, hg, rfl⟩ := h.held k w hw hbus
      exact ⟨g, hkept g hg hk, rfl⟩
  · intro g hg
    by_cases hc : g.caller = i
    · exact (hown g hg hc).2
    · exact h.accounted g (hothers g hg hc)
  · intro j x k hx hk
    rw [hget]
    by_cases hki : k = i
    · -- The handler that moves keeps its command and its call.
      subst hki
      obtain ⟨c, hc, hid, hrest⟩ := h.call_of_recipient hv hx hk
      rw [if_pos rfl]
      exact ⟨v', c, rfl, hcalled c hc, hcommand ▸ hid, hrest⟩
    · rw [if_neg hki]
      exact h.received j x k hx hk
  · intro k w hw e he
    rw [hget] at hw
    split at hw
    · rename_i hk
      obtain rfl := Option.some.inj hw
      rw [hk]
      exact hforwarded e he
    · exact h.forwarded k w hw e he

/-- A handler gets an answer, and has no guard from then on. -/
theorem goOn (h : Inv s σ) (hv : σ.invocations[i]? = some v) {e : Effect}
    {next : e.Answer → Program Unit} (hp : v.stage.program = .perform e next) (x : e.Answer)
    {called : Option Call} {bus : Bus.LocalBus} (hmatched : bus.desk.Matched)
    (hguards : ∀ g, g ∈ bus.desk.guards ↔ g ∈ σ.bus.desk.guards ∧ g.caller ≠ i)
    (hcalled : ∀ c, v.called = some c → called = some c)
    (hcall : ∀ c, called = some c → c.instant ≤ σ.now ∧ c.heard ≤ σ.responses.length ∧
      σ.now ≤ c.instant + s.requestTimeout.nanos)
    (hasked : called ≠ none → e.isRequest = true ∨ ∃ y ∈ v.trace, y.effect.isRequest = true)
    (hresponse : ∀ r, Performed.response? ⟨e, x⟩ = some r →
      ∃ y ∈ σ.responses, y.envelope = r ∧ y.recipient = some i) :
    Inv s (σ.update i ({ v with called }.goOn σ.now ⟨e, x⟩ (next x)) bus) := by
  have hproper := (h.proper i v hv).goOn hp x called hcall hasked
  refine h.update hv hmatched ?_ ?_ hproper rfl hcalled ?_ ?_ ?_
  · intro g hg _
    exact ((hguards g).mp hg).1
  · intro g hg hc
    exact (hguards g).mpr ⟨hg, hc⟩
  · intro g hg hc
    exact absurd hc ((hguards g).mp hg).2
  · intro hbus
    cases hbus
  · intro r hr
    rw [Invocation.forwarded, Invocation.trace_goOn, busResponses_append] at hr
    rcases List.mem_append.mp hr with hold | hnew
    · exact h.forwarded i v hv r hold
    · obtain ⟨p, hp, hr⟩ := List.mem_filterMap.mp hnew
      rw [List.mem_singleton.mp hp] at hr
      exact hresponse r hr

end Inv

end CommandRelay.Relay.Concurrent
