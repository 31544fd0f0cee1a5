import CommandRelay.Proofs.Bus.LocalRun
import CommandRelay.Proofs.Relay.Sharing

/-!
# Every move keeps the invariant

One lemma for each move.  What the bus does to its desk is said first; a handler that moves then
comes down to `Inv.update`, and most of the time to `Inv.goOn`.  `Inv.respond` and `Inv.tick` are
the moves that concern all handlers: a response goes to a handler that is in the middle of its call,
and time passes only for handlers whose deadline is known to their guards.
-/

namespace CommandRelay.Relay.Concurrent

open Program Correlation

variable {s : Settings} {base : String} {σ : State} {i : CallId} {v : Invocation}

/-! ## What a call does to the desk -/

section

variable {b bus : Bus.LocalBus} {r : Bus.Request} {timeout : Duration} {now : Instant} {f : Fault}

theorem enter_desk {x : Except Fault Unit} (hb : b.enter i r = (x, bus)) :
    b.desk.register i r.envelope.requestId = (x, bus.desk) := by
  obtain ⟨rfl, rfl⟩ := Prod.mk.inj hb
  rfl

theorem enter_error (hb : b.enter i r = (.error f, bus)) : bus.desk.guards = b.desk.guards := by
  have hreg := enter_desk hb
  rcases b.desk.register_cases i r.envelope.requestId with ⟨-, heq⟩ | ⟨-, -, heq⟩ | ⟨-, -, heq⟩
  · rw [← (Prod.mk.inj (heq.symm.trans hreg)).2]
  · rw [← (Prod.mk.inj (heq.symm.trans hreg)).2]
  · cases (Prod.mk.inj (heq.symm.trans hreg)).1

theorem enter_ok (hb : b.enter i r = (.ok (), bus)) : bus.desk.guards = b.desk.guards ++
    [{ caller := i, requestId := r.envelope.requestId, ticket := b.desk.nextTicket }] := by
  have hreg := enter_desk hb
  rcases b.desk.register_cases i r.envelope.requestId with ⟨-, heq⟩ | ⟨-, -, heq⟩ | ⟨-, -, heq⟩
  · cases (Prod.mk.inj (heq.symm.trans hreg)).1
  · cases (Prod.mk.inj (heq.symm.trans hreg)).1
  · rw [← (Prod.mk.inj (heq.symm.trans hreg)).2]

theorem send_error (hb : b.send i r timeout now = (.error f, bus)) :
    bus.desk = b.desk.drop i := by
  rw [Bus.LocalBus.send] at hb
  split at hb
  · rw [← (Prod.mk.inj hb).2]
  · cases (Prod.mk.inj hb).1

theorem send_ok (hb : b.send i r timeout now = (.ok (), bus)) :
    bus.desk = b.desk.await i timeout now := by
  rw [Bus.LocalBus.send] at hb
  split at hb
  · cases (Prod.mk.inj hb).1
  · rw [← (Prod.mk.inj hb).2]

end

/-- A state in which a response was handed to the bus, and noted. -/
def State.responded (σ : State) (e : Envelope) : State := { σ with
  bus := (σ.bus.respond e).2
  responses := σ.responses ++ [{
    envelope := e, instant := σ.now
    taken := (σ.bus.respond e).1, recipient := recipient? σ.bus e }] }

namespace Inv

/-! ## What a handler does -/

/-- An effect that is no request of the bus is answered, and the handler goes on. -/
theorem perform (h : Inv s σ) (hv : σ.invocations[i]? = some v) {e : Effect}
    {next : e.Answer → Program Unit} (hs : v.stage = .running (.perform e next))
    (he : e.isRequest = false) (x : e.Answer) :
    Inv s (σ.update i (v.goOn σ.now ⟨e, x⟩ (next x)) σ.bus) := by
  have hp : v.stage.program = .perform e next :=
    congrArg Stage.program hs
  have hproper := h.proper i v hv
  refine h.goOn hv hp x h.matched ?_ (fun c hc => hc)
    (hproper.call_of_not_finished (Invocation.not_finished_of_perform hp))
    (fun hc => .inr (hproper.asked _ hs hc)) ?_
  · intro g
    exact (and_iff_left_of_imp fun hg => h.no_guard hv hs g hg).symm
  · intro r hr
    cases e with
    | request r' timeout => cases he
    | _ => cases hr

/-- The bus does not take a request, and the handler goes on with the fault. -/
theorem refuse (h : Inv s σ) (hbase : s.topic? .external Keys.commandResponse = some base)
    (hv : σ.invocations[i]? = some v) {r : Bus.Request} {timeout : Duration}
    {next : Except Fault Envelope → Program Unit} {f : Fault} {bus : Bus.LocalBus}
    (hs : v.stage = .running (.perform (.request r timeout) next))
    (hb : σ.bus.enter i r = (.error f, bus)) :
    Inv s (σ.update i ({ v with called := some σ.call }.goOn σ.now
      ⟨.request r timeout, .error f⟩ (next (.error f))) bus) := by
  have hp : v.stage.program = .perform (.request r timeout) next :=
    congrArg Stage.program hs
  have hmatched := h.matched.register r.envelope.requestId (h.no_guard hv hs)
  rw [enter_desk hb] at hmatched
  refine h.goOn hv hp (.error f) hmatched ?_ ?_ ?_ (fun _ => .inl rfl) ?_
  · intro g
    rw [enter_error hb]
    exact (and_iff_left_of_imp fun hg => h.no_guard hv hs g hg).symm
  · intro c hc
    rw [(h.proper i v hv).uncalled hbase hs] at hc
    cases hc
  · intro c hc
    cases hc
    exact ⟨Nat.le_refl _, Nat.le_refl _, Nat.le_add_right _ _⟩
  · intro r hr
    cases hr

/-- Nobody listens to the request of a handler, so its guard goes and it goes on with the fault. -/
theorem unheard (h : Inv s σ) (hv : σ.invocations[i]? = some v) {r : Bus.Request}
    {timeout : Duration} {next : Except Fault Envelope → Program Unit} {f : Fault}
    {bus : Bus.LocalBus} (hs : v.stage = .entered r timeout next)
    (hb : σ.bus.send i r timeout σ.now = (.error f, bus)) :
    Inv s (σ.update i (v.goOn σ.now ⟨.request r timeout, .error f⟩ (next (.error f))) bus) := by
  have hp : v.stage.program = .perform (.request r timeout) next :=
    congrArg Stage.program hs
  have hdesk := send_error hb
  refine h.goOn hv hp (.error f) (hdesk ▸ h.matched.drop i) ?_ (fun c hc => hc)
    ((h.proper i v hv).call_of_not_finished (Invocation.not_finished_of_perform hp))
    (fun _ => .inl rfl) ?_
  · intro g
    rw [hdesk, h.matched.drop_guards, List.mem_filter, bne_iff_ne]
  · intro r hr
    cases hr

/-- The wait of a handler is over: its guard goes, and the handler goes on with what came of it. -/
theorem conclude (h : Inv s σ) (hv : σ.invocations[i]? = some v) {r : Bus.Request}
    {timeout : Duration} {next : Except Fault Envelope → Program Unit} {g : Guard} {x : CallResult}
    (hs : v.stage = .waiting r timeout next) (hg : σ.bus.desk.guard? i = some g)
    (hx : σ.bus.desk.outcome? σ.now g = some x) :
    Inv s (σ.update i (v.goOn σ.now ⟨.request r timeout, x⟩ (next x)) (σ.bus.cancel i)) := by
  have hp : v.stage.program = .perform (.request r timeout) next :=
    congrArg Stage.program hs
  obtain ⟨hmem, rfl⟩ := h.matched.guard?_eq_some_iff.mp hg
  refine h.goOn hv hp x (h.matched.drop _) ?_ (fun c hc => hc)
    ((h.proper _ v hv).call_of_not_finished (Invocation.not_finished_of_perform hp))
    (fun _ => .inl rfl) ?_
  · intro g'
    show g' ∈ (σ.bus.desk.drop g.caller).guards ↔ _
    rw [h.matched.drop_guards, List.mem_filter, bne_iff_ne]
  · intro e he
    -- What the wait ended with was in the guard, so it was a response to this handler.
    cases x with
    | error f => cases he
    | ok e' =>
      obtain rfl : e' = e := Option.some.inj he
      have hin := h.accounted g hmem
      rw [Accounted, Desk.response_of_outcome? hx] at hin
      exact hin

/-- The bus takes a request, and the handler has a guard from now on. -/
theorem enter (h : Inv s σ) (hbase : s.topic? .external Keys.commandResponse = some base)
    (hv : σ.invocations[i]? = some v) {r : Bus.Request} {timeout : Duration}
    {next : Except Fault Envelope → Program Unit} {bus : Bus.LocalBus}
    (hs : v.stage = .running (.perform (.request r timeout) next))
    (hb : σ.bus.enter i r = (.ok (), bus)) :
    Inv s (σ.update i { v with
      stage := .entered r timeout next, called := some σ.call } bus) := by
  have hp : v.stage.program = .perform (.request r timeout) next :=
    congrArg Stage.program hs
  have hproper := h.proper i v hv
  have huncalled := hproper.uncalled hbase hs
  have hnone := h.no_guard hv hs
  obtain ⟨-, hid, -⟩ := hproper.request hbase hp
  have hmatched := h.matched.register r.envelope.requestId hnone
  rw [enter_desk hb] at hmatched
  have hguards := enter_ok hb
  refine h.update hv hmatched ?_ ?_ ?_ rfl ?_ ?_ ?_ (h.forwarded i v hv)
  · intro g hg hc
    rw [hguards] at hg
    rcases List.mem_append.mp hg with hg | hg
    · exact hg
    · rw [List.mem_singleton.mp hg] at hc
      exact absurd rfl hc
  · intro g hg _
    rw [hguards]
    exact List.mem_append_left _ hg
  · refine ⟨?_, hproper.past, ?_, ?_, ?_, ?_⟩
    · have hpath := hproper.path
      rw [hp] at hpath
      exact hpath
    · intro p hrun
      cases hrun
    · intro c hc
      cases hc
      refine ⟨Nat.le_refl _, Nat.le_refl _, ?_⟩
      intro p hpast
      exact Nat.le_trans (hproper.past p hpast) (Nat.le_add_right _ _)
    · intro c hc _
      cases hc
      exact Nat.le_add_right _ _
    · intro r' timeout' next' _
      exact ⟨_, rfl, rfl⟩
  · intro c hc
    rw [huncalled] at hc
    cases hc
  · intro g hg hc
    rw [hguards] at hg
    rcases List.mem_append.mp hg with hg | hg
    · exact absurd hc (hnone g hg)
    · rw [List.mem_singleton.mp hg]
      refine ⟨⟨hid, rfl⟩, ?_⟩
      -- No response can have come before the call.
      show i ∉ σ.responses.filterMap (·.recipient)
      intro hearly
      obtain ⟨x, hx, hi⟩ := List.mem_filterMap.mp hearly
      obtain ⟨j, hj⟩ := List.getElem?_of_mem hx
      obtain ⟨c, hc, -⟩ := h.call_of_recipient hv hj hi
      rw [huncalled] at hc
      cases hc
  · intro _
    rw [hguards]
    exact ⟨_, List.mem_append_right _ (List.mem_singleton_self _), rfl⟩

/-- A request goes out, and the wait of its handler begins. -/
theorem send (h : Inv s σ) (hbase : s.topic? .external Keys.commandResponse = some base)
    (hv : σ.invocations[i]? = some v) {r : Bus.Request} {timeout : Duration}
    {next : Except Fault Envelope → Program Unit} {bus : Bus.LocalBus}
    (hs : v.stage = .entered r timeout next)
    (hb : σ.bus.send i r timeout σ.now = (.ok (), bus)) :
    Inv s (σ.update i { v with stage := .waiting r timeout next } bus) := by
  have hp : v.stage.program = .perform (.request r timeout) next :=
    congrArg Stage.program hs
  have hproper := h.proper i v hv
  obtain ⟨htimeout, -, -⟩ := hproper.request hbase hp
  obtain ⟨c, hc, hinstant⟩ := hproper.entered r timeout next hs
  obtain ⟨g, hg, hgi⟩ := h.held i v hv (congrArg Stage.inBus hs)
  subst hgi
  have hholds := h.holds hg hv
  have hdesk := send_ok hb
  have hguards := congrArg Desk.guards (hdesk.trans (h.matched.await_eq hg timeout σ.now))
  -- Its guard waits from now on and is put behind the others; the rest are as before.
  have hnew : g.waiting timeout σ.now ∈ bus.desk.guards := by
    rw [hguards]
    exact List.mem_append_right _ (List.mem_singleton_self _)
  refine h.update hv (hdesk ▸ h.matched.await _ _ _) ?_ ?_ ?_ rfl (fun c hc => hc) ?_ ?_
    (h.forwarded _ v hv)
  · intro g' hg' hne
    rw [hguards] at hg'
    rcases List.mem_append.mp hg' with hg' | hg'
    · exact (List.mem_filter.mp hg').1
    · rw [List.mem_singleton.mp hg'] at hne
      exact absurd rfl hne
  · intro g' hg' hne
    rw [hguards]
    exact List.mem_append_left _ (List.mem_filter.mpr ⟨hg', bne_iff_ne.mpr hne⟩)
  · have hpath := hproper.path
    rw [hp] at hpath
    refine ⟨hpath, hproper.past, ?_, hproper.call, ?_, ?_⟩
    · intro p hrun
      cases hrun
    · intro c' hc' _
      exact hproper.inTime c' hc' (Invocation.not_finished_of_perform hp)
    · intro r' timeout' next' hstage
      cases hstage
  · intro g' hg' hgi
    rw [hguards] at hg'
    rcases List.mem_append.mp hg' with hg' | hg'
    · exact absurd hgi (bne_iff_ne.mp (List.mem_filter.mp hg').2)
    · rw [List.mem_singleton.mp hg']
      refine ⟨⟨hholds.1, c, hc, ?_⟩, h.accounted g hg⟩
      rw [hinstant, ← htimeout]
      rfl
  · intro _
    exact ⟨_, hnew, rfl⟩

/-! ## What others do -/

/-- A command is handed to a new handler, which has done nothing so far. -/
theorem launch (h : Inv s σ) (c : Command) : Inv s { σ with invocations := σ.invocations ++
    [{ command := c, stage := .running (handleCommand s c.topic c.payload) }] } := by
  -- A new handler is put behind the others, so these keep their places.
  have hold : ∀ {k : CallId} {w : Invocation}, σ.invocations[k]? = some w →
      (σ.invocations ++
      [{ command := c, stage := .running (handleCommand s c.topic c.payload) }])[k]?
        = some w := by
    intro k w hw
    rw [List.getElem?_append_left (List.getElem?_eq_some_iff.mp hw).1]
    exact hw
  have hnew : ∀ {k : CallId} {w : Invocation},
      (σ.invocations ++
      [{ command := c, stage := .running (handleCommand s c.topic c.payload) }])[k]?
        = some w → σ.invocations[k]? = some w ∨
      w = { command := c, stage := .running (handleCommand s c.topic c.payload) } := by
    intro k w hw
    rw [List.getElem?_append] at hw
    split at hw
    · exact .inl hw
    · right
      have hmem := List.mem_of_getElem? hw
      exact List.mem_singleton.mp hmem
  refine ⟨h.matched, ?_, ?_, ?_, h.accounted, h.once, h.taken, ?_, ?_⟩
  · intro k w hw
    rcases hnew hw with hw | rfl
    · exact h.proper k w hw
    · -- It has asked for nothing so far, and every clause about its call is void.
      refine ⟨.stay _, ?_, ?_, ?_, ?_, ?_⟩
      · intro p hp
        cases hp
      · intro p _ hcalled
        exact absurd rfl hcalled
      · intro c hc
        cases hc
      · intro c hc
        cases hc
      · intro r timeout next hs
        cases hs
  · intro g hg
    obtain ⟨w, hw, hholds⟩ := h.guards g hg
    exact ⟨w, hold hw, hholds⟩
  · intro k w hw hbus
    rcases hnew hw with hw | rfl
    · exact h.held k w hw hbus
    · cases hbus
  · intro j x k hx hk
    obtain ⟨w, c, hw, hrest⟩ := h.received j x k hx hk
    exact ⟨w, c, hold hw, hrest⟩
  · intro k w hw e he
    rcases hnew hw with hw | rfl
    · exact h.forwarded k w hw e he
    · cases he

/-- What leaves the desk as it is keeps everything. -/
theorem withBus (h : Inv s σ) {bus : Bus.LocalBus} (hdesk : bus.desk = σ.bus.desk) :
    Inv s { σ with bus } := by
  refine ⟨?_, h.proper, ?_, ?_, ?_, h.once, h.taken, h.received, h.forwarded⟩ <;>
    simp only [hdesk]
  · exact h.matched
  · exact h.guards
  · exact h.held
  · exact h.accounted

/-- The clock goes on as far as everyone can rest. -/
theorem tick (h : Inv s σ) {t : Instant} (ht : σ.CanRest t) : Inv s { σ with now := t } := by
  refine ⟨h.matched, ?_, h.guards, h.held, h.accounted, h.once, h.taken, h.received, h.forwarded⟩
  intro k w hw
  have hproper := h.proper k w hw
  have hrests := ht.rests w (List.mem_of_getElem? hw)
  rw [Invocation.Rests] at hrests
  refine ⟨hproper.path, ?_, hproper.asked, ?_, ?_, ?_⟩
  · intro p hp
    exact Nat.le_trans (hproper.past p hp) ht.forward
  · intro c hc
    obtain ⟨hinstant, hrest⟩ := hproper.call c hc
    exact ⟨Nat.le_trans hinstant ht.forward, hrest⟩
  · -- Only a handler that waits lets time pass, and its guard knows the deadline.
    intro c hc hdone
    cases hs : w.stage with
    | running p =>
      rw [hs] at hrests
      rcases hrests with hnone | hfinished
      · rw [hnone] at hc
        cases hc
      · exact absurd hfinished hdone
    | entered r timeout next =>
      rw [hs] at hrests
      exact hrests.elim
    | waiting r timeout next =>
      obtain ⟨g, hg, rfl⟩ := h.held k w hw (congrArg Stage.inBus hs)
      obtain ⟨-, hwaits⟩ := h.holds hg hw
      rw [hs] at hwaits
      obtain ⟨c', hc', hwait⟩ := hwaits
      obtain rfl : c = c' := Option.some.inj (hc.symm.trans hc')
      exact ht.deadlines g hg _ hwait
  · intro r timeout next hs
    rw [hs] at hrests
    exact hrests.elim

/-- Whom a response goes to: nobody, or the handler whose guard is handed the response. -/
theorem recipient_cases (h : Inv s σ) (e : Envelope) :
    (recipient? σ.bus e = none ∧ (σ.bus.respond e).1 = false ∧
      (σ.bus.respond e).2.desk = σ.bus.desk) ∨
    (∃ g ∈ σ.bus.desk.guards, g.response = none ∧ g.requestId = e.requestId ∧
      recipient? σ.bus e = some g.caller ∧ (σ.bus.respond e).1 = true ∧
      (σ.bus.respond e).2.desk.guards = σ.bus.desk.guards.map fun g' =>
        if g'.caller = g.caller then { g' with response := some e } else g') := by
  have htaken : (σ.bus.respond e).1 = (σ.bus.desk.complete e).1 := rfl
  have hdesk : (σ.bus.respond e).2.desk = (σ.bus.desk.complete e).2 := rfl
  rw [recipient?, htaken, hdesk]
  rcases h.matched.complete_cases e with ⟨-, heq⟩ | ⟨g, hg, hw, hr, hid, heq⟩
  · left
    rw [heq]
    exact ⟨rfl, rfl, rfl⟩
  · right
    have hwaiter : σ.bus.desk.waiter? e.requestId = some g.waiter :=
      h.matched.waiter?_eq_some_iff.mpr ⟨hw, hid⟩
    rw [heq, hwaiter]
    exact ⟨g, hg, hr, hid, rfl, rfl, rfl⟩

/-- One response more changes nothing for a handler. -/
theorem proper_append (h : Inv s σ) (x : Response) {k : CallId} {w : Invocation}
    (hw : σ.invocations[k]? = some w) : w.Proper s σ.now (σ.responses ++ [x]).length := by
  have hp := h.proper k w hw
  refine ⟨hp.path, hp.past, hp.asked, ?_, hp.inTime, hp.entered⟩
  intro c hc
  obtain ⟨hinstant, hheard, hpast⟩ := hp.call c hc
  rw [List.length_append]
  exact ⟨hinstant, Nat.le_add_right_of_le hheard, hpast⟩

theorem forwarded_append (h : Inv s σ) (x : Response) {k : CallId} {w : Invocation}
    (hw : σ.invocations[k]? = some w) :
    ∀ e ∈ w.forwarded, ∃ y ∈ σ.responses ++ [x], y.envelope = e ∧ y.recipient = some k := by
  intro e he
  obtain ⟨y, hy, hrest⟩ := h.forwarded k w hw e he
  exact ⟨y, List.mem_append_left _ hy, hrest⟩

/-- Nobody waits for a response: the desk is as before. -/
theorem respond_nobody (h : Inv s σ) {e : Envelope} (hnone : recipient? σ.bus e = none)
    (hfalse : (σ.bus.respond e).1 = false) (hdesk : (σ.bus.respond e).2.desk = σ.bus.desk) :
    Inv s (σ.responded e) := by
  refine ⟨h.matched.complete e, fun k w hw => h.proper_append _ hw, ?_, ?_, ?_, ?_, ?_, ?_,
    fun k w hw => h.forwarded_append _ hw⟩
  · rw [State.responded, hdesk]
    exact h.guards
  · rw [State.responded, hdesk]
    exact h.held
  · rw [State.responded, hdesk]
    intro g hg
    refine (h.accounted g hg).append ?_
    rw [hnone]
    exact fun hc => nomatch hc
  · simp only [State.responded, List.filterMap_append, List.filterMap_cons, hnone,
      List.filterMap_nil,
      List.append_nil]
    exact h.once
  · intro x hx
    rcases List.mem_append.mp hx with hx | hx
    · exact h.taken x hx
    · rw [List.mem_singleton.mp hx, hnone, hfalse]
      rfl
  · intro j x k hx hk
    rw [State.responded, List.getElem?_append] at hx
    split at hx
    · exact h.received j x k hx hk
    · rw [List.mem_singleton.mp (List.mem_of_getElem? hx), hnone] at hk
      cases hk

/-- A response goes into the guard of a handler that is in the middle of its call. -/
theorem respond_waiting (h : Inv s σ) {e : Envelope} {g : Guard} (hg : g ∈ σ.bus.desk.guards)
    (hr : g.response = none) (hid : g.requestId = e.requestId)
    (hsome : recipient? σ.bus e = some g.caller) (htrue : (σ.bus.respond e).1 = true)
    (hguards : (σ.bus.respond e).2.desk.guards = σ.bus.desk.guards.map fun g' =>
      if g'.caller = g.caller then { g' with response := some e } else g') :
    Inv s (σ.responded e) := by
  -- The guard holds nothing yet, so no response before this one has gone to its handler.
  have hin := h.accounted g hg
  rw [Accounted, hr] at hin
  obtain ⟨w, hw, hholds⟩ := h.guards g hg
  refine ⟨h.matched.complete e, fun k w hw => h.proper_append _ hw, ?_, ?_, ?_, ?_, ?_, ?_,
    fun k w hw => h.forwarded_append _ hw⟩
  · rw [State.responded, hguards]
    intro g' hg'
    rcases Desk.mem_guards_deliver.mp hg' with ⟨g₀, hg₀, -, rfl⟩ | ⟨hg', -⟩
    · exact h.guards g₀ hg₀
    · exact h.guards g' hg'
  · intro k w' hw' hbus
    obtain ⟨g', hg', hc⟩ := h.held k w' hw' hbus
    have hmem : g'.caller ∈ (σ.bus.respond e).2.desk.guards.map (·.caller) := by
      rw [hguards, Desk.map_deliver fun _ => rfl]
      exact List.mem_map_of_mem hg'
    obtain ⟨g'', hg'', hc'⟩ := List.mem_map.mp hmem
    exact ⟨g'', hg'', hc'.trans hc⟩
  · rw [State.responded, hguards]
    intro g' hg'
    rcases Desk.mem_guards_deliver.mp hg' with ⟨g₀, -, hc, rfl⟩ | ⟨hg', hc⟩
    · refine ⟨_, List.mem_append_right _ (List.mem_singleton_self _), rfl, ?_⟩
      rw [hsome]
      exact congrArg some hc.symm
    · refine (h.accounted g' hg').append ?_
      rw [hsome]
      exact fun hsame => hc (Option.some.inj hsame).symm
  · -- Nobody receives twice: this handler had received nothing.
    simp only [State.responded, List.filterMap_append, List.filterMap_cons, hsome,
      List.filterMap_nil]
    rw [List.nodup_append]
    refine ⟨h.once, by simp, ?_⟩
    rintro a ha b hb rfl
    rw [List.mem_singleton.mp hb] at ha
    exact hin ha
  · intro x hx
    rcases List.mem_append.mp hx with hx | hx
    · exact h.taken x hx
    · rw [List.mem_singleton.mp hx, hsome, htrue]
      rfl
  · intro j x k hx hk
    rw [State.responded, List.getElem?_append] at hx
    split at hx
    · exact h.received j x k hx hk
    · -- The new response is the last one, so the handler has heard none behind it.
      rename_i hj
      rw [List.mem_singleton.mp (List.mem_of_getElem? hx)] at hk ⊢
      obtain rfl : g.caller = k := Option.some.inj (hsome.symm.trans hk)
      have hp := h.proper _ w hw
      obtain ⟨hdone, c, hc⟩ := hp.called_of_holds hholds
      obtain ⟨hinstant, hheard, hlate⟩ := hp.call_of_not_finished hdone c hc
      exact ⟨w, c, hw, hc, hid.symm.trans hholds.1, Nat.le_trans hheard (Nat.le_of_not_lt hj),
        hinstant, hlate⟩

/-- What is handed to the bus is noted, whatever comes of it. -/
theorem respond (h : Inv s σ) (e : Envelope) : Inv s { σ with
    bus := (σ.bus.respond e).2
    responses := σ.responses ++ [{
      envelope := e, instant := σ.now
      taken := (σ.bus.respond e).1, recipient := recipient? σ.bus e }] } := by
  rcases h.recipient_cases e with ⟨hnone, hfalse, hdesk⟩ |
    ⟨g, hg, hr, hid, hsome, htrue, hguards⟩
  · exact h.respond_nobody hnone hfalse hdesk
  · exact h.respond_waiting hg hr hid hsome htrue hguards

/-- Every move keeps the invariant. -/
theorem step (h : Inv s σ) (hbase : s.topic? .external Keys.commandResponse = some base)
    {σ' : State} (hstep : Step s σ σ') : Inv s σ' := by
  cases hstep with
  | launch c => exact h.launch c
  | perform hv hs he x => exact h.perform hv hs he x
  | refuse hv hs hb => exact h.refuse hbase hv hs hb
  | enter hv hs hb => exact h.enter hbase hv hs hb
  | unheard hv hs hb => exact h.unheard hv hs hb
  | send hv hs hb => exact h.send hbase hv hs hb
  | conclude hv hs hg hx => exact h.conclude hv hs hg hx
  | respond e => exact h.respond e
  | subscribe number base => exact h.withBus rfl
  | unsubscribe number => exact h.withBus rfl
  | receive number => exact h.withBus (σ.bus.receive_desk number)
  | tick ht => exact h.tick ht

/-- Every sequence of moves keeps the invariant. -/
theorem steps (h : Inv s σ) (hbase : s.topic? .external Keys.commandResponse = some base)
    {σ' : State} (hsteps : Steps s σ σ') : Inv s σ' := by
  induction hsteps with
  | refl => exact h
  | tail _ hstep ih => exact ih.step hbase hstep

end Inv

end CommandRelay.Relay.Concurrent
