import CommandRelay.Proofs.Relay.Moves

/-!
# Commands can always be finished

However commands got in each other's way, all of them can be finished from any state: no handler is
stuck, and the clock is never held up for good.

1. **The measure** — `State.weight` adds up how far each handler is from its end.
2. **`Inv.drive`** — a handler that can go on does so until it is done or has registered its
   request.
3. **`Inv.lighter`** — while a command is left, moves make the state lighter.  If all handlers that
   are left wait, the clock moves to the first of their deadlines, and there one of the waits is
   over.
4. **`Inv.canFinish`** — so all commands can be finished, by induction on the weight.
-/

namespace CommandRelay.Relay.Concurrent

open Program Correlation

variable {s : Settings} {base : String} {σ : State} {i : CallId} {v : Invocation}

/-! ## How far from the end -/

/-- How far a handler is from its end.  It calls the bus once, so it can go on at less cost once it
has. -/
def Invocation.weight (v : Invocation) : Nat :=
  match v.stage with
  | .running (.done _) => 0
  | .running (.perform _ _) => if v.called.isSome then 1 else 4
  | .waiting _ _ _ => 2
  | .entered _ _ _ => 3

/-- How far all handlers are from their ends. -/
def State.weight (σ : State) : Nat := (σ.invocations.map (·.weight)).sum

/-- A sum gets less when one of its terms does. -/
theorem sum_map_set_lt {α : Type} {f : α → Nat} {l : List α} {i : Nat} {a b : α}
    (ha : l[i]? = some a) (hlt : f b < f a) : ((l.set i b).map f).sum < (l.map f).sum := by
  induction l generalizing i with
  | nil => cases ha
  | cons x l ih =>
    cases i with
    | zero =>
      obtain rfl : x = a := Option.some.inj ha
      simp only [List.set_cons_zero, List.map_cons, List.sum_cons]
      omega
    | succ i =>
      have hrest := ih (i := i) ha
      simp only [List.set_cons_succ, List.map_cons, List.sum_cons]
      omega

theorem Invocation.weight_finished (h : v.Finished) : v.weight = 0 := by
  rw [weight, h]

theorem Invocation.weight_running {p : Program Unit} (hs : v.stage = .running p)
    (hcalled : v.called ≠ none) : v.weight ≤ 1 := by
  rw [weight, hs]
  cases p with
  | done u => exact Nat.zero_le _
  | perform e next =>
    have hsome := Option.isSome_iff_ne_none.mpr hcalled
    simp [hsome]

/-- A handler that moves stays the handler of its command. -/
theorem map_command_set (hv : σ.invocations[i]? = some v) {σ' : State} {v' : Invocation}
    (hset : σ'.invocations = σ.invocations.set i v') (hcommand : v'.command = v.command) :
    σ'.invocations.map (·.command) = σ.invocations.map (·.command) := by
  have hlt := (List.getElem?_eq_some_iff.mp hv).1
  rw [hset, List.map_set]
  apply List.ext_getElem?
  intro k
  rw [List.getElem?_set]
  by_cases hk : i = k
  · subst hk
    rw [if_pos rfl, if_pos (by rwa [List.length_map]), List.getElem?_map, hv, hcommand]
    rfl
  · rw [if_neg hk]

/-! ## Handlers that can go on -/

namespace Inv

/-- A handler that can go on does so, by itself, until it is done or has registered its request. -/
theorem drive (h : Inv s σ) (hbase : s.topic? .external Keys.commandResponse = some base)
    (hv : σ.invocations[i]? = some v) {p : Program Unit} (hs : v.stage = .running p) :
    ∃ σ' v', Steps s σ σ' ∧ σ'.invocations = σ.invocations.set i v' ∧ v'.command = v.command ∧
      (v'.Finished ∨ v.called = none ∧ v'.weight = 3) := by
  induction p generalizing σ v with
  | done u =>
    refine ⟨σ, v, .refl, ?_, rfl, .inl hs⟩
    obtain ⟨hlt, rfl⟩ := List.getElem?_eq_some_iff.mp hv
    exact (List.set_getElem_self hlt).symm
  | perform e next ih =>
    -- After an answer the rest of the program goes on.
    have hrest : ∀ (x : e.Answer) (called : Option Call) (bus : Bus.LocalBus),
        Step s σ (σ.update i ({ v with called }.goOn σ.now ⟨e, x⟩ (next x)) bus) →
        ∃ σ' v', Steps s σ σ' ∧ σ'.invocations = σ.invocations.set i v' ∧
          v'.command = v.command ∧ (v'.Finished ∨ called = none ∧ v'.weight = 3) := by
      intro x called bus hstep
      have hv₁ := getElem?_update hv ({ v with called }.goOn σ.now ⟨e, x⟩ (next x)) bus i
      rw [if_pos rfl] at hv₁
      obtain ⟨σ', v', hsteps, hset, hcommand, hend⟩ := ih x (h.step hbase hstep) hv₁ rfl
      refine ⟨σ', v', .head hstep hsteps, ?_, hcommand, hend⟩
      rw [hset]
      exact List.set_set ..
    by_cases he : e.isRequest = true
    · cases e with
      | request r timeout =>
        have huncalled := (h.proper i v hv).uncalled hbase hs
        rcases hb : σ.bus.enter i r with ⟨f | u, bus⟩
        · -- It was refused, so it has called the bus, and it does not call it again.
          obtain ⟨σ', v', hsteps, hset, hcommand, hdone | ⟨hnone, -⟩⟩ :=
            hrest (.error f) (some σ.call) bus (.refuse hv hs hb)
          · exact ⟨σ', v', hsteps, hset, hcommand, .inl hdone⟩
          · cases hnone
        · exact ⟨_, _, .single (.enter hv hs hb), rfl, rfl, .inr ⟨huncalled, rfl⟩⟩
      | _ => cases he
    · have he' : e.isRequest = false := by simpa using he
      exact hrest (badDay e ()).1 v.called σ.bus (.perform hv hs he' _)

/-- A handler that is left and can go on makes the state lighter. -/
theorem lighter_of_running (h : Inv s σ)
    (hbase : s.topic? .external Keys.commandResponse = some base)
    (hv : σ.invocations[i]? = some v) {p : Program Unit} (hs : v.stage = .running p)
    (hleft : ¬ v.Finished) : ∃ σ', Steps s σ σ' ∧ σ'.weight < σ.weight ∧
      σ'.invocations.map (·.command) = σ.invocations.map (·.command) := by
  obtain ⟨σ', v', hsteps, hset, hcommand, hend⟩ := h.drive hbase hv hs
  refine ⟨σ', hsteps, ?_, map_command_set hv hset hcommand⟩
  rw [State.weight, State.weight, hset]
  refine sum_map_set_lt hv ?_
  cases p with
  | done u => exact absurd hs hleft
  | perform e next =>
    rcases hend with hdone | ⟨hnone, hweight⟩
    · have hzero := Invocation.weight_finished hdone
      have hone : 0 < v.weight := by
        rw [Invocation.weight, hs]
        by_cases hsome : v.called.isSome = true <;> simp [hsome]
      omega
    · have hfour : v.weight = 4 := by
        rw [Invocation.weight, hs]
        simp [hnone]
      omega

/-! ## Handlers that call the bus -/

/-- A request that is registered can be sent. -/
theorem lighter_of_entered (h : Inv s σ) (hv : σ.invocations[i]? = some v) {r : Bus.Request}
    {timeout : Duration} {next : Except Fault Envelope → Program Unit}
    (hs : v.stage = .entered r timeout next) : ∃ σ', Steps s σ σ' ∧ σ'.weight < σ.weight ∧
      σ'.invocations.map (·.command) = σ.invocations.map (·.command) := by
  have hthree : v.weight = 3 := by rw [Invocation.weight, hs]
  rcases hb : σ.bus.send i r timeout σ.now with ⟨f | u, bus⟩
  · refine ⟨_, .single (.unheard hv hs hb), ?_, map_command_set hv rfl rfl⟩
    refine sum_map_set_lt hv ?_
    obtain ⟨c, hc, -⟩ := (h.proper i v hv).entered r timeout next hs
    have hone := Invocation.weight_running (v := v.goOn σ.now ⟨.request r timeout, .error f⟩
      (next (.error f))) rfl (by rw [show (v.goOn _ _ _).called = v.called from rfl, hc]; simp)
    omega
  · refine ⟨_, .single (.send hv hs hb), ?_, map_command_set hv rfl rfl⟩
    refine sum_map_set_lt hv ?_
    rw [hthree]
    exact Nat.lt_succ_self 2

/-- If all handlers that are left wait, there is a first deadline, and it has not passed. -/
theorem exists_first_deadline (h : Inv s σ)
    (hall : ∀ w ∈ σ.invocations, w.Finished ∨ ∃ r timeout next, w.stage = .waiting r timeout next)
    {g₀ : Guard} (hg₀ : g₀ ∈ σ.bus.desk.guards) :
    ∃ g ∈ σ.bus.desk.guards, ∃ w, g.wait = some w ∧ σ.now ≤ w.deadline ∧
      ∀ g' ∈ σ.bus.desk.guards, ∀ w', g'.wait = some w' → w.deadline ≤ w'.deadline := by
  obtain ⟨g, hg, hmin⟩ := Finset.exists_min_image σ.bus.desk.guards.toFinset
    (fun g => (g.wait.map (·.deadline)).getD 0) ⟨g₀, List.mem_toFinset.mpr hg₀⟩
  rw [List.mem_toFinset] at hg
  obtain ⟨v, hv, hholds⟩ := h.guards g hg
  have hproper := h.proper _ v hv
  obtain ⟨hdone, -⟩ := hproper.called_of_holds hholds
  rcases hall v (List.mem_of_getElem? hv) with hfinished | ⟨r, timeout, next, hs⟩
  · exact absurd hfinished hdone
  rw [Invocation.Holds, hs] at hholds
  obtain ⟨-, c, hc, hwait⟩ := hholds
  refine ⟨g, hg, _, hwait, hproper.inTime c hc hdone, ?_⟩
  intro g' hg' w' hw'
  have hle := hmin g' (List.mem_toFinset.mpr hg')
  simpa [hwait, hw'] using hle

/-- If all handlers that are left wait, the clock can move to the first deadline, and the wait that
is over there can end. -/
theorem lighter_of_waiting (h : Inv s σ)
    (hall : ∀ w ∈ σ.invocations, w.Finished ∨ ∃ r timeout next, w.stage = .waiting r timeout next)
    (hv : σ.invocations[i]? = some v) (hleft : ¬ v.Finished) :
    ∃ σ', Steps s σ σ' ∧ σ'.weight < σ.weight ∧
      σ'.invocations.map (·.command) = σ.invocations.map (·.command) := by
  obtain ⟨g₀, hg₀, -⟩ : ∃ g ∈ σ.bus.desk.guards, g.caller = i := by
    rcases hall v (List.mem_of_getElem? hv) with hfinished | ⟨r, timeout, next, hs⟩
    · exact absurd hfinished hleft
    · exact h.held i v hv (congrArg Stage.inBus hs)
  obtain ⟨g, hg, wait, hwait, hforward, hfirst⟩ := h.exists_first_deadline hall hg₀
  have hrest : σ.CanRest wait.deadline := by
    refine ⟨hforward, ?_, hfirst⟩
    intro w hw
    rw [Invocation.Rests]
    rcases hall w hw with hfinished | ⟨r, timeout, next, hs⟩
    · rw [show w.stage = _ from hfinished]
      exact .inr hfinished
    · rw [hs]
      trivial
  -- Now the handler of this guard.
  obtain ⟨w, hw, hholds⟩ := h.guards g hg
  have hproper := h.proper _ w hw
  obtain ⟨hdone, c, hc⟩ := hproper.called_of_holds hholds
  rcases hall w (List.mem_of_getElem? hw) with hfinished | ⟨r, timeout, next, hs⟩
  · exact absurd hfinished hdone
  obtain ⟨x, hx⟩ := Option.ne_none_iff_exists'.mp
    (Desk.outcome?_ne_none (d := σ.bus.desk) hwait (Nat.le_refl wait.deadline))
  have hguard : σ.bus.desk.guard? g.caller = some g := h.matched.guard?_eq_some_iff.mpr ⟨hg, rfl⟩
  let σ₁ : State := { σ with now := wait.deadline }
  have hconclude : Step s σ₁ (σ₁.update g.caller
      (w.goOn σ₁.now ⟨.request r timeout, x⟩ (next x)) (σ₁.bus.cancel g.caller)) :=
    .conclude hw hs hguard hx
  refine ⟨_, .tail (.single (.tick hrest)) hconclude, ?_, map_command_set hw rfl rfl⟩
  refine sum_map_set_lt hw ?_
  have htwo : w.weight = 2 := by rw [Invocation.weight, hs]
  have hone := Invocation.weight_running (v := w.goOn σ₁.now ⟨.request r timeout, x⟩ (next x)) rfl
    (by rw [show (w.goOn _ _ _).called = w.called from rfl, hc]; simp)
  omega

/-- While a command is left, some moves bring all commands closer to their ends. -/
theorem lighter (h : Inv s σ) (hbase : s.topic? .external Keys.commandResponse = some base)
    (hleft : ∃ v ∈ σ.invocations, ¬ v.Finished) : ∃ σ', Steps s σ σ' ∧ σ'.weight < σ.weight ∧
      σ'.invocations.map (·.command) = σ.invocations.map (·.command) := by
  by_cases hrunning : ∃ (i : CallId) (v : Invocation) (p : Program Unit),
      σ.invocations[i]? = some v ∧ v.stage = .running p ∧ ¬ v.Finished
  · obtain ⟨i, v, p, hv, hs, hdone⟩ := hrunning
    exact h.lighter_of_running hbase hv hs hdone
  by_cases hentered : ∃ (i : CallId) (v : Invocation) (r : Bus.Request) (timeout : Duration)
      (next : Except Fault Envelope → Program Unit),
      σ.invocations[i]? = some v ∧ v.stage = .entered r timeout next
  · obtain ⟨i, v, r, timeout, next, hv, hs⟩ := hentered
    exact h.lighter_of_entered hv hs
  -- All that are left wait.
  obtain ⟨v, hmem, hdone⟩ := hleft
  obtain ⟨i, hv⟩ := List.getElem?_of_mem hmem
  refine h.lighter_of_waiting ?_ hv hdone
  intro w hw
  obtain ⟨k, hk⟩ := List.getElem?_of_mem hw
  cases hs : w.stage with
  | running p =>
    left
    by_contra hnot
    exact hrunning ⟨k, w, p, hk, hs, hnot⟩
  | entered r timeout next => exact absurd ⟨k, w, r, timeout, next, hk, hs⟩ hentered
  | waiting r timeout next => exact .inr ⟨r, timeout, next, rfl⟩

/-- From every state all commands can be finished. -/
theorem canFinish (h : Inv s σ) (hbase : s.topic? .external Keys.commandResponse = some base) :
    ∃ σ', Steps s σ σ' ∧ (∀ v ∈ σ'.invocations, v.Finished) ∧
      σ'.invocations.map (·.command) = σ.invocations.map (·.command) := by
  induction hn : σ.weight using Nat.strong_induction_on generalizing σ with
  | h n ih =>
    by_cases hleft : ∃ v ∈ σ.invocations, ¬ v.Finished
    · obtain ⟨σ₁, hsteps, hlt, hcommands⟩ := h.lighter hbase hleft
      rw [hn] at hlt
      obtain ⟨σ', hsteps', hall, hcommands'⟩ := ih σ₁.weight hlt (h.steps hbase hsteps) rfl
      exact ⟨σ', hsteps.trans hsteps', hall, hcommands'.trans hcommands⟩
    · refine ⟨σ, .refl, ?_, rfl⟩
      intro v hv
      by_contra hdone
      exact hleft ⟨v, hv, hdone⟩

end Inv

end CommandRelay.Relay.Concurrent
