import CommandRelay.Correlation.DeskRun
import CommandRelay.Proofs.Correlation.Settling
import CommandRelay.Proofs.Correlation.Tickets

/-!
# States that runs of the desk reach

A run holds its guards by names.  This file says what a step of a run can do and what every run
keeps.

1. **`Sound`** — the names stand for exactly the guards of the desk, no guard waits between two
   steps, and the desk is matched.
2. **`Stepped`** — everything that a step can do to a sound state, one case for each way that it
   ends.  `wait_eq` is the case with work in it: a wait takes the guard away with what was in it,
   whatever the timeout.
3. **`Stepped.sound`, `sound_after`** — every step keeps a state sound, so every run ends in one.
4. **`numbered_after`** — tickets come apart from this, for they depend on how long the run is: the
   guards without a response keep their waiters as long as fewer than `2 ^ 64` registrations were
   tried.
-/

namespace CommandRelay.Correlation

namespace Desk

/-- A desk once a name has let go of its guard, if it had one. -/
def letGo (d : Desk) : Option CallId → Desk
  | none => d
  | some caller => d.drop caller

variable {d : Desk}

/-- Letting a caller go, or nobody, keeps a desk matched. -/
theorem Matched.letGo (h : d.Matched) (old : Option CallId) : (d.letGo old).Matched := by
  cases old with
  | none => exact h
  | some c => exact h.drop c

/-- Letting a caller go, or nobody, keeps the waiters of all other guards. -/
theorem Numbered.letGo (h : d.Numbered) (hm : d.Matched) (old : Option CallId) :
    (d.letGo old).Numbered := by
  cases old with
  | none => exact h
  | some c => exact h.drop hm c

/-- The guards that are left are those of other callers. -/
theorem Matched.letGo_guards (h : d.Matched) (old : Option CallId) :
    (d.letGo old).guards = d.guards.filter (some ·.caller != old) := by
  cases old with
  | none => exact (List.filter_eq_self.mpr fun _ _ => rfl).symm
  | some c => exact h.drop_guards c

/-- Letting go adds no waiter. -/
theorem letGo_waiters_subset (h : d.Matched) (old : Option CallId) :
    (d.letGo old).waiters ⊆ d.waiters := by
  cases old with
  | none => exact List.Subset.refl _
  | some c =>
    rcases h.drop_cases c with ⟨-, heq⟩ | ⟨g, -, -, heq⟩
    · rw [show d.letGo (some c) = _ from heq]
      exact List.Subset.refl _
    · rw [show d.letGo (some c) = _ from heq]
      exact List.filter_subset_self _

/-- Letting go uses no ticket. -/
theorem letGo_nextTicket (h : d.Matched) (old : Option CallId) :
    (d.letGo old).nextTicket = d.nextTicket := by
  cases old with
  | none => rfl
  | some c => exact h.drop_nextTicket c

end Desk

namespace DeskRun

/-- How often a run tries to register. -/
def registrations (steps : List DeskStep) : Nat :=
  steps.countP fun a => match a with
    | .register _ _ => true
    | _ => false

/-- What holds between the steps of a run. -/
structure Sound (s : DeskRun) : Prop where
  matched : s.desk.Matched
  idle : ∀ g ∈ s.desk.guards, g.wait = none
  held : s.held.map (·.2) = s.desk.guards.map (·.caller)
  names : (s.held.map (·.1)).Nodup
  fresh : ∀ g ∈ s.desk.guards, g.caller < s.nextCaller

/-- Everything that a step can do to a sound state, and the answer to it. -/
inductive Stepped (s : DeskRun) : DeskStep → DeskReply → DeskRun → Prop
  /-- Nothing is registered without a request ID. -/
  | nameless {name : String} : Stepped s (.register name "") (.refused .noRequestId) s
  /-- A request ID in flight is refused; that costs a ticket. -/
  | inFlight {name requestId : String} (hid : requestId ≠ "")
      (hw : ∃ w ∈ s.desk.waiters, w.requestId = requestId) :
      Stepped s (.register name requestId) (.refused (.alreadyInFlight requestId))
        { s with desk := { s.desk with nextTicket := s.desk.nextTicket + 1 } }
  /-- A new guard takes the name; whatever had the name goes. -/
  | registered {name requestId : String} (hid : requestId ≠ "")
      (hfree : ∀ w ∈ s.desk.waiters, w.requestId ≠ requestId) :
      Stepped s (.register name requestId) (.done true) { s with
        desk := (s.desk.register s.nextCaller requestId).2.letGo (s.caller? name)
        held := s.held.filter (·.1 != name) ++ [(name, s.nextCaller)]
        nextCaller := s.nextCaller + 1 }
  /-- Nobody waits for the response. -/
  | missed {r : Envelope} (hfree : ∀ w ∈ s.desk.waiters, w.requestId ≠ r.requestId) :
      Stepped s (.complete r) (.done false) s
  /-- The response goes into the guard whose waiter was found. -/
  | delivered {r : Envelope} {g : Guard} (hg : g ∈ s.desk.guards) (hw : g.waiter ∈ s.desk.waiters)
      (hr : g.response = none) (hid : g.requestId = r.requestId) :
      Stepped s (.complete r) (.done true) { s with desk := { s.desk with
        waiters := s.desk.waiters.filter (·.requestId != r.requestId)
        guards := s.desk.guards.map fun g' =>
          if g'.caller = g.caller then { g' with response := some r } else g' } }
  /-- A name lets go of its guard, if it has one. -/
  | dropped {name : String} : Stepped s (.drop name) (.done (s.caller? name).isSome) { s with
      desk := s.desk.letGo (s.caller? name), held := s.held.filter (·.1 != name) }
  /-- There is nothing to wait for. -/
  | unheld {name : String} {timeout : Duration} (hc : s.caller? name = none) :
      Stepped s (.wait name timeout) (.done false) s
  /-- A wait ends with what is in its guard, and the guard goes. -/
  | waited {name : String} {timeout : Duration} {g : Guard} {now : Instant}
      (hc : s.caller? name = some g.caller) (hg : g ∈ s.desk.guards) :
      Stepped s (.wait name timeout) (.waited (s.desk.waitResult g timeout)) { s with
        desk := s.desk.letGo (s.caller? name), now, held := s.held.filter (·.1 != name) }

theorem after_append (steps : List DeskStep) (a : DeskStep) :
    after (steps ++ [a]) = ((after steps).step a).2 := by
  simp [after]

theorem sound_init : Sound {} := by
  refine ⟨Desk.matched_empty, ?_, rfl, List.nodup_nil, ?_⟩ <;> intro g hg <;> cases hg

namespace Sound

variable {s : DeskRun}

/-- The caller that comes next has no guard yet. -/
theorem new (h : s.Sound) : ∀ g ∈ s.desk.guards, g.caller ≠ s.nextCaller :=
  fun g hg => Nat.ne_of_lt (h.fresh g hg)

/-- A name stands for one caller at most, so looking it up finds what is held. -/
theorem caller?_eq_some_iff (h : s.Sound) {name : String} {c : CallId} :
    s.caller? name = some c ↔ (name, c) ∈ s.held := by
  rw [caller?, Option.map_eq_some_iff]
  constructor
  · rintro ⟨p, hp, rfl⟩
    obtain ⟨hmem, rfl⟩ := (find?_key_eq_some_iff h.names).mp hp
    exact hmem
  · intro hmem
    exact ⟨(name, c), (find?_key_eq_some_iff h.names).mpr ⟨hmem, rfl⟩, rfl⟩

/-- Behind each name that is held there is a guard. -/
theorem guard_of_held (h : s.Sound) {name : String} {c : CallId} (hmem : (name, c) ∈ s.held) :
    ∃ g ∈ s.desk.guards, g.caller = c := by
  have hc : c ∈ s.held.map (·.2) := List.mem_map.mpr ⟨_, hmem, rfl⟩
  rw [h.held] at hc
  obtain ⟨g, hg, hgc⟩ := List.mem_map.mp hc
  exact ⟨g, hg, hgc⟩

/-- Letting go of a name is letting go of its caller. -/
theorem filter_held (h : s.Sound) (name : String) :
    (s.held.filter (·.1 != name)).map (·.2) =
      (s.desk.letGo (s.caller? name)).guards.map (·.caller) := by
  have hcallers : (s.held.map (·.2)).Nodup := by
    rw [h.held]
    exact h.matched.callers
  have hsame : s.held.filter (·.1 != name) = s.held.filter (some ·.2 != s.caller? name) := by
    apply List.filter_congr
    rintro ⟨n, c⟩ hp
    by_cases hname : n = name
    · subst hname
      rw [h.caller?_eq_some_iff.mpr hp]
      simp
    · -- Another name stands for another caller.
      have hc : some c ≠ s.caller? name := by
        intro hc
        have hp' := h.caller?_eq_some_iff.mp hc.symm
        exact hname (congrArg Prod.fst (List.inj_on_of_nodup_map hcallers hp hp' rfl))
      rw [bne_iff_ne.mpr hname, bne_iff_ne.mpr hc]
  calc (s.held.filter (·.1 != name)).map (·.2)
      = (s.held.filter (some ·.2 != s.caller? name)).map (·.2) := by rw [hsame]
    _ = (s.held.map (·.2)).filter (some · != s.caller? name) := by rw [List.filter_map]; rfl
    _ = (s.desk.guards.map (·.caller)).filter (some · != s.caller? name) := by rw [h.held]
    _ = (s.desk.guards.filter (some ·.caller != s.caller? name)).map (·.caller) := by
      rw [List.filter_map]; rfl
    _ = (s.desk.letGo (s.caller? name)).guards.map (·.caller) := by rw [h.matched.letGo_guards]

/-! ## What a step does -/

/-- Dropping a name lets its caller go, if it has one. -/
theorem drop_eq (s : DeskRun) (name : String) :
    s.drop name = { s with
      desk := s.desk.letGo (s.caller? name), held := s.held.filter (·.1 != name) } := by
  cases hc : s.caller? name with
  | some c => simp [DeskRun.drop, hc, Desk.letGo]
  | none =>
    have hall : ∀ p ∈ s.held, p.1 != name := by
      simpa [caller?, List.find?_eq_none] using hc
    simp [DeskRun.drop, hc, Desk.letGo, List.filter_eq_self.mpr hall]

/-- A wait takes the guard away, with what was in it; the clock is all that depends on how long it
took. -/
theorem wait_eq (h : s.Sound) (name : String) {g : Guard} (hg : g ∈ s.desk.guards)
    (timeout : Duration) :
    ∃ now, s.wait name g.caller timeout =
      (.waited (s.desk.waitResult g timeout), { s with
        desk := s.desk.drop g.caller, now, held := s.held.filter (·.1 != name) }) := by
  have hm := h.matched.await g.caller timeout s.now
  have hawait := h.matched.await_eq hg timeout s.now
  have hdrop := h.matched.drop_await hg timeout s.now
  rw [wait]
  generalize s.desk.await g.caller timeout s.now = d at hm hawait hdrop ⊢
  have hguard : d.guard? g.caller = some (g.waiting timeout s.now) := by
    refine hm.guard?_eq_some_iff.mpr ⟨?_, rfl⟩
    rw [hawait]
    exact List.mem_append_right _ (List.mem_singleton_self _)
  have hresult : d.waitResult g timeout = s.desk.waitResult g timeout := by
    rw [hawait]
    rfl
  -- The wait is over at once or at its deadline.
  obtain ⟨now, hnow, hover⟩ : ∃ now,
      (if ((d.guard? g.caller).bind fun g => d.outcome? s.now g).isSome then s.now
        else s.now + timeout.nanos) = now ∧
      d.outcome? now (g.waiting timeout s.now) = some (d.waitResult g timeout) := by
    refine ⟨_, rfl, ?_⟩
    rw [hguard, Option.bind_some]
    by_cases hsome : (d.outcome? s.now (g.waiting timeout s.now)).isSome
    · rw [if_pos hsome]
      rw [Desk.outcome?_waiting] at hsome ⊢
      split at hsome
      · cases hsome
      · rw [if_neg ‹_›]
    · rw [if_neg hsome, Desk.outcome?_waiting, if_neg]
      rintro ⟨-, -, hlate⟩
      exact absurd hlate (Nat.lt_irrefl _)
  -- Nobody else waits, so this is all that ends.
  have hdue : (d.guards.filter fun g' => (d.outcome? now g').isSome) =
      [g.waiting timeout s.now] := by
    have hidle : ∀ g' ∈ s.desk.guards, d.outcome? now g' = none := by
      intro g' hg'
      simp [Desk.outcome?, h.idle g' hg']
    rw [show d.guards = _ from congrArg Desk.guards hawait, List.filter_append,
      List.filter_eq_nil_iff.mpr, List.nil_append]
    · simp [hover]
    · intro g' hg'
      simp [hidle g' (List.mem_filter.mp hg').1]
  have hsettle := Desk.settle_eq_of_single hdue hover
  rw [Guard.waiting_caller, hresult, hdrop] at hsettle
  refine ⟨now, ?_⟩
  simp only [hnow, hsettle]
  simp

/-- Every step of a sound state is one of those. -/
theorem stepped (h : s.Sound) (a : DeskStep) : Stepped s a (s.step a).1 (s.step a).2 := by
  -- One case for every step; each asks the desk, and the state is what the desk's answer leaves.
  cases a with
  | register name requestId =>
    rcases Desk.register_cases s.desk s.nextCaller requestId with
      ⟨rfl, heq⟩ | ⟨hid, hw, heq⟩ | ⟨hid, hfree, heq⟩
    · have hstep : s.step (.register name "") = (.refused .noRequestId, s) := by
        simp [DeskRun.step, heq]
      rw [hstep]
      exact .nameless
    · have hstep : s.step (.register name requestId) = (.refused (.alreadyInFlight requestId),
          { s with desk := { s.desk with nextTicket := s.desk.nextTicket + 1 } }) := by
        simp [DeskRun.step, heq]
      rw [hstep]
      exact .inFlight hid hw
    · have hstep : s.step (.register name requestId) = (.done true, { s with
          desk := (s.desk.register s.nextCaller requestId).2.letGo (s.caller? name)
          held := s.held.filter (·.1 != name) ++ [(name, s.nextCaller)]
          nextCaller := s.nextCaller + 1 }) := by
        simp only [DeskRun.step, heq, drop_eq]
        rfl
      rw [hstep]
      exact .registered hid hfree
  | complete r =>
    rcases h.matched.complete_cases r with ⟨hfree, heq⟩ | ⟨g, hg, hw, hr, hid, heq⟩
    · have hstep : s.step (.complete r) = (.done false, s) := by simp [DeskRun.step, heq]
      rw [hstep]
      exact .missed hfree
    · have hstep : s.step (.complete r) = (.done true, { s with desk := { s.desk with
          waiters := s.desk.waiters.filter (·.requestId != r.requestId)
          guards := s.desk.guards.map fun g' =>
            if g'.caller = g.caller then { g' with response := some r } else g' } }) := by
        simp [DeskRun.step, heq]
      rw [hstep]
      exact .delivered hg hw hr hid
  | drop name =>
    have hstep : s.step (.drop name) = (.done (s.caller? name).isSome, s.drop name) := rfl
    rw [hstep, drop_eq]
    exact .dropped
  | wait name timeout =>
    cases hc : s.caller? name with
    | none =>
      have hstep : s.step (.wait name timeout) = (.done false, s) := by simp [DeskRun.step, hc]
      rw [hstep]
      exact .unheld hc
    | some c =>
      -- Whoever is held has a guard, so the wait is one of the desk and ends with letting it go.
      obtain ⟨g, hg, rfl⟩ := h.guard_of_held (h.caller?_eq_some_iff.mp hc)
      obtain ⟨now, heq⟩ := h.wait_eq name hg timeout
      have hstep : s.step (.wait name timeout) = (.waited (s.desk.waitResult g timeout), { s with
          desk := s.desk.letGo (some g.caller), now, held := s.held.filter (·.1 != name) }) := by
        simp [DeskRun.step, hc, heq, Desk.letGo]
      rw [hstep, ← hc]
      exact .waited hc hg

/-- Letting go of a name keeps a state sound, however long it took. -/
theorem letGo (h : s.Sound) (name : String) (now : Instant) : Sound { s with
    desk := s.desk.letGo (s.caller? name), now, held := s.held.filter (·.1 != name) } := by
  have hguards := h.matched.letGo_guards (s.caller? name)
  refine ⟨h.matched.letGo _, ?_, h.filter_held name, h.names.sublist (List.filter_sublist.map _),
    ?_⟩
  · intro g hg
    rw [hguards] at hg
    exact h.idle g (List.mem_filter.mp hg).1
  · intro g hg
    rw [hguards] at hg
    exact h.fresh g (List.mem_filter.mp hg).1

/-- The guards once a new one has taken a name. -/
theorem registered_guards (h : s.Sound) (name : String) {requestId : String} (hid : requestId ≠ "")
    (hfree : ∀ w ∈ s.desk.waiters, w.requestId ≠ requestId) :
    ((s.desk.register s.nextCaller requestId).2.letGo (s.caller? name)).guards =
      (s.desk.letGo (s.caller? name)).guards ++
        [{ caller := s.nextCaller, requestId, ticket := s.desk.nextTicket }] := by
  -- The new guard is not the one that goes.
  have hkept : (some s.nextCaller != s.caller? name) = true := by
    rw [bne_iff_ne]
    intro hc
    obtain ⟨g, hg, hgc⟩ := h.guard_of_held (h.caller?_eq_some_iff.mp hc.symm)
    exact h.new g hg hgc
  rw [(h.matched.register requestId h.new).letGo_guards, h.matched.letGo_guards,
    Desk.register_eq_of_free _ hid hfree, List.filter_append]
  simp [hkept]

end Sound

/-! ## What every step keeps -/

namespace Stepped

variable {s s' : DeskRun} {a : DeskStep} {reply : DeskReply}

/-- Every step keeps a state sound. -/
theorem sound (hs : Stepped s a reply s') (h : s.Sound) : s'.Sound := by
  cases hs with
  | nameless => exact h
  | inFlight hid hw =>
    exact ⟨⟨h.matched.callers, h.matched.requestIds, h.matched.waiting, h.matched.named,
      h.matched.answered⟩, h.idle, h.held, h.names, h.fresh⟩
  | @registered name requestId hid hfree =>
    -- A guard that had the name before is let go first, and then the new one is added.
    have hgo := h.letGo name s.now
    have hguards := h.registered_guards name hid hfree
    refine ⟨(h.matched.register requestId h.new).letGo _, ?_, ?_, ?_, ?_⟩
    · intro g hg
      rw [hguards] at hg
      rcases List.mem_append.mp hg with hg | hg
      · exact hgo.idle g hg
      · rw [List.mem_singleton.mp hg]
    · show (s.held.filter _ ++ [_]).map _ = _
      rw [hguards, List.map_append, List.map_append, h.filter_held]
      rfl
    · show ((s.held.filter _ ++ [_]).map _).Nodup
      rw [List.map_append, List.nodup_append]
      refine ⟨hgo.names, by simp, ?_⟩
      intro n hn n' hn'
      obtain ⟨p, hp, rfl⟩ := List.mem_map.mp hn
      obtain rfl : n' = name := by simpa using hn'
      simpa using (List.mem_filter.mp hp).2
    · intro g hg
      show g.caller < s.nextCaller + 1
      rw [hguards] at hg
      rcases List.mem_append.mp hg with hg | hg
      · exact Nat.lt_succ_of_lt (hgo.fresh g hg)
      · rw [List.mem_singleton.mp hg]
        exact Nat.lt_succ_self _
  | missed hfree => exact h
  | @delivered r g hg hw hr hid =>
    have hm := h.matched.complete r
    rw [h.matched.complete_eq hw hid] at hm
    refine ⟨hm, ?_, ?_, h.names, ?_⟩
    · -- A response fills one guard and moves none, so the callers stay in their places.
      intro g' hg'
      rcases Desk.mem_guards_deliver.mp hg' with ⟨g₀, hg₀, -, rfl⟩ | ⟨hg', -⟩
      · exact h.idle g₀ hg₀
      · exact h.idle g' hg'
    · show s.held.map _ = List.map _ (List.map _ _)
      rw [Desk.map_deliver fun _ => rfl]
      exact h.held
    · intro g' hg'
      rcases Desk.mem_guards_deliver.mp hg' with ⟨g₀, hg₀, -, rfl⟩ | ⟨hg', -⟩
      · exact h.fresh g₀ hg₀
      · exact h.fresh g' hg'
  | @dropped name => exact h.letGo name s.now
  | unheld hc => exact h
  | @waited name timeout g now hc hg => exact h.letGo name now

/-- A guard was there before a step, and at most had no response then, or it is a new one. -/
theorem guards (hs : Stepped s a reply s') (h : s.Sound) {g' : Guard}
    (hg' : g' ∈ s'.desk.guards) :
    (∃ g ∈ s.desk.guards, g' = g ∨ g.response = none ∧ ∃ r, g' = { g with response := some r }) ∨
    g'.caller = s.nextCaller := by
  -- Letting go takes guards away and adds none.
  have hkept : ∀ old, g' ∈ (s.desk.letGo old).guards → g' ∈ s.desk.guards := by
    intro old hg
    rw [h.matched.letGo_guards] at hg
    exact (List.mem_filter.mp hg).1
  cases hs with
  | nameless => exact .inl ⟨g', hg', .inl rfl⟩
  | inFlight hid hw => exact .inl ⟨g', hg', .inl rfl⟩
  | registered hid hfree =>
    rw [h.registered_guards _ hid hfree] at hg'
    rcases List.mem_append.mp hg' with hg' | hg'
    · exact .inl ⟨g', hkept _ hg', .inl rfl⟩
    · rw [List.mem_singleton.mp hg']
      exact .inr rfl
  | missed hfree => exact .inl ⟨g', hg', .inl rfl⟩
  | @delivered r g hg hw hr hid =>
    rcases Desk.mem_guards_deliver.mp hg' with ⟨g₀, hg₀, hc, rfl⟩ | ⟨hg', -⟩
    · obtain rfl := h.matched.guard_eq hg₀ hg hc
      exact .inl ⟨g₀, hg₀, .inr ⟨hr, r, rfl⟩⟩
    · exact .inl ⟨g', hg', .inl rfl⟩
  | dropped => exact .inl ⟨g', hkept _ hg', .inl rfl⟩
  | unheld hc => exact .inl ⟨g', hg', .inl rfl⟩
  | waited hc hg => exact .inl ⟨g', hkept _ hg', .inl rfl⟩

/-- A waiter was in the table before a step, or it is that of a new caller. -/
theorem waiters (hs : Stepped s a reply s') (h : s.Sound) {w : Waiter}
    (hw : w ∈ s'.desk.waiters) : w ∈ s.desk.waiters ∨ w.caller = s.nextCaller := by
  cases hs with
  | nameless => exact .inl hw
  | inFlight hid hw' => exact .inl hw
  | @registered name requestId hid hfree =>
    have hmem := Desk.letGo_waiters_subset (h.matched.register requestId h.new) _ hw
    rw [Desk.register_eq_of_free _ hid hfree] at hmem
    rcases List.mem_append.mp hmem with hmem | hmem
    · exact .inl hmem
    · rw [List.mem_singleton.mp hmem]
      exact .inr rfl
  | missed hfree => exact .inl hw
  | delivered hg hw' hr hid => exact .inl (List.mem_filter.mp hw).1
  | dropped => exact .inl (Desk.letGo_waiters_subset h.matched _ hw)
  | unheld hc => exact .inl hw
  | waited hc hg => exact .inl (Desk.letGo_waiters_subset h.matched _ hw)

theorem nextCaller_le (hs : Stepped s a reply s') : s.nextCaller ≤ s'.nextCaller := by
  cases hs <;> first | exact Nat.le_refl _ | exact Nat.le_succ _

/-- The counter of tickets goes on by one at most, and only with a registration. -/
theorem nextTicket_le (hs : Stepped s a reply s') (h : s.Sound)
    (hroom : s.desk.nextTicket.toNat + registrations [a] < 2 ^ 64) :
    s'.desk.nextTicket.toNat ≤ s.desk.nextTicket.toNat + registrations [a] := by
  cases hs with
  | nameless => exact Nat.le_succ _
  | inFlight hid hw => exact Nat.le_of_eq (Desk.toNat_add_one hroom)
  | @registered name requestId hid hfree =>
    rw [Desk.letGo_nextTicket (h.matched.register requestId h.new)]
    exact Desk.register_nextTicket_le _ _ _ hroom
  | missed hfree => exact Nat.le_refl _
  | delivered hg hw hr hid => exact Nat.le_refl _
  | dropped => rw [Desk.letGo_nextTicket h.matched]; exact Nat.le_refl _
  | unheld hc => exact Nat.le_refl _
  | waited hc hg => rw [Desk.letGo_nextTicket h.matched]; exact Nat.le_refl _

/-- A step for which there is a ticket left keeps the waiters of all unanswered guards. -/
theorem numbered (hs : Stepped s a reply s') (h : s.Sound) (hn : s.desk.Numbered)
    (hroom : s.desk.nextTicket.toNat + registrations [a] < 2 ^ 64) : s'.desk.Numbered := by
  cases hs with
  | nameless => exact hn
  | @inFlight name requestId hid hw =>
    have hreg := hn.register s.nextCaller requestId hroom
    rcases Desk.register_cases s.desk s.nextCaller requestId with
      ⟨hnone, -⟩ | ⟨-, -, heq⟩ | ⟨-, hfree, -⟩
    · exact absurd hnone hid
    · rwa [heq] at hreg
    · obtain ⟨w, hw, hkey⟩ := hw
      exact absurd hkey (hfree w hw)
  | @registered name requestId hid hfree =>
    exact (hn.register s.nextCaller requestId hroom).letGo (h.matched.register requestId h.new) _
  | missed hfree => exact hn
  | @delivered r g hg hw hr hid =>
    have hdone := hn.complete h.matched r
    rwa [h.matched.complete_eq hw hid] at hdone
  | dropped => exact hn.letGo h.matched _
  | unheld hc => exact hn
  | waited hc hg => exact hn.letGo h.matched _

end Stepped

/-! ## Every run -/

/-- Every run ends in a sound state. -/
theorem sound_after (steps : List DeskStep) : (after steps).Sound := by
  induction steps using List.reverseRecOn with
  | nil => exact sound_init
  | append_singleton steps a ih =>
    rw [after_append]
    exact (ih.stepped a).sound ih

/-- A further step is a registration or none. -/
theorem registrations_append (steps : List DeskStep) (a : DeskStep) :
    registrations (steps ++ [a]) = registrations steps + registrations [a] :=
  List.countP_append

/-- A run that tried fewer than `2 ^ 64` registrations has used no ticket twice. -/
theorem numbered_after (steps : List DeskStep) (hroom : registrations steps < 2 ^ 64) :
    (after steps).desk.Numbered ∧ (after steps).desk.nextTicket.toNat ≤ registrations steps := by
  induction steps using List.reverseRecOn with
  | nil => exact ⟨Desk.numbered_empty, Nat.le_refl _⟩
  | append_singleton steps a ih =>
    rw [registrations_append] at hroom ⊢
    obtain ⟨hn, hle⟩ := ih (Nat.lt_of_le_of_lt (Nat.le_add_right _ _) hroom)
    have hroom' : (after steps).desk.nextTicket.toNat + registrations [a] < 2 ^ 64 := by omega
    have h := sound_after steps
    rw [after_append]
    have hs := h.stepped a
    have hle' := hs.nextTicket_le h hroom'
    exact ⟨hs.numbered h hn hroom', by omega⟩

end DeskRun

end CommandRelay.Correlation
