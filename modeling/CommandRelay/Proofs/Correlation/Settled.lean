import CommandRelay.Proofs.Correlation.Tickets

/-!
# Settled desks

A desk that has just been settled holds no guard whose wait is over.  What one more operation makes
due can then be told exactly.

1. **`Settled`** — settling once more does nothing; a response makes the guard due that it goes
   into, if that one waits, and no other guard.
2. **`Expectant`** — where every guard has its waiter, guards have distinct request IDs.  So one
   guard goes without the waiter of another, whatever the tickets are.
-/

namespace CommandRelay.Correlation

/-- Where keys are distinct and only entries with the key of one pass, that one is all that
passes. -/
theorem filter_eq_singleton {α κ : Type} [BEq κ] [LawfulBEq κ] {l : List α} {key : α → κ}
    (hl : (l.map key).Nodup) {a : α} (ha : a ∈ l) {p : α → Bool}
    (hp : ∀ b ∈ l, p b = true ↔ key b = key a) : l.filter p = [a] := by
  rw [← filter_key_eq_singleton hl ha]
  refine List.filter_congr fun b hb => ?_
  rw [Bool.eq_iff_iff, hp b hb, beq_iff_eq]

namespace Desk

variable {d : Desk} {now : Instant}

/-- The counter of tickets does not matter to guards and waiters. -/
theorem Matched.withTicket (h : d.Matched) (n : UInt64) : Matched { d with nextTicket := n } :=
  ⟨h.callers, h.requestIds, h.waiting, h.named, h.answered⟩

/-- No wait is over. -/
def Settled (d : Desk) (now : Instant) : Prop := ∀ g ∈ d.guards, d.outcome? now g = none

/-- A wait goes on as long as its guard has no response, can still get one, and has time left. -/
theorem Matched.outcome?_eq_none_iff (h : d.Matched) {g : Guard} (hg : g ∈ d.guards) :
    d.outcome? now g = none ↔ ∀ w, g.wait = some w →
      g.response = none ∧ g.waiter ∈ d.waiters ∧ now < w.deadline := by
  rw [outcome?, ← h.expects_iff hg]
  cases g.wait with
  | none => simp
  | some w =>
    cases g.response with
    | some r => simp
    | none =>
      by_cases hexpects : d.expects g = true
      · simp [hexpects]
      · simp [hexpects]

/-- The wait of a guard that still expects its response is over at its deadline. -/
theorem Matched.outcome?_of_waiter (h : d.Matched) {g : Guard} (hg : g ∈ d.guards)
    (hw : g.waiter ∈ d.waiters) {w : Wait} (hwait : g.wait = some w) :
    d.outcome? now g =
      if w.deadline ≤ now then some (.error (.timedOut g.requestId w.timeout)) else none := by
  have hexpects : d.expects g = true := (h.expects_iff hg).mpr hw
  rw [outcome?, hwait, (h.waiter_eq hw hg rfl).2]
  simp [hexpects]

/-! ## Settling again -/

/-- Where nothing is due, settling does nothing. -/
theorem Settled.settle_eq (h : d.Settled now) : d.settle now = ([], d) := by
  have hdue : (d.guards.filter fun g => (d.outcome? now g).isSome) = [] :=
    List.filter_eq_nil_iff.mpr fun g hg => by simp [h g hg]
  rw [settle, hdue, List.mergeSort_nil]
  rfl

/-- A call ends once. -/
theorem Matched.settle_result_eq (h : d.Matched) : ∀ e ∈ (d.settle now).1, ∀ e' ∈ (d.settle now).1,
    e.1 = e'.1 → e = e' := by
  rintro ⟨c, r⟩ he ⟨c', r'⟩ he' hc
  obtain ⟨g, hg, rfl, hr⟩ := mem_settle_results.mp he
  obtain ⟨g', hg', rfl, hr'⟩ := mem_settle_results.mp he'
  obtain rfl := h.guard_eq hg hg' hc
  rw [Option.some.inj (hr.symm.trans hr')]

/-- The guards that are left are those of the calls that have not ended. -/
theorem Matched.mem_settle_guards_iff (h : d.Matched) {g : Guard} :
    g ∈ (d.settle now).2.guards ↔ g ∈ d.guards ∧ ∀ e ∈ (d.settle now).1, e.1 ≠ g.caller := by
  rw [h.mem_settle_guards]
  refine and_congr_right fun hg => ?_
  constructor
  · rintro hopen ⟨c, r⟩ he rfl
    obtain ⟨g', hg', hc, hr⟩ := mem_settle_results.mp he
    rw [h.guard_eq hg' hg hc, hopen] at hr
    cases hr
  · intro hnone
    by_contra hover
    obtain ⟨r, hr⟩ := Option.ne_none_iff_exists'.mp hover
    exact hnone _ (mem_settle_results.mpr ⟨g, hg, rfl, hr⟩) rfl

/-- A desk has settled if every guard that is left and has no response can still get one. -/
theorem Matched.settled_settle (h : d.Matched) (hleft : ∀ g ∈ (d.settle now).2.guards,
    g.response = none → g.waiter ∈ (d.settle now).2.waiters) : (d.settle now).2.Settled now := by
  intro g hg
  obtain ⟨hmem, hopen⟩ := h.mem_settle_guards.mp hg
  rw [(h.settle now).outcome?_eq_none_iff hg]
  intro w hw
  obtain ⟨hr, -, htime⟩ := (h.outcome?_eq_none_iff hmem).mp hopen w hw
  exact ⟨hr, hleft g hg hr, htime⟩

/-! ## A response to a settled desk -/

section Response

variable {g : Guard} {r : Envelope}

/-- The guards without the one that a response went into. -/
theorem Matched.mem_complete_drop (hm : d.Matched) (hw : g.waiter ∈ d.waiters)
    (hid : g.requestId = r.requestId) {g' : Guard} :
    g' ∈ ((d.complete r).2.drop g.caller).guards ↔ g' ∈ d.guards ∧ g'.caller ≠ g.caller := by
  rw [(hm.complete r).drop_guards, List.mem_filter, bne_iff_ne, hm.complete_eq hw hid]
  refine and_congr_left fun hc => mem_guards_deliver.trans ?_
  constructor
  · rintro (⟨g₀, -, hc₀, rfl⟩ | hold)
    · exact absurd hc₀ hc
    · exact hold.1
  · exact fun hold => .inr ⟨hold, hc⟩

/-- A response does not touch the waits of other guards. -/
theorem Settled.outcome?_complete_other (h : d.Settled now) (hm : d.Matched)
    (hw : g.waiter ∈ d.waiters) (hid : g.requestId = r.requestId) {g' : Guard}
    (hg' : g' ∈ (d.complete r).2.guards) (hc : g'.caller ≠ g.caller) :
    (d.complete r).2.outcome? now g' = none := by
  have hkept : g' ∈ ((d.complete r).2.drop g.caller).guards := by
    rw [(hm.complete r).drop_guards]
    exact List.mem_filter.mpr ⟨hg', bne_iff_ne.mpr hc⟩
  have hold : g' ∈ d.guards := ((hm.mem_complete_drop hw hid).mp hkept).1
  rw [(hm.complete r).outcome?_eq_none_iff hg']
  intro w hwait
  obtain ⟨hr, hw', htime⟩ := (hm.outcome?_eq_none_iff hold).mp (h g' hold) w hwait
  exact ⟨hr, (hm.waiter_complete hg' hr).2 hw', htime⟩

/-- The guard that a response goes into. -/
theorem Matched.mem_complete (hm : d.Matched) (hg : g ∈ d.guards) (hw : g.waiter ∈ d.waiters)
    (hid : g.requestId = r.requestId) :
    { g with response := some r } ∈ (d.complete r).2.guards := by
  rw [hm.complete_eq hw hid]
  exact mem_guards_deliver.mpr (.inl ⟨g, hg, rfl, rfl⟩)

/-- A guard that waits ends with the response that goes into it, and no other guard ends. -/
theorem Settled.settle_complete (h : d.Settled now) (hm : d.Matched) (hg : g ∈ d.guards)
    (hw : g.waiter ∈ d.waiters) (hid : g.requestId = r.requestId) (hwait : g.wait ≠ none) :
    (d.complete r).2.settle now = ([(g.caller, .ok r)], (d.complete r).2.drop g.caller) := by
  have hmem := hm.mem_complete hg hw hid
  have hover : (d.complete r).2.outcome? now { g with response := some r } = some (.ok r) := by
    obtain ⟨w, hw⟩ := Option.ne_none_iff_exists'.mp hwait
    simp [outcome?, hw]
  have hdue : ((d.complete r).2.guards.filter fun g' =>
      ((d.complete r).2.outcome? now g').isSome) = [{ g with response := some r }] := by
    refine filter_eq_singleton (hm.complete r).callers hmem fun g' hg' => ?_
    constructor
    · intro hdue
      by_contra hc
      rw [h.outcome?_complete_other hm hw hid hg' hc] at hdue
      cases hdue
    · intro hc
      rw [(hm.complete r).guard_eq hg' hmem hc, hover]
      rfl
  have hsettle := settle_eq_of_single hdue hover
  exact hsettle

/-- A guard that does not wait keeps the response that goes into it. -/
theorem Settled.complete_idle (h : d.Settled now) (hm : d.Matched) (hg : g ∈ d.guards)
    (hw : g.waiter ∈ d.waiters) (hid : g.requestId = r.requestId) (hwait : g.wait = none) :
    (d.complete r).2.Settled now := by
  have hmem := hm.mem_complete hg hw hid
  intro g' hg'
  by_cases hc : g'.caller = g.caller
  · rw [(hm.complete r).guard_eq hg' hmem hc]
    simp [outcome?, hwait]
  · exact h.outcome?_complete_other hm hw hid hg' hc

end Response

/-! ## A registration on a settled desk -/

/-- The guard of a registration whose wait begins at once. -/
def enrolled (d : Desk) (caller : CallId) (requestId : String) (timeout : Duration)
    (start : Instant) : Guard :=
  { caller, requestId, ticket := d.nextTicket
    wait := some { timeout, deadline := start + timeout.nanos } }

section Registration

variable {caller : CallId} {requestId : String}

/-- A registration that is given up at once leaves nothing but a ticket that was used. -/
theorem Matched.register_drop (h : d.Matched) (hnew : ∀ g ∈ d.guards, g.caller ≠ caller)
    (hid : requestId ≠ "") (hfree : ∀ w ∈ d.waiters, w.requestId ≠ requestId) :
    (d.register caller requestId).2.drop caller = { d with nextTicket := d.nextTicket + 1 } := by
  have hm := h.register requestId hnew
  rw [register_eq_of_free caller hid hfree] at hm ⊢
  have hdrop := hm.drop_eq (List.mem_append_right d.guards (List.mem_singleton_self _))
  refine hdrop.trans ?_
  have hguards : d.guards.filter (·.caller != caller) = d.guards :=
    List.filter_eq_self.mpr fun g hg => bne_iff_ne.mpr (hnew g hg)
  have hwaiters : (d.waiters.filter fun w =>
      w.requestId != requestId || w.ticket != d.nextTicket) = d.waiters :=
    List.filter_eq_self.mpr fun w hw => by simp [hfree w hw]
  simp [List.filter_append, hguards, hwaiters]

/-- A caller that registers and waits at once has the one guard that is new, behind all others. -/
theorem Matched.register_await (h : d.Matched) (hnew : ∀ g ∈ d.guards, g.caller ≠ caller)
    (hid : requestId ≠ "") (hfree : ∀ w ∈ d.waiters, w.requestId ≠ requestId)
    (timeout : Duration) (start : Instant) :
    (d.register caller requestId).2.await caller timeout start = {
      waiters := d.waiters ++ [(d.enrolled caller requestId timeout start).waiter]
      nextTicket := d.nextTicket + 1
      guards := d.guards ++ [d.enrolled caller requestId timeout start] } := by
  have hm := h.register requestId hnew
  rw [register_eq_of_free caller hid hfree] at hm ⊢
  have hawait := hm.await_eq (List.mem_append_right d.guards (List.mem_singleton_self _))
    timeout start
  refine hawait.trans ?_
  have hguards : d.guards.filter (·.caller != caller) = d.guards :=
    List.filter_eq_self.mpr fun g hg => bne_iff_ne.mpr (hnew g hg)
  simp [List.filter_append, hguards, Guard.waiting, Guard.waiter, enrolled]

/-- A caller that registers, waits and goes leaves nothing but the ticket that was used. -/
theorem Matched.register_await_drop (h : d.Matched) (hnew : ∀ g ∈ d.guards, g.caller ≠ caller)
    (hid : requestId ≠ "") (hfree : ∀ w ∈ d.waiters, w.requestId ≠ requestId)
    (timeout : Duration) (start : Instant) :
    ((d.register caller requestId).2.await caller timeout start).drop caller =
      { d with nextTicket := d.nextTicket + 1 } := by
  have hregistered : (⟨caller, requestId, d.nextTicket, none, none⟩ : Guard) ∈
      (d.register caller requestId).2.guards := by
    rw [register_eq_of_free caller hid hfree]
    exact List.mem_append_right _ (List.mem_singleton_self _)
  have hdrop := (h.register requestId hnew).drop_await hregistered timeout start
  exact hdrop.trans (h.register_drop hnew hid hfree)

/-- Who registers does not wait yet, and ends nobody's wait. -/
theorem Settled.register (h : d.Settled now) (hm : d.Matched)
    (hnew : ∀ g ∈ d.guards, g.caller ≠ caller) (hid : requestId ≠ "")
    (hfree : ∀ w ∈ d.waiters, w.requestId ≠ requestId) :
    (d.register caller requestId).2.Settled now := by
  have hmatched := hm.register requestId hnew
  intro g hg
  rw [register_eq_of_free caller hid hfree] at hg hmatched ⊢
  rcases List.mem_append.mp hg with hold | hlast
  · rw [hmatched.outcome?_eq_none_iff hg]
    intro w hwait
    obtain ⟨hr, hw, htime⟩ := (hm.outcome?_eq_none_iff hold).mp (h g hold) w hwait
    exact ⟨hr, List.mem_append_left _ hw, htime⟩
  · rw [List.mem_singleton.mp hlast]
    rfl

/-- Who registers and waits ends nobody's wait but its own, and that only if there is no time. -/
theorem Settled.outcome?_register_await (h : d.Settled now) (hm : d.Matched)
    (hnew : ∀ g ∈ d.guards, g.caller ≠ caller) (hid : requestId ≠ "")
    (hfree : ∀ w ∈ d.waiters, w.requestId ≠ requestId) (timeout : Duration) {g : Guard}
    (hg : g ∈ ((d.register caller requestId).2.await caller timeout now).guards) :
    ((d.register caller requestId).2.await caller timeout now).outcome? now g =
      if g.caller = caller ∧ timeout.nanos = 0 then
        some (.error (.timedOut requestId timeout)) else none := by
  have hmatched := (hm.register requestId hnew).await caller timeout now
  rw [hm.register_await hnew hid hfree] at hg hmatched ⊢
  rcases List.mem_append.mp hg with hold | hlast
  · rw [if_neg fun hc => hnew g hold hc.1, hmatched.outcome?_eq_none_iff hg]
    intro w hwait
    obtain ⟨hr, hw, htime⟩ := (hm.outcome?_eq_none_iff hold).mp (h g hold) w hwait
    exact ⟨hr, List.mem_append_left _ hw, htime⟩
  · obtain rfl := List.mem_singleton.mp hlast
    rw [hmatched.outcome?_of_waiter hg (List.mem_append_right _ (List.mem_singleton_self _)) rfl]
    refine if_congr ?_ rfl rfl
    show now + timeout.nanos ≤ now ↔ caller = caller ∧ timeout.nanos = 0
    simp

/-- Who registers and waits is left waiting, unless there is no time to wait. -/
theorem Settled.settle_register_await (h : d.Settled now) (hm : d.Matched)
    (hnew : ∀ g ∈ d.guards, g.caller ≠ caller) (hid : requestId ≠ "")
    (hfree : ∀ w ∈ d.waiters, w.requestId ≠ requestId) (timeout : Duration) :
    ((d.register caller requestId).2.await caller timeout now).settle now =
      if timeout.nanos = 0 then
        ([(caller, .error (.timedOut requestId timeout))],
          { d with nextTicket := d.nextTicket + 1 })
      else ([], (d.register caller requestId).2.await caller timeout now) := by
  have houtcome := fun g hg => h.outcome?_register_await hm hnew hid hfree timeout (g := g) hg
  split
  · rename_i hzero
    have hmatched := (hm.register requestId hnew).await caller timeout now
    have hmem : d.enrolled caller requestId timeout now ∈
        ((d.register caller requestId).2.await caller timeout now).guards := by
      rw [hm.register_await hnew hid hfree]
      exact List.mem_append_right _ (List.mem_singleton_self _)
    have hover := (houtcome _ hmem).trans (if_pos ⟨rfl, hzero⟩)
    -- Nobody else is due, so settling ends the newcomer alone.
    have hdue : (((d.register caller requestId).2.await caller timeout now).guards.filter fun g =>
        (((d.register caller requestId).2.await caller timeout now).outcome? now g).isSome) =
        [d.enrolled caller requestId timeout now] := by
      refine filter_eq_singleton hmatched.callers hmem fun g hg => ?_
      rw [houtcome g hg]
      show _ ↔ g.caller = caller
      by_cases hc : g.caller = caller <;> simp [hc, hzero]
    rw [settle_eq_of_single hdue hover]
    exact congrArg _ (hm.register_await_drop hnew hid hfree timeout now)
  · rename_i htime
    refine Settled.settle_eq fun g hg => ?_
    rw [houtcome g hg, if_neg fun hc => htime hc.2]

end Registration

/-! ## Desks on which every guard expects a response -/

/-- Every guard has its waiter. -/
def Expectant (d : Desk) : Prop := ∀ g ∈ d.guards, g.waiter ∈ d.waiters

namespace Expectant

variable {g : Guard}

theorem response (h : d.Expectant) (hm : d.Matched) (hg : g ∈ d.guards) : g.response = none :=
  (hm.waiter_eq (h g hg) hg rfl).2

/-- Where all guards expect a response, a guard is known by its request ID. -/
theorem guard_eq (h : d.Expectant) (hm : d.Matched) {g' : Guard} (hg : g ∈ d.guards)
    (hg' : g' ∈ d.guards) (hid : g.requestId = g'.requestId) : g = g' := by
  have hsame : g.waiter = g'.waiter :=
    List.inj_on_of_nodup_map hm.requestIds (h g hg) (h g' hg') hid
  exact hm.guard_eq hg hg' (congrArg Waiter.caller hsame)

/-- Where all guards expect a response, none has one. -/
theorem unanswered_eq (h : d.Expectant) (hm : d.Matched) : d.unanswered = d.guards :=
  List.filter_eq_self.mpr fun g hg => by simp [h.response hm hg]

/-- As many requests are in flight as guards are held. -/
theorem inFlight_eq (h : d.Expectant) (hm : d.Matched) : d.inFlight = d.guards.length := by
  have hperm := hm.waiters_perm_unanswered fun g hg _ => h g hg
  rw [inFlight, hperm.length_eq, List.length_map, h.unanswered_eq hm]

/-- A request ID is in the table exactly if it is that of a guard. -/
theorem exists_waiter_iff (h : d.Expectant) (hm : d.Matched) {requestId : String} :
    (∃ w ∈ d.waiters, w.requestId = requestId) ↔ ∃ g ∈ d.guards, g.requestId = requestId := by
  constructor
  · rintro ⟨w, hw, hid⟩
    obtain ⟨g, hg, -, rfl⟩ := hm.waiting w hw
    exact ⟨g, hg, hid⟩
  · rintro ⟨g, hg, hid⟩
    exact ⟨g.waiter, h g hg, hid⟩

/-- A guard goes without the waiter of another, for their request IDs differ. -/
theorem drop (h : d.Expectant) (hm : d.Matched) (caller : CallId) : (d.drop caller).Expectant := by
  intro g hg
  rw [hm.drop_guards] at hg
  obtain ⟨hg, hc⟩ := List.mem_filter.mp hg
  refine hm.waiter_drop (h g hg) fun g' hg' hc' hid => ?_
  obtain rfl := h.guard_eq hm hg' hg hid
  exact absurd hc' (bne_iff_ne.mp hc)

/-- The guards that are left still expect their responses when others go. -/
theorem foldl_drop (h : d.Expectant) (hm : d.Matched) (callers : List CallId) :
    (callers.foldl Desk.drop d).Expectant := by
  induction callers generalizing d with
  | nil => exact h
  | cons c callers ih => exact ih (h.drop hm c) (hm.drop c)

theorem settle (h : d.Expectant) (hm : d.Matched) (now : Instant) :
    (d.settle now).2.Expectant := by
  obtain ⟨ended, -, heq⟩ := d.settle_eq_foldl_drop now
  rw [heq]
  exact h.foldl_drop hm _

theorem settled_settle (h : d.Expectant) (hm : d.Matched) (now : Instant) :
    (d.settle now).2.Settled now :=
  hm.settled_settle fun g hg _ => h.settle hm now g hg

/-- A new guard that waits expects its response like the others. -/
theorem register_await (h : d.Expectant) (hm : d.Matched) {caller : CallId} {requestId : String}
    (hnew : ∀ g ∈ d.guards, g.caller ≠ caller) (hid : requestId ≠ "")
    (hfree : ∀ w ∈ d.waiters, w.requestId ≠ requestId) (timeout : Duration) (start : Instant) :
    ((d.register caller requestId).2.await caller timeout start).Expectant := by
  rw [hm.register_await hnew hid hfree]
  intro g hg
  rcases List.mem_append.mp hg with hold | hlast
  · exact List.mem_append_left _ (h g hold)
  · rw [List.mem_singleton.mp hlast]
    exact List.mem_append_right _ (List.mem_singleton_self _)

/-- The guard that a response went into is dropped, and all others go on. -/
theorem complete_drop (h : d.Expectant) (hm : d.Matched) {r : Envelope} (hg : g ∈ d.guards)
    (hid : g.requestId = r.requestId) : ((d.complete r).2.drop g.caller).Expectant := by
  have hmem := hm.mem_complete hg (h g hg) hid
  intro g' hg'
  obtain ⟨hold, hc⟩ := (hm.mem_complete_drop (h g hg) hid).mp hg'
  rw [(hm.complete r).drop_guards] at hg'
  have hw := (hm.waiter_complete (List.mem_filter.mp hg').1 (h.response hm hold)).2 (h g' hold)
  refine (hm.complete r).waiter_drop hw fun g₁ hg₁ hc₁ hid₁ => ?_
  -- The guard that goes is the one with the response, and its request ID is no other guard's.
  obtain rfl := (hm.complete r).guard_eq hg₁ hmem hc₁
  exact absurd (congrArg Guard.caller (h.guard_eq hm hold hg hid₁.symm)) hc

/-- Where no guard is new, no wait is over that was not over before. -/
theorem settled (h : d.Expectant) (hm : d.Matched) {d₀ : Desk} (h₀ : d₀.Settled now)
    (hm₀ : d₀.Matched) (hold : d.guards ⊆ d₀.guards) : d.Settled now := by
  intro g hg
  rw [hm.outcome?_eq_none_iff hg]
  intro w hw
  obtain ⟨hr, -, htime⟩ := (hm₀.outcome?_eq_none_iff (hold hg)).mp (h₀ g (hold hg)) w hw
  exact ⟨hr, h g hg, htime⟩

end Expectant

end Desk

end CommandRelay.Correlation
