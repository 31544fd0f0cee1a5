import CommandRelay.Proofs.Correlation.Matching

/-!
# Settling a desk

`Desk.settle` ends all waits that are over by an instant.  Its results and the guards that it leaves
are told by `Desk.outcome?` alone, guard by guard: the order in which the waits end does not matter
to them.
-/

namespace CommandRelay.Correlation.Desk

variable {d : Desk}

/-- A desk stays matched when callers go, one after the other. -/
theorem matched_foldl_drop (h : d.Matched) (callers : List CallId) :
    (callers.foldl drop d).Matched := by
  induction callers generalizing d with
  | nil => exact h
  | cons c callers ih => exact ih (h.drop c)

/-- The guards that are left are those of other callers. -/
theorem Matched.drop_guards (h : d.Matched) (caller : CallId) :
    (d.drop caller).guards = d.guards.filter (·.caller != caller) := by
  rcases h.drop_cases caller with ⟨hnone, heq⟩ | ⟨g, -, -, heq⟩
  · rw [heq, eq_comm, List.filter_eq_self]
    intro g hg
    simpa using hnone g hg
  · rw [heq]

/-- Dropping the guards of callers one after the other leaves the guards of all others. -/
theorem mem_guards_foldl_drop (h : d.Matched) {callers : List CallId} {g : Guard} :
    g ∈ (callers.foldl drop d).guards ↔ g ∈ d.guards ∧ g.caller ∉ callers := by
  induction callers generalizing d with
  | nil => simp
  | cons c callers ih =>
    rw [List.foldl_cons, ih (h.drop c), h.drop_guards, List.mem_filter, List.mem_cons, not_or,
      bne_iff_ne, and_assoc]

/-- Settling drops the callers whose waits are over. -/
theorem settle_eq_foldl_drop (d : Desk) (now : Instant) : ∃ ended : List Guard,
    (∀ g, g ∈ ended ↔ g ∈ d.guards ∧ (d.outcome? now g).isSome) ∧
    (d.settle now).2 = (ended.map (·.caller)).foldl drop d := by
  refine ⟨_, fun g => ?_, (List.foldl_map).symm⟩
  rw [List.mem_mergeSort, List.mem_filter]

/-! ## One guard that waits -/

/-- A guard goes as it would have gone before it began to wait. -/
theorem Matched.drop_await (h : d.Matched) {g : Guard} (hg : g ∈ d.guards) (timeout : Duration)
    (now : Instant) : (d.await g.caller timeout now).drop g.caller = d.drop g.caller := by
  have hwaiting : g.waiting timeout now ∈ (d.await g.caller timeout now).guards := by
    rw [h.await_eq hg]
    exact List.mem_append_right _ (List.mem_singleton_self _)
  have hdrop := (h.await g.caller timeout now).drop_eq hwaiting
  rw [Guard.waiting_caller] at hdrop
  rw [hdrop, h.drop_eq hg, h.await_eq hg]
  simp [List.filter_append, List.filter_filter, Guard.waiting]

/-- What the wait of a guard comes to, once it is over. -/
def waitResult (d : Desk) (g : Guard) (timeout : Duration) : CallResult :=
  match g.response with
  | some r => .ok r
  | none =>
    if d.expects g then .error (.timedOut g.requestId timeout)
    else .error (.channelClosed g.requestId)

/-- A wait goes on as long as a response can still come and the deadline lies ahead. -/
theorem outcome?_waiting (d : Desk) (g : Guard) (timeout : Duration) (start now : Instant) :
    d.outcome? now (g.waiting timeout start) =
      if g.response = none ∧ d.expects g = true ∧ now < start + timeout.nanos then none
      else some (d.waitResult g timeout) := by
  have hunfold : d.outcome? now (g.waiting timeout start) = match g.response with
      | some r => some (.ok r)
      | none =>
        if !d.expects g then some (.error (.channelClosed g.requestId))
        else if start + timeout.nanos ≤ now then some (.error (.timedOut g.requestId timeout))
        else none := by
    cases hr : g.response <;> simp [outcome?, Guard.waiting, hr, expects]
  rw [hunfold, waitResult]
  cases g.response with
  | some r => simp
  | none =>
    cases d.expects g with
    | false => simp
    | true =>
      by_cases hdue : start + timeout.nanos ≤ now
      · simp [hdue, Nat.not_lt.mpr hdue]
      · simp [hdue, Nat.lt_of_not_le hdue]

/-- A wait that ends with a response found it in its guard. -/
theorem response_of_outcome? {now : Instant} {g : Guard} {r : Envelope}
    (h : d.outcome? now g = some (.ok r)) : g.response = some r := by
  rw [outcome?] at h
  split at h
  · cases h
  · rename_i hr
    rw [hr]
    injection h with h
    injection h with h
    rw [h]
  · split at h
    · cases h
    · split at h <;> cases h

/-- At its deadline a wait is over. -/
theorem outcome?_ne_none {now : Instant} {g : Guard} {w : Wait} (hw : g.wait = some w)
    (hdue : w.deadline ≤ now) : d.outcome? now g ≠ none := by
  rw [outcome?, hw]
  cases g.response with
  | some r => simp
  | none =>
    by_cases hexpects : d.expects g = true
    · simp [hexpects, hdue]
    · simp [hexpects]

/-! ## Guards and results -/

/-- Settling keeps a desk matched, for all it does is to drop callers. -/
theorem Matched.settle (h : d.Matched) (now : Instant) : (d.settle now).2.Matched := by
  obtain ⟨ended, -, heq⟩ := d.settle_eq_foldl_drop now
  rw [heq]
  exact matched_foldl_drop h _

/-- The guards that are left are those whose wait is not over. -/
theorem Matched.mem_settle_guards (h : d.Matched) {now : Instant} {g : Guard} :
    g ∈ (d.settle now).2.guards ↔ g ∈ d.guards ∧ d.outcome? now g = none := by
  obtain ⟨ended, hended, heq⟩ := d.settle_eq_foldl_drop now
  rw [heq, mem_guards_foldl_drop h, List.mem_map]
  refine and_congr_right fun hg => ?_
  constructor
  · intro hkept
    by_contra hdue
    exact hkept ⟨g, (hended g).mpr ⟨hg, Option.isSome_iff_ne_none.mpr hdue⟩, rfl⟩
  · rintro hnone ⟨g', hg', hc⟩
    obtain ⟨hmem, hdue⟩ := (hended g').mp hg'
    rw [h.guard_eq hmem hg hc, hnone] at hdue
    cases hdue

/-- A call ends with what comes of its guard. -/
theorem mem_settle_results {now : Instant} {caller : CallId} {r : CallResult} :
    (caller, r) ∈ (d.settle now).1 ↔
      ∃ g ∈ d.guards, g.caller = caller ∧ d.outcome? now g = some r := by
  show (caller, r) ∈ List.filterMap _ _ ↔ _
  rw [List.mem_filterMap]
  constructor
  · rintro ⟨g, hg, hr⟩
    obtain ⟨hmem, -⟩ := List.mem_filter.mp (List.mem_mergeSort.mp hg)
    obtain ⟨r', hr', heq⟩ := Option.map_eq_some_iff.mp hr
    obtain ⟨rfl, rfl⟩ := Prod.mk.inj heq
    exact ⟨g, hmem, rfl, hr'⟩
  · rintro ⟨g, hmem, rfl, hr⟩
    refine ⟨g, List.mem_mergeSort.mpr (List.mem_filter.mpr ⟨hmem, by rw [hr]; rfl⟩), ?_⟩
    rw [hr]
    rfl

/-- Where one guard's wait is over and no other, settling drops that guard. -/
theorem settle_eq_of_single {now : Instant} {g : Guard} {r : CallResult}
    (hdue : (d.guards.filter fun g => (d.outcome? now g).isSome) = [g])
    (hr : d.outcome? now g = some r) : d.settle now = ([(g.caller, r)], d.drop g.caller) := by
  rw [settle, hdue, List.mergeSort_singleton]
  simp [hr]

end CommandRelay.Correlation.Desk
