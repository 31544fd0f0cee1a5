import CommandRelay.Proofs.Correlation.Settled

/-!
# Responses that come early

A response can arrive before the caller that registered for it begins to wait.  It stays in the
guard, whatever other callers do, and is the result of the caller as soon as the wait begins.
-/

namespace CommandRelay.Correlation.Desk

/-- The guard of a caller has a response; `wait` is the wait of that caller. -/
def Answered (d : Desk) (caller : CallId) (r : Envelope) (wait : Option Wait) : Prop :=
  ∃ g ∈ d.guards, g.caller = caller ∧ g.response = some r ∧ g.wait = wait

namespace Answered

variable {d : Desk} {caller c : CallId} {r : Envelope} {wait : Option Wait} {now : Instant}

/-- A registration leaves a response where it is. -/
theorem register (h : d.Answered caller r wait) (c : CallId) (requestId : String) :
    (d.register c requestId).2.Answered caller r wait := by
  obtain ⟨g, hg, hboth⟩ := h
  rcases register_cases d c requestId with ⟨-, heq⟩ | ⟨-, -, heq⟩ | ⟨-, -, heq⟩
  · rw [heq]
    exact ⟨g, hg, hboth⟩
  · rw [heq]
    exact ⟨g, hg, hboth⟩
  · rw [heq]
    exact ⟨g, List.mem_append_left _ hg, hboth⟩

/-- A later response does not go into a guard that has one. -/
theorem complete (h : d.Answered caller r wait) (hm : d.Matched) (r' : Envelope) :
    (d.complete r').2.Answered caller r wait := by
  obtain ⟨g, hg, hc, hr, hw⟩ := h
  rcases hm.complete_cases r' with ⟨-, heq⟩ | ⟨g₀, hg₀, -, hr₀, -, heq⟩
  · rw [heq]
    exact ⟨g, hg, hc, hr, hw⟩
  · rw [heq]
    refine ⟨g, mem_guards_deliver.mpr (.inr ⟨hg, fun hsame => ?_⟩), hc, hr, hw⟩
    rw [hm.guard_eq hg hg₀ hsame, hr₀] at hr
    cases hr

/-- A response stays when the guard of another caller goes. -/
theorem drop (h : d.Answered caller r wait) (hm : d.Matched) (hother : c ≠ caller) :
    (d.drop c).Answered caller r wait := by
  obtain ⟨g, hg, rfl, hboth⟩ := h
  refine ⟨g, ?_, rfl, hboth⟩
  rw [hm.drop_guards]
  exact List.mem_filter.mpr ⟨hg, bne_iff_ne.mpr hother.symm⟩

/-- A response stays when another caller begins to wait. -/
theorem await (h : d.Answered caller r wait) (hm : d.Matched) (hother : c ≠ caller)
    (timeout : Duration) (start : Instant) : (d.await c timeout start).Answered caller r wait := by
  obtain ⟨g, hg, rfl, hboth⟩ := h
  refine ⟨g, ?_, rfl, hboth⟩
  rcases hm.await_cases c timeout start with ⟨-, heq⟩ | ⟨g₀, -, -, heq⟩
  · rwa [heq]
  · rw [heq]
    exact List.mem_append_left _ (List.mem_filter.mpr ⟨hg, bne_iff_ne.mpr hother.symm⟩)

/-- The wait of the caller begins. -/
theorem await_self (h : d.Answered caller r wait) (hm : d.Matched) (timeout : Duration)
    (start : Instant) : (d.await caller timeout start).Answered caller r
      (some ⟨timeout, start + timeout.nanos⟩) := by
  obtain ⟨g, hg, rfl, hr, -⟩ := h
  refine ⟨g.waiting timeout start, ?_, rfl, hr, rfl⟩
  rw [hm.await_eq hg]
  exact List.mem_append_right _ (List.mem_singleton_self _)

/-- Settling leaves the response where nobody waits for it. -/
theorem settle (h : d.Answered caller r none) (hm : d.Matched) :
    (d.settle now).2.Answered caller r none := by
  obtain ⟨g, hg, hc, hr, hw⟩ := h
  exact ⟨g, hm.mem_settle_guards.mpr ⟨hg, by simp [outcome?, hw]⟩, hc, hr, hw⟩

/-- Where the caller waits, the response is its result at once. -/
theorem ends {w : Wait} (h : d.Answered caller r (some w)) (now : Instant) :
    (caller, .ok r) ∈ (d.settle now).1 := by
  obtain ⟨g, hg, hc, hr, hw⟩ := h
  exact mem_settle_results.mpr ⟨g, hg, hc, by simp [outcome?, hw, hr]⟩

end Answered

end CommandRelay.Correlation.Desk
