import CommandRelay.Proofs.Correlation.Settling

/-!
# Tickets

The tickets of a desk come from a counter of 64 bits.  As long as it has not come round, the tickets
of the guards that are held are distinct, and then `Desk.Numbered` holds: every guard without a
response has its waiter in the table.  With `Desk.Matched` the entries of the table and the
unanswered guards are the same requests, one for one (`waiters_perm`).

The step that needs the tickets is `Numbered.drop`: a guard that was answered has no waiter, so all
that could go with it is the waiter of a later guard with its request ID, and that one has another
ticket.
-/

namespace CommandRelay.Correlation.Desk

theorem numbered_empty : Numbered {} := by
  refine ⟨?_, List.nodup_nil, ?_⟩ <;> simp

/-- The counter goes on by one as long as it stays below its bound. -/
theorem toNat_add_one {n : UInt64} (h : n.toNat + 1 < 2 ^ 64) : (n + 1).toNat = n.toNat + 1 := by
  rw [UInt64.toNat_add]
  exact Nat.mod_eq_of_lt h

/-- A registration uses one ticket at most. -/
theorem register_nextTicket_le (d : Desk) (caller : CallId) (requestId : String)
    (h : d.nextTicket.toNat + 1 < 2 ^ 64) :
    (d.register caller requestId).2.nextTicket.toNat ≤ d.nextTicket.toNat + 1 := by
  rcases register_cases d caller requestId with ⟨-, heq⟩ | ⟨-, -, heq⟩ | ⟨-, -, heq⟩
  · rw [heq]; exact Nat.le_succ _
  · rw [heq]; exact Nat.le_of_eq (toNat_add_one h)
  · rw [heq]; exact Nat.le_of_eq (toNat_add_one h)

/-- A response uses no ticket. -/
theorem Matched.complete_nextTicket {d : Desk} (h : d.Matched) (r : Envelope) :
    (d.complete r).2.nextTicket = d.nextTicket := by
  rcases h.complete_cases r with ⟨-, heq⟩ | ⟨g, -, -, -, -, heq⟩ <;> rw [heq]

/-- A guard that is dropped uses no ticket. -/
theorem Matched.drop_nextTicket {d : Desk} (h : d.Matched) (caller : CallId) :
    (d.drop caller).nextTicket = d.nextTicket := by
  rcases h.drop_cases caller with ⟨-, heq⟩ | ⟨g, -, -, heq⟩ <;> rw [heq]

/-- A wait that begins uses no ticket. -/
theorem Matched.await_nextTicket {d : Desk} (h : d.Matched) (caller : CallId) (timeout : Duration)
    (now : Instant) : (d.await caller timeout now).nextTicket = d.nextTicket := by
  rcases h.await_cases caller timeout now with ⟨-, heq⟩ | ⟨g, -, -, heq⟩ <;> rw [heq]

/-! ## The registrations behind guards and waiters -/

/-- A guard belongs to the registration it belonged to before a response came. -/
theorem Matched.registered_complete {d : Desk} (h : d.Matched) (r : Envelope) :
    ∀ g ∈ (d.complete r).2.guards, ∃ g₀ ∈ d.guards, g₀.waiter = g.waiter := by
  intro g hg
  rcases h.complete_cases r with ⟨-, heq⟩ | ⟨g₁, -, -, -, -, heq⟩
  · rw [heq] at hg
    exact ⟨g, hg, rfl⟩
  · rw [heq] at hg
    rcases mem_guards_deliver.mp hg with ⟨g₀, hg₀, -, rfl⟩ | ⟨hg, -⟩
    · exact ⟨g₀, hg₀, rfl⟩
    · exact ⟨g, hg, rfl⟩

/-- The guards that are left belong to their registrations. -/
theorem Matched.registered_drop {d : Desk} (h : d.Matched) (caller : CallId) :
    ∀ g ∈ (d.drop caller).guards, ∃ g₀ ∈ d.guards, g₀.waiter = g.waiter := by
  intro g hg
  rw [h.drop_guards] at hg
  exact ⟨g, (List.mem_filter.mp hg).1, rfl⟩

/-- A guard belongs to the registration it belonged to before its wait. -/
theorem Matched.registered_await {d : Desk} (h : d.Matched) (caller : CallId) (timeout : Duration)
    (now : Instant) :
    ∀ g ∈ (d.await caller timeout now).guards, ∃ g₀ ∈ d.guards, g₀.waiter = g.waiter := by
  intro g hg
  rcases h.await_cases caller timeout now with ⟨-, heq⟩ | ⟨g₀, hg₀, -, heq⟩
  · rw [heq] at hg
    exact ⟨g, hg, rfl⟩
  · rw [heq] at hg
    rcases List.mem_append.mp hg with hg | hg
    · exact ⟨g, (List.mem_filter.mp hg).1, rfl⟩
    · rw [List.mem_singleton.mp hg]
      exact ⟨g₀, hg₀, rfl⟩

/-- A guard without a response after a response came had none before, and its waiter stays. -/
theorem Matched.waiter_complete {d : Desk} (h : d.Matched) {r : Envelope} {g : Guard}
    (hg : g ∈ (d.complete r).2.guards) (hr : g.response = none) :
    g ∈ d.guards ∧ (g.waiter ∈ d.waiters → g.waiter ∈ (d.complete r).2.waiters) := by
  rcases h.complete_cases r with ⟨-, heq⟩ | ⟨g₀, hg₀, hw₀, -, hid, heq⟩
  · rw [heq] at hg ⊢
    exact ⟨hg, fun hw => hw⟩
  rw [heq] at hg ⊢
  rcases mem_guards_deliver.mp hg with ⟨g₁, -, -, rfl⟩ | ⟨hg, hc⟩
  · cases hr
  refine ⟨hg, fun hw => ?_⟩
  -- Another guard's waiter has another request ID.
  have hne : g.requestId ≠ r.requestId := by
    intro hsame
    have heq : g.waiter = g₀.waiter :=
      List.inj_on_of_nodup_map h.requestIds hw hw₀ (hsame.trans hid.symm)
    exact hc (congrArg Waiter.caller heq)
  exact List.mem_filter.mpr ⟨hw, by simpa [Guard.waiter] using hne⟩

/-- A waiter stays if the guard that goes has another request ID or another ticket. -/
theorem Matched.waiter_drop {d : Desk} (h : d.Matched) {caller : CallId} {g : Guard}
    (hw : g.waiter ∈ d.waiters) (hother : ∀ g' ∈ d.guards, g'.caller = caller →
      g'.requestId = g.requestId → g'.ticket ≠ g.ticket) :
    g.waiter ∈ (d.drop caller).waiters := by
  rcases h.drop_cases caller with ⟨-, heq⟩ | ⟨g', hg', hc, heq⟩
  · rwa [heq]
  rw [heq]
  refine List.mem_filter.mpr ⟨hw, ?_⟩
  by_cases hid : g'.requestId = g.requestId
  · simp [Guard.waiter, (hother g' hg' hc hid).symm]
  · simp [Guard.waiter, Ne.symm hid]

/-- Where each guard without a response has its waiter, the entries of the table are those of the
unanswered guards, each once. -/
theorem Matched.waiters_perm_unanswered {d : Desk} (h : d.Matched)
    (hwaiters : ∀ g ∈ d.guards, g.response = none → g.waiter ∈ d.waiters) :
    d.waiters.Perm (d.unanswered.map Guard.waiter) := by
  have hcallers : ((d.unanswered.map Guard.waiter).map (·.caller)).Nodup := by
    rw [List.map_map]
    exact h.callers.sublist (List.filter_sublist.map _)
  rw [List.perm_ext_iff_of_nodup (h.requestIds.of_map _) (hcallers.of_map _)]
  intro w
  rw [List.mem_map]
  constructor
  · intro hw
    obtain ⟨g, hg, hr, hgw⟩ := h.waiting w hw
    exact ⟨g, mem_unanswered.mpr ⟨hg, hr⟩, hgw⟩
  · rintro ⟨g, hg, rfl⟩
    obtain ⟨hg, hr⟩ := mem_unanswered.mp hg
    exact hwaiters g hg hr

namespace Numbered

variable {d : Desk}

/-- A registration with a new ticket keeps the tickets apart. -/
theorem register (h : d.Numbered) (caller : CallId) (requestId : String)
    (hroom : d.nextTicket.toNat + 1 < 2 ^ 64) : (d.register caller requestId).2.Numbered := by
  have hnext := toNat_add_one hroom
  rcases register_cases d caller requestId with ⟨-, heq⟩ | ⟨-, -, heq⟩ | ⟨-, -, heq⟩
  · rw [heq]; exact h
  · rw [heq]
    refine ⟨?_, h.tickets, h.waiter_mem⟩
    intro g hg
    show g.ticket.toNat < (d.nextTicket + 1).toNat
    have := h.below g hg
    omega
  rw [heq]
  refine ⟨?_, ?_, ?_⟩
  · intro g hg
    show g.ticket.toNat < (d.nextTicket + 1).toNat
    rcases List.mem_append.mp hg with hg | hg
    · have := h.below g hg
      omega
    · obtain rfl := List.mem_singleton.mp hg
      show d.nextTicket.toNat < _
      omega
  · show ((d.guards ++ _).map (·.ticket)).Nodup
    rw [List.map_append, List.nodup_append]
    refine ⟨h.tickets, by simp, ?_⟩
    -- The new ticket is the counter, which is above all tickets that are held.
    intro a ha b hb
    obtain ⟨g, hg, rfl⟩ := List.mem_map.mp ha
    obtain rfl : b = d.nextTicket := by simpa using hb
    intro hsame
    have := h.below g hg
    rw [hsame] at this
    omega
  · intro g hg hr
    rcases List.mem_append.mp hg with hg | hg
    · exact List.mem_append_left _ (h.waiter_mem g hg hr)
    · obtain rfl := List.mem_singleton.mp hg
      exact List.mem_append_right _ (List.mem_singleton_self _)

/-- A response takes away the waiter of the guard that it goes into, and no other. -/
theorem complete (h : d.Numbered) (hm : d.Matched) (r : Envelope) :
    (d.complete r).2.Numbered := by
  have hwaiters : ∀ g ∈ (d.complete r).2.guards, g.response = none →
      g.waiter ∈ (d.complete r).2.waiters := by
    intro g hg hr
    obtain ⟨hg, hstays⟩ := hm.waiter_complete hg hr
    exact hstays (h.waiter_mem g hg hr)
  rcases hm.complete_cases r with ⟨-, heq⟩ | ⟨g, hg, hw, -, hid, heq⟩
  · rw [heq]; exact h
  rw [heq] at hwaiters ⊢
  refine ⟨?_, ?_, hwaiters⟩
  · intro g' hg'
    rcases mem_guards_deliver.mp hg' with ⟨g₀, hg₀, -, rfl⟩ | ⟨hg', -⟩
    · exact h.below g₀ hg₀
    · exact h.below g' hg'
  · rw [map_deliver fun _ => rfl]
    exact h.tickets

/-- A guard that goes takes away no waiter but its own: another guard has another ticket. -/
theorem drop (h : d.Numbered) (hm : d.Matched) (caller : CallId) : (d.drop caller).Numbered := by
  have hwaiters : ∀ g ∈ (d.drop caller).guards, g.response = none →
      g.waiter ∈ (d.drop caller).waiters := by
    intro g hg hr
    rw [hm.drop_guards] at hg
    obtain ⟨hg, hc⟩ := List.mem_filter.mp hg
    refine hm.waiter_drop (h.waiter_mem g hg hr) fun g' hg' hc' _ hsame => ?_
    rw [← List.inj_on_of_nodup_map h.tickets hg' hg hsame, hc'] at hc
    simp at hc
  rcases hm.drop_cases caller with ⟨-, heq⟩ | ⟨g, hg, rfl, heq⟩
  · rw [heq]; exact h
  rw [heq] at hwaiters ⊢
  exact ⟨fun g' hg' => h.below g' (List.mem_filter.mp hg').1,
    h.tickets.sublist (List.filter_sublist.map _), hwaiters⟩

/-- A wait that begins leaves all waiters and tickets as they are. -/
theorem await (h : d.Numbered) (hm : d.Matched) (caller : CallId) (timeout : Duration)
    (now : Instant) : (d.await caller timeout now).Numbered := by
  rcases hm.await_cases caller timeout now with ⟨-, heq⟩ | ⟨g, hg, rfl, heq⟩
  · rw [heq]; exact h
  rw [heq]
  refine ⟨?_, ?_, ?_⟩
  · intro g' hg'
    rcases List.mem_append.mp hg' with hg' | hg'
    · exact h.below g' (List.mem_filter.mp hg').1
    · obtain rfl := List.mem_singleton.mp hg'
      exact h.below g hg
  · -- The guard takes its ticket along to the end of the guards.
    show ((d.guards.filter _ ++ _).map (·.ticket)).Nodup
    rw [List.map_append, List.nodup_append]
    refine ⟨h.tickets.sublist (List.filter_sublist.map _), by simp, ?_⟩
    intro a ha b hb
    obtain ⟨g', hg', rfl⟩ := List.mem_map.mp ha
    obtain ⟨hg', hc⟩ := List.mem_filter.mp hg'
    obtain rfl : b = g.ticket := by simpa using hb
    intro hsame
    rw [List.inj_on_of_nodup_map h.tickets hg' hg hsame] at hc
    simp at hc
  · intro g' hg' hr'
    rcases List.mem_append.mp hg' with hg' | hg'
    · exact h.waiter_mem g' (List.mem_filter.mp hg').1 hr'
    · obtain rfl := List.mem_singleton.mp hg'
      exact h.waiter_mem g hg hr'

/-! ## The table and the unanswered guards are the same -/

/-- The entries of the table are those of the unanswered guards, each once. -/
theorem waiters_perm (h : d.Numbered) (hm : d.Matched) :
    d.waiters.Perm (d.unanswered.map Guard.waiter) :=
  hm.waiters_perm_unanswered h.waiter_mem

/-- As many requests are in flight as guards have no response. -/
theorem inFlight_eq (h : d.Numbered) (hm : d.Matched) : d.inFlight = d.unanswered.length := by
  rw [inFlight, (h.waiters_perm hm).length_eq, List.length_map]

theorem waiter_tickets_nodup (h : d.Numbered) (hm : d.Matched) :
    (d.waiters.map (·.ticket)).Nodup := by
  rw [((h.waiters_perm hm).map _).nodup_iff, List.map_map]
  exact h.tickets.sublist (List.filter_sublist.map _)

/-- Dropping a guard that was answered leaves the table as it is, also if its request ID is in
flight again. -/
theorem drop_answered_waiters (h : d.Numbered) (hm : d.Matched) {g : Guard} (hg : g ∈ d.guards)
    (hr : g.response ≠ none) : (d.drop g.caller).waiters = d.waiters := by
  rcases hm.drop_cases g.caller with ⟨hnone, -⟩ | ⟨g', hg', hc, heq⟩
  · exact absurd rfl (hnone g hg)
  obtain rfl := hm.guard_eq hg' hg hc
  rw [heq]
  show d.waiters.filter _ = d.waiters
  rw [List.filter_eq_self]
  intro w hw
  obtain ⟨g₁, hg₁, hr₁, rfl⟩ := hm.waiting w hw
  have hticket : g₁.ticket ≠ g'.ticket := by
    intro hsame
    rw [List.inj_on_of_nodup_map h.tickets hg₁ hg hsame] at hr₁
    exact hr hr₁
  simp [Guard.waiter, hticket]

end Numbered

end CommandRelay.Correlation.Desk
