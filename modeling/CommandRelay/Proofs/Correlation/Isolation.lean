import CommandRelay.Proofs.Correlation.Shared

/-!
# Requests are isolated from each other

What happens to a request ID depends on the moves for it alone: leaving all moves for other request
IDs out of a run changes no answer and no time.

The two runs are not in the same state, for the tickets come from one counter: a guard has another
ticket in the run that registers less.  So states are compared without tickets.  `soloStep` says
what a move does to the guards for one request ID, without a table and without tickets, and the
guards of a desk for that ID follow it (`Shared.step_follows`), as long as they have distinct
tickets (`Desk.NumberedFor`).  They have as long as the counter does not come round while one of
them is held (`Shared.Brief`).
-/

namespace CommandRelay.Correlation

/-! ## The guards for one request ID -/

/-- A guard without the number of its ticket. -/
def Guard.unnumbered (g : Guard) : Guard := { g with ticket := 0 }

@[simp] theorem Guard.unnumbered_caller (g : Guard) : g.unnumbered.caller = g.caller := rfl

/-- How a wait ends at an instant, told by the guard alone. -/
def Guard.ends? (g : Guard) (now : Instant) : Option CallResult :=
  match g.wait, g.response with
  | none, _ => none
  | some _, some r => some (.ok r)
  | some w, none =>
    if w.deadline ≤ now then some (.error (.timedOut g.requestId w.timeout)) else none

/-- What a move for a request ID does to the guards for that ID, and the answer to it. -/
def soloStep (x : String) (now : Instant) (gs : List Guard) : Move → DeskReply × List Guard
  | .register caller _ =>
    if x = "" then (.refused .noRequestId, gs)
    else if gs.any (·.response.isNone) then (.refused (.alreadyInFlight x), gs)
    else (.done true, gs ++ [{ caller, requestId := x, ticket := 0 }])
  | .complete r =>
    (.done (gs.any (·.response.isNone)),
      gs.map fun g => if g.response.isNone then { g with response := some r } else g)
  | .drop caller => (.done (gs.any (·.caller == caller)), gs.filter (·.caller != caller))
  | .await caller timeout =>
    (.done (gs.any (·.caller == caller)), gs.filter (·.caller != caller) ++
      (gs.filter (·.caller == caller)).map (·.waiting timeout now))
  | .poll caller =>
    match (gs.find? (·.caller == caller)).bind (·.ends? now) with
    | none => (.done false, gs)
    | some result => (.waited result, gs.filter (·.caller != caller))
  | .advance _ => (.done true, gs)

namespace Desk

/-- The guards for a request ID, without their tickets. -/
def guardsFor (d : Desk) (x : String) : List Guard :=
  (d.guards.filter (·.requestId == x)).map Guard.unnumbered

/-- What holds of the guards for a request ID as long as their tickets are distinct. -/
structure NumberedFor (d : Desk) (x : String) : Prop where
  tickets : ∀ g ∈ d.guards, ∀ g' ∈ d.guards, g.requestId = x → g'.requestId = x →
    g.ticket = g'.ticket → g = g'
  waiter_mem : ∀ g ∈ d.guards, g.requestId = x → g.response = none → g.waiter ∈ d.waiters

variable {d : Desk} {x : String}

/-- The guards for a request ID are those of the desk that have it, without their numbers. -/
theorem mem_guardsFor {g : Guard} :
    g ∈ d.guardsFor x ↔ ∃ g' ∈ d.guards, g'.requestId = x ∧ g'.unnumbered = g := by
  simp [guardsFor, and_assoc]

/-- Some guard for a request ID has no response exactly if the ID is in the table. -/
theorem NumberedFor.any_unanswered_iff (h : d.NumberedFor x) (hm : d.Matched) :
    (d.guardsFor x).any (·.response.isNone) = true ↔ ∃ w ∈ d.waiters, w.requestId = x := by
  rw [List.any_eq_true]
  constructor
  · rintro ⟨g, hg, hr⟩
    obtain ⟨g', hg', hid, rfl⟩ := mem_guardsFor.mp hg
    exact ⟨g'.waiter, h.waiter_mem g' hg' hid (Option.isNone_iff_eq_none.mp hr), hid⟩
  · rintro ⟨w, hw, hid⟩
    obtain ⟨g, hg, hr, rfl⟩ := hm.waiting w hw
    exact ⟨g.unnumbered, mem_guardsFor.mpr ⟨g, hg, hid, rfl⟩, by simpa [Guard.unnumbered] using hr⟩

/-- Where all guards of a caller are for a request ID, they are found among the guards for it. -/
theorem any_caller_guardsFor {caller : CallId}
    (hc : ∀ g ∈ d.guards, g.caller = caller → g.requestId = x) :
    (d.guardsFor x).any (·.caller == caller) = (d.guard? caller).isSome := by
  rw [Bool.eq_iff_iff, List.any_eq_true, guard?, List.find?_isSome]
  constructor
  · rintro ⟨g, hg, heq⟩
    obtain ⟨g', hg', -, rfl⟩ := mem_guardsFor.mp hg
    exact ⟨g', hg', heq⟩
  · rintro ⟨g, hg, heq⟩
    exact ⟨g.unnumbered, mem_guardsFor.mpr ⟨g, hg, hc g hg (by simpa using heq), rfl⟩, heq⟩

/-! ## What the operations do to them -/

/-- A registration for this request ID is refused or added by what the guards for the ID say. -/
theorem guardsFor_register (h : d.NumberedFor x) (hm : d.Matched) (caller : CallId) :
    (x = "" ∧ d.register caller x = (.error .noRequestId, d)) ∨
    (x ≠ "" ∧ (d.guardsFor x).any (·.response.isNone) = true ∧
      d.register caller x =
      (.error (.alreadyInFlight x), { d with nextTicket := d.nextTicket + 1 })) ∨
    (x ≠ "" ∧ (d.guardsFor x).any (·.response.isNone) = false ∧
      (d.register caller x).1 = .ok () ∧
      (d.register caller x).2.guardsFor x =
        d.guardsFor x ++ [{ caller, requestId := x, ticket := 0 }]) := by
  rcases register_cases d caller x with ⟨hid, heq⟩ | ⟨hid, hw, heq⟩ | ⟨hid, hfree, heq⟩
  · exact .inl ⟨hid, heq⟩
  · exact .inr (.inl ⟨hid, (h.any_unanswered_iff hm).mpr hw, heq⟩)
  · refine .inr (.inr ⟨hid, ?_, by rw [heq], ?_⟩)
    · rw [← Bool.not_eq_true, h.any_unanswered_iff hm]
      rintro ⟨w, hw, hsame⟩
      exact hfree w hw hsame
    · rw [heq]
      simp [guardsFor, Guard.unnumbered]

/-- A registration for another request ID does not show. -/
theorem guardsFor_register_other {requestId : String} (hid : requestId ≠ x) (caller : CallId) :
    (d.register caller requestId).2.guardsFor x = d.guardsFor x := by
  rcases register_cases d caller requestId with ⟨-, heq⟩ | ⟨-, -, heq⟩ | ⟨-, -, heq⟩
  · rw [heq]
  · rw [heq]; rfl
  · rw [heq]
    simp [guardsFor, hid]

/-- A response goes into the guard without one. -/
theorem guardsFor_complete (h : d.NumberedFor x) (hm : d.Matched) {r : Envelope}
    (hid : r.requestId = x) :
    (d.complete r).1 = (d.guardsFor x).any (·.response.isNone) ∧
    (d.complete r).2.guardsFor x = (d.guardsFor x).map fun g =>
      if g.response.isNone then { g with response := some r } else g := by
  have hany := h.any_unanswered_iff hm
  -- The response is dropped if no guard for this ID is without one; else there is exactly one such
  -- guard.
  rcases hm.complete_cases r with ⟨hfree, heq⟩ | ⟨g₀, hg₀, hw₀, hr₀, hid₀, heq⟩
  · have hnone : (d.guardsFor x).any (·.response.isNone) = false := by
      rw [← Bool.not_eq_true, hany]
      rintro ⟨w, hw, hsame⟩
      exact hfree w hw (hsame.trans hid.symm)
    rw [heq, hnone]
    refine ⟨rfl, ?_⟩
    calc d.guardsFor x = (d.guardsFor x).map id := (List.map_id _).symm
      _ = _ := List.map_congr_left fun g hg => (if_neg (List.any_eq_false.mp hnone g hg)).symm
  · rw [heq, hany.mpr ⟨_, hw₀, hid₀.trans hid⟩]
    refine ⟨rfl, ?_⟩
    rw [guardsFor, filter_deliver fun _ => rfl, guardsFor, List.map_map, List.map_map]
    refine List.map_congr_left fun g hg => ?_
    obtain ⟨hg, hgx⟩ := List.mem_filter.mp hg
    show (if g.caller = g₀.caller then { g with response := some r } else g).unnumbered =
      if g.response.isNone then { g.unnumbered with response := some r } else g.unnumbered
    by_cases hc : g.caller = g₀.caller
    · rw [if_pos hc, hm.guard_eq hg hg₀ hc, hr₀]
      rfl
    · -- Two guards without a response would have one entry in the table.
      have hsome : g.response ≠ none := by
        intro hnone
        have hw := h.waiter_mem g hg (by simpa using hgx) hnone
        have hsame : g.waiter = g₀.waiter := by
          refine List.inj_on_of_nodup_map hm.requestIds hw hw₀ ?_
          show g.requestId = g₀.requestId
          rw [hid₀, hid]
          simpa using hgx
        exact hc (congrArg Waiter.caller hsame)
      rw [if_neg hc, if_neg (by simpa using hsome)]

/-- A response for another request ID does not show. -/
theorem guardsFor_complete_other (hm : d.Matched) {r : Envelope} (hid : r.requestId ≠ x) :
    (d.complete r).2.guardsFor x = d.guardsFor x := by
  rcases hm.complete_cases r with ⟨-, heq⟩ | ⟨g₀, hg₀, -, -, hid₀, heq⟩
  · rw [heq]
  rw [heq, guardsFor, filter_deliver fun _ => rfl, List.map_map, guardsFor]
  refine List.map_congr_left fun g hg => ?_
  obtain ⟨hg, hgx⟩ := List.mem_filter.mp hg
  -- The guard that gets the response is for another request ID.
  have hc : g.caller ≠ g₀.caller := by
    intro hc
    rw [hm.guard_eq hg hg₀ hc, hid₀] at hgx
    exact hid (by simpa using hgx)
  show (if g.caller = g₀.caller then { g with response := some r } else g).unnumbered = _
  rw [if_neg hc]

/-- A guard for this request ID goes from its guards too. -/
theorem guardsFor_drop (hm : d.Matched) (caller : CallId) :
    (d.drop caller).guardsFor x = (d.guardsFor x).filter (·.caller != caller) := by
  rw [guardsFor, hm.drop_guards, guardsFor, List.filter_map, List.filter_filter, List.filter_filter]
  refine congrArg (List.map _) (List.filter_congr fun g _ => ?_)
  exact Bool.and_comm _ _

/-- Where no guard of a caller is for a request ID, none is among the guards for it. -/
theorem filter_caller_guardsFor {caller : CallId}
    (hc : ∀ g ∈ d.guards, g.caller = caller → g.requestId ≠ x) :
    (d.guardsFor x).filter (·.caller != caller) = d.guardsFor x := by
  refine List.filter_eq_self.mpr fun g hg => ?_
  obtain ⟨g', hg', hid, rfl⟩ := mem_guardsFor.mp hg
  exact bne_iff_ne.mpr fun heq => hc g' hg' heq hid

/-- The guards of a caller for a request ID: its own, and no other. -/
theorem filter_eq_guard (hm : d.Matched) {g : Guard} (hg : g ∈ d.guards) (hid : g.requestId = x) :
    (d.guardsFor x).filter (·.caller == g.caller) = [g.unnumbered] := by
  have hmem : g ∈ d.guards.filter (·.requestId == x) :=
    List.mem_filter.mpr ⟨hg, by simpa using hid⟩
  have hcallers : ((d.guards.filter (·.requestId == x)).map (·.caller)).Nodup :=
    hm.callers.sublist (List.filter_sublist.map _)
  rw [guardsFor, List.filter_map]
  exact congrArg (List.map Guard.unnumbered) (filter_key_eq_singleton hcallers hmem)

/-- A wait for this request ID begins behind those of its other guards. -/
theorem guardsFor_await (hm : d.Matched) {caller : CallId} (timeout : Duration) (now : Instant)
    (hc : ∀ g ∈ d.guards, g.caller = caller → g.requestId = x) :
    (d.await caller timeout now).guardsFor x = (d.guardsFor x).filter (·.caller != caller) ++
      ((d.guardsFor x).filter (·.caller == caller)).map (·.waiting timeout now) := by
  have hdrop := guardsFor_drop hm (x := x) caller
  rcases hm.await_cases caller timeout now with ⟨hnone, heq⟩ | ⟨g, hg, rfl, heq⟩
  · have hall : ∀ g ∈ d.guardsFor x, ¬ (g.caller == caller) = true := by
      intro g hg
      obtain ⟨g', hg', -, rfl⟩ := mem_guardsFor.mp hg
      simpa using hnone g' hg'
    rw [heq, List.filter_eq_nil_iff.mpr hall, List.map_nil, List.append_nil,
      filter_caller_guardsFor fun g hg hgc => absurd hgc (hnone g hg)]
  · rw [filter_eq_guard hm hg (hc g hg rfl), ← hdrop, guardsFor, guardsFor, heq, hm.drop_guards,
      List.filter_append, List.map_append]
    congr 1
    rw [List.filter_cons_of_pos (by simpa [Guard.waiting] using hc g hg rfl)]
    rfl

/-- A wait for another request ID does not show. -/
theorem guardsFor_await_other (hm : d.Matched) {caller : CallId} (timeout : Duration)
    (now : Instant) (hc : ∀ g ∈ d.guards, g.caller = caller → g.requestId ≠ x) :
    (d.await caller timeout now).guardsFor x = d.guardsFor x := by
  rcases hm.await_cases caller timeout now with ⟨-, heq⟩ | ⟨g, hg, hgc, heq⟩
  · rw [heq]
  · have hdrop := guardsFor_drop hm (x := x) caller
    rw [filter_caller_guardsFor hc, guardsFor, hm.drop_guards] at hdrop
    rw [heq, guardsFor, List.filter_append, List.map_append, hdrop,
      List.filter_cons_of_neg (by simpa [Guard.waiting] using hc g hg hgc)]
    simp

/-- The guard of a caller is found among the guards for its request ID. -/
theorem find?_guardsFor (hm : d.Matched) {caller : CallId}
    (hc : ∀ g ∈ d.guards, g.caller = caller → g.requestId = x) :
    (d.guardsFor x).find? (·.caller == caller) = (d.guard? caller).map Guard.unnumbered := by
  cases hfind : d.guard? caller with
  | none =>
    refine List.find?_eq_none.mpr fun g hg => ?_
    obtain ⟨g', hg', -, rfl⟩ := mem_guardsFor.mp hg
    simpa using guard?_eq_none_iff.mp hfind g' hg'
  | some g =>
    obtain ⟨hg, rfl⟩ := hm.guard?_eq_some_iff.mp hfind
    rw [← List.head?_filter, filter_eq_guard hm hg (hc g hg rfl)]
    rfl

/-- A guard without a response expects one, so its wait ends by what it holds itself. -/
theorem NumberedFor.outcome?_eq (h : d.NumberedFor x) (hm : d.Matched) {g : Guard}
    (hg : g ∈ d.guards) (hid : g.requestId = x) (now : Instant) :
    d.outcome? now g = g.unnumbered.ends? now := by
  rw [outcome?, Guard.ends?, Guard.unnumbered]
  cases hw : g.wait with
  | none => simp
  | some w =>
    cases hr : g.response with
    | some r => simp
    | none =>
      have hexpects : d.expects g = true := (hm.expects_iff hg).mpr (h.waiter_mem g hg hid hr)
      simp [hexpects]

/-! ## Distinct tickets stay distinct -/

theorem numberedFor_empty : NumberedFor {} x := ⟨nofun, nofun⟩

namespace NumberedFor

/-- A registration keeps the tickets for a request ID distinct if it takes none of theirs. -/
theorem register (h : d.NumberedFor x) (caller : CallId) (requestId : String)
    (hticket : requestId = x → ∀ g ∈ d.guards, g.requestId = x → g.ticket ≠ d.nextTicket) :
    (d.register caller requestId).2.NumberedFor x := by
  rcases register_cases d caller requestId with ⟨-, heq⟩ | ⟨-, -, heq⟩ | ⟨-, -, heq⟩
  · rw [heq]; exact h
  · rw [heq]; exact ⟨h.tickets, h.waiter_mem⟩
  rw [heq]
  refine ⟨fun g hg g' hg' hid hid' hsame => ?_, fun g hg hid hr => ?_⟩
  · rcases List.mem_append.mp hg with hg | hg <;> rcases List.mem_append.mp hg' with hg' | hg'
    · exact h.tickets g hg g' hg' hid hid' hsame
    · rw [List.mem_singleton.mp hg'] at hid' hsame
      exact absurd hsame (hticket hid' g hg hid)
    · rw [List.mem_singleton.mp hg] at hid hsame
      exact absurd hsame.symm (hticket hid g' hg' hid')
    · rw [List.mem_singleton.mp hg, List.mem_singleton.mp hg']
  · rcases List.mem_append.mp hg with hg | hg
    · exact List.mem_append_left _ (h.waiter_mem g hg hid hr)
    · rw [List.mem_singleton.mp hg]
      exact List.mem_append_right _ (List.mem_singleton_self _)

/-- Where no registration is added, tickets stay distinct. -/
theorem of_registered (h : d.NumberedFor x) {d' : Desk} (hm' : d'.Matched)
    (hguards : ∀ g ∈ d'.guards, ∃ g₀ ∈ d.guards, g₀.waiter = g.waiter)
    (hwaiters : ∀ g ∈ d'.guards, g.requestId = x → g.response = none → g.waiter ∈ d'.waiters) :
    d'.NumberedFor x := by
  refine ⟨fun g hg g' hg' hid hid' hsame => ?_, hwaiters⟩
  obtain ⟨g₀, hg₀, hw₀⟩ := hguards g hg
  obtain ⟨g₁, hg₁, hw₁⟩ := hguards g' hg'
  have hid₀ : g₀.requestId = x := (congrArg Waiter.requestId hw₀).trans hid
  have hid₁ : g₁.requestId = x := (congrArg Waiter.requestId hw₁).trans hid'
  have ht : g₀.ticket = g₁.ticket :=
    (congrArg Waiter.ticket hw₀).trans (hsame.trans (congrArg Waiter.ticket hw₁).symm)
  rw [h.tickets g₀ hg₀ g₁ hg₁ hid₀ hid₁ ht, hw₁] at hw₀
  exact hm'.guard_eq hg hg' (congrArg Waiter.caller hw₀).symm

/-- A response, for whatever ID, keeps the tickets of these guards apart. -/
theorem complete (h : d.NumberedFor x) (hm : d.Matched) (r : Envelope) :
    (d.complete r).2.NumberedFor x := by
  refine h.of_registered (hm.complete r) (hm.registered_complete r) fun g hg hid hr => ?_
  obtain ⟨hg, hstays⟩ := hm.waiter_complete hg hr
  exact hstays (h.waiter_mem g hg hid hr)

/-- A guard that goes, of whatever ID, keeps the tickets of these guards apart. -/
theorem drop (h : d.NumberedFor x) (hm : d.Matched) (caller : CallId) :
    (d.drop caller).NumberedFor x := by
  refine h.of_registered (hm.drop caller) (hm.registered_drop caller) fun g hg hid hr => ?_
  rw [hm.drop_guards] at hg
  obtain ⟨hg, hc⟩ := List.mem_filter.mp hg
  refine hm.waiter_drop (h.waiter_mem g hg hid hr) fun g' hg' hc' hid' hsame => ?_
  rw [← h.tickets g' hg' g hg (hid'.trans hid) hid hsame, hc'] at hc
  simp at hc

/-- A wait that begins, for whatever ID, keeps the tickets of these guards apart. -/
theorem await (h : d.NumberedFor x) (hm : d.Matched) (caller : CallId) (timeout : Duration)
    (now : Instant) : (d.await caller timeout now).NumberedFor x := by
  refine h.of_registered (hm.await caller timeout now) (hm.registered_await caller timeout now) ?_
  rcases hm.await_cases caller timeout now with ⟨-, heq⟩ | ⟨g₀, hg₀, -, heq⟩
  · rw [heq]
    exact h.waiter_mem
  · rw [heq]
    intro g hg hid hr
    rcases List.mem_append.mp hg with hg | hg
    · exact h.waiter_mem g (List.mem_filter.mp hg).1 hid hr
    · rw [List.mem_singleton.mp hg] at hid hr ⊢
      exact h.waiter_mem g₀ hg₀ hid hr

end NumberedFor

end Desk

/-! ## Moves for a request ID, and all others -/

/-- A move for a request ID: a caller that moves has no guard for another one. -/
def Move.IsFor (x : String) (d : Desk) : Move → Prop
  | .register _ requestId => requestId = x
  | .complete r => r.requestId = x
  | .drop caller | .await caller _ | .poll caller =>
    ∀ g ∈ d.guards, g.caller = caller → g.requestId = x
  | .advance _ => True

/-- A move for other request IDs: a caller that moves has no guard for this one. -/
def Move.IsApart (x : String) (d : Desk) : Move → Prop
  | .register _ requestId => requestId ≠ x
  | .complete r => r.requestId ≠ x
  | .drop caller | .await caller _ | .poll caller =>
    ∀ g ∈ d.guards, g.caller = caller → g.requestId ≠ x
  | .advance _ => False

namespace Shared

variable {s : Shared} {x : String} {a : Move}

/-- The desk answers a move for a request ID as the guards for that ID tell, and treats them so. -/
theorem step_follows (hm : s.desk.Matched) (hn : s.desk.NumberedFor x) (ha : a.IsFor x s.desk) :
    (s.step a).1 = (soloStep x s.now (s.desk.guardsFor x) a).1 ∧
    (s.step a).2.desk.guardsFor x = (soloStep x s.now (s.desk.guardsFor x) a).2 := by
  cases a with
  | register caller requestId =>
    obtain rfl : requestId = x := ha
    rcases Desk.guardsFor_register hn hm caller with
      ⟨hid, heq⟩ | ⟨hid, hany, heq⟩ | ⟨hid, hany, hok, hguards⟩
    · rw [soloStep, if_pos hid, step, heq]
      exact ⟨rfl, rfl⟩
    · rw [soloStep, if_neg hid, if_pos hany, step, heq]
      exact ⟨rfl, rfl⟩
    · have heq : s.desk.register caller requestId =
          (.ok (), (s.desk.register caller requestId).2) := Prod.ext hok rfl
      rw [soloStep, if_neg hid, if_neg (by simp [hany]), step, heq]
      exact ⟨rfl, hguards⟩
  | complete r =>
    obtain ⟨htaken, hguards⟩ := Desk.guardsFor_complete hn hm ha
    exact ⟨congrArg DeskReply.done htaken, hguards⟩
  | drop caller =>
    exact ⟨congrArg DeskReply.done (Desk.any_caller_guardsFor ha).symm,
      Desk.guardsFor_drop hm caller⟩
  | await caller timeout =>
    exact ⟨congrArg DeskReply.done (Desk.any_caller_guardsFor ha).symm,
      Desk.guardsFor_await hm timeout s.now ha⟩
  | poll caller =>
    -- The wait ends in the same way with the ticket and without.
    have hends : ((s.desk.guardsFor x).find? (·.caller == caller)).bind (·.ends? s.now) =
        (s.desk.guard? caller).bind (s.desk.outcome? s.now) := by
      rw [Desk.find?_guardsFor hm ha]
      cases hg : s.desk.guard? caller with
      | none => rfl
      | some g =>
        obtain ⟨hmem, hc⟩ := hm.guard?_eq_some_iff.mp hg
        exact (hn.outcome?_eq hm hmem (ha g hmem hc) s.now).symm
    rw [soloStep, hends, step]
    cases (s.desk.guard? caller).bind (s.desk.outcome? s.now) with
    | none => exact ⟨rfl, rfl⟩
    | some result => exact ⟨rfl, Desk.guardsFor_drop hm caller⟩
  | advance d => exact ⟨rfl, rfl⟩

/-- A move for other request IDs leaves the guards for this one, and the clock, as they are. -/
theorem step_apart (hm : s.desk.Matched) (ha : a.IsApart x s.desk) :
    (s.step a).2.desk.guardsFor x = s.desk.guardsFor x ∧ (s.step a).2.now = s.now := by
  have hdrop : ∀ caller, (∀ g ∈ s.desk.guards, g.caller = caller → g.requestId ≠ x) →
      (s.desk.drop caller).guardsFor x = s.desk.guardsFor x := fun caller hc => by
    rw [Desk.guardsFor_drop hm, Desk.filter_caller_guardsFor hc]
  cases a with
  | register caller requestId =>
    have hguards := Desk.guardsFor_register_other (d := s.desk) ha caller
    rw [step]
    split <;> rename_i heq <;> rw [heq] at hguards <;> exact ⟨hguards, rfl⟩
  | complete r => exact ⟨Desk.guardsFor_complete_other hm ha, rfl⟩
  | drop caller => exact ⟨hdrop caller ha, rfl⟩
  | await caller timeout => exact ⟨Desk.guardsFor_await_other hm timeout s.now ha, rfl⟩
  | poll caller =>
    rw [step]
    split
    · exact ⟨rfl, rfl⟩
    · exact ⟨hdrop caller ha, rfl⟩
  | advance d => exact ha.elim

/-- A move keeps tickets distinct; what it registers must get a new one. -/
theorem step_numberedFor (hm : s.desk.Matched) (hn : s.desk.NumberedFor x)
    (hticket : (∃ caller, a = .register caller x) →
      ∀ g ∈ s.desk.guards, g.requestId = x → g.ticket ≠ s.desk.nextTicket) :
    (s.step a).2.desk.NumberedFor x := by
  cases a with
  | register caller requestId =>
    have hregister := hn.register caller requestId fun hid => hticket ⟨caller, hid ▸ rfl⟩
    rw [step]
    split <;> rename_i heq <;> rwa [heq] at hregister
  | complete r => exact hn.complete hm r
  | drop caller => exact hn.drop hm caller
  | await caller timeout => exact hn.await hm caller timeout s.now
  | poll caller =>
    rw [step]
    split
    · exact hn
    · exact hn.drop hm caller
  | advance d => exact hn

/-- What a move does to the clock does not depend on the desk. -/
theorem step_now {t : Shared} (hnow : s.now = t.now) : (s.step a).2.now = (t.step a).2.now := by
  have hall : ∀ u : Shared, (u.step a).2.now = match a with
      | .advance d => u.now + d.nanos
      | _ => u.now := by
    intro u
    cases a with
    | register caller requestId =>
      rw [step]
      split <;> rfl
    | poll caller =>
      rw [step]
      split <;> rfl
    | _ => rfl
  rw [hall, hall, hnow]

/-! ## Two runs -/

/-- Whether a move of a run is for a request ID: callers are, from the registration that the run has
for them.  Time passes for all. -/
def Concerns (moves : List Move) (x : String) : Move → Prop
  | .register _ requestId => requestId = x
  | .complete r => r.requestId = x
  | .drop caller | .await caller _ | .poll caller => .register caller x ∈ moves
  | .advance _ => True

instance (moves : List Move) (x : String) : DecidablePred (Concerns moves x)
  | .register _ requestId => inferInstanceAs (Decidable (requestId = x))
  | .complete r => inferInstanceAs (Decidable (r.requestId = x))
  | .drop caller | .await caller _ | .poll caller =>
    inferInstanceAs (Decidable (Move.register caller x ∈ moves))
  | .advance _ => inferInstanceAs (Decidable True)

/-- While a guard for a request ID is held, fewer than `2 ^ 64` registrations are tried. -/
def Brief (x : String) (moves : List Move) : Prop :=
  ∀ front, front <+: moves → ∀ g ∈ (after front).desk.guards, g.requestId = x →
    age g.caller front < 2 ^ 64

/-- A run with fewer than `2 ^ 64` registrations is brief for every request ID. -/
theorem brief_of_callers_lt {moves : List Move} (h : (callers moves).length < 2 ^ 64) :
    Brief x moves := fun front hfront g _ _ =>
  Nat.lt_of_le_of_lt (Nat.le_trans (age_le g.caller front)
    (callers_sublist hfront.sublist).length_le) h

/-- A guard that is young has another ticket than the next registration. -/
theorem Kept.ticket_ne {moves : List Move} {d : Desk} (h : Kept moves d) {g : Guard}
    (hg : g ∈ d.guards) (hage : age g.caller moves < 2 ^ 64) : g.ticket ≠ d.nextTicket := by
  obtain ⟨n, hpos, hle, hnext⟩ := h.aged g hg
  intro hsame
  rw [← hsame] at hnext
  have hzero : UInt64.ofNat n = 0 := by
    simpa using hnext
  have hmod : n % 2 ^ 64 = 0 := congrArg UInt64.toNat hzero
  rw [Nat.mod_eq_of_lt (Nat.lt_of_le_of_lt hle hage)] at hmod
  omega

/-- Two states that agree on a request ID. -/
structure Agree (x : String) (s t : Shared) : Prop where
  now : s.now = t.now
  guards : s.desk.guardsFor x = t.desk.guardsFor x
  left : s.desk.NumberedFor x
  right : t.desk.NumberedFor x

/-- A move for the request ID, in both runs, is answered in the same way. -/
theorem Agree.step {t : Shared} (h : Agree x s t) (hs : s.desk.Matched) (ht : t.desk.Matched)
    (has : a.IsFor x s.desk) (hat : a.IsFor x t.desk)
    (hleft : ∀ g ∈ s.desk.guards, g.requestId = x → g.ticket ≠ s.desk.nextTicket)
    (hright : ∀ g ∈ t.desk.guards, g.requestId = x → g.ticket ≠ t.desk.nextTicket) :
    (s.step a).1 = (t.step a).1 ∧ Agree x (s.step a).2 (t.step a).2 := by
  obtain ⟨hreply, hguards⟩ := step_follows hs h.left has
  obtain ⟨hreply', hguards'⟩ := step_follows ht h.right hat
  rw [h.now, h.guards] at hreply hguards
  exact ⟨hreply.trans hreply'.symm, step_now h.now, hguards.trans hguards'.symm,
    step_numberedFor hs h.left fun _ => hleft, step_numberedFor ht h.right fun _ => hright⟩

/-- A move for another request ID, in one run only, is not noticed. -/
theorem Agree.apart {t : Shared} (h : Agree x s t) (hs : s.desk.Matched)
    (ha : a.IsApart x s.desk) : Agree x (s.step a).2 t := by
  obtain ⟨hguards, hnow⟩ := step_apart hs ha
  refine ⟨hnow.trans h.now, hguards.trans h.guards, step_numberedFor hs h.left ?_, h.right⟩
  rintro ⟨caller, rfl⟩
  exact absurd rfl ha

section

variable {all moves : List Move} {d : Desk}

/-- A move that the whole run has for the request ID is for it in every state of the run. -/
theorem Kept.isFor (h : Kept moves d) (hall : (callers all).Nodup) (hmoves : moves ⊆ all)
    (ha : Concerns all x a) : a.IsFor x d := by
  have hcaller : ∀ caller, .register caller x ∈ all →
      ∀ g ∈ d.guards, g.caller = caller → g.requestId = x := by
    rintro caller hmem g hg rfl
    exact register_unique hall (hmoves (h.enrolled g hg)) hmem
  cases a with
  | register caller requestId => exact ha
  | complete r => exact ha
  | drop caller => exact hcaller caller ha
  | await caller timeout => exact hcaller caller ha
  | poll caller => exact hcaller caller ha
  | advance d => exact trivial

/-- A move that does not concern a request ID is apart from it in the state where it is made. -/
theorem Kept.isApart (h : Kept moves d) (hmoves : moves ⊆ all) (ha : ¬ Concerns all x a) :
    a.IsApart x d := by
  have hcaller : ∀ caller, .register caller x ∉ all →
      ∀ g ∈ d.guards, g.caller = caller → g.requestId ≠ x := by
    rintro caller hmem g hg rfl rfl
    exact hmem (hmoves (h.enrolled g hg))
  cases a with
  | register caller requestId => exact ha
  | complete r => exact ha
  | drop caller => exact hcaller caller ha
  | await caller timeout => exact hcaller caller ha
  | poll caller => exact hcaller caller ha
  | advance d => exact absurd trivial ha

end

/-- Where moves are left out and the states agree, the guards are no older. -/
theorem Agree.age_lt {moves fewer : List Move} (h : Agree x (after moves) (after fewer))
    (hnew : (callers moves).Nodup) (hsub : fewer.Sublist moves)
    (hyoung : ∀ g ∈ (after moves).desk.guards, g.requestId = x → age g.caller moves < 2 ^ 64) :
    ∀ g ∈ (after fewer).desk.guards, g.requestId = x → age g.caller fewer < 2 ^ 64 := by
  intro g hg hid
  -- The same caller has a guard in both states.
  have hmem : g.unnumbered ∈ (after moves).desk.guardsFor x := by
    rw [h.guards]
    exact Desk.mem_guardsFor.mpr ⟨g, hg, hid, rfl⟩
  obtain ⟨g₀, hg₀, hid₀, hsame⟩ := Desk.mem_guardsFor.mp hmem
  have hcaller : g₀.caller = g.caller := by
    simpa using congrArg Guard.caller hsame
  have hage := hyoung g₀ hg₀ hid₀
  rw [hcaller] at hage
  have henrolled := (kept_after (hnew.sublist (callers_sublist hsub))).enrolled g hg
  exact Nat.lt_of_le_of_lt
    (age_le_of_sublist (callers_sublist hsub) hnew (mem_callers henrolled)) hage

/-- Up to every point of a run, what is observed of the moves for a request ID is what is observed
of the run of these moves alone, and the states agree on that ID. -/
theorem isolated_upTo {all front back : List Move} (hall : (callers all).Nodup)
    (hbrief : Brief x all) (hsplit : all = front ++ back) :
    (trace {} front).filter (fun o => Concerns all x o.move) =
      trace {} (front.filter (Concerns all x ·)) ∧
    Agree x (after front) (after (front.filter (Concerns all x ·))) := by
  -- By induction from the front: the states agree on the ID after each move, whether both runs make
  -- it or one.
  induction front using List.reverseRecOn generalizing back with
  | nil =>
    exact ⟨rfl, rfl, rfl, Desk.numberedFor_empty, Desk.numberedFor_empty⟩
  | append_singleton front a ih =>
    rw [List.append_assoc] at hsplit
    obtain ⟨htrace, hagree⟩ := ih hsplit
    have hprefix : front <+: all := ⟨_, hsplit.symm⟩
    have hfront : (callers front).Nodup := hall.sublist (callers_sublist hprefix.sublist)
    have hk := kept_after hfront
    rw [trace_append_singleton, after_append_singleton, List.filter_append, List.filter_append,
      htrace]
    by_cases ha : Concerns all x a
    · -- Both runs make the move.
      have hsub : (front.filter (Concerns all x ·)).Sublist front := List.filter_sublist
      have hk' := kept_after (hfront.sublist (callers_sublist hsub))
      have hleft : ∀ g ∈ (after front).desk.guards, g.requestId = x →
          g.ticket ≠ (after front).desk.nextTicket :=
        fun g hg hid => hk.ticket_ne hg (hbrief front hprefix g hg hid)
      have hright : ∀ g ∈ (after (front.filter (Concerns all x ·))).desk.guards, g.requestId = x →
          g.ticket ≠ (after (front.filter (Concerns all x ·))).desk.nextTicket :=
        fun g hg hid => hk'.ticket_ne hg
          (hagree.age_lt hfront hsub (hbrief front hprefix) g hg hid)
      obtain ⟨hreply, hnext⟩ := hagree.step hk.matched hk'.matched
        (hk.isFor hall hprefix.subset ha)
        (hk'.isFor hall (List.Subset.trans hsub.subset hprefix.subset) ha)
        hleft hright
      rw [List.filter_cons_of_pos (by simpa using ha), List.filter_cons_of_pos (by simpa using ha),
        List.filter_nil, List.filter_nil, trace_append_singleton, after_append_singleton,
        hagree.now,
        hreply]
      exact ⟨rfl, hnext⟩
    · -- Only the whole run makes it, and it does not touch what is filed under the ID.
      rw [List.filter_cons_of_neg (by simpa using ha), List.filter_cons_of_neg (by simpa using ha),
        List.filter_nil, List.filter_nil, List.append_nil, List.append_nil]
      exact ⟨rfl, hagree.apart hk.matched (hk.isApart hprefix.subset ha)⟩

/-- **What happens to a request ID depends on the moves for it alone.**  In every run in which each
registration gets a new guard, the moves for the request ID are made at the same times and get the
same answers as in the run of these moves alone. -/
theorem answers_depend_on_own_moves (moves : List Move) (x : String)
    (hnew : (callers moves).Nodup) (hbrief : Brief x moves) :
    (trace {} moves).filter (fun o => Concerns moves x o.move) =
      trace {} (moves.filter (Concerns moves x ·)) :=
  (isolated_upTo hnew hbrief (List.append_nil moves).symm).1

/-- Two requests in flight: the guard that was answered for the second one goes when its request ID
is in flight again. -/
def twoAtOnce : List Move :=
  [.register 0 "R1", .await 0 ⟨9⟩, .register 1 "R2", .complete { requestId := "R2" }, .advance ⟨4⟩,
   .register 2 "R2", .complete { requestId := "R1" }, .drop 1, .poll 0, .await 2 ⟨3⟩, .advance ⟨3⟩,
   .poll 2]

/-- The theorem for the second of two requests, which has other tickets when it is alone. -/
theorem second_of_two_is_isolated :
    (callers twoAtOnce).Nodup ∧ Brief "R2" twoAtOnce ∧
    (trace {} twoAtOnce).filter (fun o => Concerns twoAtOnce "R2" o.move) =
      trace {} [.register 1 "R2", .complete { requestId := "R2" }, .advance ⟨4⟩, .register 2 "R2",
        .drop 1, .await 2 ⟨3⟩, .advance ⟨3⟩, .poll 2] := by
  have hnew : (callers twoAtOnce).Nodup := by decide
  have hbrief : Brief "R2" twoAtOnce := brief_of_callers_lt (by decide)
  have hown : twoAtOnce.filter (Concerns twoAtOnce "R2" ·) =
      [.register 1 "R2", .complete { requestId := "R2" }, .advance ⟨4⟩, .register 2 "R2",
        .drop 1, .await 2 ⟨3⟩, .advance ⟨3⟩, .poll 2] := by decide
  refine ⟨hnew, hbrief, ?_⟩
  rw [answers_depend_on_own_moves twoAtOnce "R2" hnew hbrief, hown]

end Shared

end CommandRelay.Correlation
