import CommandRelay.Proofs.Correlation.Run

/-!
# Responses are delivered once

A response goes into the one guard that its request ID is in flight for, stays there as long as the
guard is held, and is what a wait on that guard returns.  Whatever is not taken changes nothing.

1. **`Hands`** — what it means that a step hands a response to a guard: no other guard changes.
2. **Persistence** — `response_kept` and `waiters_kept` carry facts along a run: a response stays in
   its guard, and a waiter is only ever that of a registration.
3. **The theorem** — `delivered_exactly_once`, for every run.
-/

namespace CommandRelay.Correlation

open Desk DeskRun

namespace DeskRun

/-- A response is handed to a guard: it is taken, and what is in that guard is all that changes of
the guards. -/
structure Hands (s : DeskRun) (r : Envelope) (g : Guard) : Prop where
  live : g ∈ s.desk.guards
  requestId : g.requestId = r.requestId
  unanswered : g.response = none
  taken : (s.step (.complete r)).1 = .done true
  held : (s.step (.complete r)).2.held = s.held
  guards : (s.step (.complete r)).2.desk.guards = s.desk.guards.map fun g' =>
    if g'.caller = g.caller then { g' with response := some r } else g'

variable {s : DeskRun}

/-! ## One step -/

/-- A response is handed to the guard whose waiter has its request ID. -/
theorem Sound.hands (h : s.Sound) {g : Guard} {r : Envelope} (hg : g ∈ s.desk.guards)
    (hw : g.waiter ∈ s.desk.waiters) (hid : g.requestId = r.requestId) : s.Hands r g := by
  have hr := (h.matched.waiter_eq hw hg rfl).2
  have heq := h.matched.complete_eq hw hid
  refine ⟨hg, hid, hr, ?_, ?_, ?_⟩
  · simp only [DeskRun.step, heq]
  · simp only [DeskRun.step, heq]
  · simp only [DeskRun.step, heq]

namespace Stepped

variable {s' : DeskRun}

/-- A response that is taken is handed to a guard, whose waiter was in the table. -/
theorem hands {r : Envelope} (hs : Stepped s (.complete r) (.done true) s') (h : s.Sound) :
    ∃ g, g.waiter ∈ s.desk.waiters ∧ s.Hands r g := by
  cases hs with
  | delivered hg hw hr hid => exact ⟨_, hw, h.hands hg hw hid⟩

/-- A response that is not taken changes nothing. -/
theorem missed_eq {r : Envelope} {reply : DeskReply} (hs : Stepped s (.complete r) reply s')
    (ht : reply ≠ .done true) : (reply, s') = (.done false, s) := by
  cases hs with
  | missed hfree => rfl
  | delivered hg hw hr hid => exact absurd rfl ht

/-- A registration is refused for two reasons, and leaves waiters and guards as they are. -/
theorem refused {name requestId : String} {f : Fault}
    (hs : Stepped s (.register name requestId) (.refused f) s') :
    (requestId = "" ∧ f = .noRequestId ∨ requestId ≠ "" ∧ f = .alreadyInFlight requestId ∧
      ∃ w ∈ s.desk.waiters, w.requestId = requestId) ∧
    s'.desk.waiters = s.desk.waiters ∧ s'.desk.guards = s.desk.guards ∧ s'.held = s.held := by
  cases hs with
  | nameless => exact ⟨.inl ⟨rfl, rfl⟩, rfl, rfl, rfl⟩
  | inFlight hid hw => exact ⟨.inr ⟨hid, rfl, hw⟩, rfl, rfl, rfl⟩

/-- A wait on a guard that is held tells what is in it. -/
theorem waited_eq {name : String} {timeout : Duration} {reply : DeskReply} {g : Guard}
    (hs : Stepped s (.wait name timeout) reply s') (h : s.Sound) (hg : g ∈ s.desk.guards)
    (hheld : (name, g.caller) ∈ s.held) : reply = .waited (s.desk.waitResult g timeout) := by
  have hcaller := h.caller?_eq_some_iff.mpr hheld
  cases hs with
  | unheld hc =>
    rw [hcaller] at hc
    cases hc
  | waited hc hg' =>
    rw [hcaller] at hc
    rw [h.matched.guard_eq hg hg' (Option.some.inj hc)]

/-- A wait that timed out was a wait on a guard without a response whose waiter is still there. -/
theorem timedOut {name requestId : String} {timeout limit : Duration}
    (hs : Stepped s (.wait name timeout) (.waited (.error (.timedOut requestId limit))) s')
    (h : s.Sound) : ∃ g ∈ s.desk.guards, (name, g.caller) ∈ s.held ∧ requestId = g.requestId ∧
      limit = timeout ∧ g.response = none ∧ g.waiter ∈ s.desk.waiters := by
  generalize hresult : Except.error (Fault.timedOut requestId limit) = result at hs
  cases hs with
  | @waited _ _ g _ hc hg =>
    rw [waitResult] at hresult
    cases hr : g.response with
    | some r =>
      rw [hr] at hresult
      cases hresult
    | none =>
      rw [hr] at hresult
      by_cases hexpects : s.desk.expects g = true
      · rw [if_pos hexpects] at hresult
        cases hresult
        exact ⟨g, hg, h.caller?_eq_some_iff.mp hc, rfl, rfl, hr,
          (h.matched.expects_iff hg).mp hexpects⟩
      · rw [if_neg hexpects] at hresult
        cases hresult

end Stepped

/-! ## All that comes later -/

/-- The numbers of callers only go up in a run. -/
theorem nextCaller_le_after (front later : List DeskStep) :
    (after front).nextCaller ≤ (after (front ++ later)).nextCaller := by
  induction later using List.reverseRecOn with
  | nil => simp
  | append_singleton later a ih =>
    rw [← List.append_assoc, after_append]
    exact Nat.le_trans ih (((sound_after (front ++ later)).stepped a).nextCaller_le)

/-- A response stays in its guard as long as the guard is held. -/
theorem response_kept (front later : List DeskStep) {c : CallId} {r : Envelope}
    (hc : c < (after front).nextCaller)
    (hr : ∀ g ∈ (after front).desk.guards, g.caller = c → g.response = some r) :
    ∀ g ∈ (after (front ++ later)).desk.guards, g.caller = c → g.response = some r := by
  induction later using List.reverseRecOn with
  | nil =>
    rw [List.append_nil]
    exact hr
  | append_singleton later a ih =>
    rw [← List.append_assoc, after_append]
    intro g' hg' hgc
    have hsound := sound_after (front ++ later)
    rcases (hsound.stepped a).guards hsound hg' with ⟨g, hg, rfl | ⟨hnone, r', rfl⟩⟩ | hnew
    · exact ih g' hg hgc
    · -- A second response would have found the guard without one.
      have := ih g hg hgc
      rw [hnone] at this
      cases this
    · have hle := nextCaller_le_after front later
      exact absurd (hgc.symm.trans hnew) (Nat.ne_of_lt (Nat.lt_of_lt_of_le hc hle))

/-- A waiter that is found for an old caller has been there all along. -/
theorem waiters_kept (front later : List DeskStep) {w : Waiter}
    (hw : w ∈ (after (front ++ later)).desk.waiters) (hc : w.caller < (after front).nextCaller) :
    w ∈ (after front).desk.waiters := by
  induction later using List.reverseRecOn with
  | nil => rwa [List.append_nil] at hw
  | append_singleton later a ih =>
    rw [← List.append_assoc, after_append] at hw
    have hsound := sound_after (front ++ later)
    rcases (hsound.stepped a).waiters hsound hw with hw | hnew
    · exact ih hw
    · have hle := nextCaller_le_after front later
      exact absurd hnew (Nat.ne_of_lt (Nat.lt_of_lt_of_le hc hle))

/-- Whoever was handed a response holds it from then on. -/
theorem Hands.kept {steps : List DeskStep} {r : Envelope} {g : Guard}
    (h : (after steps).Hands r g) (later : List DeskStep) :
    ∀ g' ∈ (after (steps ++ .complete r :: later)).desk.guards, g'.caller = g.caller →
      g'.response = some r := by
  have hsound := sound_after steps
  rw [List.append_cons]
  apply response_kept
  · rw [after_append]
    exact Nat.lt_of_lt_of_le (hsound.fresh g h.live) (hsound.stepped (.complete r)).nextCaller_le
  · rw [after_append, h.guards]
    intro g' hg' hgc
    rcases mem_guards_deliver.mp hg' with ⟨g₀, -, -, rfl⟩ | ⟨-, hne⟩
    · rfl
    · exact absurd hgc hne

/-- Where a waiter is still in the table, each response for its request ID that was taken was taken
before its guard was registered. -/
theorem taken_before_registration {front back : List DeskStep} {r : Envelope} {g : Guard}
    (hg : g ∈ (after (front ++ .complete r :: back)).desk.guards)
    (hw : g.waiter ∈ (after (front ++ .complete r :: back)).desk.waiters)
    (hid : r.requestId = g.requestId) (ht : ((after front).step (.complete r)).1 = .done true) :
    ∀ g₀ ∈ (after front).desk.guards, g₀.caller ≠ g.caller := by
  intro g₀ hg₀ hc
  have hsound := sound_after front
  have hlt := hsound.fresh g₀ hg₀
  rw [hc] at hlt
  -- The waiter was in the table, so the response would have gone into the guard and have stayed.
  have hthere := waiters_kept front (.complete r :: back) hw hlt
  obtain ⟨g₁, hw₁, hhands⟩ := (ht ▸ hsound.stepped (.complete r)).hands hsound
  have hsame : g₁.waiter = g.waiter :=
    List.inj_on_of_nodup_map hsound.matched.requestIds hw₁ hthere (hhands.requestId.trans hid)
  have hsome := hhands.kept back g hg (congrArg Waiter.caller hsame).symm
  have hnone := ((sound_after _).matched.waiter_eq hw hg rfl).2
  rw [hnone] at hsome
  cases hsome

end DeskRun

/-! ## Every run -/

/-- **A response is delivered once, to the guard that waits for it.**  Tickets matter to one half
only: that the guard's waiter is still in the table, which holds of every run that tries fewer than
`2 ^ 64` registrations. -/
theorem delivered_exactly_once (steps : List DeskStep) :
    let s := after steps
    -- Guards are told apart by their callers, and are those that are held.
    (s.desk.guards.map (·.caller)).Nodup ∧ s.held.map (·.2) = s.desk.guards.map (·.caller) ∧
    -- A response that is taken is handed to one guard, and is what its wait returns.
    (∀ r, (s.step (.complete r)).1 = .done true → ∃ g, s.Hands r g ∧ ∀ later,
      (∀ g' ∈ (after (steps ++ .complete r :: later)).desk.guards, g'.caller = g.caller →
        g'.response = some r) ∧
      ∀ name timeout, (name, g.caller) ∈ (after (steps ++ .complete r :: later)).held →
        ((after (steps ++ .complete r :: later)).step (.wait name timeout)).1 = .waited (.ok r)) ∧
    -- A response that some guard waits for is taken, and handed to that guard.
    (registrations steps < 2 ^ 64 → ∀ r, ∀ g ∈ s.desk.guards, g.requestId = r.requestId →
      g.response = none → s.Hands r g) ∧
    -- A response that is not taken changes nothing.
    (∀ r, (s.step (.complete r)).1 ≠ .done true → s.step (.complete r) = (.done false, s)) ∧
    -- A registration that is refused leaves waiters and guards as they are.
    (∀ name requestId f, (s.step (.register name requestId)).1 = .refused f →
      (requestId = "" ∧ f = .noRequestId ∨ requestId ≠ "" ∧ f = .alreadyInFlight requestId ∧
        ∃ w ∈ s.desk.waiters, w.requestId = requestId) ∧
      (s.step (.register name requestId)).2.desk.waiters = s.desk.waiters ∧
      (s.step (.register name requestId)).2.desk.guards = s.desk.guards ∧
      (s.step (.register name requestId)).2.held = s.held) ∧
    -- A wait times out only if nothing was taken for its guard.
    (∀ name timeout requestId limit,
      (s.step (.wait name timeout)).1 = .waited (.error (.timedOut requestId limit)) →
      ∃ g ∈ s.desk.guards, (name, g.caller) ∈ s.held ∧ requestId = g.requestId ∧
        limit = timeout ∧ g.response = none ∧
        ∀ front r back, steps = front ++ .complete r :: back → r.requestId = g.requestId →
          ((after front).step (.complete r)).1 = .done true →
          ∀ g₀ ∈ (after front).desk.guards, g₀.caller ≠ g.caller) := by
  intro s
  have h : s.Sound := sound_after steps
  refine ⟨h.matched.callers, h.held, ?_, ?_, fun r ht => (h.stepped (.complete r)).missed_eq ht,
    fun name requestId f hf => (hf ▸ h.stepped (.register name requestId)).refused, ?_⟩
  · intro r ht
    obtain ⟨g, -, hhands⟩ := (ht ▸ h.stepped (.complete r)).hands h
    refine ⟨g, hhands, fun later => ⟨hhands.kept later, ?_⟩⟩
    intro name timeout hheld
    have hlater := sound_after (steps ++ .complete r :: later)
    obtain ⟨g', hg', hgc⟩ := hlater.guard_of_held hheld
    rw [← hgc] at hheld
    rw [(hlater.stepped (.wait name timeout)).waited_eq hlater hg' hheld, waitResult,
      hhands.kept later g' hg' hgc]
  · intro hroom r g hg hid hr
    exact h.hands hg ((numbered_after steps hroom).1.waiter_mem g hg hr) hid
  · intro name timeout requestId limit ht
    obtain ⟨g, hg, hheld, hid, hafter, hr, hw⟩ := (ht ▸ h.stepped (.wait name timeout)).timedOut h
    refine ⟨g, hg, hheld, hid, hafter, hr, ?_⟩
    rintro front r back hsteps hrid htaken
    subst hsteps
    exact taken_before_registration hg hw hrid htaken

/-- A run in which the second of two requests for one ID is refused. -/
def twoForOne : List DeskStep := [.register "first" "R1", .register "second" "R1"]

/-- The theorem where a registration was refused: the first guard gets the response, and every later
wait on it returns the response. -/
theorem first_of_two_is_answered :
    registrations twoForOne < 2 ^ 64 ∧
    (after twoForOne).Hands { requestId := "R1" } { caller := 0, requestId := "R1", ticket := 0 } ∧
    ∃ g, (after twoForOne).Hands { requestId := "R1" } g ∧ ∀ later timeout,
      ("first", g.caller) ∈ (after (twoForOne ++ .complete { requestId := "R1" } :: later)).held →
      ((after (twoForOne ++ .complete { requestId := "R1" } :: later)).step
        (.wait "first" timeout)).1 = .waited (.ok { requestId := "R1" }) := by
  have hroom : registrations twoForOne < 2 ^ 64 := by decide
  obtain ⟨-, -, htaken, hawaited, -, -, -⟩ := delivered_exactly_once twoForOne
  have hfirst := hawaited hroom { requestId := "R1" }
    { caller := 0, requestId := "R1", ticket := 0 } (by decide) rfl rfl
  obtain ⟨g, hhands, hlater⟩ := htaken { requestId := "R1" } hfirst.taken
  exact ⟨hroom, hfirst, g, hhands, fun later timeout => (hlater later).2 "first" timeout⟩

end CommandRelay.Correlation
