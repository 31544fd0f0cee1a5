import CommandRelay.Proofs.Correlation.Shared

/-!
# Waits among the moves of others

A wait begins, and its end is seen at one of the looks that come later; between any two of these
moves the other callers and the responses make theirs.  What is known of whole waits holds of such
runs too.

1. **`guards_step`** — all that one move does to guards: it may bring in a new one, and a response
   that is taken goes into one that had none.
2. **The table** — after every run the entries are those of the unanswered guards
   (`entries_eq_unanswered_guards`), so no look finds that a response can not come any more.
3. **Responses** — a response that was taken stays in its guard and is what every look tells that
   ends the wait (`taken_response_is_seen`); a response that a look tells was taken for its caller
   (`seen_response_was_taken`).
-/

namespace CommandRelay.Correlation

/-- A wait ends with the response of its guard or at its deadline: only a guard without a response
could find its waiter gone, and that one has its waiter. -/
theorem Desk.Numbered.outcome?_ne_closed {d : Desk} (hn : d.Numbered) (hm : d.Matched) {g : Guard}
    (hg : g ∈ d.guards) (now : Instant) (requestId : String) :
    d.outcome? now g ≠ some (.error (.channelClosed requestId)) := by
  rw [Desk.outcome?]
  cases g.wait with
  | none => simp
  | some w =>
    cases hr : g.response with
    | some r => simp
    | none =>
      have hexpects := (hm.expects_iff hg).mpr (hn.waiter_mem g hg hr)
      by_cases hdue : w.deadline ≤ now <;> simp [hexpects, hdue]

namespace Shared

variable {s : Shared} {moves : List Move} {a : Move} {caller : CallId} {r : Envelope}

/-! ## One move -/

/-- A guard was there before a move, with the same response or with none, and then the move brought
it; or it is new. -/
theorem guards_step (hm : s.desk.Matched) {g : Guard} (hg : g ∈ (s.step a).2.desk.guards) :
    (∃ g₀ ∈ s.desk.guards, g₀.waiter = g.waiter ∧ (g₀.response = g.response ∨
      g₀.response = none ∧ ∃ r, a = .complete r ∧ (s.step a).1 = .done true ∧
        r.requestId = g₀.requestId ∧ g.response = some r)) ∨
    (a = .register g.caller g.requestId ∧ g.response = none) := by
  -- A move to drop or to poll can only take guards away.
  have hdropped : ∀ caller, g ∈ (s.desk.drop caller).guards → g ∈ s.desk.guards := by
    intro caller hg
    rw [hm.drop_guards] at hg
    exact (List.mem_filter.mp hg).1
  cases a with
  | register caller requestId =>
    rw [desk_step_register] at hg
    -- Only the last of the three ways of a registration adds a guard, and that one has no response.
    rcases Desk.register_cases s.desk caller requestId with ⟨-, heq⟩ | ⟨-, -, heq⟩ | ⟨-, -, heq⟩
    · rw [heq] at hg
      exact .inl ⟨g, hg, rfl, .inl rfl⟩
    · rw [heq] at hg
      exact .inl ⟨g, hg, rfl, .inl rfl⟩
    · rw [heq] at hg
      rcases List.mem_append.mp hg with hg | hg
      · exact .inl ⟨g, hg, rfl, .inl rfl⟩
      · rw [List.mem_singleton.mp hg]
        exact .inr ⟨rfl, rfl⟩
  | complete r =>
    rcases hm.complete_cases r with ⟨-, heq⟩ | ⟨g₁, hg₁, -, hnone, hid, heq⟩
    · simp only [step, heq] at hg
      exact .inl ⟨g, hg, rfl, .inl rfl⟩
    · have htaken : (s.step (.complete r)).1 = .done true := by simp only [step, heq]
      simp only [step, heq] at hg
      -- The desk fills the guard that the response is for; all others are as before.
      rcases Desk.mem_guards_deliver.mp hg with ⟨g₀, hg₀, hc, rfl⟩ | ⟨hg, -⟩
      · obtain rfl := hm.guard_eq hg₀ hg₁ hc
        exact .inl ⟨g₀, hg₀, rfl, .inr ⟨hnone, r, rfl, htaken, hid.symm, rfl⟩⟩
      · exact .inl ⟨g, hg, rfl, .inl rfl⟩
  | drop caller => exact .inl ⟨g, hdropped caller hg, rfl, .inl rfl⟩
  | await caller timeout =>
    rcases hm.await_cases caller timeout s.now with ⟨-, heq⟩ | ⟨g₀, hg₀, -, heq⟩
    · simp only [step, heq] at hg
      exact .inl ⟨g, hg, rfl, .inl rfl⟩
    · simp only [step, heq] at hg
      rcases List.mem_append.mp hg with hg | hg
      · exact .inl ⟨g, (List.mem_filter.mp hg).1, rfl, .inl rfl⟩
      · rw [List.mem_singleton.mp hg]
        exact .inl ⟨g₀, hg₀, rfl, .inl rfl⟩
  | poll caller =>
    rw [step] at hg
    split at hg
    · exact .inl ⟨g, hg, rfl, .inl rfl⟩
    · exact .inl ⟨g, hdropped caller hg, rfl, .inl rfl⟩
  | advance d => exact .inl ⟨g, hg, rfl, .inl rfl⟩

/-- A look that ends a wait tells what became of the guard. -/
theorem poll_eq_waited_iff (hm : s.desk.Matched) {result : CallResult} :
    (s.step (.poll caller)).1 = .waited result ↔
      ∃ g ∈ s.desk.guards, g.caller = caller ∧ s.desk.outcome? s.now g = some result := by
  have hfound : (s.desk.guard? caller).bind (s.desk.outcome? s.now) = some result ↔
      ∃ g ∈ s.desk.guards, g.caller = caller ∧ s.desk.outcome? s.now g = some result := by
    rw [Option.bind_eq_some_iff]
    exact exists_congr fun g => by rw [hm.guard?_eq_some_iff, and_assoc]
  rw [← hfound, step]
  cases (s.desk.guard? caller).bind (s.desk.outcome? s.now) <;> simp

/-! ## The table -/

/-- Where the counter of tickets has room, each unanswered guard keeps its entry. -/
theorem numbered_step (hm : s.desk.Matched) (hn : s.desk.Numbered)
    (hroom : s.desk.nextTicket.toNat + (callers [a]).length < 2 ^ 64) :
    (s.step a).2.desk.Numbered := by
  cases a with
  | register caller requestId =>
    rw [desk_step_register]
    exact hn.register caller requestId hroom
  | complete r => exact hn.complete hm r
  | drop caller => exact hn.drop hm caller
  | await caller timeout => exact hn.await hm caller timeout s.now
  | poll caller =>
    rw [step]
    split
    · exact hn
    · exact hn.drop hm caller
  | advance d => exact hn

/-- The counter goes on with registrations only. -/
theorem nextTicket_step (hm : s.desk.Matched)
    (hroom : s.desk.nextTicket.toNat + (callers [a]).length < 2 ^ 64) :
    (s.step a).2.desk.nextTicket.toNat ≤ s.desk.nextTicket.toNat + (callers [a]).length := by
  cases a with
  | register caller requestId =>
    rw [desk_step_register]
    exact Desk.register_nextTicket_le _ _ _ hroom
  | complete r =>
    show (s.desk.complete r).2.nextTicket.toNat ≤ _
    rw [hm.complete_nextTicket]
    exact le_rfl
  | drop caller =>
    show (s.desk.drop caller).nextTicket.toNat ≤ _
    rw [hm.drop_nextTicket]
    exact le_rfl
  | await caller timeout =>
    show (s.desk.await caller timeout s.now).nextTicket.toNat ≤ _
    rw [hm.await_nextTicket]
    exact le_rfl
  | poll caller =>
    rw [step]
    split
    · exact le_rfl
    · show (s.desk.drop caller).nextTicket.toNat ≤ _
      rw [hm.drop_nextTicket]
      exact le_rfl
  | advance d => exact le_rfl

/-- A run with fewer than `2 ^ 64` registrations uses no ticket twice. -/
theorem numbered_after (hnew : (callers moves).Nodup) (hroom : (callers moves).length < 2 ^ 64) :
    (after moves).desk.Numbered ∧
      (after moves).desk.nextTicket.toNat ≤ (callers moves).length := by
  induction moves using List.reverseRecOn with
  | nil => exact ⟨Desk.numbered_empty, le_rfl⟩
  | append_singleton moves a ih =>
    have hfront := (callers_append_singleton_nodup hnew).1
    have hm := (kept_after hfront).matched
    rw [callers_append, List.length_append] at hroom ⊢
    obtain ⟨hn, hle⟩ := ih hfront (by omega)
    have hnext := nextTicket_step (a := a) hm (by omega)
    rw [after_append_singleton]
    exact ⟨numbered_step hm hn (by omega), by omega⟩

/-- **The table is what the unanswered guards say, also while callers wait.**  After every run of
moves that registers each caller once and fewer than `2 ^ 64` of them, entries and unanswered guards
are the same requests, a guard that was answered takes nothing with it, and no look finds that a
response can not come any more. -/
theorem entries_eq_unanswered_guards (hnew : (callers moves).Nodup)
    (hroom : (callers moves).length < 2 ^ 64) :
    (after moves).desk.waiters.Perm ((after moves).desk.unanswered.map Guard.waiter) ∧
    ((after moves).desk.waiters.map (·.ticket)).Nodup ∧
    (∀ w ∈ (after moves).desk.waiters, w.requestId ≠ "") ∧
    (∀ g ∈ (after moves).desk.guards, g.response ≠ none →
      ((after moves).desk.drop g.caller).waiters = (after moves).desk.waiters) ∧
    ∀ caller requestId, ((after moves).step (.poll caller)).1 ≠
      .waited (.error (.channelClosed requestId)) := by
  have hm := (kept_after hnew).matched
  have hn := (numbered_after hnew hroom).1
  refine ⟨hn.waiters_perm hm, hn.waiter_tickets_nodup hm, fun w hw => hm.requestId_ne_empty hw,
    fun g hg hr => hn.drop_answered_waiters hm hg hr, fun caller requestId hclosed => ?_⟩
  obtain ⟨g, hg, -, hout⟩ := (poll_eq_waited_iff hm).mp hclosed
  exact hn.outcome?_ne_closed hm hg _ _ hout

/-! ## Responses -/

/-- A response stays in the guard that it was put into, whatever moves come later. -/
theorem response_kept {front later : List Move} (hnew : (callers (front ++ later)).Nodup)
    (hcaller : caller ∈ callers front)
    (hr : ∀ g ∈ (after front).desk.guards, g.caller = caller → g.response = some r) :
    ∀ g ∈ (after (front ++ later)).desk.guards, g.caller = caller → g.response = some r := by
  induction later using List.reverseRecOn with
  | nil => rwa [List.append_nil]
  | append_singleton later a ih =>
    rw [← List.append_assoc] at hnew ⊢
    obtain ⟨hfront, hfresh⟩ := callers_append_singleton_nodup hnew
    rw [after_append_singleton]
    intro g hg hc
    rcases guards_step (kept_after hfront).matched hg with
      ⟨g₀, hg₀, hsame, hkept⟩ | ⟨hregister, -⟩
    · have hc₀ : g₀.caller = caller := (congrArg Waiter.caller hsame).trans hc
      have hr₀ := ih hfront g₀ hg₀ hc₀
      rcases hkept with hkept | ⟨hnone, -⟩
      · rw [← hkept, hr₀]
      · rw [hnone] at hr₀
        cases hr₀
    · -- The caller registered before, so a new guard is not its own.
      refine absurd ?_ (hfresh g.caller (by rw [hregister]; exact rfl))
      rw [callers_append, hc]
      exact List.mem_append_left _ hcaller

/-- **A response that is taken is seen.**  It goes into one guard that has its request ID and no
response, and whatever moves come later, every look of that caller that ends its wait tells this
response. -/
theorem taken_response_is_seen {front : List Move} (hnew : (callers front).Nodup)
    (htaken : ((after front).step (.complete r)).1 = .done true) :
    ∃ g ∈ (after front).desk.guards, g.requestId = r.requestId ∧ g.response = none ∧
      ∀ later result, (callers (front ++ .complete r :: later)).Nodup →
        ((after (front ++ .complete r :: later)).step (.poll g.caller)).1 = .waited result →
          result = .ok r := by
  have hkept := kept_after hnew
  rcases hkept.matched.complete_cases r with ⟨-, heq⟩ | ⟨g, hg, -, hnone, hid, heq⟩
  · rw [step, heq] at htaken
    cases htaken
  refine ⟨g, hg, hid, hnone, fun later result hlater hpoll => ?_⟩
  have hsplit : front ++ .complete r :: later = (front ++ [.complete r]) ++ later := by
    rw [List.append_assoc]
    rfl
  rw [hsplit] at hlater hpoll
  -- Right behind the response the guard has it, and a guard never changes its response.
  have hput : ∀ g' ∈ (after (front ++ [.complete r])).desk.guards, g'.caller = g.caller →
      g'.response = some r := by
    rw [after_append_singleton, step, heq]
    intro g' hg' hc
    rcases Desk.mem_guards_deliver.mp hg' with ⟨g₀, -, -, rfl⟩ | ⟨-, hother⟩
    · rfl
    · exact absurd hc hother
  have hcaller : g.caller ∈ callers (front ++ [.complete r]) := by
    rw [callers_append]
    exact List.mem_append_left _ (mem_callers (hkept.enrolled g hg))
  obtain ⟨g', hg', hc, hout⟩ := (poll_eq_waited_iff (kept_after hlater).matched).mp hpoll
  have hr' := response_kept hlater hcaller hput g' hg' hc
  -- Whatever the time is, a response comes before a timeout.
  rw [Desk.outcome?, hr'] at hout
  cases hwait : g'.wait with
  | none =>
    rw [hwait] at hout
    cases hout
  | some w =>
    rw [hwait] at hout
    exact (Option.some.inj hout).symm

/-- What is in a guard was taken, for the request ID of that guard. -/
theorem response_taken (hnew : (callers moves).Nodup) {g : Guard}
    (hg : g ∈ (after moves).desk.guards) (hr : g.response = some r) :
    r.requestId = g.requestId ∧ ∃ front later, moves = front ++ .complete r :: later ∧
      ((after front).step (.complete r)).1 = .done true ∧
        ∃ g₀ ∈ (after front).desk.guards, g₀.waiter = g.waiter ∧ g₀.response = none := by
  induction moves using List.reverseRecOn generalizing g with
  | nil => cases hg
  | append_singleton moves a ih =>
    have hfront := (callers_append_singleton_nodup hnew).1
    rw [after_append_singleton] at hg
    rcases guards_step (kept_after hfront).matched hg with ⟨g₀, hg₀, hsame, hkept⟩ | ⟨-, hnone⟩
    · rcases hkept with hkept | ⟨hnone, r', rfl, htaken, hid, hput⟩
      · obtain ⟨hid, front, later, rfl, htaken, g₁, hg₁, hsame₁, hnone⟩ :=
          ih hfront hg₀ (hkept.trans hr)
        exact ⟨hid.trans (congrArg Waiter.requestId hsame), front, later ++ [a],
          by rw [List.append_assoc, List.cons_append], htaken, g₁, hg₁, hsame₁.trans hsame, hnone⟩
      · obtain rfl := Option.some.inj (hput.symm.trans hr)
        exact ⟨hid.trans (congrArg Waiter.requestId hsame), moves, [], rfl, htaken, g₀, hg₀, hsame,
          hnone⟩
    · rw [hr] at hnone
      cases hnone

/-- **A response that is seen was taken.**  What a look tells a caller is a response that was taken
for the guard of that caller, at a move that came before. -/
theorem seen_response_was_taken (hnew : (callers moves).Nodup)
    (hpoll : ((after moves).step (.poll caller)).1 = .waited (.ok r)) :
    ∃ front later, moves = front ++ .complete r :: later ∧
      ((after front).step (.complete r)).1 = .done true ∧
        ∃ g ∈ (after front).desk.guards, g.caller = caller ∧ g.requestId = r.requestId ∧
          g.response = none := by
  obtain ⟨g, hg, rfl, hout⟩ := (poll_eq_waited_iff (kept_after hnew).matched).mp hpoll
  obtain ⟨hid, front, later, hmoves, htaken, g₀, hg₀, hsame, hnone⟩ :=
    response_taken hnew hg (Desk.response_of_outcome? hout)
  exact ⟨front, later, hmoves, htaken, g₀, hg₀, congrArg Waiter.caller hsame,
    (congrArg Waiter.requestId hsame).trans hid.symm, hnone⟩

end Shared

end CommandRelay.Correlation
