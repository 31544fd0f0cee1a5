import CommandRelay.Proofs.Correlation.Run

/-!
# What is in flight

In every state that a run reaches, the entries of the table and the guards that were not handed a
response are the same requests.  From that follows what a maintainer wants to know of the table: its
length is the number of unanswered guards, nothing leaks, a guard that was answered takes nothing
with it when it goes, and nobody waits for a response that can not come.
-/

namespace CommandRelay.Correlation

open Desk DeskRun

variable {d : Desk}

/-- An entry belongs to one unanswered guard, told by its request ID and its ticket. -/
theorem Desk.Numbered.existsUnique_guard (hn : d.Numbered) (hm : d.Matched) {w : Waiter}
    (hw : w ∈ d.waiters) : ∃! g, g ∈ d.guards ∧ g.response = none ∧
      g.requestId = w.requestId ∧ g.ticket = w.ticket := by
  obtain ⟨g, hg, hr, rfl⟩ := hm.waiting w hw
  refine ⟨g, ⟨hg, hr, rfl, rfl⟩, ?_⟩
  rintro g' ⟨hg', -, -, hticket⟩
  exact List.inj_on_of_nodup_map hn.tickets hg' hg hticket

/-- An unanswered guard has one entry, told in the same way. -/
theorem Desk.Numbered.existsUnique_waiter (hn : d.Numbered) (hm : d.Matched) {g : Guard}
    (hg : g ∈ d.guards) (hr : g.response = none) : ∃! w, w ∈ d.waiters ∧
      w.requestId = g.requestId ∧ w.ticket = g.ticket := by
  refine ⟨g.waiter, ⟨hn.waiter_mem g hg hr, rfl, rfl⟩, ?_⟩
  rintro w ⟨hw, hid, -⟩
  exact List.inj_on_of_nodup_map hm.requestIds hw (hn.waiter_mem g hg hr) hid

/-- A wait ends with the response of its guard or at its deadline. -/
theorem Desk.Numbered.waitResult_ne_closed (hn : d.Numbered) (hm : d.Matched) {g : Guard}
    (hg : g ∈ d.guards) (timeout : Duration) (requestId : String) :
    d.waitResult g timeout ≠ .error (.channelClosed requestId) := by
  rw [waitResult]
  cases hr : g.response with
  | some r =>
    intro h
    cases h
  | none =>
    have hexpects := (hm.expects_iff hg).mpr (hn.waiter_mem g hg hr)
    simp [hexpects]

/-- **The table is what the unanswered guards say.**  This holds after every run of registrations,
responses, drops and waits that tries fewer than `2 ^ 64` registrations. -/
theorem table_eq_unanswered_guards (steps : List DeskStep)
    (hroom : registrations steps < 2 ^ 64) :
    let s := after steps
    -- The guards of the desk are those that are held, each by one name.
    s.held.map (·.2) = s.desk.guards.map (·.caller) ∧ (s.held.map (·.1)).Nodup ∧
    -- Entries and unanswered guards are the same requests.
    s.desk.waiters.Perm (s.desk.unanswered.map Guard.waiter) ∧
    (∀ w ∈ s.desk.waiters, ∃! g, g ∈ s.desk.guards ∧ g.response = none ∧
      g.requestId = w.requestId ∧ g.ticket = w.ticket) ∧
    (∀ g ∈ s.desk.guards, g.response = none → ∃! w, w ∈ s.desk.waiters ∧
      w.requestId = g.requestId ∧ w.ticket = g.ticket) ∧
    (s.desk.waiters.map (·.ticket)).Nodup ∧
    (∀ w ∈ s.desk.waiters, w.requestId ≠ "") ∧
    -- Nothing leaks.
    s.desk.inFlight = (s.desk.guards.filter (·.response.isNone)).length ∧
    (s.held = [] → s.desk.waiters = []) ∧
    -- A guard that was answered takes nothing with it.
    (∀ g ∈ s.desk.guards, g.response ≠ none → (s.desk.drop g.caller).waiters = s.desk.waiters) ∧
    -- Nobody waits for a response that can not come.
    (∀ name timeout requestId,
      (s.step (.wait name timeout)).1 ≠ .waited (.error (.channelClosed requestId))) := by
  intro s
  have h : s.Sound := sound_after steps
  have hn : s.desk.Numbered := (numbered_after steps hroom).1
  have hm := h.matched
  refine ⟨h.held, h.names, hn.waiters_perm hm, fun w hw => hn.existsUnique_guard hm hw,
    fun g hg hr => hn.existsUnique_waiter hm hg hr, hn.waiter_tickets_nodup hm,
    fun w hw => hm.requestId_ne_empty hw, hn.inFlight_eq hm, ?_,
    fun g hg hr => hn.drop_answered_waiters hm hg hr, ?_⟩
  · intro hnone
    have hguards : s.desk.guards = [] := by
      rw [← List.map_eq_nil_iff, ← h.held, hnone]
      rfl
    have hperm := hn.waiters_perm hm
    rw [unanswered, hguards] at hperm
    exact hperm.eq_nil
  · intro name timeout requestId hclosed
    have hs := h.stepped (.wait name timeout)
    rw [hclosed] at hs
    generalize hresult : Except.error (Fault.channelClosed requestId) = result,
      (s.step (.wait name timeout)).2 = s' at hs
    cases hs with
    | waited hc hg => exact hn.waitResult_ne_closed hm hg timeout requestId hresult.symm

/-- A run in which a request ID is used again while the guard that was answered for it is held. -/
def reuse : List DeskStep :=
  [.register "old" "R1", .complete { requestId := "R1" }, .register "new" "R1"]

/-- The theorem where tickets matter: the old guard goes, and the new entry stays. -/
theorem new_entry_stays_after_reuse :
    registrations reuse < 2 ^ 64 ∧ (after reuse).desk.guards.map (·.caller) = [0, 1] ∧
    (after reuse).desk.inFlight = 1 ∧
    (∀ g ∈ (after reuse).desk.guards, g.response ≠ none →
      ((after reuse).desk.drop g.caller).waiters = (after reuse).desk.waiters) ∧
    (∀ name timeout requestId, ((after reuse).step (.wait name timeout)).1 ≠
      .waited (.error (.channelClosed requestId))) := by
  have hroom : registrations reuse < 2 ^ 64 := by decide
  obtain ⟨-, -, -, -, -, -, -, -, -, hdrop, hwait⟩ := table_eq_unanswered_guards reuse hroom
  exact ⟨hroom, by decide, by decide, hdrop, hwait⟩

end CommandRelay.Correlation
