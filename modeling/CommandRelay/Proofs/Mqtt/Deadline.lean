import CommandRelay.Proofs.Mqtt.Run

/-!
# Deadlines of calls over a broker link

The timeout of a call begins once its request has found room in the queue of the client.  From then
on the call ends within it, whatever the run does (`Run.ends_within_timeout`).  Until then the clock
does not touch the call (`Run.Stuck.step`): only the link can let it go on, by taking packets or by
going away, and whoever made the call by giving up its task.
-/

namespace CommandRelay.Mqtt

open Correlation
open CommandRelay.Bus (Task)

/-- Whether a step takes packets, ends the link or gives up a task. -/
def Step.clears : Step → Bool
  | .drain | .close | .cancel _ => true
  | _ => false

namespace Run

/-- A call is outstanding: its task has no result yet. -/
def Outstanding (s : Run) (call : CallId) : Prop := ∃ t ∈ s.tasks, t.call = call ∧ t.result = none

instance (s : Run) (call : CallId) : Decidable (s.Outstanding call) :=
  decidable_of_iff (s.tasks.any fun t => t.call == call && t.result.isNone)
    (by simp [Outstanding, List.any_eq_true])

/-- The request of a call waits for room. -/
def WaitsForRoom (s : Run) (call : CallId) : Prop := ∃ r ∈ s.senders, r.call = call

variable {s s' : Run} {a : Step} {call : CallId} {timeout : Duration}

/-! ## From the request on -/

/-- A call with a timeout has been made: it waits for room with that timeout, or its wait ends
within the timeout from now. -/
structure Asked (s : Run) (call : CallId) (timeout : Duration) : Prop where
  old : call < s.nextCall
  senders : ∀ r ∈ s.senders, r.call = call → r.timeout = timeout
  guards : ∀ g ∈ s.bus.desk.guards, g.caller = call → ∀ w, g.wait = some w →
    w.deadline ≤ s.now + timeout.nanos

/-- A call that was asked for stays so, or its wait has begun. -/
theorem Asked.moved (h : s.Asked call timeout) (hm : Moved s a s') : s'.Asked call timeout := by
  have hlater : s.now + timeout.nanos ≤ s'.now + timeout.nanos := Nat.add_le_add_right hm.now_le _
  refine ⟨Nat.lt_of_lt_of_le h.old hm.nextCall_le, ?_, ?_⟩
  · intro r hr hc
    rcases hm.senders r hr with hold | ⟨_, _, _, -, hnew, -⟩
    · exact h.senders r hold hc
    · exact absurd (hc.symm.trans hnew) (Nat.ne_of_lt h.old)
  · intro g hg hc w hw
    rcases hm.guards g hg with ⟨g₀, hg₀, hc₀, hw₀⟩ | ⟨r, hr, hc₀, hw₀⟩ | ⟨_, _, _, -, hnew, -⟩
    · exact Nat.le_trans (h.guards g₀ hg₀ (hc₀.symm.trans hc) w (hw₀.symm.trans hw)) hlater
    · -- The wait has just begun.
      obtain rfl := Option.some.inj (hw₀.symm.trans hw)
      rw [h.senders r hr (hc₀.symm.trans hc)]
      exact hlater
    · exact absurd (hc.symm.trans hnew) (Nat.ne_of_lt h.old)

/-- The step that makes a call. -/
theorem Sound.asked (h : s.Sound) (fresh : Nat → String) (name : String)
    (r : CommandRelay.Bus.Request) (timeout : Duration) :
    (s.step fresh (.request name r timeout)).2.2.Asked s.nextCall timeout := by
  obtain ⟨-, hm⟩ := h.step fresh (.request name r timeout)
  have hnext : (s.step fresh (.request name r timeout)).2.2.nextCall = s.nextCall + 1 := rfl
  refine ⟨hnext ▸ Nat.lt_succ_self _, ?_, ?_⟩
  · intro r' hr' hc
    rcases hm.senders r' hr' with hold | ⟨_, _, _, heq, -, htimeout⟩
    · exact absurd hc (Nat.ne_of_lt (h.freshSenders r' hold))
    · cases heq
      exact htimeout
  · intro g hg hc w hw
    rcases hm.guards g hg with ⟨g₀, hg₀, hc₀, -⟩ | ⟨r', hr', hc₀, -⟩ | ⟨_, _, _, heq, -, hdeadline⟩
    · exact absurd (hc₀.symm.trans hc) (Nat.ne_of_lt (h.freshGuards g₀ hg₀))
    · exact absurd (hc₀.symm.trans hc) (Nat.ne_of_lt (h.freshSenders r' hr'))
    · cases heq
      rw [hdeadline w hw]
      exact Nat.add_le_add_right hm.now_le _

/-! ## Once there was room -/

/-- The request of a call has gone out: its wait ends by a limit. -/
structure Sent (s : Run) (call : CallId) (limit : Instant) : Prop where
  old : call < s.nextCall
  room : ¬ s.WaitsForRoom call
  guards : ∀ g ∈ s.bus.desk.guards, g.caller = call → ∀ w, g.wait = some w → w.deadline ≤ limit

/-- A call that does not wait for room has been sent. -/
theorem Asked.sent (h : s.Asked call timeout) (hroom : ¬ s.WaitsForRoom call) :
    s.Sent call (s.now + timeout.nanos) :=
  ⟨h.old, hroom, h.guards⟩

/-- A wait keeps its deadline. -/
theorem Sent.moved {limit : Instant} (h : s.Sent call limit) (hm : Moved s a s') :
    s'.Sent call limit := by
  refine ⟨Nat.lt_of_lt_of_le h.old hm.nextCall_le, ?_, ?_⟩
  · rintro ⟨r, hr, hc⟩
    rcases hm.senders r hr with hold | ⟨_, _, _, -, hnew, -⟩
    · exact h.room ⟨r, hold, hc⟩
    · exact absurd (hc.symm.trans hnew) (Nat.ne_of_lt h.old)
  · intro g hg hc w hw
    rcases hm.guards g hg with ⟨g₀, hg₀, hc₀, hw₀⟩ | ⟨r, hr, hc₀, -⟩ | ⟨_, _, _, -, hnew, -⟩
    · exact h.guards g₀ hg₀ (hc₀.symm.trans hc) w (hw₀.symm.trans hw)
    · exact absurd ⟨r, hr, hc₀.symm.trans hc⟩ h.room
    · exact absurd (hc.symm.trans hnew) (Nat.ne_of_lt h.old)

/-- A call that has gone out is outstanding only as long as its limit lies ahead. -/
theorem Sent.ended {limit : Instant} (hsent : s.Sent call limit) (h : s.Sound) (hundue : s.Undue)
    (hover : limit ≤ s.now) : ¬ s.Outstanding call := by
  rintro ⟨t, ht, hc, hr⟩
  obtain ⟨g, hg, hgc⟩ := h.outstanding t ht hr
  rw [hc] at hgc
  have hwaits : g.wait ≠ none := by
    rw [Ne, h.idle g hg, hgc]
    exact hsent.room
  obtain ⟨w, hw⟩ := Option.ne_none_iff_exists'.mp hwaits
  have hdue : w.deadline ≤ s.now := Nat.le_trans (hsent.guards g hg hgc w hw) hover
  exact Nat.lt_irrefl _ (Nat.lt_of_lt_of_le (hundue g hg w hw) hdue)

/-! ## While there is no room -/

/-- A call waits for room, and its task has no result. -/
structure Stuck (s : Run) (call : CallId) : Prop where
  room : s.WaitsForRoom call
  task : ∃ t ∈ s.tasks, t.call = call
  pending : ∀ t ∈ s.tasks, t.call = call → t.result = none

/-- A call that is stuck is not over. -/
theorem Stuck.outstanding (h : s.Stuck call) : s.Outstanding call := by
  obtain ⟨t, ht, hc⟩ := h.task
  exact ⟨t, ht, hc, h.pending t ht hc⟩

/-- Nothing that belongs to a stuck call is touched. -/
theorem Stuck.kept (h : s.Stuck call) (hsenders : s.senders ⊆ s'.senders)
    (hkept : ∀ t ∈ s.tasks, t.call = call → ∃ u ∈ s'.tasks, u.call = t.call)
    (hold : ∀ t ∈ s'.tasks, t.call = call → ∃ u ∈ s.tasks, t.call = u.call ∧ t.result = u.result) :
    s'.Stuck call := by
  obtain ⟨r, hr, hrc⟩ := h.room
  obtain ⟨t, ht, htc⟩ := h.task
  obtain ⟨u, hu, huc⟩ := hkept t ht htc
  refine ⟨⟨r, hsenders hr, hrc⟩, ⟨u, hu, huc.trans htc⟩, fun t' ht' htc' => ?_⟩
  obtain ⟨u', hu', huc', hresult⟩ := hold t' ht' htc'
  rw [hresult]
  exact h.pending u' hu' (huc'.symm.trans htc')

/-- A step that touches neither requests nor tasks leaves a call stuck. -/
theorem Stuck.quiet (h : s.Stuck call) (hsenders : s'.senders = s.senders)
    (htasks : s'.tasks = s.tasks) : s'.Stuck call := by
  refine h.kept (hsenders ▸ List.Subset.refl _) ?_ ?_
  · rw [htasks]
    exact fun t ht _ => ⟨t, ht, rfl⟩
  · rw [htasks]
    exact fun t ht _ => ⟨t, ht, rfl, rfl⟩

/-- The clock ends no wait of a call that is stuck. -/
theorem Stuck.settle (h : s.Stuck call) (hs : s.Sound) : s.settle.Stuck call := by
  have hnone : ∀ e ∈ (s.bus.desk.settle s.now).1, e.1 ≠ call := by
    rintro ⟨c, result⟩ he rfl
    obtain ⟨g, hg, hc, hover⟩ := Desk.mem_settle_results.mp he
    have hidle : g.wait = none := (hs.idle g hg).mpr (hc ▸ h.room)
    rw [Desk.outcome?, hidle] at hover
    cases hover
  obtain ⟨t, ht, hc⟩ := h.task
  refine ⟨h.room, ⟨t, Task.mem_note_of_mem ht (hc ▸ hnone), hc⟩, fun t' ht' hc' => ?_⟩
  rcases Task.note_cases ht' with ⟨e, he, hec, -⟩ | ⟨hold, -⟩
  · exact absurd (hec.trans hc') (hnone e he)
  · exact h.pending t' hold hc'

theorem Stuck.offer (h : s.Stuck call) (p : Packet) (refused : Reply) :
    (s.offer p refused).2.Stuck call := by
  rcases s.offer_cases p refused with heq | ⟨queue, heq⟩
  · rwa [heq]
  · rw [heq]
    exact h.quiet rfl rfl

/-- Whoever comes later waits behind. -/
theorem Stuck.startTask (h : s.Stuck call) (hs : s.Sound) (name : String)
    (r : CommandRelay.Bus.Request) (timeout : Duration) :
    (s.startTask name r timeout).Stuck call := by
  have hold : call ≠ s.nextCall := by
    obtain ⟨r, hr, rfl⟩ := h.room
    exact Nat.ne_of_lt (hs.freshSenders r hr)
  have hadd : ∀ result, ∀ t ∈ CommandRelay.Bus.Task.add s.tasks ⟨some name, s.nextCall, result⟩,
      t.call = call → ∃ u ∈ s.tasks, t.call = u.call ∧ t.result = u.result := by
    intro result t ht hc
    rcases Task.mem_add ht with rfl | hkept
    · exact absurd hc.symm hold
    · exact hkept
  rcases hs.startTask_cases name r timeout with
    ⟨f, desk, heq, -, -⟩ | ⟨g, client, desk, heq, -, -, -, hway⟩
  · rw [heq]
    exact h.kept (List.Subset.refl _) (fun t ht _ => Task.exists_mem_add ht) (hadd _)
  · rw [heq]
    refine h.kept ?_ (fun t ht _ => Task.exists_mem_add ht) (hadd _)
    show s.bus.client.blocked.map _ ⊆ client.blocked.map _
    rcases hway with ⟨-, hblocked⟩ | ⟨-, -, hblocked⟩
    · rw [hblocked]
      exact List.Subset.refl _
    · rw [hblocked, List.map_append]
      exact List.subset_append_left _ _

/-- Only the link, a cancellation or time to settle could free a call that is stuck, and a step
without these does not. -/
theorem Stuck.stepNow (h : s.Stuck call) (hs : s.Sound) (fresh : Nat → String)
    (ha : a.clears = false) : (s.stepNow fresh a).2.2.Stuck call := by
  cases a with
  | filter => exact h
  | subscribeResponses => exact h.offer _ _
  | subscribe filter qos => exact h.offer _ _
  | publish topic delivery payload => exact h.offer _ _
  | disconnect => exact h.offer _ _
  | request name r timeout => exact h.startTask hs name r timeout
  | poll name =>
    rw [Run.stepNow]
    show Stuck { s with tasks := (CommandRelay.Bus.Task.poll s.tasks name).2 } call
    rcases Task.poll_cases s.tasks name with heq | ⟨u, hu, hresult, heq⟩
    · rw [heq]
      exact h
    · rw [heq]
      -- The task that goes has a result, so it is another one.
      have hother : u.call ≠ call := fun hc => hresult (h.pending u hu hc)
      refine h.kept (List.Subset.refl _) (fun t ht hc => ⟨t, ?_, rfl⟩)
        fun t ht _ => ⟨t, (List.mem_filter.mp ht).1, rfl, rfl⟩
      exact List.mem_filter.mpr ⟨ht, by simpa [hc] using hother.symm⟩
  | advance d => exact h.quiet rfl rfl
  | incoming topic payload =>
    rw [stepNow_incoming]
    refine h.quiet ?_ rfl
    rcases s.bus.incoming_cases s.wording (fresh s.made) topic payload with heq | ⟨response, heq⟩
    · rw [senders, heq]
      rfl
    · rw [senders, heq]
      rfl
  | cancel name => cases ha
  | drain => cases ha
  | close => cases ha

theorem Stuck.step (h : s.Stuck call) (hs : s.Sound) (fresh : Nat → String)
    (ha : a.clears = false) : (s.step fresh a).2.2.Stuck call :=
  (h.stepNow hs fresh ha).settle (hs.stepNow fresh a).1

/-- A call whose request found no room is stuck. -/
theorem Sound.stuck (h : s.Sound) (fresh : Nat → String) (name : String)
    (r : CommandRelay.Bus.Request) (timeout : Duration)
    (hroom : (s.step fresh (.request name r timeout)).2.2.WaitsForRoom s.nextCall) :
    (s.step fresh (.request name r timeout)).2.2.Stuck s.nextCall := by
  refine Stuck.settle ?_ (h.stepNow fresh (.request name r timeout)).1
  have hroom' : (s.startTask name r timeout).WaitsForRoom s.nextCall := hroom
  show (s.startTask name r timeout).Stuck s.nextCall
  rcases h.startTask_cases name r timeout with
    ⟨f, desk, heq, -, -⟩ | ⟨g, client, desk, heq, -⟩
  · rw [heq] at hroom'
    obtain ⟨r', hr', hc⟩ := hroom'
    exact absurd hc (Nat.ne_of_lt (h.freshSenders r' hr'))
  · rw [heq] at hroom' ⊢
    refine ⟨hroom', ⟨_, List.mem_cons_self, rfl⟩, fun t ht hc => ?_⟩
    rcases Task.mem_add ht with rfl | ⟨u, hu, huc, -⟩
    · rfl
    · exact absurd (huc.symm.trans hc) (Nat.ne_of_lt (h.freshTasks u hu))

/-- A request that finds room in the queue does not wait for it. -/
theorem Sound.room (h : s.Sound) (fresh : Nat → String) (name : String)
    (r : CommandRelay.Bus.Request) (timeout : Duration)
    (hroom : s.bus.client.queue.length < s.bus.client.capacity) :
    ¬ (s.step fresh (.request name r timeout)).2.2.WaitsForRoom s.nextCall := by
  intro hwaits
  have hwaits' : (s.startTask name r timeout).WaitsForRoom s.nextCall := hwaits
  have hold : ∀ r' ∈ s.senders, r'.call ≠ s.nextCall :=
    fun r' hr' => Nat.ne_of_lt (h.freshSenders r' hr')
  rcases h.startTask_cases name r timeout with
    ⟨f, desk, heq, -, -⟩ | ⟨g, client, desk, heq, -, -, -, ⟨-, hblocked⟩ | ⟨-, hfull, -⟩⟩
  · rw [heq] at hwaits'
    obtain ⟨r', hr', hc⟩ := hwaits'
    exact hold r' hr' hc
  · rw [heq] at hwaits'
    obtain ⟨r', hr', hc⟩ := hwaits'
    have hmem : r' ∈ client.blocked.map (·.1) := hr'
    rw [hblocked] at hmem
    exact hold r' hmem hc
  · exact Nat.lt_irrefl _ (Nat.lt_of_lt_of_le hroom hfull)

/-! ## Whole runs -/

/-- Whatever comes next, the call waits for room or has a deadline. -/
theorem Asked.after (h : s.Asked call timeout) (hs : s.Sound) (fresh : Nat → String)
    (steps : List Step) : (s.after fresh steps).Asked call timeout := by
  induction steps generalizing s with
  | nil => exact h
  | cons a steps ih =>
    obtain ⟨hsound, hmoved⟩ := hs.step fresh a
    exact ih (h.moved hmoved) hsound

/-- Whatever comes next, a wait is over by its deadline. -/
theorem Sent.after {limit : Instant} (h : s.Sent call limit) (hs : s.Sound) (fresh : Nat → String)
    (steps : List Step) : (s.after fresh steps).Sent call limit := by
  induction steps generalizing s with
  | nil => exact h
  | cons a steps ih =>
    obtain ⟨hsound, hmoved⟩ := hs.step fresh a
    exact ih (h.moved hmoved) hsound

/-- As long as nothing is taken from the queue, a call stays stuck. -/
theorem Stuck.after (h : s.Stuck call) (hs : s.Sound) (fresh : Nat → String) {steps : List Step}
    (hsteps : ∀ a ∈ steps, a.clears = false) : (s.after fresh steps).Stuck call := by
  induction steps generalizing s with
  | nil => exact h
  | cons a steps ih =>
    obtain ⟨ha, hsteps⟩ := List.forall_mem_cons.mp hsteps
    exact ih (h.step hs fresh ha) (hs.step fresh a).1 hsteps

/-- **The timeout of a call begins when its request finds room.**  In every run, a call that is made
while the queue has room has ended when its timeout is over; whenever a call does not wait for room
any more, it has ended one timeout later at most; but a call that found no room is outstanding,
however far the clock goes, as long as the link takes nothing and stays and no task is given up. -/
theorem timeout_begins_with_room (fresh : Nat → String) (capacity : Nat) (responsePrefix : String)
    (qos : Qos) (words : Wording) (before : List Step) (name : String)
    (r : CommandRelay.Bus.Request) (timeout : Duration) :
    let asked := (start capacity responsePrefix qos words).after fresh before
    let made := (asked.step fresh (.request name r timeout)).2.2
    (asked.bus.client.queue.length < asked.bus.client.capacity →
      ∀ later, asked.now + timeout.nanos ≤ (made.after fresh later).now →
        ¬ (made.after fresh later).Outstanding asked.nextCall) ∧
    (∀ between later, ¬ (made.after fresh between).WaitsForRoom asked.nextCall →
      (made.after fresh between).now + timeout.nanos ≤ (made.after fresh (between ++ later)).now →
        ¬ (made.after fresh (between ++ later)).Outstanding asked.nextCall) ∧
    (made.WaitsForRoom asked.nextCall →
      ∀ later, (∀ a ∈ later, a.clears = false) →
        (made.after fresh later).Outstanding asked.nextCall) := by
  intro asked made
  have hasked : asked.Sound := (sound_start capacity responsePrefix qos words).after fresh before
  have hmade : made.Sound := (hasked.step fresh (.request name r timeout)).1
  have hundue : made.Undue := hasked.step_undue fresh (.request name r timeout)
  -- Once a call has room its guard has a deadline, which is one timeout later at most and never
  -- moves.
  have hsince : ∀ between later, ¬ (made.after fresh between).WaitsForRoom asked.nextCall →
      (made.after fresh between).now + timeout.nanos ≤ (made.after fresh (between ++ later)).now →
        ¬ (made.after fresh (between ++ later)).Outstanding asked.nextCall := by
    intro between later hroom hover
    have hsent := ((hasked.asked fresh name r timeout).after hmade fresh between).sent hroom
    have hlater := hsent.after (hmade.after fresh between) fresh later
    rw [← after_append] at hlater
    exact hlater.ended (hmade.after fresh _) (hundue.after hmade fresh _) hover
  refine ⟨fun hroom later hover => ?_, hsince, fun hfull later hlater => ?_⟩
  · exact hsince [] later (hasked.room fresh name r timeout hroom) hover
  · exact ((hasked.stuck fresh name r timeout hfull).after hmade fresh hlater).outstanding

/-- A request to a service. -/
def getReading (requestId : String) : CommandRelay.Bus.Request :=
  { service := "svcA", topic := "internal/svcA/d/c/get", envelope := { requestId } }

/-- Two calls with a timeout of half a second, over a client that holds one packet, and half a
second on the clock: the second call is outstanding. -/
theorem second_call_outlives_its_timeout :
    let asked := (start 1 "edgex/response" .atMostOnce).after (fun _ => "fresh")
      [.request "t1" (getReading "R1") (.ofMillis 500)]
    let s := asked.after (fun _ => "fresh")
      [.request "t2" (getReading "R2") (.ofMillis 500), .advance (.ofMillis 500)]
    asked.now + (Duration.ofMillis 500).nanos ≤ s.now ∧ s.Outstanding asked.nextCall := by
  decide +kernel

end Run

end CommandRelay.Mqtt
