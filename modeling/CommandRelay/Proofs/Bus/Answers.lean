import CommandRelay.Proofs.Bus.LocalRun

/-!
# What becomes of the requests on the local bus

`LocalRun.tasksAfter` says what a step should do to the tasks, told by the requests that wait before
it: no desk, no tickets and no channel.  Every step of every run does just that
(`LocalRun.requests_wait_until_answered_or_due`).
-/

namespace CommandRelay.Bus.LocalRun

open Correlation

/-- How a request ends that is over at once. -/
def atOnce? (s : LocalRun) (waiting : List Inquiry) (r : Request) (timeout : Duration) :
    Option CallResult :=
  match s.bus.refusal? (waiting.map (·.requestId)) r with
  | some f => some (.error f)
  | none =>
    if timeout.nanos = 0 then some (.error (.timedOut r.envelope.requestId timeout)) else none

/-- The tasks after a step, told by the requests that wait before it. -/
def tasksAfter (s : LocalRun) (waiting : List Inquiry) : LocalStep → List Task
  | .request name r timeout =>
    if s.held then
      Task.add s.tasks
        { name := name, call := s.nextNumber, result := s.atOnce? waiting r timeout }
    else s.tasks
  | .respond r =>
    if s.held then
      Task.note s.tasks ((waiting.filter (·.requestId == r.requestId)).map fun k => (k.call, .ok r))
    else s.tasks
  | .advance d =>
    Task.note s.tasks ((waiting.filter (·.deadline ≤ s.now + d.nanos)).map fun k =>
      (k.call, .error (.timedOut k.requestId k.timeout)))
  | .cancel name =>
    match Task.find? s.tasks name with
    | none => s.tasks
    | some t => Task.remove s.tasks t.call
  | .poll name => (Task.poll s.tasks name).2
  | .subscribe _ _ | .unsubscribe _ | .receive _ | .close => s.tasks

theorem step_state (s : LocalRun) (a : LocalStep) :
    (s.step a).2.2 = (s.stepNow a).2.2.settle := rfl

/-- A step that asks for a call makes a request on a bus that is held, with the next number and the
time that it is. -/
theorem asked?_eq_some {s : LocalRun} {a : LocalStep} {k : Inquiry} (h : s.asked? a = some k) :
    ∃ name r timeout, a = .request name r timeout ∧ s.held = true ∧
      k = ⟨s.nextNumber, r, timeout, s.now⟩ := by
  cases a with
  | request name r timeout =>
    rw [asked?] at h
    split at h
    · rename_i hheld
      exact ⟨name, r, timeout, rfl, hheld, (Option.some.inj h).symm⟩
    · cases h
  | _ => cases h

/-- An end of a subscription touches the subscribers only. -/
theorem unsubscribe_frame (s : LocalRun) (name : String) :
    (s.unsubscribe name).bus.desk = s.bus.desk ∧ (s.unsubscribe name).now = s.now ∧
      (s.unsubscribe name).nextNumber = s.nextNumber ∧ (s.unsubscribe name).tasks = s.tasks := by
  rw [unsubscribe]
  split
  · exact ⟨rfl, rfl, rfl, rfl⟩
  · exact ⟨rfl, rfl, rfl, rfl⟩

namespace Sound

variable {s : LocalRun} {ks : List Inquiry}

/-- Nothing but subscribers and who holds the bus changes. -/
theorem untouched (h : s.Sound ks) {s' : LocalRun} (hdesk : s'.bus.desk = s.bus.desk)
    (hnow : s'.now = s.now) (hnext : s.nextNumber ≤ s'.nextNumber) (htasks : s'.tasks = s.tasks) :
    s'.settle.Sound ks ∧ s'.settle.tasks = s.tasks := by
  have hsound : s'.Sound ks := by
    refine h.quiet hdesk hnow hnext ?_ ?_
    · rw [htasks]
    · rw [htasks]
      exact fun _ => Iff.rfl
  rw [settle_eq hsound.settled]
  exact ⟨hsound, htasks⟩

/-! ## Requests -/

/-- A request that is refused changes nothing but the tickets, the numbers and its own task. -/
theorem start_refused (h : s.Sound ks) {r : Request} {f : Fault}
    (hf : s.bus.refusal? ((s.waiting ks).map (·.requestId)) r = some f) (name : String)
    (timeout : Duration) : ∃ ticket, s.start name r timeout = { s with
      bus := { s.bus with desk := { s.bus.desk with nextTicket := ticket } }
      nextNumber := s.nextNumber + 1
      tasks := Task.add s.tasks ⟨name, s.nextNumber, some (.error f)⟩ } := by
  rw [← LocalBus.refusal?_congr h.mem_requestIds_iff] at hf
  rcases LocalBus.request_cases h.matched h.new_guard r timeout s.now with
    ⟨f', ticket, hf', heq⟩ | ⟨hnone, -⟩
  · obtain rfl := Option.some.inj (hf.symm.trans hf')
    exact ⟨ticket, by simp only [start, heq]⟩
  · rw [hf] at hnone
    cases hnone

/-- A request that is refused ends at once. -/
theorem request_refused (h : s.Sound ks) {r : Request} {f : Fault}
    (hf : s.bus.refusal? ((s.waiting ks).map (·.requestId)) r = some f) (name : String)
    (timeout : Duration) :
    (s.start name r timeout).Sound (ks ++ [⟨s.nextNumber, r, timeout, s.now⟩]) := by
  obtain ⟨ticket, hstart⟩ := h.start_refused hf name timeout
  rw [hstart]
  exact h.refused rfl rfl rfl rfl rfl (.refusal (LocalBus.refusal_of_refusal? hf))

/-- A request that is not refused waits, if there is time. -/
theorem request_sent (h : s.Sound ks) {r : Request}
    (hsent : s.bus.refusal? ((s.waiting ks).map (·.requestId)) r = none) (name : String)
    (timeout : Duration) :
    (s.start name r timeout).settle.Sound (ks ++ [⟨s.nextNumber, r, timeout, s.now⟩]) ∧
    (s.start name r timeout).settle.tasks = Task.add s.tasks
      { name := name
        call := s.nextNumber
        result := if timeout.nanos = 0 then some (.error (.timedOut r.envelope.requestId timeout))
          else none } := by
  rw [← LocalBus.refusal?_congr h.mem_requestIds_iff] at hsent
  rcases LocalBus.request_cases h.matched h.new_guard r timeout s.now with
    ⟨f, n, hf, -⟩ | ⟨hnone, heq⟩
  · rw [hsent] at hf
    cases hf
  -- The ID is free, so the desk takes the request and a guard waits for it.
  obtain ⟨hid, hids', -⟩ := LocalBus.refusal?_eq_none_iff.mp hnone
  have hfree : ∀ w ∈ s.bus.desk.waiters, w.requestId ≠ r.envelope.requestId :=
    fun w hw hsame => hids' (hsame ▸ List.mem_map_of_mem hw)
  have hsettle := h.settled.settle_register_await h.matched h.new_guard hid hfree timeout
  have hstart : s.start name r timeout = { s with
      bus := { s.bus with
        channel := s.bus.channel.send r
        desk := (s.bus.desk.register s.nextNumber r.envelope.requestId).2.await s.nextNumber
          timeout s.now }
      nextNumber := s.nextNumber + 1
      tasks := Task.add s.tasks ⟨name, s.nextNumber, none⟩ } := by
    simp only [start, heq]
  rw [hstart]
  by_cases hzero : timeout.nanos = 0
  · -- There is no time to wait.
    have hnew : ∀ t ∈ s.tasks, t.call ≠ s.nextNumber :=
      fun t ht => Nat.ne_of_lt (h.booked.call_lt ht)
    simp only [settle, LocalBus.settle, hsettle, hzero, if_true, Task.note_add hnew]
    refine ⟨h.refused rfl rfl rfl rfl rfl (.timeout ?_), trivial⟩
    show s.now + timeout.nanos ≤ s.now
    rw [hzero]
    exact Nat.le_refl _
  · rw [if_neg hzero] at hsettle
    simp only [settle, LocalBus.settle, hsettle, hzero, if_false, Task.note_nil]
    have hmatched := (h.matched.register r.envelope.requestId h.new_guard).await s.nextNumber
      timeout s.now
    have hexpectant := h.expectant.register_await h.matched h.new_guard hid hfree timeout s.now
    refine ⟨h.entered hmatched hexpectant (fun g hg => ?_)
      (congrArg Desk.guards (h.matched.register_await h.new_guard hid hfree timeout s.now))
      ⟨rfl, rfl, rfl⟩ rfl rfl rfl rfl, trivial⟩
    have houtcome := h.settled.outcome?_register_await h.matched h.new_guard hid hfree timeout hg
    exact houtcome.trans (if_neg fun hc => hzero hc.2)

/-- A new request is one more inquiry, and its task is one more task. -/
theorem request (h : s.Sound ks) (name : String) (r : Request) (timeout : Duration) :
    (s.start name r timeout).settle.Sound (ks ++ [⟨s.nextNumber, r, timeout, s.now⟩]) ∧
    (s.start name r timeout).settle.tasks = Task.add s.tasks
      { name := name, call := s.nextNumber, result := s.atOnce? (s.waiting ks) r timeout } := by
  rw [atOnce?]
  cases hf : s.bus.refusal? ((s.waiting ks).map (·.requestId)) r with
  | none => exact h.request_sent hf name timeout
  | some f =>
    have hsound := h.request_refused hf name timeout
    obtain ⟨ticket, hstart⟩ := h.start_refused hf name timeout
    rw [settle_eq hsound.settled]
    exact ⟨hsound, congrArg tasks hstart⟩

/-! ## Responses -/

/-- The guard of a request that waits ends at its deadline, and not before. -/
theorem outcome?_eq (h : s.Sound ks) {g : Guard} (hg : g ∈ s.bus.desk.guards) {k : Inquiry}
    (hk : k.Holds g) (now : Instant) : s.bus.desk.outcome? now g =
      if k.deadline ≤ now then some (.error (.timedOut k.requestId k.timeout)) else none := by
  rw [h.matched.outcome?_of_waiter hg (h.expectant g hg) hk.wait, hk.requestId]

/-- A response that nobody waits for is not taken. -/
theorem respond_nobody (h : s.Sound ks) {r : Envelope}
    (hnobody : ∀ k ∈ s.waiting ks, k.requestId ≠ r.requestId) :
    s.bus.respond r = (false, s.bus) := by
  have hfree : ∀ w ∈ s.bus.desk.waiters, w.requestId ≠ r.requestId := by
    intro w hw hsame
    have hmem := (h.mem_requestIds_iff r.requestId).mp (hsame ▸ List.mem_map_of_mem hw)
    obtain ⟨k, hk, hid⟩ := List.mem_map.mp hmem
    exact hnobody k hk hid
  rcases h.matched.complete_cases r with ⟨-, heq⟩ | ⟨g, -, hw, -, hid, -⟩
  · rw [LocalBus.respond, heq]
  · exact absurd hid (hfree _ hw)

/-- A response ends the request that waits for it. -/
theorem respond_waiting (h : s.Sound ks) {r : Envelope} {k : Inquiry} (hk : k ∈ s.waiting ks)
    (hid : k.requestId = r.requestId) :
    (s.bus.respond r).1 = true ∧
    LocalRun.Sound (settle { s with bus := (s.bus.respond r).2 }) ks ∧
    (settle { s with bus := (s.bus.respond r).2 }).tasks =
      Task.note s.tasks [(k.call, .ok r)] := by
  obtain ⟨g, hg, hholds⟩ := h.exists_guard hk
  have hgid : g.requestId = r.requestId := hholds.requestId.trans hid
  have hw := h.expectant g hg
  have hsettle := h.settled.settle_complete h.matched hg hw hgid (by rw [hholds.wait]; exact nofun)
  have hafter : settle { s with bus := (s.bus.respond r).2 } = { s with
      bus := { s.bus with desk := (s.bus.desk.complete r).2.drop g.caller }
      tasks := Task.note s.tasks [(k.call, .ok r)] } := by
    rw [← hholds.caller]
    simp only [settle, LocalBus.settle, LocalBus.respond, hsettle]
  refine ⟨congrArg Prod.fst (h.matched.complete_eq hw hgid), ?_, congrArg tasks hafter⟩
  have hmatched := (h.matched.complete r).drop g.caller
  have hexpectant := h.expectant.complete_drop h.matched hg hgid
  -- The response fills the guard of this request, and settling takes the guard away.
  have hguards : ∀ g', g' ∈ ((s.bus.desk.complete r).2.drop g.caller).guards ↔
      g' ∈ s.bus.desk.guards ∧ g'.caller ≠ g.caller :=
    fun g' => h.matched.mem_complete_drop hw hgid
  rw [hafter]
  refine h.without (fun c => c ≠ k.call) hmatched hexpectant
    (hexpectant.settled hmatched h.settled h.matched fun g' hg' => ((hguards g').mp hg').1) ?_
    (Nat.le_refl _) (Nat.le_refl _) ?_ ?_ ?_
  · intro g'
    rw [← hholds.caller]
    exact hguards g'
  · show List.Sublist ((Task.note s.tasks _).map _) _
    rw [Task.calls_note]
  · intro c
    rw [Task.waits_note]
    simp [eq_comm]
  · -- A task has a result from before, or it is the one of this request, and the IDs agree.
    intro t ht
    rcases Task.note_cases ht with ⟨e, he, hc, hresult⟩ | ⟨hold, -⟩
    · obtain rfl := List.mem_singleton.mp he
      refine .inr fun k' hk' hc' => ?_
      rw [hresult, h.booked.inquiry_eq hk' (mem_waiting.mp hk).1 (hc'.trans hc.symm)]
      exact .answer hid.symm
    · exact .inl hold

/-- A response ends the requests that wait for it: the one there is, or none. -/
theorem respond (h : s.Sound ks) (r : Envelope) :
    LocalRun.Sound (settle { s with bus := (s.bus.respond r).2 }) ks ∧
    (settle { s with bus := (s.bus.respond r).2 }).tasks =
      Task.note s.tasks (((s.waiting ks).filter (·.requestId == r.requestId)).map fun k =>
        (k.call, .ok r)) := by
  by_cases hwaits : ∃ k ∈ s.waiting ks, k.requestId = r.requestId
  · obtain ⟨k, hk, hid⟩ := hwaits
    obtain ⟨-, hsound, htasks⟩ := h.respond_waiting hk hid
    have hone : (s.waiting ks).filter (·.requestId == r.requestId) = [k] := by
      rw [← hid]
      exact filter_key_eq_singleton h.requestIds_nodup hk
    rw [hone]
    exact ⟨hsound, htasks⟩
  · have hnone : (s.waiting ks).filter (·.requestId == r.requestId) = [] :=
      List.filter_eq_nil_iff.mpr fun k hk hid => hwaits ⟨k, hk, by simpa using hid⟩
    rw [h.respond_nobody fun k hk hid => hwaits ⟨k, hk, hid⟩, hnone, List.map_nil, Task.note_nil]
    exact h.untouched rfl rfl (Nat.le_refl _) rfl

/-! ## The clock, cancellations and results -/

/-- When time passes, the calls whose time is over end with a timeout, and no others. -/
theorem advance (h : s.Sound ks) (d : Duration) :
    LocalRun.Sound (settle { s with now := s.now + d.nanos }) ks ∧
    (settle { s with now := s.now + d.nanos }).tasks =
      Task.note s.tasks (((s.waiting ks).filter (·.deadline ≤ s.now + d.nanos)).map fun k =>
        (k.call, .error (.timedOut k.requestId k.timeout))) := by
  -- What the desk settles now are exactly the calls that are due.
  have hresults : ∀ e, e ∈ (s.bus.desk.settle (s.now + d.nanos)).1 ↔
      e ∈ ((s.waiting ks).filter (·.deadline ≤ s.now + d.nanos)).map fun k =>
        (k.call, (.error (.timedOut k.requestId k.timeout) : CallResult)) := by
    rintro ⟨c, result⟩
    rw [Desk.mem_settle_results, List.mem_map]
    constructor
    · rintro ⟨g, hg, rfl, hover⟩
      obtain ⟨k, hk, hholds⟩ := h.exists_inquiry hg
      rw [h.outcome?_eq hg hholds] at hover
      split at hover
      · rename_i hdue
        obtain rfl := Option.some.inj hover
        exact ⟨k, List.mem_filter.mpr ⟨hk, by simpa using hdue⟩, by rw [hholds.caller]⟩
      · cases hover
    · rintro ⟨k, hk, heq⟩
      obtain ⟨hk, hdue⟩ := List.mem_filter.mp hk
      obtain ⟨rfl, rfl⟩ := Prod.mk.inj heq
      obtain ⟨g, hg, hholds⟩ := h.exists_guard hk
      exact ⟨g, hg, hholds.caller, by rw [h.outcome?_eq hg hholds, if_pos (by simpa using hdue)]⟩
  have hafter : settle { s with now := s.now + d.nanos } = { s with
      now := s.now + d.nanos
      bus := { s.bus with desk := (s.bus.desk.settle (s.now + d.nanos)).2 }
      tasks := Task.note s.tasks (s.bus.desk.settle (s.now + d.nanos)).1 } := rfl
  rw [hafter]
  refine ⟨h.without (fun c => ∀ e ∈ (s.bus.desk.settle (s.now + d.nanos)).1, e.1 ≠ c)
    (h.matched.settle _) (h.expectant.settle h.matched _) (h.expectant.settled_settle h.matched _)
    (fun g => h.matched.mem_settle_guards_iff) (Nat.le_add_right _ _) (Nat.le_refl _) ?_
    (fun c => Task.waits_note) ?_, Task.note_congr hresults h.matched.settle_result_eq⟩
  · show List.Sublist ((Task.note s.tasks _).map _) _
    rw [Task.calls_note]
  · intro t ht
    -- A task has a result from this step, and then it is due, or had it before.
    rcases Task.note_cases ht with ⟨e, he, hc, hresult⟩ | ⟨hold, -⟩
    · obtain ⟨k, hk, rfl⟩ := List.mem_map.mp ((hresults e).mp he)
      obtain ⟨hk, hdue⟩ := List.mem_filter.mp hk
      refine .inr fun k' hk' hc' => ?_
      rw [hresult, h.booked.inquiry_eq hk' (mem_waiting.mp hk).1 (hc'.trans hc.symm)]
      exact .timeout (by simpa using hdue)
    · exact .inl hold

/-- Giving up a call keeps the state sound: its task goes, and its guard with it. -/
theorem cancel (h : s.Sound ks) (call : CallId) :
    LocalRun.Sound { s with bus := s.bus.cancel call, tasks := Task.remove s.tasks call } ks := by
  have hmatched := h.matched.drop call
  have hexpectant := h.expectant.drop h.matched call
  have hguards : ∀ g, g ∈ (s.bus.desk.drop call).guards ↔
      g ∈ s.bus.desk.guards ∧ g.caller ≠ call := by
    intro g
    rw [h.matched.drop_guards, List.mem_filter, bne_iff_ne]
  refine h.without (fun c => c ≠ call) hmatched hexpectant
    (hexpectant.settled hmatched h.settled h.matched fun g hg => ((hguards g).mp hg).1) hguards
    (Nat.le_refl _) (Nat.le_refl _) (List.filter_sublist.map _) (fun c => Task.waits_remove)
    (fun t ht => .inl (List.mem_filter.mp ht).1)

/-- Asking for a result keeps the state sound: a task that goes had its result. -/
theorem poll (h : s.Sound ks) (name : String) :
    LocalRun.Sound { s with tasks := (Task.poll s.tasks name).2 } ks := by
  refine h.quiet rfl rfl (Nat.le_refl _) ?_ fun c => Task.waits_poll h.booked.taskCalls name
  rcases Task.poll_cases s.tasks name with heq | ⟨t, -, -, heq⟩
  · show (Task.poll s.tasks name).2.Sublist s.tasks
    rw [heq]
  · show (Task.poll s.tasks name).2.Sublist s.tasks
    rw [heq]
    exact List.filter_sublist

/-! ## Every step -/

/-- A step that makes no request. -/
theorem step_of_asked?_none (h : s.Sound ks) {a : LocalStep} (ha : s.asked? a = none) :
    (s.step a).2.2.Sound ks ∧ (s.step a).2.2.tasks = s.tasksAfter (s.waiting ks) a := by
  rw [step_state]
  -- Only respond, poll, cancel and advance touch a call; everything else leaves calls and tasks
  -- alone.
  cases a with
  | subscribe name base =>
    rw [stepNow, tasksAfter]
    split
    · exact h.untouched rfl rfl (Nat.le_refl _) rfl
    · obtain ⟨hdesk, hnow, hnext, htasks⟩ := s.unsubscribe_frame name
      exact h.untouched hdesk hnow (Nat.le_succ_of_le (Nat.le_of_eq hnext.symm)) htasks
  | unsubscribe name =>
    rw [stepNow, tasksAfter]
    obtain ⟨hdesk, hnow, hnext, htasks⟩ := s.unsubscribe_frame name
    exact h.untouched hdesk hnow (Nat.le_of_eq hnext.symm) htasks
  | receive name =>
    rw [stepNow, tasksAfter]
    split
    · exact h.untouched rfl rfl (Nat.le_refl _) rfl
    · exact h.untouched (s.bus.receive_desk _) rfl (Nat.le_refl _) rfl
  | request name r timeout =>
    have hheld : ¬ s.held = true := by
      intro hheld
      rw [asked?, if_pos hheld] at ha
      cases ha
    rw [stepNow, tasksAfter, if_neg hheld, if_neg hheld]
    exact h.untouched rfl rfl (Nat.le_refl _) rfl
  | respond r =>
    rw [stepNow, tasksAfter]
    split
    · exact h.respond r
    · exact h.untouched rfl rfl (Nat.le_refl _) rfl
  | poll name =>
    have hsound := h.poll name
    rw [stepNow, tasksAfter, settle_eq hsound.settled]
    exact ⟨hsound, rfl⟩
  | cancel name =>
    rw [stepNow, tasksAfter]
    cases Task.find? s.tasks name with
    | none => exact h.untouched rfl rfl (Nat.le_refl _) rfl
    | some t =>
      have hsound := h.cancel t.call
      rw [settle_eq hsound.settled]
      exact ⟨hsound, rfl⟩
  | advance d => exact h.advance d
  | close => exact h.untouched rfl rfl (Nat.le_refl _) rfl

/-- A step keeps the state sound, and does to the tasks what it should. -/
theorem step (h : s.Sound ks) (a : LocalStep) :
    (s.step a).2.2.Sound (ks ++ (s.asked? a).toList) ∧
      (s.step a).2.2.tasks = s.tasksAfter (s.waiting ks) a := by
  cases ha : s.asked? a with
  | none =>
    rw [Option.toList_none, List.append_nil]
    exact h.step_of_asked?_none ha
  | some k =>
    obtain ⟨name, r, timeout, rfl, hheld, rfl⟩ := asked?_eq_some ha
    rw [step_state, stepNow, if_pos hheld, tasksAfter, if_pos hheld]
    exact h.request name r timeout

/-! ## Whole runs -/

/-- Every run keeps the state sound for all inquiries that were made up to its end. -/
theorem after (h : s.Sound ks) (steps : List LocalStep) :
    (s.after steps).Sound (ks ++ s.inquiries steps) := by
  induction steps generalizing s ks with
  | nil =>
    rw [inquiries, List.append_nil]
    exact h
  | cons a steps ih =>
    rw [inquiries, ← List.append_assoc]
    exact ih (h.step a).1

/-- A step begins no wait but that of its own request. -/
theorem waits_of_step (h : s.Sound ks) {a : LocalStep} {k : Inquiry} (hk : k ∈ ks)
    (hwaits : Task.Waits (s.step a).2.2.tasks k.call) : Task.Waits s.tasks k.call := by
  rw [(h.step a).2] at hwaits
  -- Results are noted and tasks go; only a request adds one, and its number is new.
  cases a with
  | request name r timeout =>
    rw [tasksAfter] at hwaits
    split at hwaits
    · rcases Task.waits_add.mp hwaits with hold | ⟨hnew, -⟩
      · exact hold
      · exact absurd hnew.symm (Nat.ne_of_lt (h.booked.old k hk))
    · exact hwaits
  | respond r =>
    rw [tasksAfter] at hwaits
    split at hwaits
    · exact (Task.waits_note.mp hwaits).1
    · exact hwaits
  | cancel name =>
    rw [tasksAfter] at hwaits
    split at hwaits
    · exact hwaits
    · exact (Task.waits_remove.mp hwaits).1
  | poll name => exact (Task.waits_poll h.booked.taskCalls name).mp hwaits
  | advance d => exact (Task.waits_note.mp hwaits).1
  | subscribe name base => exact hwaits
  | unsubscribe name => exact hwaits
  | receive name => exact hwaits
  | close => exact hwaits

/-- A request that is over stays over. -/
theorem waits_of_after (h : s.Sound ks) {steps : List LocalStep} {k : Inquiry} (hk : k ∈ ks)
    (hwaits : Task.Waits (s.after steps).tasks k.call) : Task.Waits s.tasks k.call := by
  induction steps generalizing s ks with
  | nil => exact hwaits
  | cons a steps ih =>
    exact h.waits_of_step hk (ih (h.step a).1 (List.mem_append_left _ hk) hwaits)

/-! ## What holds of every state -/

/-- The requests that wait are those of the tasks without a result. -/
theorem waiting_perm (h : s.Sound ks) : ((s.waiting ks).map (·.call)).Perm
    ((s.tasks.filter (·.result.isNone)).map (·.call)) := by
  rw [List.perm_ext_iff_of_nodup h.calls_nodup
    (h.booked.taskCalls.sublist (List.filter_sublist.map _))]
  intro c
  rw [List.mem_map, List.mem_map]
  constructor
  · rintro ⟨k, hk, rfl⟩
    obtain ⟨t, ht, hc, hr⟩ := (mem_waiting.mp hk).2
    exact ⟨t, List.mem_filter.mpr ⟨ht, by simp [hr]⟩, hc⟩
  · rintro ⟨t, ht, rfl⟩
    obtain ⟨ht, hr⟩ := List.mem_filter.mp ht
    obtain ⟨k, hk, hc⟩ := h.booked.asked t ht
    exact ⟨k, mem_waiting.mpr ⟨hk, t, ht, hc.symm, by simpa using hr⟩, hc⟩

/-- The number that the bus gives for the requests in flight is that of the calls that wait. -/
theorem inFlight_eq (h : s.Sound ks) : s.bus.inFlight = (s.waiting ks).length := by
  have hperm : (s.bus.desk.guards.map (·.caller)).Perm ((s.waiting ks).map (·.call)) := by
    rw [List.perm_ext_iff_of_nodup h.matched.callers h.calls_nodup]
    intro c
    rw [List.mem_map, List.mem_map]
    constructor
    · rintro ⟨g, hg, rfl⟩
      obtain ⟨k, hk, hholds⟩ := h.exists_inquiry hg
      exact ⟨k, hk, hholds.caller.symm⟩
    · rintro ⟨k, hk, rfl⟩
      obtain ⟨g, hg, hholds⟩ := h.exists_guard hk
      exact ⟨g, hg, hholds.caller⟩
  have hlength := hperm.length_eq
  rw [List.length_map, List.length_map] at hlength
  exact (h.expectant.inFlight_eq h.matched).trans hlength

/-- A request that waits has a name, and time left. -/
theorem waiting_proper (h : s.Sound ks) {k : Inquiry} (hk : k ∈ s.waiting ks) :
    k.requestId ≠ "" ∧ s.now < k.deadline := by
  obtain ⟨g, hg, hholds⟩ := h.exists_guard hk
  have htime := (h.matched.outcome?_eq_none_iff hg).mp (h.settled g hg) _ hholds.wait
  exact ⟨hholds.requestId ▸ h.matched.named g hg, htime.2.2⟩

/-- A response is taken exactly if a request with its ID waits, and does nothing if it is not. -/
theorem step_respond (h : s.Sound ks) (r : Envelope) :
    (s.step (.respond r)).1 = .done (s.held && (s.waiting ks).any (·.requestId == r.requestId)) ∧
    ((∀ k ∈ s.waiting ks, k.requestId ≠ r.requestId) → (s.step (.respond r)).2.2 = s) := by
  have hreply : (s.bus.respond r).1 = (s.waiting ks).any (·.requestId == r.requestId) := by
    by_cases hwaits : ∃ k ∈ s.waiting ks, k.requestId = r.requestId
    · obtain ⟨k, hk, hid⟩ := hwaits
      rw [(h.respond_waiting hk hid).1, eq_comm, List.any_eq_true]
      exact ⟨k, hk, by simpa using hid⟩
    · rw [h.respond_nobody fun k hk hid => hwaits ⟨k, hk, hid⟩, eq_comm, List.any_eq_false]
      exact fun k hk hid => hwaits ⟨k, hk, by simpa using hid⟩
  constructor
  · show (s.stepNow (.respond r)).1 = _
    rw [stepNow, ← hreply]
    cases s.held <;> rfl
  · intro hnobody
    have hnone := h.respond_nobody hnobody
    rw [step_state, stepNow, hnone]
    split <;> exact settle_eq h.settled

end Sound

/-- **Requests on the local bus wait until they are answered, given up or due.**  In every run:

* as many requests are in flight as wait, which are those of the tasks without a result; their IDs
  are distinct and not empty, and none is due;
* every step does to the tasks what `tasksAfter` says and nothing else;
* a response is taken exactly if a request with its ID waits, and otherwise nothing happens;
* a refused request changes nothing but its own task (a ticket may have been used);
* a request that is over stays over;
* every task holds what its request can have come to. -/
theorem requests_wait_until_answered_or_due (n : Nat) (steps : List LocalStep) :
    let s := (ofCapacity n).after steps
    let asked := (ofCapacity n).inquiries steps
    let waiting := s.waiting asked
    (s.bus.inFlight = waiting.length ∧
      (waiting.map (·.call)).Perm ((s.tasks.filter (·.result.isNone)).map (·.call)) ∧
      (waiting.map (·.requestId)).Nodup ∧
      ∀ k ∈ waiting, k.requestId ≠ "" ∧ s.now < k.deadline) ∧
    (∀ a, (s.step a).2.2.tasks = s.tasksAfter waiting a) ∧
    (∀ r, (s.step (.respond r)).1 = .done (s.held && waiting.any (·.requestId == r.requestId)) ∧
      ((∀ k ∈ waiting, k.requestId ≠ r.requestId) → (s.step (.respond r)).2.2 = s)) ∧
    (∀ name r timeout f, s.held = true →
      s.bus.refusal? (waiting.map (·.requestId)) r = some f →
        ∃ ticket, (s.step (.request name r timeout)).2.2 = { s with
          bus := { s.bus with desk := { s.bus.desk with nextTicket := ticket } }
          nextNumber := s.nextNumber + 1
          tasks := Task.add s.tasks ⟨name, s.nextNumber, some (.error f)⟩ }) ∧
    (∀ later, ∀ k ∈ asked, Task.Waits (s.after later).tasks k.call → k ∈ waiting) ∧
    (∀ t ∈ s.tasks, ∃ k ∈ asked, k.call = t.call ∧ k.Told s.now t.result) := by
  intro s asked waiting
  -- Everything below is read off the soundness of the state that the run has come to.
  have h : s.Sound asked := (sound_ofCapacity n).after steps
  refine ⟨⟨h.inFlight_eq, h.waiting_perm, h.requestIds_nodup, fun k hk => h.waiting_proper hk⟩,
    fun a => (h.step a).2, h.step_respond, ?_, ?_, ?_⟩
  · intro name r timeout f hheld hf
    obtain ⟨ticket, hstart⟩ := h.start_refused hf name timeout
    refine ⟨ticket, ?_⟩
    rw [step_state, stepNow, if_pos hheld,
      settle_eq (h.request_refused hf name timeout).settled, hstart]
  · intro later k hk hwaits
    exact mem_waiting.mpr ⟨hk, h.waits_of_after hk hwaits⟩
  · intro t ht
    obtain ⟨k, hk, hc⟩ := h.booked.asked t ht
    exact ⟨k, hk, hc, h.told t ht k hk hc⟩

/-- Two requests, of which the first is due: only the second one waits. -/
example :
    let s := (ofCapacity 1).after [.subscribe "svc" "internal/",
      .request "t1" { (default : Request) with envelope := { requestId := "R1" } } (.ofMillis 1),
      .request "t2" { (default : Request) with envelope := { requestId := "R2" } } (.ofMillis 2),
      .advance (.ofMillis 1)]
    s.bus.inFlight = 1 ∧ ¬ Task.Waits s.tasks 1 ∧ Task.Waits s.tasks 2 := by
  decide +kernel

end CommandRelay.Bus.LocalRun
