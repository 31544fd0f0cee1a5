import CommandRelay.Proofs.Correlation.Settled
import CommandRelay.Proofs.Mqtt.Queue

/-!
# Calls, tasks and guards over a broker link

Between two steps a task without a result, a guard on the desk and a request that was made and is
not over are the same thing (`Run.Tracked`), also while the request waits for room.  As long as the
tickets have not come round, every guard without a response can still get one (`Run.Counted`).
-/

namespace CommandRelay.Mqtt.Run

open Correlation
open CommandRelay.Bus (Inquiry Booked Task)

variable {s s' : Run} {ks : List Inquiry} {fresh : Nat → String} {a : Step}

/-! ## What a step does to the bus -/

section

variable {P : Desk → Prop}

/-- The bus after a request: only the client and the desk are touched. -/
theorem startTask_bus (s : Run) (name : String) (r : CommandRelay.Bus.Request) (timeout : Duration)
    (hregister : P (s.bus.desk.register s.nextCall r.envelope.requestId).2)
    (hdrop : ∀ d, P d → P (d.drop s.nextCall))
    (hawait : ∀ d, P d → P (d.await s.nextCall timeout s.now)) :
    ∃ client desk, (s.startTask name r timeout).bus = { s.bus with client, desk } ∧ P desk := by
  rcases hreg : s.bus.desk.register s.nextCall r.envelope.requestId with ⟨entered, desk⟩
  rw [hreg] at hregister
  cases entered with
  | error f => exact ⟨s.bus.client, desk, by simp only [startTask, Bus.request, hreg], hregister⟩
  | ok _ =>
    rcases hsend : s.bus.client.send (Bus.senderOf s.nextCall r timeout) (s.bus.requestPacket r)
      with ⟨sending, client⟩
    rw [Bus.senderOf] at hsend
    cases sending with
    | sent =>
      exact ⟨client, desk.await s.nextCall timeout s.now,
        by simp only [startTask, Bus.request, hreg, hsend], hawait _ hregister⟩
    | blocked =>
      exact ⟨client, desk, by simp only [startTask, Bus.request, hreg, hsend], hregister⟩
    | refused =>
      exact ⟨client, desk.drop s.nextCall,
        by simp only [startTask, Bus.request, hreg, hsend], hdrop _ hregister⟩

/-- A step touches the client and the desk only, and keeps what the operations on a desk keep. -/
theorem stepNow_bus (fresh : Nat → String) (h : P s.bus.desk)
    (hregister : ∀ name r timeout, a = .request name r timeout →
      P (s.bus.desk.register s.nextCall r.envelope.requestId).2)
    (hcomplete : ∀ d r, P d → P (d.complete r).2) (hdrop : ∀ d c, P d → P (d.drop c))
    (hawait : ∀ d c timeout now, P d → P (d.await c timeout now)) :
    ∃ client desk, (s.stepNow fresh a).2.2.bus = { s.bus with client, desk } ∧ P desk := by
  -- The operations on a desk are those of the hypotheses; offering a packet is none of them.
  have hoffer : ∀ p refused, ∃ client desk,
      (s.offer p refused).2.bus = { s.bus with client, desk } ∧ P desk := by
    intro p refused
    rcases s.offer_cases p refused with heq | ⟨queue, heq⟩
    · exact ⟨s.bus.client, s.bus.desk, congrArg bus heq, h⟩
    · exact ⟨{ s.bus.client with queue }, s.bus.desk, congrArg bus heq, h⟩
  cases a with
  | filter => exact ⟨_, _, rfl, h⟩
  | subscribeResponses => exact hoffer _ _
  | subscribe filter qos => exact hoffer _ _
  | publish topic delivery payload => exact hoffer _ _
  | disconnect => exact hoffer _ _
  | request name r timeout =>
    exact startTask_bus s name r timeout (hregister name r timeout rfl)
      (fun d => hdrop d s.nextCall) fun d => hawait d s.nextCall timeout s.now
  | poll name => exact ⟨_, _, rfl, h⟩
  | cancel name =>
    rw [stepNow]
    split
    · exact ⟨_, _, rfl, h⟩
    · rename_i t _
      exact ⟨_, _, rfl, hdrop _ t.call h⟩
  | advance d => exact ⟨_, _, rfl, h⟩
  | incoming topic payload =>
    have hbus : (s.stepNow fresh (.incoming topic payload)).2.2.bus =
        (s.bus.incoming s.wording (fresh s.made) topic payload).2.2 := by rw [stepNow_incoming]
    rw [hbus]
    rcases s.bus.incoming_cases s.wording (fresh s.made) topic payload with heq | ⟨response, heq⟩
    · rw [heq]
      exact ⟨s.bus.client, s.bus.desk, rfl, h⟩
    · rw [heq]
      exact ⟨s.bus.client, _, rfl, hcomplete _ response h⟩
  | drain =>
    have hbus : (s.stepNow fresh .drain).2.2.bus = (s.bus.drain s.now).2 := rfl
    rw [hbus, s.bus.drain_bus]
    exact ⟨_, _, rfl, List.foldlRecOn _ _ h fun d hd r _ => hawait d _ _ _ hd⟩
  | close =>
    have hbus : (s.stepNow fresh .close).2.2.bus = s.bus.close.2 := rfl
    rw [hbus, s.bus.close_bus]
    exact ⟨_, _, rfl, List.foldlRecOn _ _ h fun d hd c _ => hdrop d c hd⟩

/-- So does a whole step, for settling drops guards only. -/
theorem step_bus (fresh : Nat → String) (h : P s.bus.desk)
    (hregister : ∀ name r timeout, a = .request name r timeout →
      P (s.bus.desk.register s.nextCall r.envelope.requestId).2)
    (hcomplete : ∀ d r, P d → P (d.complete r).2) (hdrop : ∀ d c, P d → P (d.drop c))
    (hawait : ∀ d c timeout now, P d → P (d.await c timeout now)) :
    ∃ client desk, (s.step fresh a).2.2.bus = { s.bus with client, desk } ∧ P desk := by
  obtain ⟨client, desk, hbus, hdesk⟩ := stepNow_bus fresh h hregister hcomplete hdrop hawait
  have hsettle : (s.step fresh a).2.2.bus = { (s.stepNow fresh a).2.2.bus with
      desk := ((s.stepNow fresh a).2.2.bus.desk.settle (s.stepNow fresh a).2.2.now).2 } := rfl
  rw [hsettle, hbus]
  obtain ⟨ended, -, heq⟩ := desk.settle_eq_foldl_drop (s.stepNow fresh a).2.2.now
  refine ⟨_, _, rfl, ?_⟩
  show P (desk.settle _).2
  rw [heq]
  exact List.foldlRecOn _ _ hdesk fun d hd c _ => hdrop d c hd

end

/-- No step changes the level of delivery or the prefix of responses. -/
theorem step_frame (fresh : Nat → String) (s : Run) (a : Step) :
    (s.step fresh a).2.2.bus.qos = s.bus.qos ∧
      (s.step fresh a).2.2.bus.responsePrefix = s.bus.responsePrefix := by
  obtain ⟨client, desk, heq, -⟩ := step_bus (P := fun _ => True) (s := s) (a := a) fresh
    trivial (fun _ _ _ _ => trivial) (fun _ _ _ => trivial) (fun _ _ _ => trivial)
    (fun _ _ _ _ _ => trivial)
  rw [heq]
  exact ⟨rfl, rfl⟩

/-! ## The guards of tasks -/

/-- The calls that wait are those that hold a guard, also while their requests wait for room. -/
structure Manned (s : Run) : Prop where
  waits : ∀ c, Task.Waits s.tasks c ↔ ∃ g ∈ s.bus.desk.guards, g.caller = c
  senders : ∀ r ∈ s.senders, ∃ g ∈ s.bus.desk.guards, g.caller = r.call

namespace Manned

/-- Some calls go, with their guards, and no other one is touched. -/
theorem without (h : s.Manned) (kept : CallId → Prop)
    (hguards : ∀ c, (∃ g ∈ s'.bus.desk.guards, g.caller = c) ↔
      (∃ g ∈ s.bus.desk.guards, g.caller = c) ∧ kept c)
    (hwaits : ∀ c, Task.Waits s'.tasks c ↔ Task.Waits s.tasks c ∧ kept c)
    (hsenders : ∀ r ∈ s'.senders, r ∈ s.senders ∧ kept r.call) : s'.Manned := by
  refine ⟨fun c => ?_, fun r hr => ?_⟩
  · rw [hwaits, hguards, h.waits]
  · obtain ⟨hold, hkept⟩ := hsenders r hr
    exact (hguards r.call).mpr ⟨h.senders r hold, hkept⟩

/-- No call goes. -/
theorem quiet (h : s.Manned)
    (hguards : ∀ c, (∃ g ∈ s'.bus.desk.guards, g.caller = c) ↔
      ∃ g ∈ s.bus.desk.guards, g.caller = c)
    (hwaits : ∀ c, Task.Waits s'.tasks c ↔ Task.Waits s.tasks c)
    (hsenders : s'.senders ⊆ s.senders) : s'.Manned :=
  h.without (fun _ => True) (by simpa using hguards) (by simpa using hwaits)
    fun r hr => ⟨hsenders hr, trivial⟩

/-- A request that is refused has its result. -/
theorem refused (h : s.Manned) {name : Option String} {call : CallId} {f : CallResult}
    (hguards : s'.bus.desk.guards = s.bus.desk.guards) (hsenders : s'.senders = s.senders)
    (htasks : s'.tasks = Task.add s.tasks ⟨name, call, some f⟩) : s'.Manned := by
  refine h.quiet (by rw [hguards]; exact fun _ => Iff.rfl) (fun c => ?_)
    (hsenders ▸ List.Subset.refl _)
  rw [htasks, Task.waits_add]
  simp

/-- The guard of a new request is added, and its task. -/
theorem entered (h : s.Manned) {name : Option String} {call : CallId} {g : Guard}
    (hguards : s'.bus.desk.guards = s.bus.desk.guards ++ [g]) (hcaller : g.caller = call)
    (hsenders : ∀ r ∈ s'.senders, r ∈ s.senders ∨ r.call = call)
    (htasks : s'.tasks = Task.add s.tasks ⟨name, call, none⟩) : s'.Manned := by
  refine ⟨fun c => ?_, fun r hr => ?_⟩
  · rw [htasks, Task.waits_add, hguards, h.waits]
    simp [or_and_right, exists_or, hcaller]
  · rw [hguards]
    rcases hsenders r hr with hold | hnew
    · obtain ⟨g', hg', hc⟩ := h.senders r hold
      exact ⟨g', List.mem_append_left _ hg', hc⟩
    · exact ⟨g, List.mem_append_right _ (List.mem_singleton_self _), hcaller.trans hnew.symm⟩

/-- A new request has its guard, or its result. -/
theorem startTask (h : s.Manned) (hs : s.Sound) (name : String) (r : CommandRelay.Bus.Request)
    (timeout : Duration) : (s.startTask name r timeout).Manned := by
  rcases hs.startTask_cases name r timeout with
    ⟨f, desk, heq, -, hguards⟩ | ⟨g, client, desk, heq, -, hguards, hcaller, hway⟩
  · rw [heq]
    exact h.refused hguards rfl rfl
  · rw [heq]
    refine h.entered hguards hcaller (fun r' hr' => ?_) rfl
    have hmem : r' ∈ client.blocked.map (·.1) := hr'
    rcases hway with ⟨-, hblocked⟩ | ⟨-, -, hblocked⟩
    · rw [hblocked] at hmem
      exact .inl hmem
    · rw [hblocked, List.map_append] at hmem
      rcases List.mem_append.mp hmem with hold | hlast
      · exact .inl hold
      · rw [List.map_singleton] at hlast
        rw [List.mem_singleton.mp hlast]
        exact .inr rfl

/-- A task that is asked for its result takes no guard with it. -/
theorem poll (h : s.Manned) (hcalls : (s.tasks.map (·.call)).Nodup) (name : String) :
    Manned { s with tasks := (CommandRelay.Bus.Task.poll s.tasks name).2 } :=
  h.quiet (fun _ => Iff.rfl) (fun _ => Task.waits_poll hcalls name) (List.Subset.refl _)

theorem offer (h : s.Manned) (p : Packet) (refused : Reply) : (s.offer p refused).2.Manned := by
  rcases s.offer_cases p refused with heq | ⟨queue, heq⟩
  · rwa [heq]
  · rw [heq]
    exact ⟨h.waits, h.senders⟩

/-- A call that is given up goes with its guard. -/
theorem cancel (h : s.Manned) (hs : s.Sound) (call : CallId) : Manned { s with
    bus := s.bus.cancel call, tasks := CommandRelay.Bus.Task.remove s.tasks call } := by
  refine h.without (fun c => c ≠ call) (fun c => ?_) (fun c => Task.waits_remove) fun r hr => ?_
  · show (∃ g ∈ (s.bus.desk.drop call).guards, g.caller = c) ↔ _
    rw [hs.matched.drop_guards]
    constructor
    · rintro ⟨g, hg, rfl⟩
      obtain ⟨hg, hne⟩ := List.mem_filter.mp hg
      exact ⟨⟨g, hg, rfl⟩, bne_iff_ne.mp hne⟩
    · rintro ⟨⟨g, hg, rfl⟩, hne⟩
      exact ⟨g, List.mem_filter.mpr ⟨hg, bne_iff_ne.mpr hne⟩, rfl⟩
  · obtain ⟨b, hb, rfl⟩ := List.mem_map.mp hr
    obtain ⟨hb, hne⟩ := List.mem_filter.mp hb
    exact ⟨List.mem_map_of_mem hb, by simpa using hne⟩

/-- A response stays in the guard of its task. -/
theorem incoming (h : s.Manned) (hs : s.Sound) (words : Wording) (fresh topic : String)
    (payload : List UInt8) (made : Nat) :
    Manned { s with bus := (s.bus.incoming words fresh topic payload).2.2, made } := by
  rcases s.bus.incoming_cases words fresh topic payload with heq | ⟨response, heq⟩
  · rw [heq]
    exact ⟨h.waits, h.senders⟩
  · rw [heq]
    refine h.quiet (fun c => ?_) (fun _ => Iff.rfl) (List.Subset.refl _)
    show (∃ g ∈ (s.bus.desk.complete response).2.guards, g.caller = c) ↔ _
    have hcallers : (s.bus.desk.complete response).2.guards.map (·.caller) =
        s.bus.desk.guards.map (·.caller) := by
      rcases hs.matched.complete_cases response with ⟨-, hdesk⟩ | ⟨g₀, -, -, -, -, hdesk⟩
      · rw [hdesk]
      · rw [hdesk]
        exact Desk.map_deliver (fun _ => rfl) _ _
    rw [← List.mem_map, hcallers, List.mem_map]

/-- Waits that begin keep their tasks. -/
theorem drain (h : s.Manned) (hs : s.Sound) : Manned { s with bus := (s.bus.drain s.now).2 } := by
  rw [s.bus.drain_bus]
  refine h.quiet (fun c => ?_) (fun _ => Iff.rfl) (List.nil_subset _)
  constructor
  · rintro ⟨g, hg, rfl⟩
    rcases guards_foldl_await hs.matched hg with ⟨hold, -⟩ | ⟨r, hr, hc, -⟩
    · exact ⟨g, hold, rfl⟩
    · rw [hc]
      exact h.senders r hr
  · rintro ⟨g, hg, rfl⟩
    exact callers_foldl_await hs.matched s.senders hg

/-- Whoever waited for room when the link goes away has a result. -/
theorem close (h : s.Manned) (hs : s.Sound) : Manned { s with
    bus := s.bus.close.2, tasks := CommandRelay.Bus.Task.note s.tasks s.bus.close.1 } := by
  have hended : ∀ c, (∀ e ∈ s.bus.close.1, e.1 ≠ c) ↔ c ∉ s.senders.map (·.call) := by
    intro c
    constructor
    · intro hkept hmem
      obtain ⟨r, hr, rfl⟩ := List.mem_map.mp hmem
      exact hkept _ (List.mem_map_of_mem hr) rfl
    · rintro hkept e he rfl
      obtain ⟨r, hr, rfl⟩ := List.mem_map.mp he
      exact hkept (List.mem_map_of_mem hr)
  rw [s.bus.close_bus]
  refine h.without (fun c => c ∉ s.senders.map (·.call)) (fun c => ?_) (fun c => ?_) nofun
  · show (∃ g ∈ ((s.senders.map (·.call)).foldl Desk.drop s.bus.desk).guards, g.caller = c) ↔ _
    constructor
    · rintro ⟨g, hg, rfl⟩
      obtain ⟨hold, hkept⟩ := (Desk.mem_guards_foldl_drop hs.matched).mp hg
      exact ⟨⟨g, hold, rfl⟩, hkept⟩
    · rintro ⟨⟨g, hg, rfl⟩, hkept⟩
      exact ⟨g, (Desk.mem_guards_foldl_drop hs.matched).mpr ⟨hg, hkept⟩, rfl⟩
  · rw [← hended]
    exact Task.waits_note

/-- A call that waits for room does not end by the clock. -/
theorem settle (h : s.Manned) (hs : s.Sound) : s.settle.Manned := by
  refine h.without (fun c => ∀ e ∈ (s.bus.desk.settle s.now).1, e.1 ≠ c) (fun c => ?_)
    (fun c => Task.waits_note) fun r hr => ⟨hr, ?_⟩
  · constructor
    · rintro ⟨g, hg, rfl⟩
      obtain ⟨hold, hkept⟩ := hs.matched.mem_settle_guards_iff.mp hg
      exact ⟨⟨g, hold, rfl⟩, hkept⟩
    · rintro ⟨⟨g, hg, rfl⟩, hkept⟩
      exact ⟨g, hs.matched.mem_settle_guards_iff.mpr ⟨hg, hkept⟩, rfl⟩
  · rintro ⟨c, result⟩ he rfl
    obtain ⟨g, hg, hc, hover⟩ := Desk.mem_settle_results.mp he
    have hidle : g.wait = none := (hs.idle g hg).mpr ⟨r, hr, hc.symm⟩
    rw [Desk.outcome?, hidle] at hover
    cases hover

/-- Every step, before it settles, keeps guards and tasks together. -/
theorem stepNow (h : s.Manned) (hs : s.Sound) (hcalls : (s.tasks.map (·.call)).Nodup)
    (fresh : Nat → String) (a : Step) : (s.stepNow fresh a).2.2.Manned := by
  cases a with
  | filter => exact h
  | subscribeResponses => exact h.offer _ _
  | subscribe filter qos => exact h.offer _ _
  | publish topic delivery payload => exact h.offer _ _
  | disconnect => exact h.offer _ _
  | request name r timeout => exact h.startTask hs name r timeout
  | poll name => exact h.poll hcalls name
  | cancel name =>
    rw [Run.stepNow]
    split
    · exact h
    · rename_i t _
      exact h.cancel hs t.call
  | advance d => exact ⟨h.waits, h.senders⟩
  | incoming topic payload =>
    rw [stepNow_incoming]
    exact h.incoming hs _ _ _ _ _
  | drain => exact h.drain hs
  | close => exact h.close hs

/-- Every step keeps guards, tasks and inquiries together. -/
theorem step (h : s.Manned) (hs : s.Sound) (hcalls : (s.tasks.map (·.call)).Nodup)
    (fresh : Nat → String) (a : Step) : (s.step fresh a).2.2.Manned :=
  (h.stepNow hs hcalls fresh a).settle (hs.stepNow fresh a).1

end Manned

/-! ## The requests behind tasks and guards -/

/-- What holds between two steps, of a state and the requests that were made before it. -/
structure Tracked (s : Run) (ks : List Inquiry) : Prop where
  sound : s.Sound
  booked : Booked s.tasks ks s.nextCall
  manned : s.Manned
  guards : ∀ g ∈ s.bus.desk.guards, ∃ k ∈ ks, k.call = g.caller ∧ k.requestId = g.requestId

theorem tracked_start (capacity : Nat) (responsePrefix : String) (qos : Qos) (words : Wording) :
    (start capacity responsePrefix qos words).Tracked [] :=
  ⟨sound_start capacity responsePrefix qos words, .nil 0,
    ⟨fun _ => iff_of_false nofun nofun, nofun⟩, nofun⟩

/-- A step that asks for a call is a request, of the next number. -/
theorem asked?_eq_some {k : Inquiry} (h : s.asked? a = some k) :
    ∃ name r timeout, a = .request name r timeout ∧ k = ⟨s.nextCall, r, timeout, s.now⟩ := by
  cases a with
  | request name r timeout => exact ⟨name, r, timeout, rfl, (Option.some.inj h).symm⟩
  | _ => cases h

/-- A step that makes no request makes no task. -/
theorem stepNow_calls (fresh : Nat → String) (ha : s.asked? a = none) :
    ((s.stepNow fresh a).2.2.tasks.map (·.call)).Sublist (s.tasks.map (·.call)) ∧
      (s.stepNow fresh a).2.2.nextCall = s.nextCall := by
  -- Offering a packet leaves the tasks as they are.
  have hoffer : ∀ p refused, ((s.offer p refused).2.tasks.map (·.call)).Sublist
      (s.tasks.map (·.call)) ∧ (s.offer p refused).2.nextCall = s.nextCall := by
    intro p refused
    rcases s.offer_cases p refused with heq | ⟨queue, heq⟩
    · rw [heq]
      exact ⟨List.Sublist.refl _, rfl⟩
    · rw [heq]
      exact ⟨List.Sublist.refl _, rfl⟩
  cases a with
  | filter => exact ⟨List.Sublist.refl _, rfl⟩
  | subscribeResponses => exact hoffer _ _
  | subscribe filter qos => exact hoffer _ _
  | publish topic delivery payload => exact hoffer _ _
  | disconnect => exact hoffer _ _
  | request name r timeout => cases ha
  | poll name => exact ⟨Task.calls_poll_sublist s.tasks name, rfl⟩
  | cancel name =>
    rw [stepNow]
    split
    · exact ⟨List.Sublist.refl _, rfl⟩
    · exact ⟨List.filter_sublist.map _, rfl⟩
  | advance d => exact ⟨List.Sublist.refl _, rfl⟩
  | incoming topic payload =>
    rw [stepNow_incoming]
    exact ⟨List.Sublist.refl _, rfl⟩
  | drain => exact ⟨List.Sublist.refl _, rfl⟩
  | close =>
    refine ⟨?_, rfl⟩
    show ((CommandRelay.Bus.Task.note s.tasks s.bus.close.1).map (·.call)).Sublist _
    rw [Task.calls_note]

/-- A step makes at most one task, and that for its own request. -/
theorem booked_step (h : Booked s.tasks ks s.nextCall) (fresh : Nat → String) (a : Step) :
    Booked (s.step fresh a).2.2.tasks (ks ++ (s.asked? a).toList)
    (s.step fresh a).2.2.nextCall := by
  have hsettle : ∀ u : Run, (u.settle.tasks.map (·.call)).Sublist (u.tasks.map (·.call)) := by
    intro u
    show ((CommandRelay.Bus.Task.note u.tasks _).map (·.call)).Sublist _
    rw [Task.calls_note]
  cases ha : s.asked? a with
  | none =>
    obtain ⟨hcalls, hnext⟩ := stepNow_calls fresh ha
    rw [Option.toList_none, List.append_nil]
    exact h.of_sublist ((hsettle _).trans hcalls) (Nat.le_of_eq hnext.symm)
  | some k =>
    obtain ⟨name, r, timeout, rfl, rfl⟩ := asked?_eq_some ha
    have hnew : Booked (s.startTask name r timeout).tasks
        (ks ++ [⟨s.nextCall, r, timeout, s.now⟩]) (s.nextCall + 1) := h.add (some name) _ rfl
    exact hnew.of_sublist (hsettle _) (Nat.le_refl _)

/-- A guard is that of a request that was made, whatever is done to the desk. -/
theorem guards_step (hm : s.bus.desk.Matched)
    (hnew : ∀ g ∈ s.bus.desk.guards, g.caller ≠ s.nextCall)
    (h : ∀ g ∈ s.bus.desk.guards, ∃ k ∈ ks, k.call = g.caller ∧ k.requestId = g.requestId)
    (fresh : Nat → String) (a : Step) : ∀ g ∈ (s.step fresh a).2.2.bus.desk.guards,
      ∃ k ∈ ks ++ (s.asked? a).toList, k.call = g.caller ∧ k.requestId = g.requestId := by
  -- A guard keeps its registration as long as it is held.
  have hkeep : ∀ {d d' : Desk}, (∀ g ∈ d.guards, ∃ k ∈ ks ++ (s.asked? a).toList,
      k.call = g.caller ∧ k.requestId = g.requestId) →
      (∀ g ∈ d'.guards, ∃ g₀ ∈ d.guards, g₀.waiter = g.waiter) →
      ∀ g ∈ d'.guards, ∃ k ∈ ks ++ (s.asked? a).toList,
        k.call = g.caller ∧ k.requestId = g.requestId := by
    intro d d' hd hold g hg
    obtain ⟨g₀, hg₀, hw⟩ := hold g hg
    obtain ⟨k, hk, hc, hid⟩ := hd g₀ hg₀
    exact ⟨k, hk, hc.trans (congrArg Waiter.caller hw), hid.trans (congrArg Waiter.requestId hw)⟩
  have hbefore : ∀ g ∈ s.bus.desk.guards, ∃ k ∈ ks ++ (s.asked? a).toList,
      k.call = g.caller ∧ k.requestId = g.requestId := by
    intro g hg
    obtain ⟨k, hk, hboth⟩ := h g hg
    exact ⟨k, List.mem_append_left _ hk, hboth⟩
  have hregister : ∀ name r timeout, a = .request name r timeout →
      ∀ g ∈ (s.bus.desk.register s.nextCall r.envelope.requestId).2.guards,
        ∃ k ∈ ks ++ (s.asked? a).toList, k.call = g.caller ∧ k.requestId = g.requestId := by
    rintro name r timeout rfl g hg
    rcases Desk.register_cases s.bus.desk s.nextCall r.envelope.requestId with
      ⟨-, heq⟩ | ⟨-, -, heq⟩ | ⟨-, -, heq⟩
    · rw [heq] at hg
      exact hbefore g hg
    · rw [heq] at hg
      exact hbefore g hg
    · rw [heq] at hg
      rcases List.mem_append.mp hg with hold | hlast
      · exact hbefore g hold
      · rw [List.mem_singleton.mp hlast]
        exact ⟨_, List.mem_append_right _ (List.mem_singleton_self _), rfl, rfl⟩
  obtain ⟨client, desk, heq, -, hguards⟩ := step_bus (P := fun d => d.Matched ∧ ∀ g ∈ d.guards,
    ∃ k ∈ ks ++ (s.asked? a).toList, k.call = g.caller ∧ k.requestId = g.requestId)
    (s := s) (a := a) fresh ⟨hm, hbefore⟩
    (fun name r timeout ha => ⟨hm.register _ hnew, hregister name r timeout ha⟩)
    (fun d r hd => ⟨hd.1.complete r, hkeep hd.2 (hd.1.registered_complete r)⟩)
    (fun d c hd => ⟨hd.1.drop c, hkeep hd.2 (hd.1.registered_drop c)⟩)
    (fun d c timeout now hd =>
      ⟨hd.1.await c timeout now, hkeep hd.2 (hd.1.registered_await c timeout now)⟩)
  rw [heq]
  exact hguards

namespace Tracked

theorem new_guard (h : s.Tracked ks) : ∀ g ∈ s.bus.desk.guards, g.caller ≠ s.nextCall :=
  fun g hg => Nat.ne_of_lt (h.sound.freshGuards g hg)

/-- As long as there are tickets left, a step keeps the waiters of all who expect a response. -/
theorem step (h : s.Tracked ks) (fresh : Nat → String) (a : Step) :
    (s.step fresh a).2.2.Tracked (ks ++ (s.asked? a).toList) :=
  ⟨(h.sound.step fresh a).1, booked_step h.booked fresh a,
    h.manned.step h.sound h.booked.taskCalls fresh a,
    guards_step h.sound.matched h.new_guard h.guards fresh a⟩

/-- Every run keeps guards, tasks and inquiries together. -/
theorem after (h : s.Tracked ks) (fresh : Nat → String) (steps : List Step) :
    (s.after fresh steps).Tracked (ks ++ s.inquiries fresh steps) := by
  induction steps generalizing s ks with
  | nil =>
    rw [inquiries, List.append_nil]
    exact h
  | cons a steps ih =>
    rw [inquiries, ← List.append_assoc]
    exact ih (h.step fresh a)

end Tracked

/-! ## Tickets -/

/-- What holds besides as long as the tickets have not come round. -/
structure Counted (s : Run) (ks : List Inquiry) : Prop where
  numbered : s.bus.desk.Numbered
  tickets : s.bus.desk.nextTicket.toNat ≤ ks.length
  settled : s.bus.desk.Settled s.now

theorem counted_start (capacity : Nat) (responsePrefix : String) (qos : Qos) (words : Wording) :
    (start capacity responsePrefix qos words).Counted [] :=
  ⟨Desk.numbered_empty, Nat.le_refl _, nofun⟩

namespace Counted

/-- A step for which there is a ticket left keeps the tickets counted. -/
theorem step (h : s.Counted ks) (ht : s.Tracked ks) (fresh : Nat → String) {a : Step}
    (hroom : (ks ++ (s.asked? a).toList).length < 2 ^ 64) :
    (s.step fresh a).2.2.Counted (ks ++ (s.asked? a).toList) := by
  have hle : ks.length ≤ (ks ++ (s.asked? a).toList).length := by
    rw [List.length_append]
    exact Nat.le_add_right _ _
  have hregister : ∀ name r timeout, a = .request name r timeout →
      (s.bus.desk.register s.nextCall r.envelope.requestId).2.Numbered ∧
        (s.bus.desk.register s.nextCall r.envelope.requestId).2.nextTicket.toNat ≤
          (ks ++ (s.asked? a).toList).length := by
    rintro name r timeout rfl
    have hlength : (ks ++ (s.asked? (.request name r timeout)).toList).length = ks.length + 1 := by
      rw [List.length_append]
      rfl
    rw [hlength] at hroom ⊢
    have htickets : s.bus.desk.nextTicket.toNat + 1 < 2 ^ 64 :=
      Nat.lt_of_le_of_lt (Nat.succ_le_succ h.tickets) hroom
    exact ⟨h.numbered.register _ _ htickets,
      Nat.le_trans (Desk.register_nextTicket_le _ _ _ htickets) (Nat.succ_le_succ h.tickets)⟩
  obtain ⟨client, desk, heq, -, hnumbered, htickets⟩ := step_bus
    (P := fun d => d.Matched ∧ d.Numbered ∧
      d.nextTicket.toNat ≤ (ks ++ (s.asked? a).toList).length)
    (s := s) (a := a) fresh ⟨ht.sound.matched, h.numbered, Nat.le_trans h.tickets hle⟩
    (fun name r timeout ha =>
      ⟨ht.sound.matched.register _ ht.new_guard, hregister name r timeout ha⟩)
    (fun d r hd => ⟨hd.1.complete r, hd.2.1.complete hd.1 r, hd.1.complete_nextTicket r ▸ hd.2.2⟩)
    (fun d c hd => ⟨hd.1.drop c, hd.2.1.drop hd.1 c, hd.1.drop_nextTicket c ▸ hd.2.2⟩)
    (fun d c timeout now hd => ⟨hd.1.await c timeout now, hd.2.1.await hd.1 c timeout now,
      hd.1.await_nextTicket c timeout now ▸ hd.2.2⟩)
  have hdesk := congrArg Bus.desk heq
  have hnumbered' : (s.step fresh a).2.2.bus.desk.Numbered := hdesk ▸ hnumbered
  refine ⟨hnumbered', hdesk ▸ htickets, ?_⟩
  exact (ht.sound.stepNow fresh a).1.matched.settled_settle hnumbered'.waiter_mem

/-- As long as there are tickets left, a run keeps the waiters of all who expect a response. -/
theorem after (h : s.Counted ks) (ht : s.Tracked ks) (fresh : Nat → String) {steps : List Step}
    (hroom : (ks ++ s.inquiries fresh steps).length < 2 ^ 64) :
    (s.after fresh steps).Counted (ks ++ s.inquiries fresh steps) := by
  induction steps generalizing s ks with
  | nil =>
    rw [inquiries, List.append_nil]
    exact h
  | cons a steps ih =>
    rw [inquiries, ← List.append_assoc] at hroom ⊢
    have hfirst : (ks ++ (s.asked? a).toList).length < 2 ^ 64 := by
      refine Nat.lt_of_le_of_lt ?_ hroom
      exact (List.sublist_append_left _ _).length_le
    exact ih (h.step ht fresh hfirst) (ht.step fresh a) hroom

end Counted

end CommandRelay.Mqtt.Run
