import CommandRelay.Mqtt.Run
import CommandRelay.Proofs.Bus.Task
import CommandRelay.Proofs.Mqtt.Admission

/-!
# States that runs of the bus over a broker link reach

A call on this bus waits twice: for room in the queue of the client, and then for its response.
This file says what a step of a run does to the calls that wait, and what every run keeps.

1. **What the other operations do** — `Bus.incoming_cases` and the lemmas on `drain` and `close`.
2. **`Run.Sound`** — a task without a result has its guard, and a guard waits for its response
   exactly if its request does not wait for room.
3. **`Run.Moved`** — how a step moves guards and requests on, whatever the step is: a guard goes on
   as it was, begins its wait with the timeout of its request, or is new.
-/

namespace CommandRelay.Mqtt

open Correlation
open CommandRelay.Bus (Task)

/-! ## The bus -/

namespace Bus

/-- A message that arrives leaves the bus as it is, or hands a response to the desk. -/
theorem incoming_cases (b : Bus) (words : Wording) (fresh topic : String) (payload : List UInt8) :
    (b.incoming words fresh topic payload).2.2 = b ∨ ∃ response,
      (b.incoming words fresh topic payload).2.2 =
      { b with desk := (b.desk.complete response).2 } := by
  rw [incoming]
  split
  · exact .inl rfl
  · split
    · exact .inr ⟨_, rfl⟩
    · exact .inl rfl

/-- Beginning the waits of requests concerns the desk only. -/
theorem foldl_begin (now : Instant) (senders : List Sender) (b : Bus) :
    senders.foldl (fun b s => b.begin now s) b =
      { b with desk := senders.foldl (fun d s => d.await s.call s.timeout now) b.desk } := by
  induction senders generalizing b with
  | nil => rfl
  | cons r senders ih => exact ih (b.begin now r)

/-- The bus when the link has taken everything: the waits of those that found room have begun. -/
theorem drain_bus (b : Bus) (now : Instant) : (b.drain now).2 = { b with
    client := { b.client with queue := [], blocked := [] }
    desk := (b.client.blocked.map (·.1)).foldl
      (fun d s => d.await s.call s.timeout now) b.desk } :=
  foldl_begin now (b.client.blocked.map fun w : Sender × Packet => w.1)
    { b with client := { b.client with queue := [], blocked := [] } }

/-- The bus without its link: those that waited for room are gone. -/
theorem close_bus (b : Bus) : b.close.2 = { b with
    client := { b.client with queue := [], blocked := [], closed := true }
    desk := ((b.client.blocked.map (·.1)).map (·.call)).foldl Desk.drop b.desk } := by
  rw [List.foldl_map]
  rfl

end Bus

/-! ## Waits that begin together -/

section

variable {d : Desk} {now : Instant}

/-- A desk stays matched when waits begin, one after the other. -/
theorem matched_foldl_await (h : d.Matched) (senders : List Sender) :
    (senders.foldl (fun d s => d.await s.call s.timeout now) d).Matched := by
  induction senders generalizing d with
  | nil => exact h
  | cons r senders ih => exact ih (h.await r.call r.timeout now)

/-- A guard after waits have begun is as it was, or it has begun its wait for one of the
requests. -/
theorem guards_foldl_await (h : d.Matched) {senders : List Sender} {g : Guard}
    (hg : g ∈ (senders.foldl (fun d s => d.await s.call s.timeout now) d).guards) :
    (g ∈ d.guards ∧ ∀ r ∈ senders, r.call ≠ g.caller) ∨
    ∃ r ∈ senders, g.caller = r.call ∧ g.wait = some ⟨r.timeout, now + r.timeout.nanos⟩ := by
  -- By induction along the senders: a wait that has begun is not begun again by a later one.
  induction senders generalizing d with
  | nil => exact .inl ⟨hg, nofun⟩
  | cons r senders ih =>
    rcases ih (h.await r.call r.timeout now) hg with ⟨hkept, hnone⟩ | ⟨r', hr', hbegun⟩
    · rcases h.await_cases r.call r.timeout now with ⟨hfree, heq⟩ | ⟨g₀, hg₀, hc, heq⟩
      · rw [heq] at hkept
        refine .inl ⟨hkept, fun r' hr' => ?_⟩
        rcases List.mem_cons.mp hr' with rfl | hr'
        · exact (hfree g hkept).symm
        · exact hnone r' hr'
      · rw [heq] at hkept
        rcases List.mem_append.mp hkept with hkept | hkept
        · obtain ⟨hkept, hne⟩ := List.mem_filter.mp hkept
          refine .inl ⟨hkept, fun r' hr' => ?_⟩
          rcases List.mem_cons.mp hr' with rfl | hr'
          · exact (bne_iff_ne.mp hne).symm
          · exact hnone r' hr'
        · rw [List.mem_singleton.mp hkept]
          exact .inr ⟨r, List.mem_cons_self, hc, rfl⟩
    · exact .inr ⟨r', List.mem_cons_of_mem _ hr', hbegun⟩

/-- No guard goes when waits begin. -/
theorem callers_foldl_await (h : d.Matched) (senders : List Sender) {g : Guard}
    (hg : g ∈ d.guards) :
    ∃ g' ∈ (senders.foldl (fun d s => d.await s.call s.timeout now) d).guards,
      g'.caller = g.caller := by
  induction senders generalizing d g with
  | nil => exact ⟨g, hg, rfl⟩
  | cons r senders ih =>
    obtain ⟨g₁, hg₁, hc₁⟩ : ∃ g₁ ∈ (d.await r.call r.timeout now).guards, g₁.caller = g.caller := by
      rcases h.await_cases r.call r.timeout now with ⟨-, heq⟩ | ⟨g₀, hg₀, hc, heq⟩
      · rw [heq]
        exact ⟨g, hg, rfl⟩
      · rw [heq]
        by_cases hsame : g.caller = r.call
        · exact ⟨_, List.mem_append_right _ (List.mem_singleton_self _), hc.trans hsame.symm⟩
        · exact ⟨g, List.mem_append_left _ (List.mem_filter.mpr ⟨hg, by simpa using hsame⟩), rfl⟩
    obtain ⟨g', hg', hc'⟩ := ih (h.await r.call r.timeout now) hg₁
    exact ⟨g', hg', hc'.trans hc₁⟩

end

/-! ## Runs -/

namespace Run

/-- The requests that wait for room. -/
def senders (s : Run) : List Sender := s.bus.client.blocked.map (·.1)

/-- What holds of the states of a run. -/
structure Sound (s : Run) : Prop where
  matched : s.bus.desk.Matched
  freshGuards : ∀ g ∈ s.bus.desk.guards, g.caller < s.nextCall
  freshSenders : ∀ r ∈ s.senders, r.call < s.nextCall
  freshTasks : ∀ t ∈ s.tasks, t.call < s.nextCall
  /-- A guard waits for its response unless its request still waits for room. -/
  idle : ∀ g ∈ s.bus.desk.guards, (g.wait = none ↔ ∃ r ∈ s.senders, r.call = g.caller)
  /-- A task without a result has its guard. -/
  outstanding : ∀ t ∈ s.tasks, t.result = none → ∃ g ∈ s.bus.desk.guards, g.caller = t.call

/-- How a step moves guards and requests on. -/
structure Moved (s : Run) (a : Step) (s' : Run) : Prop where
  now_le : s.now ≤ s'.now
  nextCall_le : s.nextCall ≤ s'.nextCall
  /-- A guard goes on as it was, begins its wait, or is that of a new request. -/
  guards : ∀ g' ∈ s'.bus.desk.guards,
    (∃ g ∈ s.bus.desk.guards, g'.caller = g.caller ∧ g'.wait = g.wait) ∨
    (∃ r ∈ s.senders, g'.caller = r.call ∧
      g'.wait = some ⟨r.timeout, s.now + r.timeout.nanos⟩) ∨
    (∃ name r timeout, a = .request name r timeout ∧ g'.caller = s.nextCall ∧
      ∀ w, g'.wait = some w → w.deadline = s.now + timeout.nanos)
  /-- A request waited for room before, or is the new one. -/
  senders : ∀ r' ∈ s'.senders, r' ∈ s.senders ∨
    ∃ name r timeout, a = .request name r timeout ∧ r'.call = s.nextCall ∧ r'.timeout = timeout

/-- A packet of the client's own goes into the queue or nowhere. -/
theorem offer_cases (s : Run) (p : Packet) (refused : Reply) : (s.offer p refused).2 = s ∨
    ∃ queue, (s.offer p refused).2 =
      { s with bus := { s.bus with client := { s.bus.client with queue } } } := by
  rcases s.bus.client.offer_cases p with ⟨-, heq⟩ | ⟨-, -, -, heq⟩ | ⟨-, -, -, heq⟩
  · exact .inl (by rw [offer, heq])
  · exact .inr ⟨s.bus.client.queue ++ [p], by rw [offer, heq]⟩
  · exact .inl (by rw [offer, heq])

theorem sound_start (capacity : Nat) (responsePrefix : String) (qos : Qos) (words : Wording) :
    (start capacity responsePrefix qos words).Sound :=
  ⟨Desk.matched_empty, nofun, nofun, nofun, nofun, nofun⟩

namespace Sound

variable {s : Run}

/-- Nothing but the queue, the log and tasks with a result is touched. -/
theorem quiet (h : s.Sound) {a : Step} {s' : Run} (hdesk : s'.bus.desk = s.bus.desk)
    (hsenders : s'.senders = s.senders) (hnow : s.now ≤ s'.now) (hnext : s'.nextCall = s.nextCall)
    (htasks : s'.tasks ⊆ s.tasks) : s'.Sound ∧ Moved s a s' := by
  refine ⟨⟨?_, ?_, ?_, ?_, ?_, ?_⟩, ⟨hnow, Nat.le_of_eq hnext.symm, ?_, ?_⟩⟩
  · rw [hdesk]; exact h.matched
  · rw [hdesk, hnext]; exact h.freshGuards
  · rw [hsenders, hnext]; exact h.freshSenders
  · rw [hnext]; exact fun t ht => h.freshTasks t (htasks ht)
  · rw [hdesk, hsenders]; exact h.idle
  · rw [hdesk]; exact fun t ht => h.outstanding t (htasks ht)
  · rw [hdesk]; exact fun g hg => .inl ⟨g, hg, rfl, rfl⟩
  · rw [hsenders]; exact fun r hr => .inl hr

/-- Calls go: some guards are dropped, with them their requests that wait for room, and their tasks
are gone or have a result. -/
theorem without (h : s.Sound) {a : Step} {s' : Run} (gone : CallId → Prop)
    (hmatched : s'.bus.desk.Matched)
    (hguards : ∀ g, g ∈ s'.bus.desk.guards ↔ g ∈ s.bus.desk.guards ∧ ¬ gone g.caller)
    (hsenders : ∀ r, r ∈ s'.senders → r ∈ s.senders)
    (hkept : ∀ r ∈ s.senders, ¬ gone r.call → r ∈ s'.senders)
    (hnow : s'.now = s.now) (hnext : s'.nextCall = s.nextCall)
    (htasks : ∀ t ∈ s'.tasks, ∃ u ∈ s.tasks, u.call = t.call)
    (hleft : ∀ t ∈ s'.tasks, t.result = none → t ∈ s.tasks ∧ ¬ gone t.call) :
    s'.Sound ∧ Moved s a s' := by
  have hold : ∀ g ∈ s'.bus.desk.guards, g ∈ s.bus.desk.guards := fun g hg => ((hguards g).mp hg).1
  refine ⟨⟨hmatched, ?_, ?_, ?_, ?_, ?_⟩, ⟨Nat.le_of_eq hnow.symm, Nat.le_of_eq hnext.symm, ?_, ?_⟩⟩
  · rw [hnext]; exact fun g hg => h.freshGuards g (hold g hg)
  · rw [hnext]; exact fun r hr => h.freshSenders r (hsenders r hr)
  · rw [hnext]
    intro t ht
    obtain ⟨u, hu, hc⟩ := htasks t ht
    rw [← hc]
    exact h.freshTasks u hu
  · -- A guard that stays keeps its sender, and one that waits for room had one that stays.
    intro g hg
    obtain ⟨hmem, hstays⟩ := (hguards g).mp hg
    rw [h.idle g hmem]
    constructor
    · rintro ⟨r, hr, hc⟩
      exact ⟨r, hkept r hr (by rwa [hc]), hc⟩
    · rintro ⟨r, hr, hc⟩
      exact ⟨r, hsenders r hr, hc⟩
  · intro t ht hr
    obtain ⟨hmem, hstays⟩ := hleft t ht hr
    obtain ⟨g, hg, hc⟩ := h.outstanding t hmem hr
    exact ⟨g, (hguards g).mpr ⟨hg, by rwa [hc]⟩, hc⟩
  · exact fun g hg => .inl ⟨g, hold g hg, rfl, rfl⟩
  · exact fun r hr => .inl (hsenders r hr)

/-- Settling lets the calls go whose waits are over. -/
theorem settle (h : s.Sound) {a : Step} : s.settle.Sound ∧ Moved s a s.settle := by
  refine h.without (fun c => ∃ g ∈ s.bus.desk.guards, g.caller = c ∧
      s.bus.desk.outcome? s.now g ≠ none) (h.matched.settle s.now) ?_ (fun r hr => hr)
    (fun r hr _ => hr) rfl rfl (fun t ht => Task.call_of_mem_note ht) ?_
  · intro g
    show g ∈ (s.bus.desk.settle s.now).2.guards ↔ _
    rw [h.matched.mem_settle_guards]
    refine and_congr_right fun hg => ?_
    constructor
    · rintro hnone ⟨g', hg', hc, hover⟩
      rw [h.matched.guard_eq hg' hg hc] at hover
      exact hover hnone
    · intro hstays
      by_contra hover
      exact hstays ⟨g, hg, rfl, hover⟩
  · intro t ht hr
    obtain ⟨hmem, hnone⟩ := Task.mem_of_mem_note ht hr
    refine ⟨hmem, ?_⟩
    rintro ⟨g, hg, hc, hover⟩
    -- A wait that is over has a result, and that is noted.
    obtain ⟨r, hr⟩ := Option.ne_none_iff_exists'.mp hover
    exact hnone _ (Desk.mem_settle_results.mpr ⟨g, hg, rfl, hr⟩) hc

/-- A packet of the client's own touches the queue at most. -/
theorem offer (h : s.Sound) {a : Step} (p : Packet) (refused : Reply) :
    (s.offer p refused).2.Sound ∧ Moved s a (s.offer p refused).2 := by
  rcases s.offer_cases p refused with heq | ⟨queue, heq⟩
  · rw [heq]
    exact h.quiet rfl rfl (Nat.le_refl _) rfl (List.Subset.refl _)
  · rw [heq]
    exact h.quiet rfl rfl (Nat.le_refl _) rfl (List.Subset.refl _)

/-- A response goes into a guard and changes nothing of the waits. -/
theorem incoming (h : s.Sound) {a : Step} (words : Wording) (fresh topic : String)
    (payload : List UInt8) (made : Nat) :
    Sound { s with bus := (s.bus.incoming words fresh topic payload).2.2, made } ∧
      Moved s a { s with bus := (s.bus.incoming words fresh topic payload).2.2, made } := by
  rcases s.bus.incoming_cases words fresh topic payload with heq | ⟨response, heq⟩
  · rw [heq]
    exact h.quiet rfl rfl (Nat.le_refl _) rfl (List.Subset.refl _)
  rw [heq]
  have hmatched := h.matched.complete response
  rcases h.matched.complete_cases response with ⟨-, hdesk⟩ | ⟨g₀, -, -, -, -, hdesk⟩
  · rw [hdesk]
    exact h.quiet rfl rfl (Nat.le_refl _) rfl (List.Subset.refl _)
  rw [hdesk] at hmatched ⊢
  -- A response is put into a guard that was there; caller and wait stay.
  have hold : ∀ g' ∈ s.bus.desk.guards.map (fun g' =>
      if g'.caller = g₀.caller then { g' with response := some response } else g'),
      ∃ g ∈ s.bus.desk.guards, g'.caller = g.caller ∧ g'.wait = g.wait := by
    intro g' hg'
    rcases Desk.mem_guards_deliver.mp hg' with ⟨g, hg, -, rfl⟩ | ⟨hg, -⟩
    · exact ⟨g, hg, rfl, rfl⟩
    · exact ⟨g', hg, rfl, rfl⟩
  refine ⟨⟨hmatched, ?_, h.freshSenders, h.freshTasks, ?_, ?_⟩,
    ⟨Nat.le_refl _, Nat.le_refl _, fun g' hg' => .inl (hold g' hg'), fun r hr => .inl hr⟩⟩
  · intro g' hg'
    obtain ⟨g, hg, hc, -⟩ := hold g' hg'
    rw [hc]
    exact h.freshGuards g hg
  · intro g' hg'
    obtain ⟨g, hg, hc, hw⟩ := hold g' hg'
    rw [hc, hw]
    exact h.idle g hg
  · intro t ht hr
    obtain ⟨g, hg, hc⟩ := h.outstanding t ht hr
    by_cases hsame : g.caller = g₀.caller
    · exact ⟨_, Desk.mem_guards_deliver.mpr (.inl ⟨g, hg, hsame, rfl⟩), hc⟩
    · exact ⟨g, Desk.mem_guards_deliver.mpr (.inr ⟨hg, hsame⟩), hc⟩

/-- The link takes all packets, and every wait for a response begins. -/
theorem drain (h : s.Sound) {a : Step} :
    Sound { s with bus := (s.bus.drain s.now).2 } ∧
      Moved s a { s with bus := (s.bus.drain s.now).2 } := by
  have hbus : (s.bus.drain s.now).2 = { s.bus with
      client := { s.bus.client with queue := [], blocked := [] }
      desk := s.senders.foldl (fun d r => d.await r.call r.timeout s.now) s.bus.desk } :=
    s.bus.drain_bus s.now
  rw [hbus]
  -- A guard waits as before, or it is of a sender and its time begins now.
  have hguards : ∀ g' ∈ (s.senders.foldl (fun d r => d.await r.call r.timeout s.now)
      s.bus.desk).guards,
      (g' ∈ s.bus.desk.guards ∧ ∀ r ∈ s.senders, r.call ≠ g'.caller) ∨
      ∃ r ∈ s.senders, g'.caller = r.call ∧
        g'.wait = some ⟨r.timeout, s.now + r.timeout.nanos⟩ :=
    fun g' hg' => guards_foldl_await h.matched hg'
  refine ⟨⟨matched_foldl_await h.matched _, ?_, nofun, h.freshTasks, ?_, ?_⟩,
    ⟨Nat.le_refl _, Nat.le_refl _, ?_, nofun⟩⟩
  · intro g' hg'
    rcases hguards g' hg' with ⟨hold, -⟩ | ⟨r, hr, hc, -⟩
    · exact h.freshGuards g' hold
    · rw [hc]
      exact h.freshSenders r hr
  · intro g' hg'
    refine iff_of_false ?_ nofun
    rcases hguards g' hg' with ⟨hold, hnone⟩ | ⟨r, hr, hc, hw⟩
    · rw [h.idle g' hold]
      rintro ⟨r, hr, hc⟩
      exact hnone r hr hc
    · rw [hw]
      exact nofun
  · intro t ht hr
    obtain ⟨g, hg, hc⟩ := h.outstanding t ht hr
    obtain ⟨g', hg', hc'⟩ := callers_foldl_await h.matched s.senders hg
    exact ⟨g', hg', hc'.trans hc⟩
  · intro g' hg'
    rcases hguards g' hg' with ⟨hold, -⟩ | hbegun
    · exact .inl ⟨g', hold, rfl, rfl⟩
    · exact .inr (.inl hbegun)

/-- The link goes away, and with it the requests that waited for room. -/
theorem close (h : s.Sound) {a : Step} :
    Sound { s with
      bus := s.bus.close.2, tasks := CommandRelay.Bus.Task.note s.tasks s.bus.close.1 } ∧
    Moved s a { s with
      bus := s.bus.close.2, tasks := CommandRelay.Bus.Task.note s.tasks s.bus.close.1 } := by
  have hbus : s.bus.close.2 = { s.bus with
      client := { s.bus.client with queue := [], blocked := [], closed := true }
      desk := (s.senders.map (·.call)).foldl Desk.drop s.bus.desk } := s.bus.close_bus
  -- Everyone who waits for room is told, so no task of theirs is left without a result.
  have hended : ∀ r ∈ s.senders, ∃ e ∈ s.bus.close.1, e.1 = r.call := by
    intro r hr
    exact ⟨_, List.mem_map.mpr ⟨r, hr, rfl⟩, rfl⟩
  refine h.without (fun c => ∃ r ∈ s.senders, r.call = c) ?_ ?_ nofun
    (fun r hr hstays => absurd ⟨r, hr, rfl⟩ hstays) rfl rfl
    (fun t ht => Task.call_of_mem_note ht) ?_
  · rw [hbus]
    exact Desk.matched_foldl_drop h.matched _
  · intro g
    rw [hbus]
    show g ∈ ((s.senders.map (·.call)).foldl Desk.drop s.bus.desk).guards ↔ _
    rw [Desk.mem_guards_foldl_drop h.matched, List.mem_map]
  · intro t ht hr
    obtain ⟨hmem, hnone⟩ := Task.mem_of_mem_note ht hr
    refine ⟨hmem, ?_⟩
    rintro ⟨r, hr, hc⟩
    obtain ⟨e, he, hec⟩ := hended r hr
    exact hnone e he (hec.trans hc)

/-- A task is given up, with all that belongs to its call. -/
theorem cancel (h : s.Sound) {a : Step} (call : CallId) :
    Sound { s with
      bus := s.bus.cancel call, tasks := CommandRelay.Bus.Task.remove s.tasks call } ∧
    Moved s a { s with
      bus := s.bus.cancel call, tasks := CommandRelay.Bus.Task.remove s.tasks call } := by
  -- The call loses its guard, its place in the line and its task, and nobody else loses any.
  have hsenders : ∀ r, r ∈ senders { s with
      bus := s.bus.cancel call, tasks := CommandRelay.Bus.Task.remove s.tasks call } ↔
      r ∈ s.senders ∧ r.call ≠ call := by
    intro r
    show r ∈ (s.bus.client.blocked.filter _).map _ ↔ _
    rw [senders, List.mem_map, List.mem_map]
    constructor
    · rintro ⟨b, hb, rfl⟩
      obtain ⟨hmem, hne⟩ := List.mem_filter.mp hb
      exact ⟨⟨b, hmem, rfl⟩, by simpa using hne⟩
    · rintro ⟨⟨b, hb, rfl⟩, hne⟩
      exact ⟨b, List.mem_filter.mpr ⟨hb, by simpa using hne⟩, rfl⟩
  refine h.without (fun c => c = call) (h.matched.drop call) ?_
    (fun r hr => ((hsenders r).mp hr).1) (fun r hr hstays => (hsenders r).mpr ⟨hr, hstays⟩) rfl rfl
    (fun t ht => ⟨t, (List.mem_filter.mp ht).1, rfl⟩) ?_
  · intro g
    show g ∈ (s.bus.desk.drop call).guards ↔ _
    rw [h.matched.drop_guards, List.mem_filter, bne_iff_ne]
  · intro t ht hr
    obtain ⟨hmem, hne⟩ := List.mem_filter.mp ht
    exact ⟨hmem, by simpa using hne⟩

end Sound

/-- A request of a new call is added: its guard behind all others, and the request behind all that
wait for room if the guard does not wait yet. -/
structure Enlarged (s s' : Run) (timeout : Duration) (g : Guard) (sender : Sender) : Prop where
  guards : s'.bus.desk.guards = s.bus.desk.guards ++ [g]
  caller : g.caller = s.nextCall
  call : sender.call = s.nextCall
  limit : sender.timeout = timeout
  way : g.wait = some ⟨timeout, s.now + timeout.nanos⟩ ∧ s'.senders = s.senders ∨
    g.wait = none ∧ s'.senders = s.senders ++ [sender]

namespace Enlarged

variable {s s' : Run} {timeout : Duration} {g g' : Guard} {sender r' : Sender}
  (h : Enlarged s s' timeout g sender)

include h

theorem mem_guards : g' ∈ s'.bus.desk.guards ↔ g' ∈ s.bus.desk.guards ∨ g' = g := by
  rw [h.guards, List.mem_append, List.mem_singleton]

/-- A request that waits for room did before, or is the new one. -/
theorem mem_senders (hr' : r' ∈ s'.senders) : r' ∈ s.senders ∨ r' = sender := by
  rcases h.way with ⟨-, heq⟩ | ⟨-, heq⟩
  · exact .inl (heq ▸ hr')
  · rw [heq] at hr'
    exact (List.mem_append.mp hr').imp_right List.mem_singleton.mp

theorem senders_subset : s.senders ⊆ s'.senders := by
  rcases h.way with ⟨-, heq⟩ | ⟨-, heq⟩
  · rw [heq]
    exact List.Subset.refl _
  · rw [heq]
    exact List.subset_append_left _ _

/-- The new guard waits for its response unless the new request waits for room. -/
theorem idle_new (hs : s.Sound) : g.wait = none ↔ ∃ r ∈ s'.senders, r.call = g.caller := by
  rcases h.way with ⟨hw, heq⟩ | ⟨hw, heq⟩
  · refine iff_of_false (by rw [hw]; exact nofun) ?_
    rintro ⟨r, hr, hc⟩
    rw [heq] at hr
    exact absurd (hc.trans h.caller) (Nat.ne_of_lt (hs.freshSenders r hr))
  · refine iff_of_true hw ⟨sender, ?_, h.call.trans h.caller.symm⟩
    rw [heq]
    exact List.mem_append_right _ (List.mem_singleton_self _)

/-- The guards of before wait for what they waited for: the new request is none of theirs. -/
theorem idle_old (hs : s.Sound) (hg' : g' ∈ s.bus.desk.guards) :
    g'.wait = none ↔ ∃ r ∈ s'.senders, r.call = g'.caller := by
  rw [hs.idle g' hg']
  constructor
  · rintro ⟨r, hr, hc⟩
    exact ⟨r, h.senders_subset hr, hc⟩
  · rintro ⟨r, hr, hc⟩
    rcases h.mem_senders hr with hr | rfl
    · exact ⟨r, hr, hc⟩
    · exact absurd (hc.symm.trans h.call) (Nat.ne_of_lt (hs.freshGuards g' hg'))

/-- How the request moves guards and requests on. -/
theorem moved (hnow : s'.now = s.now) (hnext : s'.nextCall = s.nextCall + 1) (name : String)
    (r : CommandRelay.Bus.Request) : Moved s (.request name r timeout) s' := by
  refine ⟨Nat.le_of_eq hnow.symm, hnext ▸ Nat.le_succ _, fun g' hg' => ?_, fun r' hr' => ?_⟩
  · rcases h.mem_guards.mp hg' with hg' | rfl
    · exact .inl ⟨g', hg', rfl, rfl⟩
    · refine .inr (.inr ⟨name, r, timeout, rfl, h.caller, fun w hw => ?_⟩)
      rcases h.way with ⟨hbegun, -⟩ | ⟨hnone, -⟩
      · rw [hbegun] at hw
        rw [← Option.some.inj hw]
      · rw [hnone] at hw
        cases hw
  · rcases h.mem_senders hr' with hr' | rfl
    · exact .inl hr'
    · exact .inr ⟨name, r, timeout, rfl, h.call, h.limit⟩

/-- A state with one more request is sound, if its task is the only new one. -/
theorem sound (hs : s.Sound) (hmatched : s'.bus.desk.Matched) (hnext : s'.nextCall = s.nextCall + 1)
    (htasks : ∀ t ∈ s'.tasks, t.call = s.nextCall ∨
      ∃ u ∈ s.tasks, t.call = u.call ∧ t.result = u.result) : s'.Sound where
  matched := hmatched
  freshGuards := by
    intro g' hg'
    rw [hnext]
    rcases h.mem_guards.mp hg' with hg' | rfl
    · exact Nat.lt_succ_of_lt (hs.freshGuards g' hg')
    · rw [h.caller]
      exact Nat.lt_succ_self _
  freshSenders := by
    intro r' hr'
    rw [hnext]
    rcases h.mem_senders hr' with hr' | rfl
    · exact Nat.lt_succ_of_lt (hs.freshSenders r' hr')
    · rw [h.call]
      exact Nat.lt_succ_self _
  freshTasks := by
    intro t ht
    rw [hnext]
    rcases htasks t ht with hc | ⟨u, hu, hc, -⟩
    · rw [hc]
      exact Nat.lt_succ_self _
    · rw [hc]
      exact Nat.lt_succ_of_lt (hs.freshTasks u hu)
  idle := by
    intro g' hg'
    rcases h.mem_guards.mp hg' with hg' | rfl
    · exact h.idle_old hs hg'
    · exact h.idle_new hs
  outstanding := by
    intro t ht hr
    rcases htasks t ht with hc | ⟨u, hu, hc, hresult⟩
    · exact ⟨g, h.mem_guards.mpr (.inr rfl), h.caller.trans hc.symm⟩
    · obtain ⟨g', hg', hc'⟩ := hs.outstanding u hu (hresult.symm.trans hr)
      exact ⟨g', h.mem_guards.mpr (.inl hg'), hc'.trans hc.symm⟩

end Enlarged

namespace Sound

variable {s : Run}

/-- A request in a new task is refused, and the task has its result; or its guard is added, and it
waits for its response or for room. -/
theorem startTask_cases (h : s.Sound) (name : String) (r : CommandRelay.Bus.Request)
    (timeout : Duration) :
    (∃ f desk, s.startTask name r timeout = { s with
        bus := { s.bus with desk }
        nextCall := s.nextCall + 1
        tasks := CommandRelay.Bus.Task.add s.tasks ⟨some name, s.nextCall, some (.error f)⟩ } ∧
      desk.Matched ∧ desk.guards = s.bus.desk.guards) ∨
    (∃ g client desk, s.startTask name r timeout = { s with
        bus := { s.bus with client, desk }
        nextCall := s.nextCall + 1
        tasks := CommandRelay.Bus.Task.add s.tasks ⟨some name, s.nextCall, none⟩ } ∧
      desk.Matched ∧ desk.guards = s.bus.desk.guards ++ [g] ∧ g.caller = s.nextCall ∧
      (g.wait = some ⟨timeout, s.now + timeout.nanos⟩ ∧ client.blocked = s.bus.client.blocked ∨
        g.wait = none ∧ s.bus.client.capacity ≤ s.bus.client.queue.length ∧
          client.blocked = s.bus.client.blocked ++
            [(Bus.senderOf s.nextCall r timeout, s.bus.requestPacket r)])) := by
  have hnew : ∀ g ∈ s.bus.desk.guards, g.caller ≠ s.nextCall :=
    fun g hg => Nat.ne_of_lt (h.freshGuards g hg)
  have hregistered := h.matched.register r.envelope.requestId hnew
  have hadmission := Bus.request_admission h.matched hnew r timeout s.now
  -- What becomes of the request is decided by the admission; the state follows it.
  generalize s.bus.refusal? (s.bus.desk.waiters.map (·.requestId)) r = refusal at hadmission
  generalize hrequest : s.bus.request s.nextCall r timeout s.now = outcome at hadmission
  cases hadmission with
  | refused f ticket =>
    exact .inl ⟨f, _, by simp only [Run.startTask, hrequest], h.matched.withTicket ticket, rfl⟩
  | sent hid hfree hroom =>
    have hguards := congrArg Desk.guards (h.matched.register_await hnew hid hfree timeout s.now)
    have hstart : s.startTask name r timeout = { s with
        bus := { s.bus with
          client := { s.bus.client with queue := s.bus.client.queue ++ [s.bus.requestPacket r] }
          desk := (s.bus.desk.register s.nextCall r.envelope.requestId).2.await s.nextCall timeout
            s.now }
        nextCall := s.nextCall + 1
        tasks := CommandRelay.Bus.Task.add s.tasks ⟨some name, s.nextCall, none⟩ } := by
      simp only [Run.startTask, hrequest]
    exact .inr ⟨_, _, _, hstart, hregistered.await s.nextCall timeout s.now, hguards, rfl,
      .inl ⟨rfl, rfl⟩⟩
  | blocked hid hfree hfull =>
    have hguards : (s.bus.desk.register s.nextCall r.envelope.requestId).2.guards =
        s.bus.desk.guards ++
          [⟨s.nextCall, r.envelope.requestId, s.bus.desk.nextTicket, none, none⟩] := by
      rw [Desk.register_eq_of_free s.nextCall hid hfree]
    have hstart : s.startTask name r timeout = { s with
        bus := { s.bus with
          client := { s.bus.client with blocked := s.bus.client.blocked ++
            [(Bus.senderOf s.nextCall r timeout, s.bus.requestPacket r)] }
          desk := (s.bus.desk.register s.nextCall r.envelope.requestId).2 }
        nextCall := s.nextCall + 1
        tasks := CommandRelay.Bus.Task.add s.tasks ⟨some name, s.nextCall, none⟩ } := by
      simp only [Run.startTask, hrequest]
    exact .inr ⟨_, _, _, hstart, hregistered, hguards, rfl, .inr ⟨rfl, hfull, rfl⟩⟩

/-- A request in a new task. -/
theorem startTask (h : s.Sound) (name : String) (r : CommandRelay.Bus.Request)
    (timeout : Duration) :
    (s.startTask name r timeout).Sound ∧
      Moved s (.request name r timeout) (s.startTask name r timeout) := by
  -- Every task but the new one was there before, with the same call and result.
  have htasks : ∀ result, ∀ t ∈ CommandRelay.Bus.Task.add s.tasks ⟨some name, s.nextCall, result⟩,
      (t.call = s.nextCall ∧ t.result = result) ∨
      ∃ u ∈ s.tasks, t.call = u.call ∧ t.result = u.result := by
    intro result t ht
    rcases Task.mem_add ht with rfl | hold
    · exact .inl ⟨rfl, rfl⟩
    · exact .inr hold
  rcases h.startTask_cases name r timeout with
    ⟨f, desk, heq, hmatched, hguards⟩ | ⟨g, client, desk, heq, hmatched, hguards, hgc, hway⟩
  · -- Nothing waits; the task has its result.
    rw [heq]
    refine ⟨⟨hmatched, ?_, fun r hr => Nat.lt_succ_of_lt (h.freshSenders r hr), ?_, ?_, ?_⟩,
      ⟨Nat.le_refl _, Nat.le_succ _, ?_, fun r hr => .inl hr⟩⟩
    · show ∀ g ∈ desk.guards, _
      rw [hguards]
      exact fun g hg => Nat.lt_succ_of_lt (h.freshGuards g hg)
    · intro t ht
      rcases htasks _ t ht with ⟨hc, -⟩ | ⟨u, hu, hc, -⟩
      · rw [hc]
        exact Nat.lt_succ_self _
      · rw [hc]
        exact Nat.lt_succ_of_lt (h.freshTasks u hu)
    · show ∀ g ∈ desk.guards, _
      rw [hguards]
      exact h.idle
    · intro t ht hr
      show ∃ g ∈ desk.guards, _
      rw [hguards]
      rcases htasks _ t ht with ⟨-, hresult⟩ | ⟨u, hu, hc, hresult⟩
      · rw [hr] at hresult
        cases hresult
      · rw [hc]
        exact h.outstanding u hu (hresult.symm.trans hr)
    · show ∀ g ∈ desk.guards, _
      rw [hguards]
      exact fun g hg => .inl ⟨g, hg, rfl, rfl⟩
  · rw [heq]
    have henlarged : Enlarged s { s with
        bus := { s.bus with client, desk }
        nextCall := s.nextCall + 1
        tasks := CommandRelay.Bus.Task.add s.tasks ⟨some name, s.nextCall, none⟩ } timeout g
        (Bus.senderOf s.nextCall r timeout) := by
      refine ⟨hguards, hgc, rfl, rfl, ?_⟩
      rcases hway with ⟨hw, hblocked⟩ | ⟨hw, -, hblocked⟩
      · exact .inl ⟨hw, congrArg (List.map _) hblocked⟩
      · refine .inr ⟨hw, ?_⟩
        show client.blocked.map _ = _
        rw [hblocked, List.map_append]
        rfl
    exact ⟨henlarged.sound h hmatched rfl fun t ht => (htasks _ t ht).imp_left And.left,
      henlarged.moved rfl rfl name r⟩

end Sound

/-! ## Every step -/

theorem stepNow_incoming (fresh : Nat → String) (s : Run) (topic : String) (payload : List UInt8) :
    (s.stepNow fresh (.incoming topic payload)).2.2 =
      { s with
        bus := (s.bus.incoming s.wording (fresh s.made) topic payload).2.2
        made := s.made + 1 } := by
  rw [stepNow]

namespace Sound

variable {s : Run}

/-- What a step does before the tasks go on. -/
theorem stepNow (h : s.Sound) (fresh : Nat → String) (a : Step) :
    (s.stepNow fresh a).2.2.Sound ∧ Moved s a (s.stepNow fresh a).2.2 := by
  cases a with
  | filter => exact h.quiet rfl rfl (Nat.le_refl _) rfl (List.Subset.refl _)
  | subscribeResponses => exact h.offer _ _
  | subscribe filter qos => exact h.offer _ _
  | publish topic delivery payload => exact h.offer _ _
  | disconnect => exact h.offer _ _
  | request name r timeout => exact h.startTask name r timeout
  | poll name =>
    exact h.quiet rfl rfl (Nat.le_refl _) rfl (Task.poll_subset s.tasks name)
  | cancel name =>
    rw [Run.stepNow]
    split
    · exact h.quiet rfl rfl (Nat.le_refl _) rfl (List.Subset.refl _)
    · rename_i t _
      exact h.cancel t.call
  | advance d =>
    have hle : s.now ≤ s.now + d.nanos := Nat.le_add_right _ _
    exact h.quiet rfl rfl hle rfl (List.Subset.refl _)
  | incoming topic payload =>
    rw [stepNow_incoming]
    exact h.incoming s.wording (fresh s.made) topic payload (s.made + 1)
  | drain => exact h.drain
  | close => exact h.close

end Sound

/-- Settling after a step adds nothing to what the step moved. -/
theorem Moved.settle {s s' s'' : Run} {a b : Step} (h : Moved s a s') (hs : Moved s' b s'')
    (hguards : s''.bus.desk.guards ⊆ s'.bus.desk.guards) (hsenders : s''.senders ⊆ s'.senders) :
    Moved s a s'' :=
  ⟨Nat.le_trans h.now_le hs.now_le, Nat.le_trans h.nextCall_le hs.nextCall_le,
    fun g hg => h.guards g (hguards hg), fun r hr => h.senders r (hsenders hr)⟩

/-- A step keeps the state sound, and moves guards and requests on. -/
theorem Sound.step {s : Run} (h : s.Sound) (fresh : Nat → String) (a : Step) :
    (s.step fresh a).2.2.Sound ∧ Moved s a (s.step fresh a).2.2 := by
  obtain ⟨hnow, hmoved⟩ := h.stepNow fresh a
  obtain ⟨hsound, hsettled⟩ := hnow.settle (a := a)
  refine ⟨hsound, hmoved.settle hsettled ?_ (List.Subset.refl _)⟩
  exact fun g hg => (hnow.matched.mem_settle_guards.mp hg).1

/-- No wait is over that is still on. -/
def Undue (s : Run) : Prop := ∀ g ∈ s.bus.desk.guards, ∀ w, g.wait = some w → s.now < w.deadline

/-- After a step no wait is due. -/
theorem Sound.step_undue {s : Run} (h : s.Sound) (fresh : Nat → String) (a : Step) :
    (s.step fresh a).2.2.Undue := by
  intro g hg w hw
  obtain ⟨-, hopen⟩ := (h.stepNow fresh a).1.matched.mem_settle_guards.mp hg
  by_contra hdue
  exact Desk.outcome?_ne_none hw (Nat.le_of_not_lt hdue) hopen

/-! ## Whole runs -/

/-- The state after some steps. -/
def after (fresh : Nat → String) (s : Run) (steps : List Step) : Run :=
  steps.foldl (fun s a => (s.step fresh a).2.2) s

theorem after_cons (fresh : Nat → String) (s : Run) (a : Step) (steps : List Step) :
    s.after fresh (a :: steps) = (s.step fresh a).2.2.after fresh steps := rfl

theorem after_append (fresh : Nat → String) (s : Run) (front back : List Step) :
    s.after fresh (front ++ back) = (s.after fresh front).after fresh back :=
  List.foldl_append

/-- Every run keeps the state sound. -/
theorem Sound.after {s : Run} (h : s.Sound) (fresh : Nat → String) (steps : List Step) :
    (s.after fresh steps).Sound := by
  induction steps generalizing s with
  | nil => exact h
  | cons a steps ih => exact ih (h.step fresh a).1

/-- After any number of further steps no wait is due. -/
theorem Undue.after {s : Run} (h : s.Undue) (hs : s.Sound) (fresh : Nat → String)
    (steps : List Step) : (s.after fresh steps).Undue := by
  induction steps generalizing s with
  | nil => exact h
  | cons a steps ih => exact ih (hs.step_undue fresh a) (hs.step fresh a).1

end Run

end CommandRelay.Mqtt
