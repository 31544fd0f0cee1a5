import Mathlib
import CommandRelay.Bus.Local
import CommandRelay.Bus.Task

/-!
# Tasks that wait for results

A result is noted in the task of its call and in no other one, a new task takes nothing but its name
from the others, and only a task that has its result goes when it is asked for.  So which calls wait
is told for each of these without a look at the tasks (`waits_add`, `waits_remove`, `waits_note`,
`waits_poll`).
-/

namespace CommandRelay.Bus

/-- A request as it was made in a run: the number of its call, how long it may take, and when it was
made. -/
structure Inquiry where
  call : CallId
  request : Request
  timeout : Duration
  start : Instant

/-- The request ID of a request. -/
def Inquiry.requestId (k : Inquiry) : String := k.request.envelope.requestId

namespace Task

open Correlation

variable {tasks : List Task} {ended : List (CallId × CallResult)} {t u : Task}

/-- Noting results changes no call. -/
theorem call_of_mem_note (h : t ∈ note tasks ended) : ∃ u ∈ tasks, u.call = t.call := by
  obtain ⟨u, hu, rfl⟩ := List.mem_map.mp h
  refine ⟨u, hu, ?_⟩
  split <;> rfl

/-- A task after noting has a result that was noted for it, or none was and it is as before. -/
theorem note_cases (h : t ∈ note tasks ended) :
    (∃ e ∈ ended, e.1 = t.call ∧ t.result = some e.2) ∨
    (t ∈ tasks ∧ ∀ e ∈ ended, e.1 ≠ t.call) := by
  obtain ⟨u, hu, rfl⟩ := List.mem_map.mp h
  cases hfind : ended.find? (·.1 == u.call) with
  | some e =>
    exact .inl ⟨e, List.mem_of_find?_eq_some hfind, by simpa using List.find?_some hfind, rfl⟩
  | none =>
    refine .inr ⟨hu, fun e he => ?_⟩
    simpa using List.find?_eq_none.mp hfind e he

/-- A task that has no result after noting had none before, and none was noted for it. -/
theorem mem_of_mem_note (h : t ∈ note tasks ended) (hr : t.result = none) :
    t ∈ tasks ∧ ∀ e ∈ ended, e.1 ≠ t.call := by
  rcases note_cases h with ⟨e, -, -, hsome⟩ | hold
  · rw [hr] at hsome
    cases hsome
  · exact hold

/-- Nothing is noted for a task that no result is for. -/
theorem mem_note_of_mem (h : t ∈ tasks) (hnone : ∀ e ∈ ended, e.1 ≠ t.call) :
    t ∈ note tasks ended := by
  refine List.mem_map.mpr ⟨t, h, ?_⟩
  have hfind : ended.find? (·.1 == t.call) = none :=
    List.find?_eq_none.mpr fun e he => by simpa using hnone e he
  rw [hfind]

/-- A result that is noted for a call, and no other one, is found in its task. -/
theorem exists_mem_note {call : CallId} {r : CallResult} (hcall : call ∈ tasks.map (·.call))
    (he : (call, r) ∈ ended) (hone : ∀ e ∈ ended, e.1 = call → e.2 = r) :
    ∃ t ∈ note tasks ended, t.call = call ∧ t.result = some r := by
  obtain ⟨u, hu, rfl⟩ := List.mem_map.mp hcall
  refine ⟨_, List.mem_map.mpr ⟨u, hu, rfl⟩, ?_, ?_⟩
  · split <;> rfl
  · cases hfind : ended.find? (·.1 == u.call) with
    | none => exact absurd (List.find?_eq_none.mp hfind _ he) (by simp)
    | some e =>
      have hc : e.1 = u.call := by simpa using List.find?_some hfind
      exact congrArg some (hone e (List.mem_of_find?_eq_some hfind) hc)

/-- A task is the one that was added, or one that was there, under whatever name. -/
theorem mem_add (h : u ∈ add tasks t) :
    u = t ∨ ∃ v ∈ tasks, u.call = v.call ∧ u.result = v.result := by
  rcases List.mem_cons.mp h with rfl | h
  · exact .inl rfl
  · obtain ⟨v, hv, rfl⟩ := List.mem_map.mp h
    refine .inr ⟨v, hv, ?_⟩
    split <;> exact ⟨rfl, rfl⟩

/-- No call goes when a task is added. -/
theorem exists_mem_add (h : u ∈ tasks) : ∃ v ∈ add tasks t, v.call = u.call := by
  refine ⟨_, List.mem_cons_of_mem _ (List.mem_map.mpr ⟨u, h, rfl⟩), ?_⟩
  split <;> rfl

/-- Asking takes at most a task out that has a result. -/
theorem poll_cases (tasks : List Task) (name : String) : (poll tasks name).2 = tasks ∨
    ∃ t ∈ tasks, t.result ≠ none ∧ (poll tasks name).2 = remove tasks t.call := by
  rw [poll]
  cases hfind : find? tasks name with
  | none => exact .inl rfl
  | some t =>
    dsimp only
    cases hr : t.result with
    | none => exact .inl rfl
    | some r => exact .inr ⟨t, List.mem_of_find?_eq_some hfind, by simp [hr], rfl⟩

/-- Asking for a result takes a task away at most. -/
theorem poll_subset (tasks : List Task) (name : String) : (poll tasks name).2 ⊆ tasks := by
  rcases poll_cases tasks name with heq | ⟨t, -, -, heq⟩
  · rw [heq]
    exact List.Subset.refl _
  · rw [heq]
    exact List.filter_subset_self _

/-! ## The calls of the tasks -/

/-- An added task brings its call, in front of all others. -/
theorem calls_add (tasks : List Task) (t : Task) :
    (add tasks t).map (·.call) = t.call :: tasks.map (·.call) := by
  rw [add, List.map_cons, List.map_map]
  refine congrArg (List.cons _) (List.map_congr_left fun u _ => ?_)
  rw [Function.comp_apply]
  split <;> rfl

/-- Noting results leaves the calls as they are, in their order. -/
theorem calls_note (tasks : List Task) (ended : List (CallId × CallResult)) :
    (note tasks ended).map (·.call) = tasks.map (·.call) := by
  rw [note, List.map_map]
  refine List.map_congr_left fun u _ => ?_
  rw [Function.comp_apply]
  split <;> rfl

/-- Removing the tasks of a call removes that call only. -/
theorem calls_remove (tasks : List Task) (call : CallId) :
    (remove tasks call).map (·.call) = (tasks.map (·.call)).filter (· != call) := by
  rw [remove, List.filter_map]
  rfl

/-- Asking leaves the calls as they are, or takes one out. -/
theorem calls_poll_sublist (tasks : List Task) (name : String) :
    ((poll tasks name).2.map (·.call)).Sublist (tasks.map (·.call)) := by
  rcases poll_cases tasks name with heq | ⟨t, -, -, heq⟩
  · rw [heq]
  · rw [heq, calls_remove]
    exact List.filter_sublist

/-! ## The calls that wait -/

/-- A call waits: its task has no result yet. -/
def Waits (tasks : List Task) (call : CallId) : Prop := ∃ t ∈ tasks, t.call = call ∧ t.result = none

instance (tasks : List Task) (call : CallId) : Decidable (Waits tasks call) :=
  decidable_of_iff (tasks.any fun t => t.call == call && t.result.isNone)
    (by simp [Waits, List.any_eq_true])

variable {call : CallId}

/-- A call that waits is there. -/
theorem Waits.mem (h : Waits tasks call) : call ∈ tasks.map (·.call) := by
  obtain ⟨t, ht, rfl, -⟩ := h
  exact List.mem_map_of_mem ht

/-- After a task is added a call waits if it did before, or if it is the call of the new task and
has no result. -/
theorem waits_add : Waits (add tasks t) call ↔
    Waits tasks call ∨ (t.call = call ∧ t.result = none) := by
  constructor
  · rintro ⟨u, hu, hc, hr⟩
    rcases mem_add hu with rfl | ⟨v, hv, hvc, hvr⟩
    · exact .inr ⟨hc, hr⟩
    · exact .inl ⟨v, hv, hvc.symm.trans hc, hvr.symm.trans hr⟩
  · rintro (⟨u, hu, hc, hr⟩ | ⟨hc, hr⟩)
    · refine ⟨_, List.mem_cons_of_mem _ (List.mem_map.mpr ⟨u, hu, rfl⟩), ?_, ?_⟩
      · split <;> exact hc
      · split <;> exact hr
    · exact ⟨t, List.mem_cons_self, hc, hr⟩

/-- After the tasks of a call are removed all other calls wait as before. -/
theorem waits_remove {c : CallId} :
    Waits (remove tasks c) call ↔ Waits tasks call ∧ call ≠ c := by
  constructor
  · rintro ⟨t, ht, rfl, hr⟩
    obtain ⟨ht, hne⟩ := List.mem_filter.mp ht
    exact ⟨⟨t, ht, rfl, hr⟩, bne_iff_ne.mp hne⟩
  · rintro ⟨⟨t, ht, rfl, hr⟩, hne⟩
    exact ⟨t, List.mem_filter.mpr ⟨ht, bne_iff_ne.mpr hne⟩, rfl, hr⟩

/-- After results are noted a call waits if it did before and has none of them. -/
theorem waits_note :
    Waits (note tasks ended) call ↔ Waits tasks call ∧ ∀ e ∈ ended, e.1 ≠ call := by
  constructor
  · rintro ⟨t, ht, rfl, hr⟩
    obtain ⟨ht, hnone⟩ := mem_of_mem_note ht hr
    exact ⟨⟨t, ht, rfl, hr⟩, hnone⟩
  · rintro ⟨⟨t, ht, rfl, hr⟩, hnone⟩
    exact ⟨t, mem_note_of_mem ht hnone, rfl, hr⟩

/-- Asking ends no wait, for the task that it takes out has its result. -/
theorem waits_poll (h : (tasks.map (·.call)).Nodup) (name : String) :
    Waits (poll tasks name).2 call ↔ Waits tasks call := by
  rcases poll_cases tasks name with heq | ⟨t, ht, hr, heq⟩
  · rw [heq]
  rw [heq, waits_remove, and_iff_left_iff_imp]
  rintro ⟨u, hu, rfl, hu'⟩ hsame
  rw [List.inj_on_of_nodup_map h hu ht hsame] at hu'
  exact hr hu'

/-- What is noted depends on the results only, not on their order. -/
theorem note_congr {ended' : List (CallId × CallResult)} (hmem : ∀ e, e ∈ ended ↔ e ∈ ended')
    (hone : ∀ e ∈ ended, ∀ e' ∈ ended, e.1 = e'.1 → e = e') :
    note tasks ended = note tasks ended' := by
  refine List.map_congr_left fun t _ => ?_
  have hfind : ended.find? (·.1 == t.call) = ended'.find? (·.1 == t.call) := by
    cases h : ended.find? (·.1 == t.call) with
    | none =>
      refine (List.find?_eq_none.mpr fun e he => ?_).symm
      exact List.find?_eq_none.mp h e ((hmem e).mpr he)
    | some e =>
      have he := List.mem_of_find?_eq_some h
      have hc : e.1 = t.call := by simpa using List.find?_some h
      cases h' : ended'.find? (·.1 == t.call) with
      | none => exact absurd (List.find?_eq_none.mp h' e ((hmem e).mp he)) (by simp [hc])
      | some e' =>
        have hc' : e'.1 = t.call := by simpa using List.find?_some h'
        have he' := (hmem e').mpr (List.mem_of_find?_eq_some h')
        rw [hone e he e' he' (hc.trans hc'.symm)]
  rw [hfind]

/-- Where no result is for a task, none is noted. -/
theorem note_eq_self (h : ∀ t ∈ tasks, ∀ e ∈ ended, e.1 ≠ t.call) : note tasks ended = tasks := by
  refine (List.map_congr_left fun t ht => ?_).trans (List.map_id tasks)
  have hfind : ended.find? (·.1 == t.call) = none :=
    List.find?_eq_none.mpr fun e he => by simpa using h t ht e he
  rw [hfind]
  rfl

theorem note_nil (tasks : List Task) : note tasks [] = tasks := note_eq_self fun _ _ => nofun

/-- A result for a new task is noted in that one alone. -/
theorem note_add (hnew : ∀ t ∈ tasks, t.call ≠ call) (name : Option String) (r : CallResult) :
    note (add tasks ⟨name, call, none⟩) [(call, r)] = add tasks ⟨name, call, some r⟩ := by
  have hold : note (tasks.map fun u => if u.name = name then { u with name := none } else u)
      [(call, r)] = tasks.map fun u => if u.name = name then { u with name := none } else u := by
    refine note_eq_self fun t ht e he => ?_
    obtain ⟨u, hu, rfl⟩ := List.mem_map.mp ht
    obtain rfl := List.mem_singleton.mp he
    split <;> exact (hnew u hu).symm
  refine List.cons_eq_cons.mpr ⟨?_, hold⟩
  simp

end Task

/-! ## Tasks and the requests they were made for -/

/-- Every task is that of a request, and calls are told apart by numbers below the next one. -/
structure Booked (tasks : List Task) (ks : List Inquiry) (next : CallId) : Prop where
  calls : (ks.map (·.call)).Nodup
  old : ∀ k ∈ ks, k.call < next
  taskCalls : (tasks.map (·.call)).Nodup
  asked : ∀ t ∈ tasks, ∃ k ∈ ks, k.call = t.call

namespace Booked

variable {tasks : List Task} {ks : List Inquiry} {next : CallId}

theorem nil (next : CallId) : Booked [] [] next := ⟨List.nodup_nil, nofun, List.nodup_nil, nofun⟩

/-- An inquiry is known by its call. -/
theorem inquiry_eq (h : Booked tasks ks next) {k k' : Inquiry} (hk : k ∈ ks) (hk' : k' ∈ ks)
    (hc : k.call = k'.call) : k = k' :=
  List.inj_on_of_nodup_map h.calls hk hk' hc

theorem call_lt (h : Booked tasks ks next) {t : Task} (ht : t ∈ tasks) : t.call < next := by
  obtain ⟨k, hk, hc⟩ := h.asked t ht
  rw [← hc]
  exact h.old k hk

/-- Tasks go, or get results. -/
theorem of_sublist (h : Booked tasks ks next) {tasks' : List Task} {next' : CallId}
    (hcalls : (tasks'.map (·.call)).Sublist (tasks.map (·.call))) (hnext : next ≤ next') :
    Booked tasks' ks next' := by
  refine ⟨h.calls, fun k hk => Nat.lt_of_lt_of_le (h.old k hk) hnext, h.taskCalls.sublist hcalls,
    ?_⟩
  intro t ht
  obtain ⟨u, hu, hc⟩ := List.mem_map.mp (hcalls.subset (List.mem_map_of_mem ht))
  rw [← hc]
  exact h.asked u hu

/-- A request is made in a new task. -/
theorem add (h : Booked tasks ks next) (name : Option String) (result : Option CallResult)
    {k : Inquiry} (hk : k.call = next) :
    Booked (Task.add tasks ⟨name, next, result⟩) (ks ++ [k]) (next + 1) := by
  refine ⟨?_, ?_, ?_, ?_⟩
  · rw [List.map_append, List.nodup_append]
    refine ⟨h.calls, by simp, ?_⟩
    rintro _ hc _ hlast rfl
    obtain ⟨k', hk', rfl⟩ := List.mem_map.mp hc
    have hsame : k'.call = next := by simpa [hk] using hlast
    exact Nat.ne_of_lt (h.old k' hk') hsame
  · intro k' hk'
    rcases List.mem_append.mp hk' with hold | hlast
    · exact Nat.lt_succ_of_lt (h.old k' hold)
    · rw [List.mem_singleton.mp hlast, hk]
      exact Nat.lt_succ_self _
  · rw [Task.calls_add, List.nodup_cons]
    refine ⟨fun hmem => ?_, h.taskCalls⟩
    obtain ⟨t, ht, hc⟩ := List.mem_map.mp hmem
    exact Nat.ne_of_lt (h.call_lt ht) hc
  · intro t ht
    rcases Task.mem_add ht with rfl | ⟨u, hu, hc, -⟩
    · exact ⟨k, List.mem_append_right _ (List.mem_singleton_self _), hk⟩
    · obtain ⟨k', hk', hc'⟩ := h.asked u hu
      exact ⟨k', List.mem_append_left _ hk', hc'.trans hc.symm⟩

/-- What is true of the results of all tasks stays true if it is true of a new one. -/
theorem told_add (h : Booked tasks ks next) {told : Inquiry → Option CallResult → Prop}
    (htold : ∀ t ∈ tasks, ∀ k ∈ ks, k.call = t.call → told k t.result) {name : Option String}
    {result : Option CallResult} {k : Inquiry} (hk : k.call = next) (hnew : told k result) :
    ∀ t ∈ Task.add tasks ⟨name, next, result⟩, ∀ k' ∈ ks ++ [k], k'.call = t.call →
      told k' t.result := by
  intro t ht k' hk' hc
  rcases Task.mem_add ht with rfl | ⟨u, hu, huc, hresult⟩
  · rcases List.mem_append.mp hk' with hold | hlast
    · exact absurd hc (Nat.ne_of_lt (h.old k' hold))
    · rw [List.mem_singleton.mp hlast]
      exact hnew
  · rw [hresult]
    rcases List.mem_append.mp hk' with hold | hlast
    · exact htold u hu k' hold (hc.trans huc)
    · rw [List.mem_singleton.mp hlast, hk, huc] at hc
      exact absurd hc.symm (Nat.ne_of_lt (h.call_lt hu))

end Booked

end CommandRelay.Bus
