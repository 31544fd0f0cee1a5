import Mathlib
import CommandRelay.Correlation.Desk

/-!
# Waiters and guards

The table of a correlation desk and the guards that callers hold describe the same requests from two
sides.  This file says how they belong together, and what each operation does to the pair.

1. **Case lemmas** — `register_cases`, `complete_cases`, `drop_cases`, `await_cases` say everything
   that an operation can do.  Nothing below unfolds an operation again.
2. **`Matched`** — each waiter belongs to a guard without a response, and no two waiters have one
   request ID.  This holds whatever the tickets are, for a waiter goes at the latest with its own
   guard.
3. **`Numbered`** — the other half: each guard without a response has its waiter.  This rests on the
   tickets: a guard that was answered may be dropped while a later guard with its request ID waits,
   and only their different tickets keep the later waiter in the table.
-/

namespace CommandRelay.Correlation

/-! ## Looking up by a key -/

/-- Where keys are distinct, a look-up finds an entry exactly if it is there. -/
theorem find?_key_eq_some_iff {α κ : Type} [BEq κ] [LawfulBEq κ] {l : List α} {key : α → κ}
    (hl : (l.map key).Nodup) {k : κ} {a : α} :
    l.find? (key · == k) = some a ↔ a ∈ l ∧ key a = k := by
  constructor
  · intro h
    exact ⟨List.mem_of_find?_eq_some h, by simpa using List.find?_some h⟩
  · rintro ⟨ha, rfl⟩
    cases hf : l.find? (key · == key a) with
    | none => exact absurd (List.find?_eq_none.mp hf a ha) (by simp)
    | some b =>
      have hb : key b = key a := by simpa using List.find?_some hf
      rw [List.inj_on_of_nodup_map hl (List.mem_of_find?_eq_some hf) ha hb]

/-- Where keys are distinct, an entry is all that has its key. -/
theorem filter_key_eq_singleton {α κ : Type} [BEq κ] [LawfulBEq κ] {l : List α} {key : α → κ}
    (hl : (l.map key).Nodup) {a : α} (ha : a ∈ l) : l.filter (key · == key a) = [a] := by
  induction l with
  | nil => cases ha
  | cons b l ih =>
    obtain ⟨hb, hl⟩ := List.nodup_cons.mp hl
    rcases List.mem_cons.mp ha with rfl | ha
    · rw [List.filter_cons_of_pos (by simp), List.filter_eq_nil_iff.mpr]
      intro c hc
      simpa using fun heq : key c = key a => hb (heq ▸ List.mem_map_of_mem hc)
    · have hne : key b ≠ key a := fun heq => hb (heq ▸ List.mem_map_of_mem ha)
      rw [List.filter_cons_of_neg (by simpa using hne), ih hl ha]

/-- The entry that a guard's registration made. -/
def Guard.waiter (g : Guard) : Waiter :=
  { requestId := g.requestId, ticket := g.ticket, caller := g.caller }

/-- A guard whose caller has begun to wait. -/
def Guard.waiting (g : Guard) (timeout : Duration) (now : Instant) : Guard :=
  { g with wait := some { timeout, deadline := now + timeout.nanos } }

@[simp] theorem Guard.waiting_caller (g : Guard) (timeout : Duration) (now : Instant) :
    (g.waiting timeout now).caller = g.caller := rfl

@[simp] theorem Guard.waiting_ticket (g : Guard) (timeout : Duration) (now : Instant) :
    (g.waiting timeout now).ticket = g.ticket := rfl

namespace Desk

/-- The guards that have not been handed a response. -/
def unanswered (d : Desk) : List Guard := d.guards.filter (·.response.isNone)

theorem mem_unanswered {d : Desk} {g : Guard} :
    g ∈ d.unanswered ↔ g ∈ d.guards ∧ g.response = none := by
  simp [unanswered]

/-- What holds of a desk whatever its tickets are. -/
structure Matched (d : Desk) : Prop where
  callers : (d.guards.map (·.caller)).Nodup
  requestIds : (d.waiters.map (·.requestId)).Nodup
  waiting : ∀ w ∈ d.waiters, ∃ g ∈ d.guards, g.response = none ∧ g.waiter = w
  named : ∀ g ∈ d.guards, g.requestId ≠ ""
  answered : ∀ g ∈ d.guards, ∀ r, g.response = some r → r.requestId = g.requestId

/-- What holds besides as long as the tickets have not come round. -/
structure Numbered (d : Desk) : Prop where
  below : ∀ g ∈ d.guards, g.ticket.toNat < d.nextTicket.toNat
  tickets : (d.guards.map (·.ticket)).Nodup
  waiter_mem : ∀ g ∈ d.guards, g.response = none → g.waiter ∈ d.waiters

namespace Matched

variable {d : Desk}

/-- A guard is known by its caller. -/
theorem guard_eq (h : d.Matched) {g g' : Guard} (hg : g ∈ d.guards) (hg' : g' ∈ d.guards)
    (heq : g.caller = g'.caller) : g = g' :=
  List.inj_on_of_nodup_map h.callers hg hg' heq

/-- The guard of a caller is found if it is there. -/
theorem guard?_eq_some_iff (h : d.Matched) {caller : CallId} {g : Guard} :
    d.guard? caller = some g ↔ g ∈ d.guards ∧ g.caller = caller :=
  find?_key_eq_some_iff h.callers

/-- The waiter of a request ID is found if it is there. -/
theorem waiter?_eq_some_iff (h : d.Matched) {requestId : String} {w : Waiter} :
    d.waiter? requestId = some w ↔ w ∈ d.waiters ∧ w.requestId = requestId :=
  find?_key_eq_some_iff h.requestIds

/-- Nobody waits for the empty request ID. -/
theorem requestId_ne_empty (h : d.Matched) {w : Waiter} (hw : w ∈ d.waiters) :
    w.requestId ≠ "" := by
  obtain ⟨g, hg, -, rfl⟩ := h.waiting w hw
  exact h.named g hg

/-- The guard of a caller that a waiter names is the one the waiter belongs to. -/
theorem waiter_eq (h : d.Matched) {w : Waiter} {g : Guard} (hw : w ∈ d.waiters)
    (hg : g ∈ d.guards) (heq : w.caller = g.caller) : g.waiter = w ∧ g.response = none := by
  obtain ⟨g', hg', hr, rfl⟩ := h.waiting w hw
  rw [h.guard_eq hg hg' heq.symm]
  exact ⟨rfl, hr⟩

/-- A guard expects a response exactly if its waiter is in the table. -/
theorem expects_iff (h : d.Matched) {g : Guard} (hg : g ∈ d.guards) :
    d.expects g = true ↔ g.waiter ∈ d.waiters := by
  rw [expects, List.any_eq_true]
  constructor
  · rintro ⟨w, hw, heq⟩
    rwa [(h.waiter_eq hw hg (by simpa using heq)).1]
  · intro hw
    exact ⟨g.waiter, hw, by simp [Guard.waiter]⟩

end Matched

theorem guard?_eq_none_iff {d : Desk} {caller : CallId} :
    d.guard? caller = none ↔ ∀ g ∈ d.guards, g.caller ≠ caller := by
  simp [guard?, List.find?_eq_none]

theorem waiter?_eq_none_iff {d : Desk} {requestId : String} :
    d.waiter? requestId = none ↔ ∀ w ∈ d.waiters, w.requestId ≠ requestId := by
  simp [waiter?, List.find?_eq_none]

/-! ## What each operation can do -/

/-- A registration is refused without a request ID, or because the ID is in flight, or it adds a
waiter and a guard with one new ticket. -/
theorem register_cases (d : Desk) (caller : CallId) (requestId : String) :
    (requestId = "" ∧ d.register caller requestId = (.error .noRequestId, d)) ∨
    (requestId ≠ "" ∧ (∃ w ∈ d.waiters, w.requestId = requestId) ∧
      d.register caller requestId =
        (.error (.alreadyInFlight requestId), { d with nextTicket := d.nextTicket + 1 })) ∨
    (requestId ≠ "" ∧ (∀ w ∈ d.waiters, w.requestId ≠ requestId) ∧
      d.register caller requestId = (.ok (), {
        waiters := d.waiters ++ [{ requestId, ticket := d.nextTicket, caller }]
        nextTicket := d.nextTicket + 1
        guards := d.guards ++ [{ caller, requestId, ticket := d.nextTicket }] })) := by
  by_cases hid : requestId = ""
  · exact .inl ⟨hid, by simp [register, hid]⟩
  right
  cases hw : d.waiter? requestId with
  | some w =>
    have hmem := List.mem_of_find?_eq_some hw
    have hkey : w.requestId = requestId := by simpa using List.find?_some hw
    have hw' : waiter? { d with nextTicket := d.nextTicket + 1 } requestId = some w := hw
    exact .inl ⟨hid, ⟨w, hmem, hkey⟩, by simp [register, hid, hw']⟩
  | none =>
    have hw' : waiter? { d with nextTicket := d.nextTicket + 1 } requestId = none := hw
    exact .inr ⟨hid, waiter?_eq_none_iff.mp hw, by simp [register, hid, hw']⟩

/-- A response is taken by nobody, or the waiter of its ID goes and the response goes into the guard
of that waiter. -/
theorem Matched.complete_cases {d : Desk} (h : d.Matched) (r : Envelope) :
    ((∀ w ∈ d.waiters, w.requestId ≠ r.requestId) ∧ d.complete r = (false, d)) ∨
    (∃ g ∈ d.guards, g.waiter ∈ d.waiters ∧ g.response = none ∧ g.requestId = r.requestId ∧
      d.complete r = (true, { d with
        waiters := d.waiters.filter (·.requestId != r.requestId)
        guards := d.guards.map fun g' =>
          if g'.caller = g.caller then { g' with response := some r } else g' })) := by
  cases hw : d.waiter? r.requestId with
  | none => exact .inl ⟨waiter?_eq_none_iff.mp hw, by simp [complete, hw]⟩
  | some w =>
    obtain ⟨hmem, hkey⟩ := h.waiter?_eq_some_iff.mp hw
    obtain ⟨g, hg, hr, rfl⟩ := h.waiting w hmem
    have hg' : guard? { d with waiters := d.waiters.filter (·.requestId != r.requestId) }
        g.caller = some g := h.guard?_eq_some_iff.mpr ⟨hg, rfl⟩
    exact .inr ⟨g, hg, hmem, hr, hkey, by simp [complete, hw, hg', deliver, Guard.waiter]⟩

/-- Dropping a caller does nothing, or takes its guard and the waiter with the ticket of that
guard. -/
theorem Matched.drop_cases {d : Desk} (h : d.Matched) (caller : CallId) :
    ((∀ g ∈ d.guards, g.caller ≠ caller) ∧ d.drop caller = d) ∨
    (∃ g ∈ d.guards, g.caller = caller ∧ d.drop caller = { d with
      waiters := d.waiters.filter fun w => w.requestId != g.requestId || w.ticket != g.ticket
      guards := d.guards.filter (·.caller != caller) }) := by
  cases hg : d.guard? caller with
  | none => exact .inl ⟨guard?_eq_none_iff.mp hg, by simp [drop, hg]⟩
  | some g =>
    obtain ⟨hmem, hkey⟩ := h.guard?_eq_some_iff.mp hg
    exact .inr ⟨g, hmem, hkey, by simp [drop, hg, release]⟩

/-- Beginning a wait does nothing, or puts the waiting guard behind all others. -/
theorem Matched.await_cases {d : Desk} (h : d.Matched) (caller : CallId) (timeout : Duration)
    (now : Instant) :
    ((∀ g ∈ d.guards, g.caller ≠ caller) ∧ d.await caller timeout now = d) ∨
    (∃ g ∈ d.guards, g.caller = caller ∧ d.await caller timeout now = { d with
      guards := d.guards.filter (·.caller != caller) ++ [g.waiting timeout now] }) := by
  cases hg : d.guard? caller with
  | none => exact .inl ⟨guard?_eq_none_iff.mp hg, by simp [await, hg]⟩
  | some g =>
    obtain ⟨hmem, hkey⟩ := h.guard?_eq_some_iff.mp hg
    exact .inr ⟨g, hmem, hkey, by simp [await, hg, Guard.waiting]⟩

/-! ## An operation on a guard that is there -/

/-- A registration with an ID that nobody waits for is accepted. -/
theorem register_eq_of_free {d : Desk} {requestId : String} (caller : CallId) (hid : requestId ≠ "")
    (hfree : ∀ w ∈ d.waiters, w.requestId ≠ requestId) : d.register caller requestId = (.ok (), {
      waiters := d.waiters ++ [{ requestId, ticket := d.nextTicket, caller }]
      nextTicket := d.nextTicket + 1
      guards := d.guards ++ [{ caller, requestId, ticket := d.nextTicket }] }) := by
  rcases register_cases d caller requestId with ⟨hnone, -⟩ | ⟨-, ⟨w, hw, hkey⟩, -⟩ | ⟨-, -, heq⟩
  · exact absurd hnone hid
  · exact absurd hkey (hfree w hw)
  · exact heq

/-- A response goes into the guard whose waiter has its request ID. -/
theorem Matched.complete_eq {d : Desk} (h : d.Matched) {g : Guard} {r : Envelope}
    (hw : g.waiter ∈ d.waiters) (hid : g.requestId = r.requestId) : d.complete r = (true, { d with
      waiters := d.waiters.filter (·.requestId != r.requestId)
      guards := d.guards.map fun g' =>
        if g'.caller = g.caller then { g' with response := some r } else g' }) := by
  rcases h.complete_cases r with ⟨hfree, -⟩ | ⟨g', hg', hw', -, hid', heq⟩
  · exact absurd hid (hfree _ hw)
  · have hsame : g'.waiter = g.waiter :=
      List.inj_on_of_nodup_map h.requestIds hw' hw (hid'.trans hid.symm)
    rw [heq, show g'.caller = g.caller from congrArg Waiter.caller hsame]

/-- The caller of a guard that is there begins to wait, behind all others. -/
theorem Matched.await_eq {d : Desk} (h : d.Matched) {g : Guard} (hg : g ∈ d.guards)
    (timeout : Duration)
    (now : Instant) : d.await g.caller timeout now = { d with
      guards := d.guards.filter (·.caller != g.caller) ++ [g.waiting timeout now] } := by
  rcases h.await_cases g.caller timeout now with ⟨hnone, -⟩ | ⟨g', hg', hc, heq⟩
  · exact absurd rfl (hnone g hg)
  · obtain rfl := h.guard_eq hg' hg hc
    exact heq

/-- A guard that is there goes, and with it the waiter that has its request ID and its ticket. -/
theorem Matched.drop_eq {d : Desk} (h : d.Matched) {g : Guard} (hg : g ∈ d.guards) :
    d.drop g.caller = { d with
      waiters := d.waiters.filter fun w => w.requestId != g.requestId || w.ticket != g.ticket
      guards := d.guards.filter (·.caller != g.caller) } := by
  rcases h.drop_cases g.caller with ⟨hnone, -⟩ | ⟨g', hg', hc, heq⟩
  · exact absurd rfl (hnone g hg)
  · obtain rfl := h.guard_eq hg' hg hc
    exact heq

/-! ## Every operation keeps a desk matched -/

/-- An empty desk is matched. -/
theorem matched_empty : Matched {} := by
  refine ⟨List.nodup_nil, List.nodup_nil, ?_, ?_, ?_⟩ <;> simp

/-- A caller that registers must be new: callers are told apart by their numbers. -/
theorem Matched.register {d : Desk} (h : d.Matched) {caller : CallId} (requestId : String)
    (hnew : ∀ g ∈ d.guards, g.caller ≠ caller) : (d.register caller requestId).2.Matched := by
  -- Only a registration that is taken adds anything, and its caller and its ID are both new.
  rcases register_cases d caller requestId with ⟨-, heq⟩ | ⟨-, -, heq⟩ | ⟨hid, hfree, heq⟩
  · rw [heq]; exact h
  · rw [heq]; exact ⟨h.callers, h.requestIds, h.waiting, h.named, h.answered⟩
  · rw [heq]
    refine ⟨?_, ?_, ?_, ?_, ?_⟩
    · show ((d.guards ++ _).map (·.caller)).Nodup
      rw [List.map_append, List.nodup_append]
      refine ⟨h.callers, by simp, ?_⟩
      intro a ha b hb
      obtain ⟨g, hg, rfl⟩ := List.mem_map.mp ha
      obtain rfl : b = caller := by simpa using hb
      exact hnew g hg
    · show ((d.waiters ++ _).map (·.requestId)).Nodup
      rw [List.map_append, List.nodup_append]
      refine ⟨h.requestIds, by simp, ?_⟩
      intro a ha b hb
      obtain ⟨w, hw, rfl⟩ := List.mem_map.mp ha
      obtain rfl : b = requestId := by simpa using hb
      exact hfree w hw
    · intro w hw
      rcases List.mem_append.mp hw with hw | hw
      · obtain ⟨g, hg, hr, hgw⟩ := h.waiting w hw
        exact ⟨g, List.mem_append_left _ hg, hr, hgw⟩
      · obtain rfl := List.mem_singleton.mp hw
        exact ⟨_, List.mem_append_right _ (List.mem_singleton_self _), rfl, rfl⟩
    · intro g hg
      rcases List.mem_append.mp hg with hg | hg
      · exact h.named g hg
      · obtain rfl := List.mem_singleton.mp hg
        exact hid
    · intro g hg r hr
      rcases List.mem_append.mp hg with hg | hg
      · exact h.answered g hg r hr
      · obtain rfl := List.mem_singleton.mp hg
        cases hr

/-- A guard after a response was put into the guard of a caller. -/
theorem mem_guards_deliver {gs : List Guard} {caller : CallId} {r : Envelope} {g : Guard} :
    g ∈ gs.map (fun g' => if g'.caller = caller then { g' with response := some r } else g') ↔
      (∃ g' ∈ gs, g'.caller = caller ∧ g = { g' with response := some r }) ∨
      (g ∈ gs ∧ g.caller ≠ caller) := by
  rw [List.mem_map]
  constructor
  · rintro ⟨g', hg', rfl⟩
    by_cases hc : g'.caller = caller
    · exact .inl ⟨g', hg', hc, by simp [hc]⟩
    · rw [if_neg hc]
      exact .inr ⟨hg', hc⟩
  · rintro (⟨g', hg', hc, rfl⟩ | ⟨hg, hc⟩)
    · exact ⟨g', hg', by simp [hc]⟩
    · exact ⟨g, hg, by simp [hc]⟩

/-- What does not depend on its response is left as it is by a delivery. -/
theorem map_deliver {α : Type} {f : Guard → α} {r : Envelope}
    (hf : ∀ g, f { g with response := some r } = f g) (gs : List Guard) (caller : CallId) :
    (gs.map fun g => if g.caller = caller then { g with response := some r } else g).map f =
      gs.map f := by
  rw [List.map_map]
  apply List.map_congr_left
  intro g _
  show f (if g.caller = caller then { g with response := some r } else g) = f g
  split
  · exact hf g
  · rfl

theorem filter_deliver {p : Guard → Bool} {r : Envelope}
    (hp : ∀ g, p { g with response := some r } = p g) (gs : List Guard) (caller : CallId) :
    (gs.map fun g => if g.caller = caller then { g with response := some r } else g).filter p =
      (gs.filter p).map fun g =>
        if g.caller = caller then { g with response := some r } else g := by
  rw [List.filter_map]
  refine congrArg (List.map _) (List.filter_congr fun g _ => ?_)
  show p (if g.caller = caller then { g with response := some r } else g) = p g
  split
  · exact hp g
  · rfl

/-- A response keeps a desk matched: its waiter goes, and the guard of that waiter is answered. -/
theorem Matched.complete {d : Desk} (h : d.Matched) (r : Envelope) :
    (d.complete r).2.Matched := by
  rcases h.complete_cases r with ⟨-, heq⟩ | ⟨g, hg, hw, hr, hid, heq⟩
  · rw [heq]; exact h
  rw [heq]
  refine ⟨?_, ?_, ?_, ?_, ?_⟩
  · rw [map_deliver fun _ => rfl]
    exact h.callers
  · exact h.requestIds.sublist (List.filter_sublist.map _)
  · intro w hmem
    obtain ⟨hmem, hne⟩ := List.mem_filter.mp hmem
    obtain ⟨g', hg', hr', rfl⟩ := h.waiting w hmem
    -- Whoever still waits has another ID, so the guard that was answered is not his.
    have hc : g'.caller ≠ g.caller := by
      intro hc
      rw [h.guard_eq hg' hg hc] at hne
      simp [Guard.waiter, hid] at hne
    exact ⟨g', mem_guards_deliver.mpr (.inr ⟨hg', hc⟩), hr', rfl⟩
  · intro g' hg'
    rcases mem_guards_deliver.mp hg' with ⟨g₀, hg₀, -, rfl⟩ | ⟨hg', -⟩
    · exact h.named g₀ hg₀
    · exact h.named g' hg'
  · intro g' hg' r' hr'
    rcases mem_guards_deliver.mp hg' with ⟨g₀, hg₀, hc, rfl⟩ | ⟨hg', -⟩
    · obtain rfl : r = r' := Option.some.inj hr'
      rw [h.guard_eq hg₀ hg hc]
      exact hid.symm
    · exact h.answered g' hg' r' hr'

/-- A guard that goes keeps a desk matched: its waiter, if it is there, goes too. -/
theorem Matched.drop {d : Desk} (h : d.Matched) (caller : CallId) : (d.drop caller).Matched := by
  rcases h.drop_cases caller with ⟨-, heq⟩ | ⟨g, hg, rfl, heq⟩
  · rw [heq]; exact h
  rw [heq]
  refine ⟨?_, ?_, ?_, ?_, ?_⟩
  · exact h.callers.sublist (List.filter_sublist.map _)
  · exact h.requestIds.sublist (List.filter_sublist.map _)
  · intro w hw
    obtain ⟨hw, hkeep⟩ := List.mem_filter.mp hw
    obtain ⟨g', hg', hr', rfl⟩ := h.waiting w hw
    -- The guard of a waiter that stays is not the one that goes.
    have hc : g'.caller ≠ g.caller := by
      intro hc
      rw [h.guard_eq hg' hg hc] at hkeep
      simp [Guard.waiter] at hkeep
    exact ⟨g', List.mem_filter.mpr ⟨hg', by simpa using hc⟩, hr', rfl⟩
  · intro g' hg'
    exact h.named g' (List.mem_filter.mp hg').1
  · intro g' hg'
    exact h.answered g' (List.mem_filter.mp hg').1

/-- A wait that begins keeps a desk matched: the guard moves and is the same otherwise. -/
theorem Matched.await {d : Desk} (h : d.Matched) (caller : CallId) (timeout : Duration)
    (now : Instant) : (d.await caller timeout now).Matched := by
  rcases h.await_cases caller timeout now with ⟨-, heq⟩ | ⟨g, hg, rfl, heq⟩
  · rw [heq]; exact h
  rw [heq]
  -- The table does not change; the guard goes to the end of the guards with caller and ID as
  -- before.
  refine ⟨?_, h.requestIds, ?_, ?_, ?_⟩
  · show ((d.guards.filter _ ++ _).map (·.caller)).Nodup
    rw [List.map_append, List.nodup_append]
    refine ⟨h.callers.sublist (List.filter_sublist.map _), by simp, ?_⟩
    intro a ha b hb
    obtain ⟨g', hg', rfl⟩ := List.mem_map.mp ha
    obtain rfl : b = g.caller := by simpa using hb
    simpa using (List.mem_filter.mp hg').2
  · intro w hw
    obtain ⟨g', hg', hr', rfl⟩ := h.waiting w hw
    by_cases hc : g'.caller = g.caller
    · obtain rfl := h.guard_eq hg' hg hc
      exact ⟨_, List.mem_append_right _ (List.mem_singleton_self _), hr', rfl⟩
    · exact ⟨g', List.mem_append_left _ (List.mem_filter.mpr ⟨hg', by simpa using hc⟩), hr', rfl⟩
  · intro g' hg'
    rcases List.mem_append.mp hg' with hg' | hg'
    · exact h.named g' (List.mem_filter.mp hg').1
    · obtain rfl := List.mem_singleton.mp hg'
      exact h.named g hg
  · intro g' hg' r hr
    rcases List.mem_append.mp hg' with hg' | hg'
    · exact h.answered g' (List.mem_filter.mp hg').1 r hr
    · obtain rfl := List.mem_singleton.mp hg'
      exact h.answered g hg r hr

end Desk

end CommandRelay.Correlation
