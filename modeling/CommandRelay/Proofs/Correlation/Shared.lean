import CommandRelay.Correlation.DeskRun
import CommandRelay.Proofs.Correlation.Tickets

/-!
# A desk that many callers use at once

Callers register, wait and give up in any order, responses arrive in between, and time passes.  A
caller that waits goes on only when it looks, and it looks as often and as late as it likes: runs of
these moves are all interleavings of all callers, each call with its own clock times.

1. **`Move`, `Shared.step`** — the moves, on the operations of the desk.
2. **`callers`, `age`** — who tried to register, and how many registrations were tried since.
3. **`Shared.Kept`** — what every run keeps: the desk is matched, each guard belongs to a
   registration of the run, and the counter of tickets has gone on by the age of the guard at most.
-/

namespace CommandRelay.Correlation

/-- A move on the desk.  A caller is known by the number of the guard that it gets. -/
inductive Move where
  | register (caller : CallId) (requestId : String)
  | complete (response : Envelope)
  | drop (caller : CallId)
  /-- A caller begins to wait for its response. -/
  | await (caller : CallId) (timeout : Duration)
  /-- A caller that waits goes on if its wait is over. -/
  | poll (caller : CallId)
  /-- Time passes. -/
  | advance (d : Duration)
  deriving DecidableEq

/-- The caller that a move registers. -/
def Move.registers? : Move → Option CallId
  | .register caller _ => some caller
  | _ => none

/-- The desk and the clock. -/
structure Shared where
  desk : Desk := {}
  now : Instant := 0

/-- A move, when it was made, and the answer to it. -/
structure Observed where
  move : Move
  now : Instant
  reply : DeskReply

namespace Shared

/-- Makes one move. -/
def step (s : Shared) : Move → DeskReply × Shared
  | .register caller requestId =>
    match s.desk.register caller requestId with
    | (.error f, desk) => (.refused f, { s with desk })
    | (.ok (), desk) => (.done true, { s with desk })
  | .complete response =>
    let (taken, desk) := s.desk.complete response
    (.done taken, { s with desk })
  | .drop caller => (.done (s.desk.guard? caller).isSome, { s with desk := s.desk.drop caller })
  | .await caller timeout =>
    (.done (s.desk.guard? caller).isSome, { s with desk := s.desk.await caller timeout s.now })
  | .poll caller =>
    match (s.desk.guard? caller).bind (s.desk.outcome? s.now) with
    | none => (.done false, s)
    | some result => (.waited result, { s with desk := s.desk.drop caller })
  | .advance d => (.done true, { s with now := s.now + d.nanos })

/-- A move that registers does to the desk what the registration does, refused or not. -/
theorem desk_step_register (s : Shared) (caller : CallId) (requestId : String) :
    (s.step (.register caller requestId)).2.desk = (s.desk.register caller requestId).2 := by
  rw [step]
  split <;> rename_i heq <;> rw [heq]

/-- The state after a run of moves from the start. -/
def after (moves : List Move) : Shared := moves.foldl (fun s a => (s.step a).2) {}

/-- What is observed of a run. -/
def trace (s : Shared) : List Move → List Observed
  | [] => []
  | a :: moves => ⟨a, s.now, (s.step a).1⟩ :: (s.step a).2.trace moves

theorem after_append_singleton (moves : List Move) (a : Move) :
    after (moves ++ [a]) = ((after moves).step a).2 := by
  rw [after, List.foldl_append]
  rfl

/-- One more move is observed at the end of the trace. -/
theorem trace_append_singleton (moves : List Move) (a : Move) :
    trace {} (moves ++ [a]) =
      trace {} moves ++ [⟨a, (after moves).now, ((after moves).step a).1⟩] := by
  have hany : ∀ s : Shared, s.trace (moves ++ [a]) = s.trace moves ++
      [⟨a, (moves.foldl (fun s a => (s.step a).2) s).now,
        ((moves.foldl (fun s a => (s.step a).2) s).step a).1⟩] := by
    induction moves with
    | nil => exact fun s => rfl
    | cons b moves ih => exact fun s => congrArg (_ :: ·) (ih (s.step b).2)
  exact hany {}

/-! ## Registrations -/

/-- The callers that tried to register, in order. -/
def callers (moves : List Move) : List CallId := moves.filterMap Move.registers?

/-- How many registrations were tried from that of a caller on. -/
def age (caller : CallId) (moves : List Move) : Nat :=
  ((callers moves).dropWhile (· != caller)).length

theorem callers_append (front back : List Move) :
    callers (front ++ back) = callers front ++ callers back :=
  List.filterMap_append

theorem mem_callers {moves : List Move} {caller : CallId} {requestId : String}
    (h : .register caller requestId ∈ moves) : caller ∈ callers moves :=
  List.mem_filterMap.mpr ⟨_, h, rfl⟩

/-- Nobody is older than the run. -/
theorem age_le (caller : CallId) (moves : List Move) : age caller moves ≤ (callers moves).length :=
  (List.dropWhile_sublist _).length_le

theorem callers_sublist {fewer moves : List Move} (h : fewer.Sublist moves) :
    (callers fewer).Sublist (callers moves) := h.filterMap _

/-- Where each registration gets a new number, a caller is registered for one request ID. -/
theorem register_unique {moves : List Move} (h : (callers moves).Nodup) {caller : CallId}
    {x y : String} (hx : .register caller x ∈ moves) (hy : .register caller y ∈ moves) : x = y := by
  induction moves with
  | nil => cases hx
  | cons a moves ih =>
    have hrest : (callers moves).Nodup :=
      h.sublist (callers_sublist (List.sublist_cons_self a moves))
    have hfirst : ∀ z z', a = .register caller z → .register caller z' ∉ moves := by
      rintro z z' rfl hmem
      exact (List.nodup_cons.mp h).1 (mem_callers hmem)
    rcases List.mem_cons.mp hx with hax | hx
    · rcases List.mem_cons.mp hy with hay | hy
      · exact (Move.register.inj (hax.trans hay.symm)).2
      · exact absurd hy (hfirst x y hax.symm)
    · rcases List.mem_cons.mp hy with hay | hy
      · exact absurd hx (hfirst y x hay.symm)
      · exact ih hrest hx hy

/-- A caller ages by the registrations that are tried. -/
theorem age_append {caller : CallId} {front : List Move} (h : caller ∈ callers front)
    (back : List Move) : age caller (front ++ back) = age caller front + (callers back).length := by
  have hne : (callers front).dropWhile (· != caller) ≠ [] := by
    intro hnil
    have hall := List.dropWhile_eq_nil_iff.mp hnil caller h
    simp at hall
  rw [age, age, callers_append, List.dropWhile_append, if_neg (by simpa using hne),
    List.length_append]

/-- A caller whose registration is tried now has the age one. -/
theorem age_register {caller : CallId} {front : List Move} (requestId : String)
    (h : caller ∉ callers front) : age caller (front ++ [.register caller requestId]) = 1 := by
  have hnil : (callers front).dropWhile (· != caller) = [] := by
    rw [List.dropWhile_eq_nil_iff]
    intro c hc
    simpa using fun heq : c = caller => h (heq ▸ hc)
  rw [age, callers_append, List.dropWhile_append, if_pos (by simp [hnil])]
  show List.length (List.dropWhile _ [caller]) = 1
  simp

/-- Where some moves are left out, callers are younger. -/
theorem age_le_of_sublist {caller : CallId} {fewer moves : List Move}
    (hsub : (callers fewer).Sublist (callers moves)) (hnew : (callers moves).Nodup)
    (h : caller ∈ callers fewer) : age caller fewer ≤ age caller moves := by
  rw [age, age]
  generalize callers fewer = l' at hsub h
  generalize callers moves = l at hsub hnew
  induction hsub with
  | slnil => exact Nat.le_refl _
  | @cons l₁ l₂ c hsub ih =>
    obtain ⟨hc, hnew⟩ := List.nodup_cons.mp hnew
    have hne : c ≠ caller := by
      rintro rfl
      exact hc (hsub.subset h)
    rw [List.dropWhile_cons_of_pos (by simpa using hne)]
    exact ih h hnew
  | @cons_cons l₁ l₂ c hsub ih =>
    by_cases hc : c = caller
    · rw [List.dropWhile_cons_of_neg (by simp [hc]), List.dropWhile_cons_of_neg (by simp [hc])]
      exact Nat.succ_le_succ hsub.length_le
    · rw [List.dropWhile_cons_of_pos (by simpa using hc),
        List.dropWhile_cons_of_pos (by simpa using hc)]
      exact ih ((List.mem_cons.mp h).resolve_left (Ne.symm hc)) (List.nodup_cons.mp hnew).2

/-! ## What every run keeps -/

/-- What holds after a run in which each registration gets a new number. -/
structure Kept (moves : List Move) (d : Desk) : Prop where
  matched : d.Matched
  /-- Each guard belongs to a registration. -/
  enrolled : ∀ g ∈ d.guards, .register g.caller g.requestId ∈ moves
  /-- The counter has gone on since, by the age of the guard at most. -/
  aged : ∀ g ∈ d.guards, ∃ n, 1 ≤ n ∧ n ≤ age g.caller moves ∧
    d.nextTicket = g.ticket + UInt64.ofNat n

namespace Kept

variable {moves : List Move} {d : Desk}

/-- A move that brings no guard in. -/
theorem quiet (h : Kept moves d) (a : Move) {d' : Desk} (hmatched : d'.Matched)
    (hticket : d'.nextTicket = d.nextTicket)
    (hguards : ∀ g ∈ d'.guards, ∃ g₀ ∈ d.guards, g₀.waiter = g.waiter) :
    Kept (moves ++ [a]) d' := by
  refine ⟨hmatched, fun g hg => ?_, fun g hg => ?_⟩
  · obtain ⟨g₀, hg₀, hsame⟩ := hguards g hg
    rw [← show g₀.caller = g.caller from congrArg Waiter.caller hsame,
      ← show g₀.requestId = g.requestId from congrArg Waiter.requestId hsame]
    exact List.mem_append_left _ (h.enrolled g₀ hg₀)
  · obtain ⟨g₀, hg₀, hsame⟩ := hguards g hg
    obtain ⟨n, hpos, hle, hnext⟩ := h.aged g₀ hg₀
    rw [← show g₀.caller = g.caller from congrArg Waiter.caller hsame,
      ← show g₀.ticket = g.ticket from congrArg Waiter.ticket hsame, hticket]
    refine ⟨n, hpos, ?_, hnext⟩
    rw [age_append (mem_callers (h.enrolled g₀ hg₀))]
    exact Nat.le_add_right_of_le hle

/-- A response brings no guard in and leaves the counter alone. -/
theorem complete (h : Kept moves d) (a : Move) (r : Envelope) :
    Kept (moves ++ [a]) (d.complete r).2 := by
  refine h.quiet a (h.matched.complete r) ?_ (h.matched.registered_complete r)
  rcases h.matched.complete_cases r with ⟨-, heq⟩ | ⟨g, -, -, -, -, heq⟩ <;> rw [heq]

/-- A guard that goes leaves those of the others as old as they are. -/
theorem drop (h : Kept moves d) (a : Move) (caller : CallId) :
    Kept (moves ++ [a]) (d.drop caller) := by
  refine h.quiet a (h.matched.drop caller) ?_ (h.matched.registered_drop caller)
  rcases h.matched.drop_cases caller with ⟨-, heq⟩ | ⟨g, -, -, heq⟩ <;> rw [heq]

/-- A wait that begins leaves its guard as old as it is. -/
theorem await (h : Kept moves d) (a : Move) (caller : CallId) (timeout : Duration)
    (now : Instant) : Kept (moves ++ [a]) (d.await caller timeout now) := by
  refine h.quiet a (h.matched.await caller timeout now) ?_
    (h.matched.registered_await caller timeout now)
  rcases h.matched.await_cases caller timeout now with ⟨-, heq⟩ | ⟨g, -, -, heq⟩ <;> rw [heq]

/-- A registration makes every guard one registration older, and the new one is the youngest. -/
theorem register (h : Kept moves d) {caller : CallId} (hnew : caller ∉ callers moves)
    (requestId : String) :
    Kept (moves ++ [.register caller requestId]) (d.register caller requestId).2 := by
  have hother : ∀ g ∈ d.guards, g.caller ≠ caller := by
    rintro g hg rfl
    exact hnew (mem_callers (h.enrolled g hg))
  have hm := h.matched.register requestId hother
  -- Whoever was there is one registration older, and the counter went on by one at most.
  have hold : ∀ k ≤ 1, ∀ g ∈ d.guards,
      .register g.caller g.requestId ∈ moves ++ [.register caller requestId] ∧
      ∃ n, 1 ≤ n ∧ n ≤ age g.caller (moves ++ [.register caller requestId]) ∧
        d.nextTicket + UInt64.ofNat k = g.ticket + UInt64.ofNat n := by
    intro k hk g hg
    refine ⟨List.mem_append_left _ (h.enrolled g hg), ?_⟩
    obtain ⟨n, hpos, hle, hnext⟩ := h.aged g hg
    refine ⟨n + k, Nat.le_add_right_of_le hpos, ?_, ?_⟩
    · rw [age_append (mem_callers (h.enrolled g hg))]
      exact Nat.add_le_add hle hk
    · rw [hnext, UInt64.ofNat_add, UInt64.add_assoc]
  rcases Desk.register_cases d caller requestId with ⟨-, heq⟩ | ⟨-, -, heq⟩ | ⟨-, -, heq⟩
  · rw [heq]
    refine ⟨h.matched, fun g hg => (hold 0 (Nat.zero_le _) g hg).1, fun g hg => ?_⟩
    obtain ⟨n, hpos, hle, hnext⟩ := (hold 0 (Nat.zero_le _) g hg).2
    exact ⟨n, hpos, hle, by simpa using hnext⟩
  · rw [heq] at hm ⊢
    exact ⟨hm, fun g hg => (hold 1 (Nat.le_refl _) g hg).1,
      fun g hg => (hold 1 (Nat.le_refl _) g hg).2⟩
  · rw [heq] at hm ⊢
    refine ⟨hm, fun g hg => ?_, fun g hg => ?_⟩
    · rcases List.mem_append.mp hg with hg | hg
      · exact (hold 1 (Nat.le_refl _) g hg).1
      · rw [List.mem_singleton.mp hg]
        exact List.mem_append_right _ (List.mem_singleton_self _)
    · rcases List.mem_append.mp hg with hg | hg
      · exact (hold 1 (Nat.le_refl _) g hg).2
      · rw [List.mem_singleton.mp hg]
        exact ⟨1, Nat.le_refl _, Nat.le_of_eq (age_register requestId hnew).symm, rfl⟩

/-- Every move keeps it. -/
theorem step {s : Shared} (h : Kept moves s.desk) {a : Move}
    (hnew : ∀ caller ∈ a.registers?, caller ∉ callers moves) :
    Kept (moves ++ [a]) (s.step a).2.desk := by
  cases a with
  | register caller requestId =>
    have hregister := h.register (hnew caller rfl) requestId
    rwa [desk_step_register]
  | complete r => exact h.complete _ r
  | drop caller => exact h.drop _ caller
  | await caller timeout => exact h.await _ caller timeout s.now
  | poll caller =>
    rw [Shared.step]
    split
    · exact h.quiet _ h.matched rfl fun g hg => ⟨g, hg, rfl⟩
    · exact h.drop _ caller
  | advance d => exact h.quiet _ h.matched rfl fun g hg => ⟨g, hg, rfl⟩

end Kept

/-- The numbers of a run with one more move. -/
theorem callers_append_singleton_nodup {moves : List Move} {a : Move}
    (h : (callers (moves ++ [a])).Nodup) :
    (callers moves).Nodup ∧ ∀ caller ∈ a.registers?, caller ∉ callers moves := by
  rw [callers_append, List.nodup_append] at h
  obtain ⟨hfront, -, hdisjoint⟩ := h
  refine ⟨hfront, fun caller hc hmem => ?_⟩
  have hback : caller ∈ callers [a] := List.mem_filterMap.mpr ⟨a, List.mem_singleton_self a, hc⟩
  exact hdisjoint caller hmem caller hback rfl

/-- Every run in which callers are new keeps it. -/
theorem kept_after {moves : List Move} (h : (callers moves).Nodup) :
    Kept moves (after moves).desk := by
  induction moves using List.reverseRecOn with
  | nil => exact ⟨Desk.matched_empty, nofun, nofun⟩
  | append_singleton moves a ih =>
    obtain ⟨hfront, hnew⟩ := callers_append_singleton_nodup h
    rw [after_append_singleton]
    exact (ih hfront).step hnew

end Shared

end CommandRelay.Correlation
