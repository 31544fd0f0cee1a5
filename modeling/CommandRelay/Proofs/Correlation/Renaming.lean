import CommandRelay.Proofs.Correlation.Settled

/-!
# Callers are names

A desk compares the numbers of its callers and does nothing else with them.  So if the callers get
other numbers, no two the same one, every operation answers as before and leaves the desk as before,
but for the numbers.  Tickets stay as they are: a desk gives them out itself.

The numbers are exchanged by a permutation `ρ` of all of them.  `Desk.rename` does it to a desk, and
there is a lemma on each operation, up to `Desk.settle_rename`.  A caller that comes with a number
it may choose is fitted in by `exists_rename_new`.
-/

namespace CommandRelay.Correlation

/-- A waiter whose caller has another number. -/
def Waiter.rename (ρ : Equiv.Perm CallId) (w : Waiter) : Waiter := { w with caller := ρ w.caller }

/-- A guard whose caller has another number. -/
def Guard.rename (ρ : Equiv.Perm CallId) (g : Guard) : Guard := { g with caller := ρ g.caller }

/-- Results of callers that have other numbers. -/
def renameResults (ρ : Equiv.Perm CallId) (ended : List (CallId × CallResult)) :
    List (CallId × CallResult) := ended.map fun e => (ρ e.1, e.2)

/-- A new caller can have any number that is free: the old ones keep theirs. -/
theorem exists_rename_new (ρ : Equiv.Perm CallId) {old : CallId → Prop} {c c' : CallId}
    (hnew : ¬ old c) (hfree : ∀ a, old a → ρ a ≠ c') :
    ∃ ρ' : Equiv.Perm CallId, ρ' c = c' ∧ ∀ a, old a → ρ' a = ρ a := by
  refine ⟨ρ.trans (Equiv.swap (ρ c) c'), Equiv.swap_apply_left _ _, fun a ha => ?_⟩
  have hother : ρ a ≠ ρ c := by
    intro hsame
    rw [ρ.injective hsame] at ha
    exact hnew ha
  exact Equiv.swap_apply_of_ne_of_ne hother (hfree a ha)

namespace Desk

variable (ρ : Equiv.Perm CallId)

/-- A desk whose callers have other numbers. -/
def rename (d : Desk) : Desk :=
  { d with waiters := d.waiters.map (·.rename ρ), guards := d.guards.map (·.rename ρ) }

variable (d : Desk)

/-- Two numberings of the callers of a desk that agree give one desk. -/
theorem rename_congr {ρ ρ' : Equiv.Perm CallId}
    (hwaiters : ∀ w ∈ d.waiters, ρ' w.caller = ρ w.caller)
    (hguards : ∀ g ∈ d.guards, ρ' g.caller = ρ g.caller) : d.rename ρ' = d.rename ρ := by
  have hw : d.waiters.map (·.rename ρ') = d.waiters.map (·.rename ρ) :=
    List.map_congr_left fun w hw => by rw [Waiter.rename, Waiter.rename, hwaiters w hw]
  have hg : d.guards.map (·.rename ρ') = d.guards.map (·.rename ρ) :=
    List.map_congr_left fun g hg => by rw [Guard.rename, Guard.rename, hguards g hg]
  rw [rename, rename, hw, hg]

/-! ## What is in the desk -/

/-- Waiters are found by their request IDs, which have not changed. -/
theorem waiter?_rename (requestId : String) :
    (d.rename ρ).waiter? requestId = (d.waiter? requestId).map (·.rename ρ) :=
  List.find?_map ..

/-- A guard is found under the new number of its caller. -/
theorem guard?_rename (caller : CallId) :
    (d.rename ρ).guard? (ρ caller) = (d.guard? caller).map (·.rename ρ) := by
  have hsame : ((fun g : Guard => g.caller == ρ caller) ∘ Guard.rename ρ) =
      fun g => g.caller == caller := by
    funext g
    exact Bool.eq_iff_iff.mpr (by simp [Guard.rename])
  unfold guard?
  show (d.guards.map _).find? _ = _
  rw [List.find?_map, hsame]

theorem expects_rename (g : Guard) : (d.rename ρ).expects (g.rename ρ) = d.expects g := by
  have hsame : ((fun w : Waiter => w.caller == ρ g.caller) ∘ Waiter.rename ρ) =
      fun w => w.caller == g.caller := by
    funext w
    exact Bool.eq_iff_iff.mpr (by simp [Waiter.rename])
  unfold expects
  show (d.waiters.map _).any (fun w : Waiter => w.caller == ρ g.caller) = _
  rw [List.any_map, hsame]

/-- The guards without the one of a caller. -/
theorem guards_filter_rename (caller : CallId) :
    (d.guards.map (·.rename ρ)).filter (·.caller != ρ caller) =
      (d.guards.filter (·.caller != caller)).map (·.rename ρ) := by
  have hsame : ((fun g : Guard => g.caller != ρ caller) ∘ Guard.rename ρ) =
      fun g => g.caller != caller := by
    funext g
    exact Bool.eq_iff_iff.mpr (by simp [Guard.rename])
  rw [List.filter_map, hsame]

/-! ## Registering and dropping -/

/-- A registration goes the same way under the new number. -/
theorem register_rename (caller : CallId) (requestId : String) :
    (d.rename ρ).register (ρ caller) requestId =
      ((d.register caller requestId).1, (d.register caller requestId).2.rename ρ) := by
  have hids : ∀ w ∈ (d.rename ρ).waiters, ∃ v ∈ d.waiters, v.requestId = w.requestId := by
    intro w hw
    obtain ⟨v, hv, rfl⟩ := List.mem_map.mp hw
    exact ⟨v, hv, rfl⟩
  rcases d.register_cases caller requestId with ⟨rfl, heq⟩ | ⟨hid, ⟨w, hw, hkey⟩, heq⟩ |
    ⟨hid, hfree, heq⟩
  · rw [heq, register, if_pos rfl]
  · rw [heq]
    rcases (d.rename ρ).register_cases (ρ caller) requestId with ⟨hnone, -⟩ | ⟨-, -, heq'⟩ |
      ⟨-, hfree, -⟩
    · exact absurd hnone hid
    · exact heq'
    · exact absurd hkey (hfree (w.rename ρ) (List.mem_map_of_mem hw))
  · have hfree' : ∀ w ∈ (d.rename ρ).waiters, w.requestId ≠ requestId := by
      intro w hw hkey
      obtain ⟨v, hv, hsame⟩ := hids w hw
      exact hfree v hv (hsame.trans hkey)
    rw [heq, register_eq_of_free (ρ caller) hid hfree']
    simp only [rename, List.map_append, List.map_cons, List.map_nil]
    rfl

theorem release_rename (g : Guard) :
    (d.rename ρ).release (g.rename ρ) = (d.release g).rename ρ := by
  unfold release rename
  rw [List.filter_map]
  rfl

/-- Dropping the new number of a caller drops its guard. -/
theorem drop_rename (caller : CallId) :
    (d.rename ρ).drop (ρ caller) = (d.drop caller).rename ρ := by
  unfold drop
  rw [guard?_rename]
  cases d.guard? caller with
  | none => rfl
  | some g =>
    simp only [Option.map_some, release_rename]
    exact congrArg (fun guards => { (d.release g).rename ρ with guards })
      (d.guards_filter_rename ρ caller)

theorem foldl_drop_rename (guards : List Guard) :
    (guards.map (·.rename ρ)).foldl (fun d g => d.drop g.caller) (d.rename ρ) =
      (guards.foldl (fun d g => d.drop g.caller) d).rename ρ := by
  induction guards generalizing d with
  | nil => rfl
  | cons g guards ih =>
    rw [List.map_cons, List.foldl_cons, List.foldl_cons, ← ih]
    exact congrArg (List.foldl _ · _) (d.drop_rename ρ g.caller)

/-! ## Responses -/

theorem deliver_rename (caller : CallId) (response : Envelope) :
    (d.rename ρ).deliver (ρ caller) response = (d.deliver caller response).rename ρ := by
  unfold deliver rename
  simp only [List.map_map]
  congr 1
  refine List.map_congr_left fun g _ => ?_
  by_cases hc : g.caller = caller
  · simp [Guard.rename, hc]
  · simp [Guard.rename, hc]

/-- A response is taken by the same guard under its new number. -/
theorem complete_rename (response : Envelope) :
    (d.rename ρ).complete response =
      ((d.complete response).1, (d.complete response).2.rename ρ) := by
  -- The desk without the waiter is the renamed one, whatever becomes of the response.
  have hgone : ∀ d : Desk, { d.rename ρ with
      waiters := (d.rename ρ).waiters.filter (·.requestId != response.requestId) } =
      rename ρ { d with waiters := d.waiters.filter (·.requestId != response.requestId) } := by
    intro d
    simp only [rename, List.filter_map]
    rfl
  unfold complete
  rw [waiter?_rename]
  cases d.waiter? response.requestId with
  | none => rfl
  | some w =>
    simp only [Option.map_some, hgone]
    simp only [Waiter.rename, guard?_rename, Option.isSome_map, deliver_rename]
    split
    · rfl
    · rfl

/-! ## Waiting -/

/-- A wait begins for the new number of its caller. -/
theorem await_rename (caller : CallId) (timeout : Duration) (now : Instant) :
    (d.rename ρ).await (ρ caller) timeout now = (d.await caller timeout now).rename ρ := by
  unfold await
  rw [guard?_rename]
  cases d.guard? caller with
  | none => rfl
  | some g =>
    simp only [Option.map_some, rename, guards_filter_rename, List.map_append, List.map_cons,
      List.map_nil]
    rfl

/-- A request on a bus that takes it: it is registered, and waits. -/
def ask (d : Desk) (caller : CallId) (requestId : String) (timeout : Duration) (now : Instant) :
    Except Fault Unit × Desk :=
  match d.register caller requestId with
  | (.error f, d) => (.error f, d)
  | (.ok (), d) => (.ok (), d.await caller timeout now)

theorem ask_rename (caller : CallId) (requestId : String) (timeout : Duration) (now : Instant) :
    (d.rename ρ).ask (ρ caller) requestId timeout now =
      ((d.ask caller requestId timeout now).1,
        (d.ask caller requestId timeout now).2.rename ρ) := by
  unfold ask
  rw [register_rename]
  cases d.register caller requestId with
  | mk entered d =>
    cases entered with
    | error f => rfl
    | ok => exact congrArg (Prod.mk _) (d.await_rename ρ caller timeout now)

/-! ## The clock -/

/-- A wait comes to the same, for it does not tell who its caller is. -/
theorem outcome?_rename (now : Instant) (g : Guard) :
    (d.rename ρ).outcome? now (g.rename ρ) = d.outcome? now g := by
  unfold outcome?
  rw [expects_rename]
  rfl

/-- The waits that are over end in the same order with the same results. -/
theorem settle_rename (now : Instant) :
    (d.rename ρ).settle now = (renameResults ρ (d.settle now).1, (d.settle now).2.rename ρ) := by
  have hdue : ((fun g => ((d.rename ρ).outcome? now g).isSome) ∘ Guard.rename ρ) =
      fun g => (d.outcome? now g).isSome := by
    funext g
    exact congrArg Option.isSome (d.outcome?_rename ρ now g)
  have hguards : ((d.rename ρ).guards.filter fun g => ((d.rename ρ).outcome? now g).isSome) =
      (d.guards.filter fun g => (d.outcome? now g).isSome).map (·.rename ρ) := by
    show (d.guards.map _).filter _ = _
    rw [List.filter_map, hdue]
  -- The deadlines, which tell the order, go with the guards.
  have horder : ∀ le : Guard → Guard → Bool, (∀ g h, le (g.rename ρ) (h.rename ρ) = le g h) →
      ∀ guards : List Guard, (guards.map (·.rename ρ)).mergeSort le =
        (guards.mergeSort le).map (·.rename ρ) :=
    fun le hle guards => (List.map_mergeSort fun g _ h _ => (hle g h).symm).symm
  have hresults : ∀ due : List Guard,
      ((due.map (·.rename ρ)).filterMap fun g =>
        ((d.rename ρ).outcome? now g).map fun r => (g.caller, r)) =
      renameResults ρ (due.filterMap fun g => (d.outcome? now g).map fun r => (g.caller, r)) := by
    intro due
    rw [List.filterMap_map, renameResults, List.map_filterMap]
    refine congrArg (List.filterMap · due) (funext fun g => ?_)
    show ((d.rename ρ).outcome? now (g.rename ρ)).map _ = _
    rw [outcome?_rename, Option.map_map]
    rfl
  unfold settle
  rw [hguards, horder _ fun _ _ => rfl]
  exact Prod.ext (hresults _) (d.foldl_drop_rename ρ _)

variable {d}

/-- A desk on which nothing is due is so under any numbers. -/
theorem Settled.rename {now : Instant} (h : d.Settled now) : (d.rename ρ).Settled now := by
  intro g hg
  obtain ⟨g₀, hg₀, rfl⟩ := List.mem_map.mp hg
  rw [outcome?_rename]
  exact h g₀ hg₀

end Desk

end CommandRelay.Correlation
