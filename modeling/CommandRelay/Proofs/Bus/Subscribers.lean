import CommandRelay.Proofs.Bus.Answers

/-!
# Subscribers of the local bus

Subscribers go by numbers on the bus and by names in a run.  Whoever receives moves on to behind
what it was given, and nobody else does.

1. `Named` — a name stands for one number, and a new subscriber gets a new one.
2. `Has` — a name stands for a subscriber at its place.  It does so until the subscription ends,
   whatever others do (`Named.step_apart`), and a receive is one move of its own
   (`Has.step_receive`).
3. `blind` — what a run does but for what it gives to subscribers takes nothing of them but their
   numbers (`blind_step`), and to receive does nothing else (`blind_receive`).
-/

namespace CommandRelay.Bus

open Correlation

/-- Whether a step ends the subscription under a name, if only to begin a new one. -/
def LocalStep.ends (name : String) : LocalStep → Bool
  | .subscribe name' _ | .unsubscribe name' => name' == name
  | _ => false

/-! ## Subscribers of a bus -/

namespace LocalBus

variable {b : LocalBus} {number : Nat} {t : Subscriber}

theorem subscriber?_number (h : b.subscriber? number = some t) : t.number = number := by
  simpa using List.find?_some h

/-- A subscriber is found as before when another one joins. -/
theorem subscriber?_subscribe (h : b.subscriber? number = some t) (other : Nat) (base : String) :
    (b.subscribe other base).subscriber? number = some t := by
  show (b.subscribers ++ [_]).find? _ = _
  rw [List.find?_append]
  have hfound : b.subscribers.find? (·.number == number) = some t := h
  rw [hfound]
  rfl

/-- A new subscriber is found if its number is new. -/
theorem subscriber?_subscribe_self (h : ∀ t ∈ b.subscribers, t.number ≠ number) (base : String) :
    (b.subscribe number base).subscriber? number = some ⟨number, base, b.channel.sent⟩ := by
  have hnone : b.subscribers.find? (·.number == number) = none :=
    List.find?_eq_none.mpr fun t ht => by simpa using h t ht
  show (b.subscribers ++ [_]).find? _ = _
  rw [List.find?_append, hnone, Option.none_or, List.find?_cons_of_pos (by simp)]

/-- A subscriber is found as before when another one leaves. -/
theorem subscriber?_unsubscribe (b : LocalBus) {number other : Nat} (hne : number ≠ other) :
    (b.unsubscribe other).subscriber? number = b.subscriber? number := by
  show (b.subscribers.filter _).find? _ = b.subscribers.find? _
  rw [List.find?_filter]
  refine congrArg (List.find? · b.subscribers) (funext fun t => ?_)
  by_cases hnumber : t.number = number
  · simp [hnumber, hne]
  · simp [hnumber]

theorem next_number (b : LocalBus) (t : Subscriber) : (b.next t).2.number = t.number := by
  rw [next]
  split
  · rfl
  · rfl

/-- A subscriber that receives moves on, and nobody else does. -/
theorem subscriber?_receive (h : b.subscriber? number = some t) (k : Nat) :
    (b.receive number).2.subscriber? k =
      if k = number then some (b.next t).2 else b.subscriber? k := by
  have hnumber := subscriber?_number h
  have hfound : b.subscribers.find? (·.number == number) = some t := h
  rw [receive, h]
  show (b.subscribers.map fun u => if u.number = number then (b.next t).2 else u).find?
    (·.number == k) = _
  -- A subscriber that moves on keeps its number, so looking one up finds the same.
  have hsame : ((fun u : Subscriber => u.number == k) ∘
      fun u => if u.number = number then (b.next t).2 else u) = fun u => u.number == k := by
    funext u
    rw [Function.comp_apply]
    split
    · rename_i hu
      rw [b.next_number, hnumber, hu]
    · rfl
  rw [List.find?_map, hsame]
  by_cases hk : k = number
  · rw [if_pos hk, hk, hfound, Option.map_some, if_pos hnumber]
  · rw [if_neg hk]
    cases hother : b.subscribers.find? (·.number == k) with
    | none => exact hother.symm
    | some u =>
      have hu : u.number = k := by simpa using List.find?_some hother
      rw [Option.map_some, if_neg (by rw [hu]; exact hk)]
      exact hother.symm

/-- A receive leaves the numbers of the subscribers as they are. -/
theorem numbers_receive (b : LocalBus) (number : Nat) :
    (b.receive number).2.subscribers.map (·.number) = b.subscribers.map (·.number) := by
  rw [receive]
  cases h : b.subscriber? number with
  | none => rfl
  | some t =>
    show (b.subscribers.map fun u => if u.number = number then (b.next t).2 else u).map _ = _
    rw [List.map_map]
    refine List.map_congr_left fun u _ => ?_
    rw [Function.comp_apply]
    split
    · rename_i hu
      rw [b.next_number, subscriber?_number h, hu]
    · rfl

theorem receive_channel (b : LocalBus) (number : Nat) :
    (b.receive number).2.channel = b.channel := by
  rw [receive]
  split <;> rfl

/-- A receive gives out what is next for the subscriber of that number. -/
theorem receive_fst (h : b.subscriber? number = some t) :
    (b.receive number).1 = (b.next t).1 := by
  rw [receive, h]

/-- A bus that knows nothing but the numbers of its subscribers. -/
def blind (b : LocalBus) : LocalBus :=
  { b with subscribers := (b.subscribers.map (·.number)).map (⟨·, "", 0⟩) }

theorem blind_blind (b : LocalBus) : b.blind.blind = b.blind := by
  simp only [blind, List.map_map, Function.comp_def]

/-- Joining a bus without subscribers is joining the bus, as far as the others can tell. -/
theorem blind_subscribe (b : LocalBus) (number : Nat) (base : String) :
    (b.blind.subscribe number base).blind = (b.subscribe number base).blind := by
  simp only [blind, subscribe, List.map_append, List.map_map, Function.comp_def, List.map_cons,
    List.map_nil]

theorem blind_unsubscribe (b : LocalBus) (number : Nat) :
    b.blind.unsubscribe number = (b.unsubscribe number).blind := by
  simp only [blind, unsubscribe, List.filter_map, List.map_map, Function.comp_def]

/-- A receive changes a subscriber and nothing else of the bus. -/
theorem blind_receive (b : LocalBus) (number : Nat) : (b.receive number).2.blind = b.blind := by
  have hbus : (b.receive number).2 =
      { b with subscribers := (b.receive number).2.subscribers } := by
    rw [receive]
    split <;> rfl
  rw [hbus, blind, blind]
  simp only [b.numbers_receive]

/-- To refuse or to send a request takes no more than to know whether there are subscribers. -/
theorem blind_request (b : LocalBus) (call : CallId) (r : Request) (timeout : Duration)
    (now : Instant) : b.blind.request call r timeout now =
      ((b.request call r timeout now).1, (b.request call r timeout now).2.blind) := by
  have hsend : ∀ b : LocalBus, b.blind.send call r timeout now =
      ((b.send call r timeout now).1, (b.send call r timeout now).2.blind) := by
    intro b
    have hempty : b.blind.subscribers.isEmpty = b.subscribers.isEmpty := by
      simp only [blind, List.isEmpty_map]
    rw [send, send, hempty]
    split <;> rfl
  rw [request, request]
  cases hentered : b.enter call r with
  | mk started b' =>
    have hblind : b.blind.enter call r = (started, b'.blind) := by
      obtain ⟨rfl, rfl⟩ := Prod.mk.inj hentered
      rfl
    rw [hblind]
    cases started with
    | error f => rfl
    | ok u => exact hsend b'

/-- A request does not touch the subscribers. -/
theorem request_subscribers (b : LocalBus) (call : CallId) (r : Request) (timeout : Duration)
    (now : Instant) : (b.request call r timeout now).2.subscribers = b.subscribers := by
  rw [request]
  cases hentered : b.enter call r with
  | mk started b' =>
    have hsame : b'.subscribers = b.subscribers := by
      rw [← show (b.enter call r).2 = b' from congrArg Prod.snd hentered]
      rfl
    cases started with
    | error f => exact hsame
    | ok u =>
      show (b'.send call r timeout now).2.subscribers = _
      rw [send]
      split
      · exact hsame
      · exact hsame

end LocalBus

/-! ## Named subscribers of a run -/

namespace LocalRun

/-- No two named subscribers have one number, and later ones get numbers of their own. -/
structure Named (s : LocalRun) : Prop where
  numbers : (s.names.map (·.2)).Nodup
  old : ∀ e ∈ s.names, e.2 < s.nextNumber
  subscribed : ∀ k ∈ s.bus.subscribers.map (·.number), k < s.nextNumber

theorem named_ofCapacity (n : Nat) : (ofCapacity n).Named := ⟨List.nodup_nil, nofun, nofun⟩

namespace Named

variable {s s' : LocalRun}

/-- Nobody comes. -/
theorem of_sublist (h : s.Named) (hnames : s'.names.Sublist s.names)
    (hsubscribers : ∀ k ∈ s'.bus.subscribers.map (·.number), k ∈ s.bus.subscribers.map (·.number))
    (hnext : s.nextNumber ≤ s'.nextNumber) : s'.Named :=
  ⟨(hnames.map _).nodup h.numbers,
    fun e he => Nat.lt_of_lt_of_le (h.old e (hnames.subset he)) hnext,
    fun k hk => Nat.lt_of_lt_of_le (h.subscribed k (hsubscribers k hk)) hnext⟩

/-- The end of a subscription takes the name with its subscriber. -/
theorem unsubscribe (h : s.Named) (name : String) : (s.unsubscribe name).Named := by
  rw [LocalRun.unsubscribe]
  split
  · exact h
  · exact h.of_sublist List.filter_sublist (fun k hk => (List.filter_sublist.map _).subset hk)
      (Nat.le_refl _)

/-- A subscription gives its name to the new subscriber, whose number nobody had. -/
theorem subscribe (h : s.Named) (name base : String) : Named { s with
    bus := s.bus.subscribe s.nextNumber base
    names := s.names ++ [(name, s.nextNumber)]
    nextNumber := s.nextNumber + 1 } := by
  refine ⟨?_, ?_, ?_⟩
  · show ((s.names ++ [(name, s.nextNumber)]).map _).Nodup
    rw [List.map_append, List.nodup_append]
    refine ⟨h.numbers, List.nodup_singleton _, ?_⟩
    rintro k hk k' hk' rfl
    obtain ⟨e, he, heq⟩ := List.mem_map.mp hk
    rw [List.mem_singleton.mp hk'] at heq
    exact Nat.ne_of_lt (h.old e he) heq
  · intro e he
    rcases List.mem_append.mp he with hold | hnew
    · exact Nat.lt_succ_of_lt (h.old e hold)
    · rw [List.mem_singleton.mp hnew]
      exact Nat.lt_succ_self _
  · intro k hk
    have hk' : k ∈ (s.bus.subscribers ++ [_]).map Subscriber.number := hk
    rw [List.map_append] at hk'
    rcases List.mem_append.mp hk' with hold | hnew
    · exact Nat.lt_succ_of_lt (h.subscribed k hold)
    · rw [List.mem_singleton.mp hnew]
      exact Nat.lt_succ_self _

/-- Every step keeps names and subscribers together. -/
theorem step (h : s.Named) (a : LocalStep) : (s.step a).2.2.Named := by
  have hsettle : ∀ {s' : LocalRun}, s'.Named → s'.settle.Named := fun h =>
    h.of_sublist (List.Sublist.refl _) (fun k hk => hk) (Nat.le_refl _)
  rw [step_state]
  refine hsettle ?_
  cases a with
  | subscribe name base =>
    rw [stepNow]
    split
    · exact h
    · exact (h.unsubscribe name).subscribe name base
  | unsubscribe name => exact h.unsubscribe name
  | receive name =>
    rw [stepNow]
    split
    · exact h
    · -- A receive moves one subscriber on and keeps all numbers, as a request does.
      rename_i t _
      refine h.of_sublist (List.Sublist.refl _) (fun k hk => ?_) (Nat.le_refl _)
      rw [← s.bus.numbers_receive t.number]
      exact hk
  | request name r timeout =>
    rw [stepNow]
    split
    · refine h.of_sublist (List.Sublist.refl _) (fun k hk => ?_) (Nat.le_succ _)
      rw [← s.bus.request_subscribers s.nextNumber r timeout s.now]
      exact hk
    · exact h
  | respond r =>
    rw [stepNow]
    split
    · exact h.of_sublist (List.Sublist.refl _) (fun k hk => hk) (Nat.le_refl _)
    · exact h
  | poll name => exact h.of_sublist (List.Sublist.refl _) (fun k hk => hk) (Nat.le_refl _)
  | cancel name =>
    rw [stepNow]
    split
    · exact h
    · exact h.of_sublist (List.Sublist.refl _) (fun k hk => hk) (Nat.le_refl _)
  | advance d => exact h.of_sublist (List.Sublist.refl _) (fun k hk => hk) (Nat.le_refl _)
  | close => exact h.of_sublist (List.Sublist.refl _) (fun k hk => hk) (Nat.le_refl _)

/-- Names stand for subscribers throughout a run. -/
theorem after (h : s.Named) (steps : List LocalStep) : (s.after steps).Named := by
  induction steps generalizing s with
  | nil => exact h
  | cons a steps ih => exact ih (h.step a)

end Named

/-! ## One subscriber among others -/

/-- How many requests an event says were lost. -/
def laggedBy (e : Event) : Nat :=
  match e.details.find? (·.1 == "lagged_by") with
  | some (_, .number n) => n
  | _ => 0

/-- What the answer to a receive and the log show. -/
def shown (reply : Reply) (log : List Event) : Received :=
  { lost := (log.map laggedBy).sum
    request := match reply with
      | .received r => some r
      | _ => none }

/-- A name stands for a subscriber. -/
structure Has (s : LocalRun) (name : String) (t : Subscriber) : Prop where
  name : s.names.find? (·.1 == name) = some (name, t.number)
  subscriber : s.bus.subscriber? t.number = some t

namespace Named

variable {s : LocalRun} {name other : String} {t : Subscriber}

/-- Subscribers with different names have different numbers. -/
theorem number_ne (h : s.Named) (ht : s.Has name t) (hne : other ≠ name) {e : String × Nat}
    (he : s.names.find? (·.1 == other) = some e) : t.number ≠ e.2 := by
  intro hsame
  have heq : (name, t.number) = e :=
    List.inj_on_of_nodup_map h.numbers (List.mem_of_find?_eq_some ht.name)
      (List.mem_of_find?_eq_some he) hsame
  have hother : e.1 = other := by simpa using List.find?_some he
  rw [← heq] at hother
  exact hne hother.symm

/-- A name keeps its subscriber when the subscription of another name ends. -/
theorem has_unsubscribe (h : s.Named) (ht : s.Has name t) (hne : other ≠ name) :
    (s.unsubscribe other).Has name t := by
  rw [LocalRun.unsubscribe]
  cases he : s.names.find? (·.1 == other) with
  | none => exact ht
  | some e =>
    refine ⟨?_, ?_⟩
    · show (s.names.filter _).find? _ = _
      rw [List.find?_filter, ← ht.name]
      refine congrArg (List.find? · s.names) (funext fun x => ?_)
      by_cases hx : x.1 = name
      · simp [hx, hne.symm]
      · simp [hx]
    · exact (LocalBus.subscriber?_unsubscribe s.bus (h.number_ne ht hne he)).trans ht.subscriber

/-- A name keeps its subscriber when another one is subscribed. -/
theorem has_subscribe (ht : s.Has name t) (base : String) : LocalRun.Has { s with
    bus := s.bus.subscribe s.nextNumber base
    names := s.names ++ [(other, s.nextNumber)]
    nextNumber := s.nextNumber + 1 } name t := by
  refine ⟨?_, LocalBus.subscriber?_subscribe ht.subscriber _ _⟩
  show (s.names ++ [_]).find? _ = _
  rw [List.find?_append, ht.name]
  rfl

/-- Whoever subscribes begins behind the last request that was sent. -/
theorem step_subscribe (h : s.Named) (hheld : s.held = true) (name base : String) :
    (s.step (.subscribe name base)).2.2.Has name ⟨s.nextNumber, base, s.bus.channel.sent⟩ := by
  obtain ⟨-, -, hnext, -⟩ := s.unsubscribe_frame name
  have hleft := h.unsubscribe name
  have hchannel : (s.unsubscribe name).bus.channel = s.bus.channel := by
    rw [LocalRun.unsubscribe]
    split <;> rfl
  -- Whoever had the name before is gone, and the number is a new one.
  have hforgotten : (s.unsubscribe name).names.find? (·.1 == name) = none := by
    rw [LocalRun.unsubscribe]
    cases hfound : s.names.find? (·.1 == name) with
    | none => exact hfound
    | some e =>
      refine List.find?_eq_none.mpr fun x hx => ?_
      simpa using (List.mem_filter.mp hx).2
  have hnow : (s.stepNow (.subscribe name base)).2.2 = { s.unsubscribe name with
      bus := (s.unsubscribe name).bus.subscribe s.nextNumber base
      names := (s.unsubscribe name).names ++ [(name, s.nextNumber)]
      nextNumber := s.nextNumber + 1 } := by
    rw [stepNow, if_neg (by simp [hheld]), ← hnext]
  suffices hhas : (s.stepNow (.subscribe name base)).2.2.Has name
      ⟨s.nextNumber, base, s.bus.channel.sent⟩ from ⟨hhas.name, hhas.subscriber⟩
  rw [hnow]
  refine ⟨?_, ?_⟩
  · show ((s.unsubscribe name).names ++ [_]).find? _ = _
    rw [List.find?_append, hforgotten, Option.none_or, List.find?_cons_of_pos (by simp)]
  · have hnew : ∀ t ∈ (s.unsubscribe name).bus.subscribers, t.number ≠ s.nextNumber := fun t ht =>
      Nat.ne_of_lt (hnext ▸ hleft.subscribed _ (List.mem_map_of_mem ht))
    rw [← hchannel]
    exact LocalBus.subscriber?_subscribe_self hnew base

/-- A subscriber stays as it is while others come, go and receive. -/
theorem step_apart (h : s.Named) (ht : s.Has name t) {a : LocalStep} (hends : a.ends name = false)
    (ha : a ≠ .receive name) : (s.step a).2.2.Has name t := by
  -- Settling changes the tasks only.
  suffices hnow : (s.stepNow a).2.2.Has name t from ⟨hnow.name, hnow.subscriber⟩
  cases a with
  | subscribe other base =>
    have hne : other ≠ name := by simpa [LocalStep.ends] using hends
    rw [stepNow]
    split
    · exact ht
    · exact has_subscribe (h.has_unsubscribe ht hne) base
  | unsubscribe other =>
    have hne : other ≠ name := by simpa [LocalStep.ends] using hends
    exact h.has_unsubscribe ht hne
  | receive other =>
    have hne : other ≠ name := fun heq => ha (heq ▸ rfl)
    rw [stepNow]
    cases hother : s.subscriber? other with
    | none => exact ht
    | some u =>
      obtain ⟨e, he, hu⟩ := Option.bind_eq_some_iff.mp hother
      have hnumber := LocalBus.subscriber?_number hu
      refine ⟨ht.name, ?_⟩
      show (s.bus.receive u.number).2.subscriber? t.number = some t
      -- A receive moves the place of its own subscriber, and names are of one subscriber each.
      rw [hnumber, LocalBus.subscriber?_receive hu, if_neg (h.number_ne ht hne he)]
      exact ht.subscriber
  | request other r timeout =>
    rw [stepNow]
    split
    · refine ⟨ht.name, ?_⟩
      show (s.bus.request s.nextNumber r timeout s.now).2.subscribers.find? _ = _
      rw [LocalBus.request_subscribers]
      exact ht.subscriber
    · exact ht
  | respond r =>
    rw [stepNow]
    split
    · exact ⟨ht.name, ht.subscriber⟩
    · exact ht
  | cancel other =>
    rw [stepNow]
    split
    · exact ht
    · exact ⟨ht.name, ht.subscriber⟩
  | poll other => exact ⟨ht.name, ht.subscriber⟩
  | advance d => exact ⟨ht.name, ht.subscriber⟩
  | close => exact ⟨ht.name, ht.subscriber⟩

end Named

theorem Has.subscriber?_eq {s : LocalRun} {name : String} {t : Subscriber} (ht : s.Has name t) :
    s.subscriber? name = some t := by
  rw [subscriber?, ht.name]
  exact ht.subscriber

/-- A subscriber that receives moves on, and is given what is next. -/
theorem Has.step_receive {s : LocalRun} {name : String} {t : Subscriber} (ht : s.Has name t) :
    (s.step (.receive name)).2.2.Has name (s.bus.next t).2 ∧
      shown (s.step (.receive name)).1 (s.step (.receive name)).2.1 = (s.bus.next t).1 := by
  -- The reply and the log of a receive, said by what the bus gives next.
  have hstep : s.stepNow (.receive name) =
      ((s.bus.next t).1.request.elim (if s.closed then .closed else .empty) .received,
      if (s.bus.next t).1.lost = 0 then [] else [LocalBus.lagEvent t (s.bus.next t).1.lost],
      { s with bus := (s.bus.receive t.number).2 }) := by
    rewrite [stepNow, ht.subscriber?_eq, ← LocalBus.receive_fst ht.subscriber]
    dsimp only
    obtain ⟨⟨lost, request⟩, bus⟩ := s.bus.receive t.number
    cases request with
    | none => rfl
    | some r => rfl
  refine ⟨⟨?_, ?_⟩, ?_⟩
  · show (s.stepNow (.receive name)).2.2.names.find? _ = _
    rw [hstep, s.bus.next_number]
    exact ht.name
  · show (s.stepNow (.receive name)).2.2.bus.subscriber? _ = _
    rw [hstep]
    show (s.bus.receive t.number).2.subscriber? _ = _
    rw [LocalBus.subscriber?_receive ht.subscriber, if_pos (s.bus.next_number t)]
  · show shown (s.stepNow (.receive name)).1 (s.stepNow (.receive name)).2.1 = _
    rw [hstep]
    obtain ⟨lost, request⟩ := (s.bus.next t).1
    have hlost : ((if lost = 0 then [] else [LocalBus.lagEvent t lost]).map laggedBy).sum =
      lost := by
      split
      · rename_i hzero
        exact hzero.symm
      · exact Nat.add_zero lost
    have hrequest : (match request.elim (if s.closed then Reply.closed else .empty) .received with
        | .received r => some r
        | _ => none) = request := by
      cases request with
      | some r => rfl
      | none => cases s.closed <;> rfl
    exact congrArg₂ Received.mk hlost hrequest

/-! ## What does not depend on places -/

/-- A run that knows nothing but the numbers of its subscribers. -/
def blind (s : LocalRun) : LocalRun := { s with bus := s.bus.blind }

theorem blind_unsubscribe (s : LocalRun) (name : String) :
    s.blind.unsubscribe name = (s.unsubscribe name).blind := by
  have hfound : s.blind.names = s.names := rfl
  rw [unsubscribe, unsubscribe, hfound]
  cases s.names.find? (·.1 == name) with
  | none => rfl
  | some e => simp only [blind, LocalBus.blind_unsubscribe]

/-- To receive is to move on and nothing else. -/
theorem blind_receive (s : LocalRun) (name : String) :
    (s.stepNow (.receive name)).2.2.blind = s.blind := by
  rw [stepNow]
  split
  · rfl
  · exact congrArg (fun b => { s with bus := b }) (s.bus.blind_receive _)

/-- Where the subscribers are makes no difference to what else a step does. -/
theorem blind_step (s : LocalRun) (a : LocalStep) :
    (s.blind.step a).2.2.blind = (s.step a).2.2.blind := by
  have hblind : s.blind.blind = s.blind := by simp only [blind, LocalBus.blind_blind]
  -- Settling looks at the desk only, so it is enough to compare before it.
  suffices hnow : (s.blind.stepNow a).2.2.blind = (s.stepNow a).2.2.blind from
    congrArg settle hnow
  cases a with
  | subscribe name base =>
    have hheld : s.blind.held = s.held := rfl
    rw [stepNow, stepNow, hheld]
    split
    · exact hblind
    · rw [blind_unsubscribe]
      simp only [blind, LocalBus.blind_subscribe]
  | unsubscribe name =>
    show (s.blind.unsubscribe name).blind = (s.unsubscribe name).blind
    rw [blind_unsubscribe]
    simp only [blind, LocalBus.blind_blind]
  | receive name => rw [blind_receive, blind_receive, hblind]
  | request name r timeout =>
    have hheld : s.blind.held = s.held := rfl
    rw [stepNow, stepNow, hheld]
    split
    · simp only [start, blind, LocalBus.blind_request, LocalBus.blind_blind]
    · exact hblind
  | respond r =>
    have hheld : s.blind.held = s.held := rfl
    rw [stepNow, stepNow, hheld]
    split
    · simp only [LocalBus.respond, blind, LocalBus.blind, List.map_map, Function.comp_def]
    · exact hblind
  | cancel name =>
    have htasks : s.blind.tasks = s.tasks := rfl
    rw [stepNow, stepNow, htasks]
    cases Task.find? s.tasks name with
    | none => exact hblind
    | some t =>
      simp only [LocalBus.cancel, blind, LocalBus.blind, List.map_map, Function.comp_def]
  | poll name => simp only [stepNow, blind, LocalBus.blind_blind]
  | advance d => simp only [stepNow, blind, LocalBus.blind_blind]
  | close => simp only [stepNow, blind, LocalBus.blind_blind]

end LocalRun

end CommandRelay.Bus
