import CommandRelay.Proofs.Relay.Trace
import CommandRelay.Relay.World

/-!
# Subscribing on a new connection

The handler of connections asks the external broker for each filter of requests that is configured
and not empty, the queries first and whatever the broker answers (`subscriptions_connect`).  Where
nothing else is left to run, the packets are in the queue of the client as soon as the handler was
launched, as far as there is room for them (`broker_of_connect`).
-/

namespace CommandRelay.Relay

/-- The filters under a key: one, or none if it is not configured or empty. -/
def filtersUnder (s : Settings) (key : String) : List String :=
  ((s.externalTopics.find? key).filter (· ≠ "")).toList

/-- The filters of the requests that are configured and not empty, queries first. -/
def requestFilters (s : Settings) : List String :=
  filtersUnder s Keys.queryRequest ++ filtersUnder s Keys.commandRequest

theorem filtersUnder_eq (s : Settings) (key : String) :
    filtersUnder s key = (s.topic? .external key).toList := rfl

/-! ## Whatever the collaborators do -/

/-- What a trace asks the external broker to subscribe to. -/
def subscriptions (tr : List Performed) : List (String × Qos) :=
  tr.filterMap fun
    | ⟨.subscribe filter qos, _⟩ => some (filter, qos)
    | _ => none

/-- One filter is subscribed to at most, whatever the broker says to it. -/
theorem subscriptions_subscribeTo {s : Settings} {key : String} {tr : List Performed}
    (h : Program.Path (subscribeTo s key) tr (.done ())) :
    subscriptions tr = (filtersUnder s key).map (·, s.delivery.qos) := by
  rw [filtersUnder_eq]
  unfold subscribeTo at h
  cases hfilter : s.topic? .external key with
  | none =>
    rw [hfilter] at h
    obtain ⟨_, rest, rfl, hrest⟩ := Program.path_perform h
    obtain ⟨rfl, -⟩ := Program.path_done hrest
    rfl
  | some filter =>
    rw [hfilter] at h
    obtain ⟨x, rest, rfl, hrest⟩ := Program.path_perform h
    cases x with
    | ok u =>
      obtain ⟨rfl, -⟩ := Program.path_done hrest
      rfl
    | error f =>
      -- a refusal is logged, and nothing is asked for again
      obtain ⟨_, last, rfl, hlast⟩ := Program.path_perform hrest
      obtain ⟨rfl, -⟩ := Program.path_done hlast
      rfl

/-- An accepted connection is subscribed to each filter once, the queries first, even if the first
subscription fails. -/
theorem subscriptions_connect {s : Settings} {tr : List Performed}
    (h : Program.Path (connect s) tr (.done ())) :
    subscriptions tr = (requestFilters s).map (·, s.delivery.qos) := by
  obtain ⟨first, _, second, rfl, hfirst, hsecond⟩ := Program.path_bind h
  have happend : subscriptions (first ++ second) = subscriptions first ++ subscriptions second :=
    List.filterMap_append
  rw [happend, subscriptions_subscribeTo hfirst, subscriptions_subscribeTo hsecond,
    requestFilters, List.map_append]

/-! ## Where nothing else is left to run -/

theorem Program.bind_done (p : Program Unit) : (p.bind fun _ => .done ()) = p := by
  induction p with
  | done a => rfl
  | perform e next ih => exact congrArg (perform e) (funext ih)

namespace World

variable {w : World}

/-- Nothing is left to run at this instant, and every handler has started. -/
structure Resting (w : World) : Prop where
  queue : w.queue = []
  starting : w.starting = []

theorem runQueue_of_empty (h : w.queue = []) (fuel : Nat) : runQueue fuel w = w := by
  cases fuel with
  | zero => rfl
  | succ fuel =>
    unfold runQueue
    rw [h]

/-- Only timers are set for the waits that have begun. -/
theorem exists_setWaitTimers (w : World) : ∃ timers, w.setWaitTimers = { w with timers } := by
  unfold setWaitTimers
  generalize w.bus.desk.guards = guards
  induction guards generalizing w with
  | nil => exact ⟨w.timers, rfl⟩
  | cons g guards ih =>
    rw [List.foldl_cons]
    split
    · split
      · exact ih w
      · exact ih (w.setTimer _ _)
    · exact ih w

/-- A handler that is launched where nothing else is left to run goes on as far as it can, and then
what it has set off runs. -/
theorem exists_settle_launch (h : w.Resting) (p : Program Unit) :
    ∃ fuel, (w.launch p).2.settle = runQueue fuel
      (runHandler w.nextNumber p { w with nextNumber := w.nextNumber + 1 }).setWaitTimers := by
  obtain ⟨hqueue, hstarting⟩ := h
  have hlaunch : (w.launch p).2 = { w with
      nextNumber := w.nextNumber + 1
      starting := [(w.nextNumber, p)]
      queue := [.start w.nextNumber] } := by
    simp only [launch, enqueue, hqueue, hstarting, List.not_mem_nil, if_false, List.nil_append]
  obtain ⟨fuel, hbudget⟩ : ∃ fuel, (w.launch p).2.budget = fuel + 1 := by
    refine Nat.exists_eq_add_one.mpr ?_
    exact Nat.mul_pos (Nat.succ_pos _) (Nat.succ_pos _)
  refine ⟨fuel, ?_⟩
  -- the handler is the first job, and its number finds it
  have hstart : perform { w with
      nextNumber := w.nextNumber + 1, starting := [(w.nextNumber, p)], queue := [] }
      (.start w.nextNumber) =
        runHandler w.nextNumber p { w with nextNumber := w.nextNumber + 1 } := by
    unfold perform
    simp only [List.find?_cons, beq_self_eq_true, List.filter_cons, bne_self_eq_false,
      List.filter_nil, Bool.false_eq_true, if_false]
    rw [← hqueue, ← hstarting]
  rw [settle, hbudget, hlaunch]
  exact congrArg (fun w => runQueue fuel (setWaitTimers w)) hstart

/-- The handler of connections asks for one filter at most, and finds room for it; what else it does
is to log. -/
theorem exists_runHandler_subscribeTo {client : Mqtt.Client CallId} (s : Settings) (key : String)
    (k : Program Unit) (call : CallId) (hbroker : w.broker = .link client)
    (hopen : client.closed = false)
    (hroom : client.queue.length + (filtersUnder s key).length ≤ client.capacity) :
    ∃ log, runHandler call ((subscribeTo s key).bind fun _ => k) w = runHandler call k { w with
      broker := .link { client with
        queue := client.queue ++ (filtersUnder s key).map (.subscribe · s.delivery.qos) }
      log } := by
  rw [filtersUnder_eq] at hroom ⊢
  unfold subscribeTo
  cases hfilter : s.topic? .external key with
  | none =>
    refine ⟨w.log ++ [.failed "request topic not provided in external topics, not subscribing"
      [("key", .text key)]], ?_⟩
    rw [Option.toList_none, List.map_nil, List.append_nil, ← hbroker]
    rfl
  | some filter =>
    rw [hfilter] at hroom
    -- There is room for one more packet, so the client takes it and nobody has to wait.
    have hsent : client.send call (.subscribe filter s.delivery.qos) = (.sent, { client with
        queue := client.queue ++ [.subscribe filter s.delivery.qos] }) := by
      simp only [Mqtt.Client.send, Mqtt.Client.offer, hopen, Mqtt.Packet.allowed, Bool.not_true,
        Bool.or_false, Bool.false_eq_true, if_false, if_pos (Nat.lt_of_succ_le hroom)]
    have hsubscribe : w.subscribe call filter s.delivery.qos = (some (.ok ()), { w with
        broker := .link { client with
          queue := client.queue ++ [.subscribe filter s.delivery.qos] } }) := by
      simp only [subscribe, hbroker, hsent]
    refine ⟨w.log, ?_⟩
    show runHandler call (.perform (.subscribe filter s.delivery.qos) _) w = _
    rw [runHandler, hsubscribe]
    rfl

/-- On a client with room, a new connection is subscribed to the filters of requests, in their order
and behind what was queued before, as soon as its handler was launched. -/
theorem broker_of_connect {client : Mqtt.Client CallId} (h : w.Resting)
    (hbroker : w.broker = .link client) (hopen : client.closed = false)
    (hroom : client.queue.length + (requestFilters w.settings).length ≤ client.capacity) :
    (w.launch (connect w.settings)).2.settle.broker = .link { client with
      queue := client.queue ++
        (requestFilters w.settings).map (.subscribe · w.settings.delivery.qos) } := by
  rw [requestFilters, List.length_append] at hroom
  obtain ⟨fuel, hsettle⟩ := exists_settle_launch h (connect w.settings)
  -- first the queries
  obtain ⟨log, hqueries⟩ := exists_runHandler_subscribeTo
    (w := { w with nextNumber := w.nextNumber + 1 }) w.settings Keys.queryRequest
    (subscribeTo w.settings Keys.commandRequest) w.nextNumber hbroker hopen (by omega)
  -- then the commands, behind them
  have hbehind : (client.queue ++ (filtersUnder w.settings Keys.queryRequest).map
      (Mqtt.Packet.subscribe · w.settings.delivery.qos)).length +
        (filtersUnder w.settings Keys.commandRequest).length ≤ client.capacity := by
    rwa [List.length_append, List.length_map, Nat.add_assoc]
  obtain ⟨log', hcommands⟩ := exists_runHandler_subscribeTo
    (w := { w with
      nextNumber := w.nextNumber + 1
      broker := .link { client with queue := client.queue ++
        (filtersUnder w.settings Keys.queryRequest).map (.subscribe · w.settings.delivery.qos) }
      log })
    w.settings Keys.commandRequest (.done ()) w.nextNumber rfl hopen hbehind
  rw [Program.bind_done] at hcommands
  have hboth : runHandler w.nextNumber (connect w.settings)
      { w with nextNumber := w.nextNumber + 1 } = _ := hqueries.trans hcommands
  generalize runHandler w.nextNumber (connect w.settings)
    { w with nextNumber := w.nextNumber + 1 } = ran at hsettle hboth
  obtain ⟨timers, htimers⟩ := exists_setWaitTimers ran
  have hdone : ran.setWaitTimers.queue = [] := by
    rw [htimers, hboth]
    exact h.queue
  rw [hsettle, runQueue_of_empty hdone, htimers, hboth, requestFilters, List.map_append,
    ← List.append_assoc]
  rfl

end World

end CommandRelay.Relay
