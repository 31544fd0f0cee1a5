import CommandRelay.Proofs.Catalogue.Routing
import CommandRelay.Proofs.Relay.Reporting

/-!
# What reaches the internal bus

Topics and payloads come from anybody; the relay is all that stands between them and the devices.
Behind a router over a catalogue, a message makes a request on the internal bus exactly if it is
admitted, and then makes that one request.

1. **`Admitted`** — who is admitted, said on the levels of the topic, the entries of the settings
   and the devices of the catalogue, without the functions that look them up.
2. **`Verdict.mem_busRequests_iff`** — the gates of a command make a request exactly if they all let
   it through.
3. **The theorem** — `bus_request_iff_admitted`, for a message that is a command and for every
   message that is dispatched.
-/

namespace CommandRelay.Relay

open Program

/-! ## Gates one by one -/

/-- The last three levels of a topic are its address. -/
theorem address_eq_ok_iff {topic : String} {a : Topic.Address} :
    Topic.address topic = .ok a ↔
      ∃ front, Topic.levels topic = front ++ [a.device, a.command, a.method] := by
  rw [Topic.address]
  constructor
  · intro h
    split at h
    · rename_i method command device front heq
      obtain rfl := Except.ok.inj h
      exact ⟨front.reverse, by rw [← List.reverse_reverse (Topic.levels topic), heq]; simp⟩
    · cases h
  · rintro ⟨front, heq⟩
    rw [heq]
    simp

/-- A word names a method exactly if it is that method's word up to the case of its letters. -/
theorem parse_eq_ok_iff {word : String} {m : Method} :
    Method.parse word = .ok m ↔ word.toList.map Char.toLower = m.word.toList := by
  have hget : "get".toList.map Char.toLower = "get".toList := by decide
  have hset : "set".toList.map Char.toLower = "set".toList := by decide
  have hdiffer : ("set".toList == "get".toList) = false := by decide
  rw [Method.parse, Method.ofWord?, Method.all]
  simp only [List.find?_cons, List.find?_nil, Text.equalIgnoringCase, Method.word, hget, hset]
  generalize word.toList.map Char.toLower = spelled
  by_cases h : spelled = "get".toList
  · subst h
    cases m <;> simp
  by_cases h' : spelled = "set".toList
  · subst h'
    rw [hdiffer]
    cases m <;> simp
  rw [beq_eq_false_iff_ne.mpr h, beq_eq_false_iff_ne.mpr h']
  cases m with
  | get => exact iff_of_false nofun h
  | set => exact iff_of_false nofun h'

/-- A topic is found exactly if its key has an entry that is not empty. -/
theorem topic?_eq_some_iff {s : Settings} {side : Side} {key topic : String} :
    s.topic? side key = some topic ↔ (s.topics side).find? key = some topic ∧ topic ≠ "" := by
  rw [Settings.topic?, TopicMap.topic?, Option.filter_eq_some_iff]
  simp

/-! ## Who is admitted -/

/-- The request that a message may make: its topic names a device of the catalogue that takes the
command, both sides have their topics, and the parameters are good for the method. -/
inductive Admitted (s : Settings) (devices : Catalogue) (topic : String) (q : Envelope) :
    Bus.Request → Prop
  | intro {front : List String} {d : Device} {command word reply base : String} {method : Method}
      (levels : Topic.levels topic = front ++ [d.name, command, word])
      (hreply : s.externalTopics.find? Keys.commandResponse = some reply) (reply_ne : reply ≠ "")
      (hbase : s.internalTopics.find? Keys.deviceRequest = some base) (base_ne : base ≠ "")
      (spelled : word.toList.map Char.toLower = method.word.toList)
      (known : d ∈ devices) (takes : d.Takes command method)
      (params : q.queryParams.check method = .ok ()) :
      Admitted s devices topic q {
        service := d.service
        topic := Topic.join [base, d.service, d.name, command, method.word]
        envelope := q }

namespace Admitted

variable {s : Settings} {devices : Catalogue} {topic : String} {q : Envelope} {r : Bus.Request}

/-- Whoever is admitted has an address. -/
theorem addressed (h : Admitted s devices topic q r) : ∃ a, Topic.address topic = .ok a := by
  cases h with
  | @intro front d command word _ _ _ levels =>
    exact ⟨⟨d.name, command, word⟩, address_eq_ok_iff.mpr ⟨front, levels⟩⟩

/-- Whoever is admitted can be answered. -/
theorem answerable (h : Admitted s devices topic q r) :
    ∃ reply, s.topic? .external Keys.commandResponse = some reply := by
  cases h with
  | intro _ hreply reply_ne => exact ⟨_, topic?_eq_some_iff.mpr ⟨hreply, reply_ne⟩⟩

end Admitted

/-- A filter under a key is there and matches a topic. -/
def Listens (s : Settings) (key topic : String) : Prop :=
  ∃ filter, s.externalTopics.find? key = some filter ∧ filter ≠ "" ∧
    Topic.accepts filter topic = true

/-- A handler wants a message exactly if its filter is there and lets the topic in. -/
theorem wants_iff {s : Settings} {key topic : String} :
    wants s key topic = true ↔ Listens s key topic := by
  rw [wants, Listens]
  cases hfilter : s.topic? .external key with
  | none =>
    refine iff_of_false nofun ?_
    rintro ⟨filter, hfind, hne, -⟩
    have hthere : s.topic? .external key = some filter := topic?_eq_some_iff.mpr ⟨hfind, hne⟩
    rw [hthere] at hfilter
    cases hfilter
  | some filter =>
    obtain ⟨hfind, hne⟩ := topic?_eq_some_iff.mp hfilter
    constructor
    · intro haccepts
      exact ⟨filter, hfind, hne, haccepts⟩
    · rintro ⟨filter', hfind', -, haccepts⟩
      obtain rfl : filter = filter' := Option.some.inj (hfind.symm.trans hfind')
      exact haccepts

variable {s : Settings} {devices : Catalogue} {topic : String} {q : Envelope}

/-- The gates of a command, one by one, let a request through. -/
inductive LetThrough (s : Settings) (devices : Catalogue) (q : Envelope) (a : Topic.Address) :
    Bus.Request → Prop
  | intro {m : Method} {base : String} {route : Route} (hm : Method.parse a.method = .ok m)
      (hb : s.topic? .internal Keys.deviceRequest = some base)
      (hroute : devices.resolve base a.device a.command m = .ok route)
      (hp : q.queryParams.check m = .ok ()) :
      LetThrough s devices q a ⟨route.service, route.topic, q⟩

/-- Each look-up has one result, so one request is let through. -/
theorem letThrough_iff {a : Topic.Address} {m : Method} {base : String} {route : Route}
    {r : Bus.Request} (hm : Method.parse a.method = .ok m)
    (hb : s.topic? .internal Keys.deviceRequest = some base)
    (hroute : devices.resolve base a.device a.command m = .ok route)
    (hp : q.queryParams.check m = .ok ()) :
    LetThrough s devices q a r ↔ r = ⟨route.service, route.topic, q⟩ := by
  constructor
  · rintro ⟨hm', hb', hroute', -⟩
    obtain rfl := Except.ok.inj (hm.symm.trans hm')
    obtain rfl := Option.some.inj (hb.symm.trans hb')
    obtain rfl := Except.ok.inj (hroute.symm.trans hroute')
    rfl
  · rintro rfl
    exact .intro hm hb hroute hp

/-- Behind a router over a catalogue, the gates make a request exactly if they let it through. -/
theorem Verdict.mem_busRequests_iff {a : Topic.Address} {consulted : List Performed}
    {v : Except String Envelope} (h : Verdict s q a consulted v)
    (hrouted : ∀ base device command method x,
      ⟨.resolve base device command method, x⟩ ∈ consulted →
        x = devices.resolve base device command method) {r : Bus.Request} {timeout : Duration} :
    (r, timeout) ∈ busRequests consulted ↔
      timeout = s.requestTimeout ∧ LetThrough s devices q a r := by
  -- Behind the last gate one request is made; before it there is none, and some gate is not passed.
  have hrequested : ∀ {m base route}, Method.parse a.method = .ok m →
      s.topic? .internal Keys.deviceRequest = some base → q.queryParams.check m = .ok () →
      Except.ok route = devices.resolve base a.device a.command m →
      ((r, timeout) ∈ [((⟨route.service, route.topic, q⟩ : Bus.Request), s.requestTimeout)] ↔
        timeout = s.requestTimeout ∧ LetThrough s devices q a r) := by
    intro m base route hm hb hp hx
    rw [List.mem_singleton, Prod.mk.injEq, letThrough_iff hm hb hx.symm hp, and_comm]
  cases h with
  | method hm =>
    refine iff_of_false (fun hmem => nomatch hmem) ?_
    rintro ⟨-, hm', -⟩
    rw [hm] at hm'
    cases hm'
  | base hm hb =>
    refine iff_of_false (fun hmem => nomatch hmem) ?_
    rintro ⟨-, -, hb', -⟩
    rw [hb] at hb'
    cases hb'
  | route hm hb =>
    have hx := hrouted _ _ _ _ _ (List.mem_singleton_self _)
    refine iff_of_false (fun hmem => nomatch hmem) ?_
    rintro ⟨-, hm', hb', hroute, -⟩
    obtain rfl := Except.ok.inj (hm.symm.trans hm')
    obtain rfl := Option.some.inj (hb.symm.trans hb')
    rw [← hx] at hroute
    cases hroute
  | params hm hb hp =>
    refine iff_of_false (fun hmem => nomatch hmem) ?_
    rintro ⟨-, hm', -, -, hp'⟩
    obtain rfl := Except.ok.inj (hm.symm.trans hm')
    rw [hp] at hp'
    cases hp'
  | bus hm hb hp => exact hrequested hm hb hp (hrouted _ _ _ _ _ List.mem_cons_self)
  | answered hm hb hp => exact hrequested hm hb hp (hrouted _ _ _ _ _ List.mem_cons_self)

/-- What the gates let through is who is admitted. -/
theorem admitted_iff (hnames : (devices.map (·.name)).Nodup) {a : Topic.Address} {reply : String}
    (ha : Topic.address topic = .ok a)
    (hreply : s.topic? .external Keys.commandResponse = some reply) {r : Bus.Request} :
    Admitted s devices topic q r ↔ LetThrough s devices q a r := by
  constructor
  · rintro @⟨front, d, command, word, -, base, m, hlevels, -, -, hbase, hne, hspelled, hd, htakes,
      hp⟩
    have ha' : Topic.address topic = .ok ⟨d.name, command, word⟩ :=
      address_eq_ok_iff.mpr ⟨front, hlevels⟩
    obtain rfl := Except.ok.inj (ha.symm.trans ha')
    exact .intro (parse_eq_ok_iff.mpr hspelled) (topic?_eq_some_iff.mpr ⟨hbase, hne⟩)
      ((Catalogue.resolve_eq_ok_iff hnames).mpr ⟨d, hd, rfl, htakes, rfl⟩) hp
  · rintro ⟨hm, hb, hroute, hp⟩
    obtain ⟨front, hlevels⟩ := address_eq_ok_iff.mp ha
    obtain ⟨hfind, hne⟩ := topic?_eq_some_iff.mp hreply
    obtain ⟨hfind', hne'⟩ := topic?_eq_some_iff.mp hb
    obtain ⟨d, hd, hname, htakes, rfl⟩ := (Catalogue.resolve_eq_ok_iff hnames).mp hroute
    rw [← hname] at hlevels ⊢
    exact .intro hlevels hfind hne hfind' hne' (parse_eq_ok_iff.mp hm) hd htakes hp

/-- A command makes the request that its gates let through, whether names are distinct or not. -/
theorem handleCommand_letThrough_iff {payload : List UInt8} {fresh : String} {rest : List Performed}
    (h : Path (handleCommand s topic payload) (⟨.fresh, fresh⟩ :: rest) (.done ()))
    (hrouted : ∀ base device command method x,
      ⟨.resolve base device command method, x⟩ ∈ rest →
        x = devices.resolve base device command method) {r : Bus.Request} {timeout : Duration} :
    (r, timeout) ∈ busRequests rest ↔ timeout = s.requestTimeout ∧
      ∃ q a reply, Envelope.receive fresh payload s.wording = .ok q ∧ Topic.address topic = .ok a ∧
        s.topic? .external Keys.commandResponse = some reply ∧ LetThrough s devices q a r := by
  obtain ⟨fresh', rest', heq, hways⟩ := handleCommand_cases h
  obtain ⟨hfirst, rfl⟩ := List.cons.inj heq
  obtain rfl : fresh = fresh' := by
    injection hfirst
  rw [← busRequests_calls]
  rcases hways with ⟨f, hq, hr⟩ | ⟨q, f, hq, ha, hr⟩ | ⟨q, a, hq, ha, hreply, hr⟩ |
    ⟨q, a, reply, consulted, v, taken, hq, ha, hreply, hv, hcalls⟩
  · -- The message can not be read.
    rw [hr.busRequests_eq]
    refine iff_of_false List.not_mem_nil ?_
    rintro ⟨-, q, a, reply, hq', -⟩
    rw [hq] at hq'
    cases hq'
  · -- The topic is too short.
    rw [hr.busRequests_eq]
    refine iff_of_false List.not_mem_nil ?_
    rintro ⟨-, q', a, reply, -, ha', -⟩
    rw [ha] at ha'
    cases ha'
  · -- There is nowhere to answer.
    rw [hr.busRequests_eq]
    refine iff_of_false List.not_mem_nil ?_
    rintro ⟨-, q', a', reply, -, -, hreply', -⟩
    rw [hreply] at hreply'
    cases hreply'
  · -- Only the gates are left: a delivery makes no request of the bus.
    have hconsulted : ∀ base device command method x,
        ⟨.resolve base device command method, x⟩ ∈ consulted →
          x = devices.resolve base device command method := by
      intro base device command method x hx
      apply hrouted
      have hmem : ⟨.resolve base device command method, x⟩ ∈ calls rest := by
        rw [hcalls]
        exact List.mem_append_left _ hx
      exact (List.mem_filter.mp hmem).1
    rw [hcalls, busRequests_append]
    show (r, timeout) ∈ busRequests consulted ++ [] ↔ _
    rw [List.append_nil, hv.mem_busRequests_iff hconsulted]
    constructor
    · rintro ⟨htimeout, hthrough⟩
      exact ⟨htimeout, q, a, reply, hq, ha, hreply, hthrough⟩
    · rintro ⟨htimeout, q', a', reply', hq', ha', -, hthrough⟩
      obtain rfl := Except.ok.inj (hq.symm.trans hq')
      obtain rfl := Except.ok.inj (ha.symm.trans ha')
      exact ⟨htimeout, hthrough⟩

/-- A command makes the request that its message is admitted for, and no other. -/
theorem handleCommand_busRequests_iff (hnames : (devices.map (·.name)).Nodup)
    {payload : List UInt8} {fresh : String} {rest : List Performed}
    (h : Path (handleCommand s topic payload) (⟨.fresh, fresh⟩ :: rest) (.done ()))
    (hrouted : ∀ base device command method x,
      ⟨.resolve base device command method, x⟩ ∈ rest →
        x = devices.resolve base device command method) {r : Bus.Request} {timeout : Duration} :
    (r, timeout) ∈ busRequests rest ↔ timeout = s.requestTimeout ∧
      ∃ q, Envelope.receive fresh payload s.wording = .ok q ∧ Admitted s devices topic q r := by
  rw [handleCommand_letThrough_iff h hrouted]
  refine and_congr_right fun _ => ⟨?_, ?_⟩
  · rintro ⟨q, a, reply, hq, ha, hreply, hthrough⟩
    exact ⟨q, hq, (admitted_iff hnames ha hreply).mpr hthrough⟩
  · rintro ⟨q, hq, hadmitted⟩
    obtain ⟨a, ha⟩ := hadmitted.addressed
    obtain ⟨reply, hreply⟩ := hadmitted.answerable
    exact ⟨q, a, reply, hq, ha, hreply, (admitted_iff hnames ha hreply).mp hadmitted⟩

/-! ## The theorem -/

/-- **The relay is the gate of the internal bus.**  Collaborators may have any state and behave in
any way, with a router over a catalogue of distinct names among them.  A command makes a request
exactly if its message can be read and is admitted; that is its only request.  A message that is
dispatched runs one handler at most, queries first, and so makes one request and publishes one
message at most. -/
theorem bus_request_iff_admitted {σ : Type} (answer : (e : Effect) → σ → e.Answer × σ) (start : σ)
    (s : Settings) (devices : Catalogue) (topic : String) (payload : List UInt8)
    (hnames : (devices.map (·.name)).Nodup)
    (hrouter : ∀ base device command method t,
      (answer (.resolve base device command method) t).1 =
        devices.resolve base device command method) :
    let commanded := trace answer (handleCommand s topic payload) start
    let queried := trace answer (handleQuery s topic payload) start
    let dispatched := trace answer (dispatch s topic payload) start
    -- A command makes the request that it is admitted for, and no other.
    (∀ r timeout, (r, timeout) ∈ busRequests commanded ↔ timeout = s.requestTimeout ∧
      ∃ q, Envelope.receive (answer .fresh start).1 payload s.wording = .ok q ∧
        Admitted s devices topic q r) ∧
    (busRequests commanded).length ≤ 1 ∧
    -- A message goes to one handler at most, to that of queries if both filters match.
    (Listens s Keys.queryRequest topic → dispatched = queried) ∧
    (¬ Listens s Keys.queryRequest topic → Listens s Keys.commandRequest topic →
      dispatched = commanded) ∧
    (¬ Listens s Keys.queryRequest topic → ¬ Listens s Keys.commandRequest topic →
      dispatched = []) ∧
    busRequests queried = [] ∧
    (busRequests dispatched).length ≤ 1 ∧ (publications dispatched).length ≤ 1 := by
  intro commanded queried dispatched
  have hcommand : Path (handleCommand s topic payload) commanded (.done ()) :=
    path_trace answer _ start
  have hquery : Path (handleQuery s topic payload) queried (.done ()) := path_trace answer _ start
  have hone := handleCommand_busRequests_le hcommand
  have hquiet := handleQuery_busRequests hquery
  have hfirst : Listens s Keys.queryRequest topic → dispatched = queried := by
    intro hlistens
    show trace answer (if wants s Keys.queryRequest topic then _ else _) start = _
    rw [if_pos (wants_iff.mpr hlistens)]
  have hsecond : ¬ Listens s Keys.queryRequest topic → dispatched =
      if wants s Keys.commandRequest topic then commanded else [] := by
    intro hother
    show trace answer (if wants s Keys.queryRequest topic then _ else _) start = _
    rw [if_neg (fun hwants => hother (wants_iff.mp hwants))]
    split <;> rfl
  refine ⟨?_, hone, hfirst, ?_, ?_, hquiet, ?_⟩
  · intro r timeout
    -- The ID that is made up for a message is the collaborators' first answer.
    have htrace : commanded = ⟨.fresh, (answer .fresh start).1⟩ :: _ :=
      trace_perform answer .fresh _ start
    rw [htrace] at hcommand
    have hrouted : ∀ base device command method x,
        ⟨.resolve base device command method, x⟩ ∈ commanded →
          x = devices.resolve base device command method := by
      intro base device command method x hx
      obtain ⟨t, rfl⟩ := answered_of_mem_trace hx
      exact hrouter base device command method t
    rw [htrace] at hrouted ⊢
    exact handleCommand_busRequests_iff hnames hcommand
      fun base device command method x hx => hrouted _ _ _ _ _ (List.mem_cons_of_mem _ hx)
  · intro hother hlistens
    rw [hsecond hother, if_pos (wants_iff.mpr hlistens)]
  · intro hother hnone
    rw [hsecond hother, if_neg (fun hwants => hnone (wants_iff.mp hwants))]
  · by_cases hlistens : Listens s Keys.queryRequest topic
    · rw [hfirst hlistens, hquiet]
      exact ⟨Nat.zero_le 1, handleQuery_publications_le hquery⟩
    · rw [hsecond hlistens]
      split
      · exact ⟨hone, handleCommand_publications_le hcommand⟩
      · exact ⟨Nat.zero_le 1, Nat.zero_le 1⟩

/-- A catalogue with a command that can be read only, and one behind it with the same name. -/
def pressShop : Catalogue :=
  [{ name := "lathe", service := "turning" },
   { name := "press", service := "forming"
     commands := [{ name := "speed" }, { name := "speed", get := false, set := true }] }]

/-- Collaborators of a bad day that have a catalogue. -/
def pressShopDay : (e : Effect) → Unit → e.Answer × Unit
  | .resolve base device command method, _ => (pressShop.resolve base device command method, ())
  | e, u => badDay e u

/-- The theorem for a command whose method is spelled in its own way: its one request goes to the
service of the device. -/
theorem speed_of_press_is_requested :
    (pressShop.map (·.name)).Nodup ∧
    (∀ base device command method t,
      (pressShopDay (.resolve base device command method) t).1 =
        pressShop.resolve base device command method) ∧
    busRequests
    (trace pressShopDay (handleCommand twoSided "site/press/speed/GeT" bareRequest) ()) =
      [({ service := "forming"
          topic := "internal/forming/press/speed/get"
          envelope := { requestId := "R1", correlationId := "c-1" } }, .ofMillis 500)] := by
  have hnames : (pressShop.map (·.name)).Nodup := by decide
  have hrouter : ∀ base device command method t,
      (pressShopDay (.resolve base device command method) t).1 =
        pressShop.resolve base device command method := fun _ _ _ _ _ => rfl
  refine ⟨hnames, hrouter, ?_⟩
  obtain ⟨hrequest, hone, -⟩ := bus_request_iff_admitted pressShopDay () twoSided pressShop
    "site/press/speed/GeT" bareRequest hnames hrouter
  have hadmitted : Admitted twoSided pressShop "site/press/speed/GeT"
      { requestId := "R1", correlationId := "c-1" } {
        service := "forming"
        topic := Topic.join ["internal", "forming", "press", "speed", "get"]
        envelope := { requestId := "R1", correlationId := "c-1" } } :=
    @Admitted.intro _ _ _ _ ["site"] pressShop[1] "speed" "GeT" "replies/" "internal" .get
      (by decide) (by cbv) (by decide) (by cbv) (by decide) (by decide) (by decide)
      (.inr ⟨[], { name := "speed" }, [{ name := "speed", get := false, set := true }], rfl, nofun,
        rfl, rfl⟩) (by decide)
  have htopic : Topic.join ["internal", "forming", "press", "speed", "get"] =
      "internal/forming/press/speed/get" := by decide
  rw [htopic] at hadmitted
  have hmem := (hrequest _ (.ofMillis 500)).mpr ⟨by decide, _, by cbv, hadmitted⟩
  -- At most one request is made, and this is one.
  obtain ⟨only, honly⟩ := List.length_eq_one_iff.mp
    (Nat.le_antisymm hone (List.length_pos_of_mem hmem))
  rw [honly] at hmem ⊢
  rw [List.mem_singleton.mp hmem]

end CommandRelay.Relay
