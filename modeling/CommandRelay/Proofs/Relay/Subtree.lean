import CommandRelay.Proofs.Bus.Unread
import CommandRelay.Proofs.Relay.Addressing

/-!
# Subtrees of services

A command comes in with levels that anybody wrote, and goes out on a topic that is built of these
and of configured text.  Whatever they wrote, the topic lies below the prefix and the service that
owns the device, and a service that listens there does not miss it.

1. **`requestTopic_below`, `requestTopic_above`** — a built topic taken apart behind the service and
   before the method.
2. **`Leads`** — the internal topics to which commands lead, and where these lie (`Leads.below`).
3. **`letThrough_of_dispatch`** — the relay makes requests on such topics and no others.
4. **The theorem** — `routed_request_stays_in_subtree`.
-/

namespace CommandRelay.Relay

open Program

/-! ## Built topics -/

section

open Topic

variable {base service : String} (h : kept [base, service] ≠ []) (device command : String)
  (m : Method)

theorem join_word : join [m.word] = m.word := by cases m <;> decide

theorem kept_word_ne_nil (parts : List String) : kept (parts ++ [m.word]) ≠ [] := by
  have hword : trimSlashes m.word.toList ≠ [] := by cases m <;> decide
  exact kept_ne_nil (List.mem_append_right _ (List.mem_singleton_self _)) hword

include h

theorem requestTopic_below : Catalogue.requestTopic base service device command m =
    join [base, service] ++ "/" ++ join [device, command, m.word] :=
  join_append h (kept_word_ne_nil m [device, command])

theorem requestTopic_above : Catalogue.requestTopic base service device command m =
    join [base, service, device, command] ++ "/" ++ m.word := by
  have hfront : kept [base, service, device, command] ≠ [] := by
    show kept ([base, service] ++ [device, command]) ≠ []
    rw [kept_append]
    exact List.append_ne_nil_of_left_ne_nil h _
  rw [← join_word m]
  exact join_append hfront (kept_word_ne_nil m [])

end

theorem toList_prefix_append (front rest : String) : front.toList <+: (front ++ rest).toList := by
  rw [String.toList_append]
  exact List.prefix_append _ _

theorem toList_suffix_append (front rest : String) : rest.toList <:+ (front ++ rest).toList := by
  rw [String.toList_append]
  exact List.suffix_append _ _

/-! ## Where commands lead -/

/-- A command topic leads to a route: what the topic addresses is resolved to it. -/
inductive Leads (devices : Catalogue) (base external : String) : Method → Route → Prop
  | intro {a : Topic.Address} {m : Method} {r : Route} (address : Topic.address external = .ok a)
      (method : Method.parse a.method = .ok m)
      (resolved : devices.resolve base a.device a.command m = .ok r) :
      Leads devices base external m r

namespace Leads

variable {devices : Catalogue} {base external : String} {m : Method} {r : Route}

/-- The route goes to the service of the device that owns the name in the topic. -/
theorem owned (h : Leads devices base external m r) :
    ∃ a d, Topic.address external = .ok a ∧ Catalogue.Owns devices a.device d ∧
      r.service = d.service := by
  obtain ⟨ha, -, hresolved⟩ := h
  obtain ⟨d, howns, -, rfl⟩ := Catalogue.resolve_eq_ok_iff_owns.mp hresolved
  exact ⟨_, d, ha, howns, rfl⟩

/-- It lies below its service, and ends in the method. -/
theorem below (h : Leads devices base external m r)
    (hservice : Topic.trimSlashes r.service.toList ≠ []) :
    (Topic.join [base, r.service] ++ "/").toList <+: r.topic.toList ∧
      ("/" ++ m.word).toList <:+ r.topic.toList := by
  obtain ⟨-, -, hresolved⟩ := h
  have htopic := Catalogue.topic_of_resolve hresolved
  have hkept : Topic.kept [base, r.service] ≠ [] :=
    Topic.kept_ne_nil (List.mem_cons_of_mem _ (List.mem_singleton_self _)) hservice
  constructor
  · rw [htopic, requestTopic_below hkept]
    exact toList_prefix_append _ _
  · rw [htopic, requestTopic_above hkept, String.append_assoc]
    exact toList_suffix_append _ _

end Leads

/-! ## What the relay asks for -/

section

variable {s : Settings} {devices : Catalogue} {topic : String} {payload : List UInt8}
  {tr : List Performed} {r : Bus.Request} {timeout : Duration}

/-- A message that is dispatched makes requests that the gates of a command let through. -/
theorem letThrough_of_dispatch (h : Path (dispatch s topic payload) tr (.done ()))
    (hrouted : ∀ base device command method x,
      ⟨.resolve base device command method, x⟩ ∈ tr →
        x = devices.resolve base device command method)
    (hr : (r, timeout) ∈ busRequests tr) :
    ∃ q a, Topic.address topic = .ok a ∧ LetThrough s devices q a r := by
  rw [dispatch] at h
  split at h
  · rw [handleQuery_busRequests h] at hr
    cases hr
  split at h
  · -- The ID that is made up first is no request.
    obtain ⟨fresh, rest, rfl, -⟩ := handleCommand_cases h
    have hr : (r, timeout) ∈ busRequests rest := hr
    obtain ⟨-, q, a, reply, -, ha, -, hthrough⟩ := (handleCommand_letThrough_iff h
      fun base device command method x hx => hrouted _ _ _ _ _ (List.mem_cons_of_mem _ hx)).mp hr
    exact ⟨q, a, ha, hthrough⟩
  · cases h
    cases hr

end

/-- A topic below a prefix with a slash begins with the prefix. -/
theorem isBelow_of_prefix {base : String} {q : Bus.Request}
    (h : (base ++ "/").toList <+: q.topic.toList) : q.isBelow base = true :=
  List.isPrefixOf_iff_prefix.mpr ((toList_prefix_append base "/").trans h)

/-! ## The theorem -/

/-- **A routed request stays in the subtree of its service, and reaches whoever listens there.**
Take any catalogue, any prefix, and any service of whose name something is left without slashes at
its ends.

* A command topic, whatever its levels, leads to routes of the service that owns the device it
  names.  A route to the service begins with the topic built of prefix and service, and a slash, and
  ends in a slash and the method.
* However the collaborators answer, with a router over the catalogue among them, a message makes the
  relay ask for such routes only.
* In any run of the local bus, whoever subscribes to the topic built of prefix and service passes
  over no request with such a route.  Those that were sent are booked as returned, or as lost
  because they were overwritten before it received; or they are overwritten now, or are there to be
  read, and the receives that come next return them in their order. -/
theorem routed_request_stays_in_subtree (devices : Catalogue) (base service : String)
    (hservice : Topic.trimSlashes service.toList ≠ []) :
    (∀ external m r, Leads devices base external m r →
      (∃ a d, Topic.address external = .ok a ∧ Catalogue.Owns devices a.device d ∧
        r.service = d.service) ∧
      (r.service = service →
        (Topic.join [base, service] ++ "/").toList <+: r.topic.toList ∧
          ("/" ++ m.word).toList <:+ r.topic.toList)) ∧
    (∀ s external payload tr, Path (dispatch s external payload) tr (.done ()) →
      (∀ base device command method x, ⟨.resolve base device command method, x⟩ ∈ tr →
        x = devices.resolve base device command method) →
      s.topic? .internal Keys.deviceRequest = some base →
      ∀ q timeout, (q, timeout) ∈ busRequests tr →
        ∃ m, Leads devices base external m ⟨q.service, q.topic⟩) ∧
    ∀ c before name later, ((Bus.LocalRun.ofCapacity c).after before).held = true →
      (∀ a ∈ later, a.ends name = false) →
      let n := c.nextPowerOfTwo
      let subtree := Topic.join [base, service]
      let s := (((Bus.LocalRun.ofCapacity c).after before).step (.subscribe name subtree)).2.2
      let readable := (s.books n name subtree later).kept n
      let next := (s.after later).gave name (List.replicate readable.length (.receive name))
      s.Stands n name subtree later ∧
      ∀ q external m, Leads devices base external m ⟨service, q.topic⟩ →
        (∀ mark, (q, mark) ∈ (s.books n name subtree later).booked → mark = .returned ∨
        mark = .lost) ∧
        (q ∈ readable → q ∈ next.filterMap (·.request)) := by
  have hbelow : ∀ external m r, Leads devices base external m r → r.service = service →
      (Topic.join [base, service] ++ "/").toList <+: r.topic.toList ∧
        ("/" ++ m.word).toList <:+ r.topic.toList := by
    rintro external m r hleads rfl
    exact hleads.below hservice
  refine ⟨fun external m r hleads => ⟨hleads.owned, hbelow external m r hleads⟩, ?_, ?_⟩
  · intro s external payload tr hpath hrouted hbase q timeout hq
    obtain ⟨request, a, ha, hm, hb, hresolved, -⟩ := letThrough_of_dispatch hpath hrouted hq
    obtain rfl := Option.some.inj (hbase.symm.trans hb)
    exact ⟨_, .intro ha hm hresolved⟩
  · intro c before name later hheld hlater n subtree s readable next
    have hstands : s.Stands n name subtree later :=
      Bus.LocalRun.stands c before hheld name subtree hlater
    refine ⟨hstands, fun q external m hleads => ?_⟩
    have hq : q.isBelow subtree = true := isBelow_of_prefix (hbelow external m _ hleads rfl).1
    constructor
    · intro mark hmark
      cases mark with
      | returned => exact .inl rfl
      | lost => exact .inr rfl
      | passed =>
        -- What is passed over has another prefix.
        have hother := hstands.passed q hmark
        rw [hq] at hother
        cases hother
    · -- As many receives as there are requests to be read are enough for those below the subtree.
      intro hreadable
      have hfilter : (readable.filter (·.isBelow subtree)).length ≤ readable.length :=
        List.length_filter_le _ _
      show q ∈ List.filterMap _ ((s.after later).gave name _)
      rw [hstands.next, List.take_of_length_le hfilter]
      exact List.mem_filter.mpr ⟨hreadable, hq⟩

/-- Collaborators of a bad day that have the turning shop. -/
def turningShopDay : (e : Effect) → Unit → e.Answer × Unit
  | .resolve base device command method, _ =>
    (Catalogue.turningShop.resolve base device command method, ())
  | e, u => badDay e u

/-- Settings that listen to commands, with slashes around the prefix of requests. -/
def slashedSettings : Settings where
  externalTopics := .ofList [(Keys.commandRequest, "site/#"), (Keys.commandResponse, "replies")]
  internalTopics := .ofList [(Keys.deviceRequest, "/internal/")]
  requestTimeout := .ofMillis 500

/-- What the relay asks for when a command names neither device nor command. -/
def namelessRequest : Bus.Request :=
  { service := "turning", topic := "internal/turning/get"
    envelope := { requestId := "R1", correlationId := "c-1" } }

/-- The theorem for a command without names in the turning shop, which has a device without a name:
the relay asks its service, below its prefix, and a service that listens there is given the
request. -/
theorem nameless_request_reaches_turning :
    Topic.trimSlashes "turning".toList ≠ [] ∧
    (namelessRequest, .ofMillis 500) ∈
      busRequests (trace turningShopDay (dispatch slashedSettings "site///GET" bareRequest) ()) ∧
    (∃ m, Leads Catalogue.turningShop "/internal/" "site///GET" m
      ⟨"turning", namelessRequest.topic⟩ ∧
      (Topic.join ["/internal/", "turning"] ++ "/").toList <+: namelessRequest.topic.toList ∧
      ("/" ++ m.word).toList <:+ namelessRequest.topic.toList) ∧
    let s := ((Bus.LocalRun.ofCapacity 2).step
      (.subscribe "turning" (Topic.join ["/internal/", "turning"]))).2.2
    let asked := s.after [.request "t1" namelessRequest (.ofMillis 500)]
    namelessRequest ∈ (asked.gave "turning" [.receive "turning"]).filterMap (·.request) := by
  have hservice : Topic.trimSlashes "turning".toList ≠ [] := by decide
  have hasked : (namelessRequest, .ofMillis 500) ∈
      busRequests
      (trace turningShopDay (dispatch slashedSettings "site///GET" bareRequest) ()) := by
    decide +kernel
  have hrouted : ∀ base device command method x, ⟨.resolve base device command method, x⟩ ∈
      trace turningShopDay (dispatch slashedSettings "site///GET" bareRequest) () →
        x = Catalogue.turningShop.resolve base device command method := by
    intro base device command method x hx
    obtain ⟨t, rfl⟩ := answered_of_mem_trace hx
    rfl
  obtain ⟨hroutes, hrequests, hlisteners⟩ :=
    routed_request_stays_in_subtree Catalogue.turningShop "/internal/" "turning" hservice
  obtain ⟨m, hleads⟩ := hrequests slashedSettings "site///GET" bareRequest _
    (path_trace turningShopDay _ ()) hrouted (by decide) namelessRequest _ hasked
  refine ⟨hservice, hasked, ⟨m, hleads, (hroutes _ _ _ hleads).2 rfl⟩, ?_⟩
  intro s asked
  obtain ⟨-, hlistener⟩ := hlisteners 2 [] "turning"
    [.request "t1" namelessRequest (.ofMillis 500)] rfl (by decide)
  -- One request is kept for the subscriber, so one receive gives it.
  have hreadable : (s.books (Nat.nextPowerOfTwo 2) "turning" (Topic.join ["/internal/", "turning"])
      [.request "t1" namelessRequest (.ofMillis 500)]).kept (Nat.nextPowerOfTwo 2) =
        [namelessRequest] := by
    decide +kernel
  obtain ⟨-, hnext⟩ := hlistener namelessRequest "site///GET" m hleads
  change namelessRequest ∈ (s.books _ _ _ _).kept _ → namelessRequest ∈
    (asked.gave "turning" (List.replicate ((s.books _ _ _ _).kept _).length _)).filterMap _ at hnext
  rw [hreadable] at hnext
  exact hnext (List.mem_singleton_self _)

end CommandRelay.Relay
