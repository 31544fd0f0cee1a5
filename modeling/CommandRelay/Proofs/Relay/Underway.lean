import CommandRelay.Proofs.Relay.Command

/-!
# Commands under way

A command that is handled beside others is seen half way through.  What it has performed by then is
the beginning of what a whole command performs, so all that is known of whole commands says
something of it.

1. **`handleCommand_underway`** — whatever was performed so far can be completed; together the calls
   are those of a verdict and the one message.
2. **Reading it off** — how much was performed at most (`length_underway`), what has been published
   so far (`published_underway`), that a command that is done has published (`published_done`), and
   what is known where a command calls the bus (`before_request`): it does so once, with its own
   request.
-/

namespace CommandRelay.Relay

open Program

/-! ## Requests and what came of them -/

/-- Whether an effect is a request on the internal bus. -/
def Effect.isRequest : Effect → Bool
  | .request _ _ => true
  | _ => false

/-- The response that the internal bus gave, if this was a request and it was answered. -/
def Performed.response? : Performed → Option Envelope
  | ⟨.request _ _, .ok r⟩ => some r
  | _ => none

/-- The responses of the internal bus in a trace. -/
def busResponses (tr : List Performed) : List Envelope := tr.filterMap (·.response?)

theorem busResponses_append (tr tr' : List Performed) :
    busResponses (tr ++ tr') = busResponses tr ++ busResponses tr' := by
  simp [busResponses]

theorem busResponses_calls (tr : List Performed) : busResponses (calls tr) = busResponses tr := by
  induction tr with
  | nil => rfl
  | cons p tr ih =>
    obtain ⟨e, x⟩ := p
    rw [busResponses, calls] at ih ⊢
    cases e with
    | request r timeout =>
      cases x <;> simpa [Performed.isCall, Performed.response?, busResponses] using ih
    | _ => simpa [Performed.isCall, Performed.response?, busResponses] using ih

/-- The gates of a command got a response exactly if that is their verdict. -/
theorem Verdict.busResponses_eq {s : Settings} {q : Envelope} {a : Topic.Address}
    {consulted : List Performed} {v : Except String Envelope} (h : Verdict s q a consulted v) :
    busResponses consulted = match v with
      | .ok r => [r]
      | .error _ => [] := by
  cases h <;> rfl

/-- The router is asked first, if anybody is, and then the bus, with the command's own envelope. -/
theorem Verdict.shape {s : Settings} {q : Envelope} {a : Topic.Address}
    {consulted : List Performed} {v : Except String Envelope} (h : Verdict s q a consulted v) :
    consulted = [] ∨
    (∃ base m x, consulted = [⟨.resolve base a.device a.command m, x⟩]) ∨
    (∃ base m x r y, r.envelope = q ∧ consulted =
      [⟨.resolve base a.device a.command m, x⟩, ⟨.request r s.requestTimeout, y⟩]) := by
  cases h with
  | method hm => exact .inl rfl
  | base hm hb => exact .inl rfl
  | route hm hb => exact .inr (.inl ⟨_, _, _, rfl⟩)
  | params hm hb hp => exact .inr (.inl ⟨_, _, _, rfl⟩)
  | bus hm hb hp => exact .inr (.inr ⟨_, _, _, _, _, rfl, rfl⟩)
  | answered hm hb hp => exact .inr (.inr ⟨_, _, _, _, _, rfl, rfl⟩)

/-- The gates make one request at most, and ask for nothing like it before. -/
theorem Verdict.request_eq {s : Settings} {q : Envelope} {a : Topic.Address}
    {before behind : List Performed} {v : Except String Envelope} {r : Bus.Request}
    {timeout : Duration} {x : Except Fault Envelope}
    (h : Verdict s q a (before ++ ⟨.request r timeout, x⟩ :: behind) v) :
    timeout = s.requestTimeout ∧ r.envelope = q ∧ ∀ p ∈ before, p.effect.isRequest = false := by
  -- A verdict calls nobody, the router, or the router and the bus.
  rcases h.shape with hnil | ⟨base, m, y, hone⟩ | ⟨base, m, y, r', z, hr', htwo⟩
  · exact absurd hnil (by simp)
  · -- The only call is to the router.
    rcases List.append_eq_singleton_iff.mp hone with ⟨-, hx⟩ | ⟨-, hx⟩
    · injection hx with hx
      injection hx with he
      cases he
    · cases hx
  · cases before with
    | nil =>
      injection htwo with hx
      injection hx with he
      cases he
    | cons b before =>
      injection htwo with hb hrest
      rcases List.append_eq_singleton_iff.mp hrest with ⟨rfl, hx⟩ | ⟨-, hx⟩
      · injection hx with hx
        injection hx with he
        injection he with he ht
        refine ⟨ht, by rw [he, hr'], ?_⟩
        intro p hp
        rw [List.mem_singleton.mp hp, hb]
        rfl
      · cases hx

/-! ## Half way through -/

/-- Every program can be completed. -/
theorem exists_path_done {α : Type} (p : Program α) : ∃ tr a, Path p tr (.done a) :=
  ⟨_, _, path_trace badDay p ()⟩

section

variable {s : Settings} {topic base : String} {payload : List UInt8} {e : Envelope}
  {a : Topic.Address} {tr : List Performed} {p : Program Unit}

/-- What a command has called so far can be completed to the calls of a verdict and one message. -/
theorem handleCommand_underway (he : Envelope.ofWire? payload = some e)
    (ha : Topic.address topic = .ok a) (hb : s.topic? .external Keys.commandResponse = some base)
    (h : Path (handleCommand s topic payload) tr p) :
    ∃ (fresh : String) (consulted : List Performed) (v : Except String Envelope)
      (taken : Except Fault Unit) (rest : List Performed), Path p rest (.done ()) ∧
      Verdict s (e.correlated fresh) a consulted v ∧
      calls tr ++ calls rest = consulted ++
        [⟨.publish (Topic.reply base a) s.delivery
          (Verdict.envelope (e.correlated fresh) v).toWire, taken⟩] := by
  obtain ⟨rest, u, hrest⟩ := exists_path_done p
  obtain ⟨fresh, behind, consulted, v, taken, htr, hv, hcalls⟩ :=
    handleCommand_calls he ha hb (h.trans hrest)
  refine ⟨fresh, consulted, v, taken, rest, hrest, hv, ?_⟩
  rw [← calls_append, htr]
  exact hcalls

/-- A command has performed six effects at most. -/
theorem length_underway (he : Envelope.ofWire? payload = some e)
    (ha : Topic.address topic = .ok a) (hb : s.topic? .external Keys.commandResponse = some base)
    (h : Path (handleCommand s topic payload) tr p) : tr.length ≤ 6 := by
  obtain ⟨rest, u, hrest⟩ := exists_path_done p
  have hall := handleCommand_length he ha hb (h.trans hrest)
  rw [List.length_append] at hall
  omega

/-- A command has published nothing so far, or its one message: the response that it got from the
bus, or a report of its own. -/
theorem published_underway (he : Envelope.ofWire? payload = some e)
    (ha : Topic.address topic = .ok a) (hb : s.topic? .external Keys.commandResponse = some base)
    (h : Path (handleCommand s topic payload) tr p) :
    publications tr = [] ∨ ∃ r : Envelope,
      publications tr = [(Topic.reply base a, s.delivery, r.toWire)] ∧
      (busResponses tr = [r] ∨ busResponses tr = [] ∧
        ∃ fresh text, r = (e.correlated fresh).failureOf text) := by
  obtain ⟨fresh, consulted, v, taken, rest, -, hv, hcalls⟩ := handleCommand_underway he ha hb h
  rcases List.eq_nil_or_concat (calls rest) with hnil | ⟨init, last, hlast⟩
  · -- The message is among the calls so far.
    right
    rw [hnil, List.append_nil] at hcalls
    refine ⟨Verdict.envelope (e.correlated fresh) v, ?_, ?_⟩
    · rw [← publications_calls, hcalls, publications_append, hv.publications_eq_nil]
      rfl
    · rw [← busResponses_calls, hcalls, busResponses_append, hv.busResponses_eq]
      cases v with
      | ok r => exact .inl rfl
      | error text => exact .inr ⟨rfl, fresh, text, rfl⟩
  · left
    rw [hlast, List.concat_eq_append, ← List.append_assoc] at hcalls
    obtain ⟨hconsulted, -⟩ := List.append_inj' hcalls rfl
    have hnone := hv.publications_eq_nil
    rw [← hconsulted, publications_append, List.append_eq_nil_iff, publications_calls] at hnone
    exact hnone.1

/-- A command that is done has published its message. -/
theorem published_done (he : Envelope.ofWire? payload = some e)
    (ha : Topic.address topic = .ok a) (hb : s.topic? .external Keys.commandResponse = some base)
    (h : Path (handleCommand s topic payload) tr (.done ())) : publications tr ≠ [] := by
  obtain ⟨fresh, behind, consulted, v, taken, rfl, hv, hcalls⟩ := handleCommand_calls he ha hb h
  have hall : calls (⟨.fresh, fresh⟩ :: behind) = calls behind := rfl
  rw [← publications_calls, hall, hcalls, publications_append]
  exact List.append_ne_nil_of_right_ne_nil _ (List.cons_ne_nil _ _)

/-- A message keeps its request ID when it gets a correlation ID. -/
theorem correlated_requestId (fresh : String) (e : Envelope) :
    (e.correlated fresh).requestId = e.requestId := by
  rw [Envelope.correlated]
  split <;> rfl

/-- A message is the last call, so a request before it is one of the gates'. -/
theorem gates_of_request {before behind consulted : List Performed} {r : Bus.Request}
    {timeout : Duration} {x : Except Fault Envelope} {topic : String} {delivery : Delivery}
    {payload : List UInt8} {taken : Except Fault Unit}
    (h : before ++ ⟨.request r timeout, x⟩ :: behind =
      consulted ++ [⟨.publish topic delivery payload, taken⟩]) :
    ∃ init, consulted = before ++ ⟨.request r timeout, x⟩ :: init ∧
      behind = init ++ [⟨.publish topic delivery payload, taken⟩] := by
  rcases List.eq_nil_or_concat behind with rfl | ⟨init, last, rfl⟩
  · obtain ⟨-, hx⟩ := List.append_inj' h rfl
    injection hx with hx
    injection hx with hx
    cases hx
  · rw [List.concat_eq_append, ← List.cons_append, ← List.append_assoc] at h
    obtain ⟨hconsulted, hlast⟩ := List.append_inj' h rfl
    exact ⟨init, hconsulted.symm, by rw [List.concat_eq_append, hlast]⟩

/-- Where a command calls the bus, it does so for the first time and with its own request. -/
theorem before_request (he : Envelope.ofWire? payload = some e)
    (ha : Topic.address topic = .ok a) (hb : s.topic? .external Keys.commandResponse = some base)
    {r : Bus.Request} {timeout : Duration} {next : Except Fault Envelope → Program Unit}
    (h : Path (handleCommand s topic payload) tr (.perform (.request r timeout) next)) :
    timeout = s.requestTimeout ∧ r.envelope.requestId = e.requestId ∧
      (∀ p ∈ tr, p.effect.isRequest = false) := by
  obtain ⟨fresh, consulted, v, taken, rest, hrest, hv, hcalls⟩ := handleCommand_underway he ha hb h
  obtain ⟨x, behind, rfl, -⟩ := path_perform hrest
  have hhead : calls (⟨.request r timeout, x⟩ :: behind) =
      ⟨.request r timeout, x⟩ :: calls behind := rfl
  rw [hhead] at hcalls
  obtain ⟨init, hinit, -⟩ := gates_of_request hcalls
  rw [hinit] at hv
  obtain ⟨htimeout, henvelope, hbefore⟩ := hv.request_eq
  refine ⟨htimeout, by rw [henvelope, correlated_requestId], ?_⟩
  intro p hp
  obtain ⟨effect, answer⟩ := p
  by_cases hcall : Performed.isCall ⟨effect, answer⟩
  · exact hbefore _ (List.mem_filter.mpr ⟨hp, hcall⟩)
  · -- A request is a call.
    cases effect <;> first | rfl | exact absurd rfl hcall

end

end CommandRelay.Relay
