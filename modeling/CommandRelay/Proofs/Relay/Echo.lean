import CommandRelay.Config.Basic
import CommandRelay.Proofs.Relay.Mirroring
import CommandRelay.Proofs.Relay.Underway
import CommandRelay.Proofs.Topic.Matching

/-!
# The relay does not hear itself

The relay listens and publishes on the same broker.  If a topic on which it publishes were let in by
one of its own request filters, it would answer its answer, and so on for ever.  A reply ends in
levels that a client chose, so its filters and its topics have to part before those levels come.

1. **`Diverge`** — two lists of levels part: neither begins with the other.  What one of them begins
   does not begin with the other (`Diverge.not_isPrefix`).
2. **`Settings.AnswersUnder`** — the levels with which all topics begin that a handler publishes on,
   as far as it has come (`answers_of_path`).
3. **`dispatchAll`** — messages that are dispatched in turn, as they come from the broker.
4. **The theorem** — `own_messages_run_no_handler`: filters that diverge from these levels let in
   nothing of the relay's own.  Those of the default topics do.
-/

namespace CommandRelay.Relay

open Program Topic

/-! ## Levels that part -/

/-- Neither of two lists of levels begins with the other. -/
def Diverge (front front' : List String) : Prop := ¬ front <+: front' ∧ ¬ front' <+: front

instance (front front' : List String) : Decidable (Diverge front front') :=
  inferInstanceAs (Decidable (_ ∧ _))

/-- What begins with one list does not begin with the other. -/
theorem Diverge.not_isPrefix {front front' ls : List String} (h : Diverge front front')
    (hls : front' <+: ls) : ¬ front <+: ls := by
  intro hfront
  rcases List.prefix_or_prefix_of_prefix hfront hls with hle | hle
  · exact h.1 hle
  · exact h.2 hle

/-- A filter without wildcards before its `#` lets in what begins with its levels. -/
theorem accepts_append_hash_iff_isPrefix {base topic : String} (hplus : "+" ∉ levels base)
    (hhash : "#" ∉ levels base) :
    accepts (base ++ "/#") topic = true ↔ levels base <+: levels topic := by
  rw [accepts_append_hash_iff hplus hhash, ← exists_levels_append_iff]
  exact exists_congr fun zs => eq_comm

/-! ## Where the relay publishes -/

/-- Levels under which the relay publishes: those of the prefix of replies without slashes at its
end, of the topic of answers to queries, and of the fallback topic. -/
inductive Settings.AnswersUnder (s : Settings) : List String → Prop
  | replies {base : String} (h : s.topic? .external Keys.commandResponse = some base) :
      AnswersUnder s (levels (String.ofList (trimSlashesEnd base.toList)))
  | queries {topic : String} (h : s.topic? .external Keys.queryResponse = some topic) :
      AnswersUnder s (levels topic)
  | deadLetters {topic : String} (h : s.fallback? = some topic) : AnswersUnder s (levels topic)

/-- A topic on which the relay publishes. -/
def Settings.Answers (s : Settings) (topic : String) : Prop :=
  ∃ front, s.AnswersUnder front ∧ front <+: levels topic

/-- Both request filters let in what is below a topic without wildcards, and these topics part from
all those under which the relay publishes. -/
def Settings.Apart (s : Settings) : Prop :=
  ∀ key ∈ [Keys.queryRequest, Keys.commandRequest], ∀ filter,
    s.topic? .external key = some filter → ∃ base, filter = base ++ "/#" ∧
      "+" ∉ levels base ∧ "#" ∉ levels base ∧
      ∀ front, s.AnswersUnder front → Diverge (levels base) front

section

variable {s : Settings} {topic : String} {payload : List UInt8} {tr : List Performed}

/-- A report goes out on the topic for what can not be answered. -/
theorem Reported.answers {request : Option Envelope} {f : Fault} {called : List Performed}
    (h : Reported s request f called) : ∀ own ∈ publications called, s.Answers own.1 := by
  rcases h with ⟨-, rfl⟩ | ⟨fallback, taken, hfallback, rfl⟩
  · exact fun own hown => absurd hown List.not_mem_nil
  · intro own hown
    rw [List.mem_singleton.mp hown]
    exact ⟨levels fallback, .deadLetters hfallback, List.prefix_rfl⟩

/-- A command publishes its reply, or a report, under the topics for answers. -/
theorem handleCommand_answers (h : Path (handleCommand s topic payload) tr (.done ())) :
    ∀ own ∈ publications tr, s.Answers own.1 := by
  obtain ⟨fresh, rest, rfl, hways⟩ := handleCommand_cases h
  show ∀ own ∈ publications rest, s.Answers own.1
  rw [← publications_calls]
  rcases hways with ⟨f, -, hr⟩ | ⟨q, f, -, -, hr⟩ | ⟨q, a, -, -, -, hr⟩ |
    ⟨q, a, base, consulted, v, taken, -, ha, hb, hv, hcalls⟩
  · exact hr.answers
  · exact hr.answers
  · exact hr.answers
  · rw [hcalls, publications_append, hv.publications_eq_nil]
    intro own hown
    rw [List.mem_singleton.mp hown]
    refine ⟨_, .replies hb, ?_⟩
    rw [levels_reply base ha]
    exact List.prefix_append _ _

/-- A query publishes its answer, or a report, under the topics for answers. -/
theorem handleQuery_answers (h : Path (handleQuery s topic payload) tr (.done ())) :
    ∀ own ∈ publications tr, s.Answers own.1 := by
  obtain ⟨fresh, rest, rfl, hways⟩ := handleQuery_cases h
  show ∀ own ∈ publications rest, s.Answers own.1
  rw [← publications_calls]
  rcases hways with ⟨f, -, hr⟩ | ⟨q, -, -, hr⟩ | ⟨q, responseTopic, x, taken, -, hb, hcalls⟩
  · exact hr.answers
  · exact hr.answers
  · rw [hcalls]
    intro own hown
    rw [List.mem_singleton.mp hown]
    exact ⟨levels responseTopic, .queries hb, List.prefix_rfl⟩

/-- A message that is dispatched publishes under the topics for answers only. -/
theorem dispatch_answers (h : Path (dispatch s topic payload) tr (.done ())) :
    ∀ own ∈ publications tr, s.Answers own.1 := by
  rw [dispatch] at h
  split at h
  · exact handleQuery_answers h
  · split at h
    · exact handleCommand_answers h
    · obtain ⟨rfl, -⟩ := path_done h
      exact fun own hown => absurd hown List.not_mem_nil

/-- What a handler has published so far, it publishes on the way to its end. -/
theorem answers_of_path {p q : Program Unit}
    (hp : p ∈
      [handleCommand s topic payload, handleQuery s topic payload, dispatch s topic payload])
    (h : Path p tr q) : ∀ own ∈ publications tr, s.Answers own.1 := by
  obtain ⟨rest, u, hrest⟩ := exists_path_done q
  have hall : ∀ own ∈ publications (tr ++ rest), s.Answers own.1 := by
    simp only [List.mem_cons, List.not_mem_nil, or_false] at hp
    rcases hp with rfl | rfl | rfl
    · exact handleCommand_answers (h.trans hrest)
    · exact handleQuery_answers (h.trans hrest)
    · exact dispatch_answers (h.trans hrest)
  rw [publications_append] at hall
  exact fun own hown => hall own (List.mem_append_left _ hown)

/-- Filters that keep apart from the topics of the relay let in none of them. -/
theorem Settings.Apart.wants_eq_false (h : s.Apart) (hown : s.Answers topic) :
    ∀ key ∈ [Keys.queryRequest, Keys.commandRequest], wants s key topic = false := by
  intro key hkey
  obtain ⟨front, hfront, hbegins⟩ := hown
  rw [wants]
  cases hfilter : s.topic? .external key with
  | none => rfl
  | some filter =>
    obtain ⟨base, rfl, hplus, hhash, hdiverge⟩ := h key hkey filter hfilter
    show accepts (base ++ "/#") topic = false
    rw [← Bool.not_eq_true, accepts_append_hash_iff_isPrefix hplus hhash]
    exact (hdiverge front hfront).not_isPrefix hbegins

/-- A message on a topic of an answer is passed over where answers and requests are apart. -/
theorem Settings.Apart.dispatch_eq (h : s.Apart) (hown : s.Answers topic) (payload : List UInt8) :
    dispatch s topic payload = .done () := by
  have hunwanted := h.wants_eq_false hown
  rw [dispatch, hunwanted Keys.queryRequest (by simp), hunwanted Keys.commandRequest (by simp)]
  rfl

/-! ## Many messages -/

/-- Dispatches messages in turn. -/
def dispatchAll (s : Settings) : List (String × Delivery × List UInt8) → Program Unit
  | [] => .done ()
  | (topic, _, payload) :: messages =>
    (dispatch s topic payload).bind fun _ => dispatchAll s messages

/-- A run of messages publishes under the topics for answers only. -/
theorem dispatchAll_answers {messages : List (String × Delivery × List UInt8)}
    (h : Path (dispatchAll s messages) tr (.done ())) :
    ∀ own ∈ publications tr, s.Answers own.1 := by
  induction messages generalizing tr with
  | nil =>
    obtain ⟨rfl, -⟩ := path_done h
    exact fun own hown => absurd hown List.not_mem_nil
  | cons message messages ih =>
    obtain ⟨topic, delivery, payload⟩ := message
    obtain ⟨first, u, later, rfl, hfirst, hlater⟩ := path_bind h
    rw [publications_append]
    intro own hown
    rcases List.mem_append.mp hown with hown | hown
    · exact dispatch_answers hfirst own hown
    · exact ih hlater own hown

/-- Messages on topics of the relay's own are all passed over. -/
theorem Settings.Apart.dispatchAll_eq (h : s.Apart)
    {messages : List (String × Delivery × List UInt8)} (hown : ∀ own ∈ messages, s.Answers own.1) :
    dispatchAll s messages = .done () := by
  induction messages with
  | nil => rfl
  | cons message messages ih =>
    obtain ⟨hfirst, hlater⟩ := List.forall_mem_cons.mp hown
    rw [dispatchAll, h.dispatch_eq hfirst]
    exact ih hlater

end

/-! ## The default topics -/

/-- With the default topics the filters keep apart from all that is published, the fallback topic
aside. -/
theorem apart_of_default {s : Settings} (h : s.externalTopics = Config.defaultExternalTopics)
    (hfallback : ∀ topic, s.fallback? = some topic →
      ∀ base ∈ ["edgex/command/request", "edgex/commandquery/request"],
        Diverge (levels base) (levels topic)) : s.Apart := by
  have htopic : ∀ key, s.topic? .external key = Config.defaultExternalTopics.topic? key :=
    fun key => by rw [← h]; rfl
  -- The three ways to publish, each compared with both request filters.
  have hanswers : ∀ base ∈ ["edgex/command/request", "edgex/commandquery/request"],
      ∀ front, s.AnswersUnder front → Diverge (levels base) front := by
    intro base hbase front hfront
    cases hfront with
    | replies hb =>
      obtain rfl := Option.some.inj (((htopic _).symm.trans hb).symm.trans (by cbv))
      revert base
      decide
    | queries hb =>
      obtain rfl := Option.some.inj (((htopic _).symm.trans hb).symm.trans (by cbv))
      revert base
      decide
    | deadLetters hb => exact hfallback _ hb base hbase
  intro key hkey filter hfilter
  rw [htopic] at hfilter
  simp only [List.mem_cons, List.not_mem_nil, or_false] at hkey
  rcases hkey with rfl | rfl
  · obtain rfl := Option.some.inj (hfilter.symm.trans (by cbv))
    exact ⟨"edgex/commandquery/request", by decide, by decide, by decide, hanswers _ (by simp)⟩
  · obtain rfl := Option.some.inj (hfilter.symm.trans (by cbv))
    exact ⟨"edgex/command/request", by decide, by decide, by decide, hanswers _ (by simp)⟩

/-! ## The theorem -/

/-- **The relay does not hear itself.**  If its request filters end in `/#`, have no other wildcard,
and part from the topics under which it publishes, then whatever comes in on whatever topic, and
however the collaborators behave: no message that a handler has published, as far as it came, is on
a topic that a request filter lets in, so dispatching it with any payload does nothing at all.  What
a whole run of messages brings out can be handed back, and nothing comes of it.  The default topics
are such topics, and a fallback topic is no obstacle if it parts from their filters. -/
theorem own_messages_run_no_handler :
    (∀ s : Settings, s.Apart →
      (∀ (topic : String) (payload : List UInt8) (p q : Program Unit) (tr : List Performed),
        p ∈ [handleCommand s topic payload, handleQuery s topic payload, dispatch s topic payload] →
        Path p tr q → ∀ own ∈ publications tr,
          (∀ key ∈ [Keys.queryRequest, Keys.commandRequest], ∀ filter,
            s.topic? .external key = some filter → accepts filter own.1 = false) ∧
          ∀ octets, dispatch s own.1 octets = .done ()) ∧
      ∀ messages tr, Path (dispatchAll s messages) tr (.done ()) →
        dispatchAll s (publications tr) = .done ()) ∧
    ∀ s : Settings, s.externalTopics = Config.defaultExternalTopics →
      (∀ topic, s.fallback? = some topic →
        ∀ base ∈ ["edgex/command/request", "edgex/commandquery/request"],
          Diverge (levels base) (levels topic)) → s.Apart := by
  refine ⟨fun s hs =>
    ⟨fun topic payload p q tr hp hpath own hown => ?_, fun messages tr hpath => ?_⟩,
    fun s => apart_of_default⟩
  · have hanswers := answers_of_path hp hpath own hown
    refine ⟨fun key hkey filter hfilter => ?_, hs.dispatch_eq hanswers⟩
    have hunwanted := hs.wants_eq_false hanswers key hkey
    rwa [wants, hfilter] at hunwanted
  · exact hs.dispatchAll_eq (dispatchAll_answers hpath)

/-- The default topics, with a topic for dead letters beside the requests, and what a decoder says
of no octets at all. -/
def sideBySide : Settings where
  externalTopics := Config.defaultExternalTopics
  fallbackTopic := some "edgex/command/dead"
  wording := { envelope := fun _ => "EOF while parsing a value at line 1 column 0" }

/-- The theorem for these topics: the reply to a command that names levels of the request filter is
not taken for a request, and neither is a dead letter. -/
theorem reply_that_spells_request_is_not_heard :
    sideBySide.Apart ∧
    publications (trace badDay (handleCommand sideBySide "edgex/command/request/command/request/x"
        bareRequest) ()) =
      [("edgex/command/response/command/request/x", {}, (Envelope.failure "R1" "c-1"
        (Fault.unknownMethod "x").message).toWire)] ∧
    dispatch sideBySide "edgex/command/response/command/request/x" [] = .done () ∧
    dispatch sideBySide "edgex/command/dead" [] = .done () := by
  -- The fallback topic leaves both request filters at their second or third level.
  have hfallback : ∀ topic, sideBySide.fallback? = some topic →
      ∀ base ∈ ["edgex/command/request", "edgex/commandquery/request"],
        Diverge (levels base) (levels topic) := by
    intro topic htopic
    obtain rfl := Option.some.inj htopic
    decide
  obtain ⟨hquiet, hdefault⟩ := own_messages_run_no_handler
  have hapart := hdefault sideBySide rfl hfallback
  have hreply : publications (trace badDay (handleCommand sideBySide
      "edgex/command/request/command/request/x" bareRequest) ()) =
        [("edgex/command/response/command/request/x", {}, (Envelope.failure "R1" "c-1"
          (Fault.unknownMethod "x").message).toWire)] := by
    decide +kernel
  have hletter : ("edgex/command/dead", {}, (Envelope.failure "" ""
      (Fault.undecodable (sideBySide.wording.envelope [])).message).toWire) ∈
      publications
        (trace badDay (handleQuery sideBySide "edgex/commandquery/request/all" []) ()) := by
    decide +kernel
  obtain ⟨hmessages, -⟩ := hquiet sideBySide hapart
  refine ⟨hapart, hreply, ?_, ?_⟩
  · exact (hmessages _ _ _ _ _ List.mem_cons_self (path_trace badDay _ ()) _
      (by rw [hreply]; exact List.mem_singleton_self _)).2 []
  · exact (hmessages _ _ _ _ _ (List.mem_cons_of_mem _ List.mem_cons_self)
      (path_trace badDay _ ()) _ hletter).2 []

end CommandRelay.Relay
