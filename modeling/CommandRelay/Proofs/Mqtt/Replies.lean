import CommandRelay.Proofs.Mqtt.Answers
import CommandRelay.Proofs.Text.Trimming
import CommandRelay.Proofs.Topic.Joining
import CommandRelay.Proofs.Topic.Matching

/-!
# Replies below the response prefix

A service puts its own name and the request ID behind the response prefix as it is configured.  The
bus listens on a filter that is built from the same prefix, and building drops slashes at its front.

1. **The filter** — its levels are those of the trimmed prefix, and then `#` (`levels_join_hash`).
   It covers what stands below a prefix that keeps its front (`accepts_below`), and nothing below
   any other prefix one can publish on (`not_accepts_below`).
2. **Replies that are heard** — such a reply completes its request (`Run.Tracked.completed`).
3. **The theorem** — `Run.replies_reach_waiters`.
-/

namespace CommandRelay

/-! ## The filter -/

namespace Topic

open Text

/-- Trimming takes nothing from the front of a prefix, or all of the prefix. -/
def KeepsFront (base : String) : Prop :=
  base.toList.head? ≠ some '/' ∨ ∀ c ∈ base.toList, c = '/'

variable {base : String}

/-- The levels of a response filter are those of its prefix without slashes at the ends, and a
wildcard. -/
theorem levels_join_hash (base : String) :
    levels (join [base, "#"]) = keptLevels [base] ++ ["#"] := by
  have hhash : '/' ∉ "#".toList := by decide
  have hlast : keptLevels ["#"] = ["#"] := by
    rw [keptLevels_of_notMem fun l hl => List.mem_singleton.mp hl ▸ hhash]
    rfl
  have hkept : kept [base, "#"] ≠ [] := by
    rw [show [base, "#"] = [base] ++ ["#"] from rfl, kept_append, Ne, List.append_eq_nil_iff]
    exact fun hnil => absurd hnil.2 (by decide)
  rw [levels_join hkept, show [base, "#"] = [base] ++ ["#"] from rfl, keptLevels_append, hlast]

/-- A single part has the levels that it has without slashes at the ends, or none. -/
theorem keptLevels_singleton (base : String) : keptLevels [base] =
    if trimSlashes base.toList = [] then []
    else (split '/' (trimSlashes base.toList)).map String.ofList := by
  by_cases hnil : trimSlashes base.toList = []
  · simp [keptLevels, kept, hnil]
  · simp [keptLevels, kept, hnil]

/-- The levels below a prefix, behind those it has itself. -/
theorem levels_below (hfront : base.toList.head? ≠ some '/') (tail : String) :
    ∃ rest, levels (base ++ "/" ++ tail) = keptLevels [base] ++ rest := by
  rw [keptLevels_singleton]
  split
  · exact ⟨_, rfl⟩
  · obtain ⟨m, n, hbase⟩ := trimSlashes_splits base.toList
    obtain rfl : m = 0 := by
      by_contra hm
      obtain ⟨m, rfl⟩ := Nat.exists_eq_succ_of_ne_zero hm
      rw [hbase, List.replicate_succ] at hfront
      exact hfront rfl
    -- A slash follows the trimmed prefix: one of its own, or the one that was put behind it.
    obtain ⟨after, hafter⟩ : ∃ after,
      List.replicate n '/' ++ '/' :: tail.toList = '/' :: after := by
      cases n with
      | zero => exact ⟨_, rfl⟩
      | succ n => exact ⟨_, rfl⟩
    refine ⟨(split '/' after).map String.ofList, ?_⟩
    have htext : (base ++ "/" ++ tail).toList = trimSlashes base.toList ++ '/' :: after := by
      rw [← hafter, ← List.append_assoc]
      have hbase' : base.toList = trimSlashes base.toList ++ List.replicate n '/' := hbase
      rw [← hbase']
      simp
    rw [levels, htext, split_append_sep, List.map_append]

/-- The filter covers all topics below a prefix that keeps its front. -/
theorem accepts_below (h : KeepsFront base) (tail : String) :
    accepts (join [base, "#"]) (base ++ "/" ++ tail) = true := by
  rw [accepts, levels_join_hash]
  rcases h with hfront | hslashes
  · obtain ⟨rest, hrest⟩ := levels_below hfront tail
    rw [hrest]
    exact matchLevels_append_hash _ rest
  · have hnil : trimSlashes base.toList = [] :=
      stripWhile_eq_nil_iff.mpr fun c hc => by simp [isSlash, hslashes c hc]
    rw [keptLevels_singleton, if_pos hnil]
    exact matchLevels_append_hash [] _

/-- A prefix that does not keep its front begins with an empty level that its filter does not have,
and no wildcard stands for it. -/
theorem not_accepts_below (h : ¬ KeepsFront base) (hplus : '+' ∉ base.toList)
    (hhash : '#' ∉ base.toList) (tail : String) :
    accepts (join [base, "#"]) (base ++ "/" ++ tail) = false := by
  -- The prefix begins with a slash and holds something else.
  obtain ⟨hslash, hother⟩ := not_or.mp h
  obtain ⟨after, hafter⟩ : ∃ after, base.toList = '/' :: after := by
    cases hbase : base.toList with
    | nil => exact absurd (by rw [hbase]; exact nofun) hslash
    | cons c cs =>
      have hc : c = '/' := by simpa [hbase] using hslash
      exact ⟨cs, by rw [hc]⟩
  obtain ⟨m, n, hbase⟩ := trimSlashes_splits base.toList
  -- Without the slashes around it the filter begins with a level that is not empty.
  cases htrim : trimSlashes base.toList with
  | nil =>
    refine absurd (fun c hc => ?_) hother
    rw [htrim, List.append_nil, ← List.replicate_add] at hbase
    rw [hbase] at hc
    exact List.eq_of_mem_replicate hc
  | cons c cs =>
    have hc : c ≠ '/' := by
      have hfirst := head?_stripWhile (p := isSlash) (l := base.toList) (a := c) (by
        rw [← trimSlashes, htrim, List.head?_cons])
      simpa [isSlash] using hfirst
    have hmem : c ∈ base.toList := by
      rw [hbase, htrim]
      simp
    obtain ⟨first, rest, hsplit⟩ := split_cons_of_ne hc cs
    have hfilter : levels (join [base, "#"]) =
        String.ofList (c :: first) :: (rest.map String.ofList ++ ["#"]) := by
      rw [levels_join_hash, keptLevels_singleton, htrim, if_neg (List.cons_ne_nil c cs), hsplit]
      rfl
    have htopic : ∃ more, levels (base ++ "/" ++ tail) = "" :: more := by
      refine ⟨(split '/' (after ++ '/' :: tail.toList)).map String.ofList, ?_⟩
      rw [levels, String.toList_append, String.toList_append, hafter]
      simp [split]
    obtain ⟨more, hmore⟩ := htopic
    have hne : ∀ text : String, c ∉ text.toList → (String.ofList (c :: first) == text) = false := by
      intro text htext
      rw [beq_eq_false_iff_ne]
      rintro rfl
      exact htext (by simp)
    -- The first levels are compared first: one is empty, the other is neither empty nor a wildcard.
    rw [accepts, hfilter, hmore, matchLevels, hne "#" ?_, hne "+" ?_, hne "" (by simp)]
    · rfl
    · intro hin
      obtain rfl : c = '+' := by simpa using hin
      exact hplus hmem
    · intro hin
      obtain rfl : c = '#' := by simpa using hin
      exact hhash hmem

end Topic

/-! ## Replies that are heard -/

namespace Mqtt.Run

open Correlation
open CommandRelay.Bus (Inquiry Task)

variable {s : Run} {ks : List Inquiry} {fresh : Nat → String} {r : Envelope}

/-- A response on a topic of the filter completes the request in flight that it is for: it is the
result of a request that has gone out, and is kept for one that waits for room. -/
theorem Tracked.completed (h : s.Tracked ks) {topic : String} {payload : List UInt8}
    (haccepts : Topic.accepts s.bus.responseFilter topic = true)
    (hreceive : Envelope.receive (fresh s.made) payload s.wording = .ok r) {w : Waiter}
    (hw : w ∈ s.bus.desk.waiters) (hid : w.requestId = r.requestId) :
    (s.step fresh (.incoming topic payload)).1 = .done true ∧
    (s.WaitsForRoom w.caller →
      (s.step fresh (.incoming topic payload)).2.2.Promised w.caller r) ∧
    (¬ s.WaitsForRoom w.caller →
      (s.step fresh (.incoming topic payload)).2.2.Ended w.caller (.ok r)) := by
  obtain ⟨g, hg, -, rfl⟩ := h.sound.matched.waiting w hw
  obtain ⟨htaken, hbus⟩ := incoming_of_response haccepts hreceive
  obtain ⟨hreply, hstate⟩ := step_incoming fresh s topic payload
  have hmatched := h.sound.matched.complete r
  -- The response is in the guard of the waiter; settling ends the guard exactly if its wait has
  -- begun.
  have hkept : (s.bus.desk.complete r).2.Answered g.caller r g.wait :=
    ⟨_, h.sound.matched.mem_complete hg hw hid, rfl, rfl, rfl⟩
  rw [hbus] at hstate
  refine ⟨?_, fun hroom => ?_, fun hout => ?_⟩
  · rw [hreply, htaken, h.sound.matched.complete_eq hw hid]
  · rw [(h.sound.idle g hg).mpr hroom] at hkept
    rw [hstate]
    exact hkept.settle hmatched
  · obtain ⟨wait, hwait⟩ := Option.ne_none_iff_exists'.mp fun hnone =>
      hout ((h.sound.idle g hg).mp hnone)
    rw [hwait] at hkept
    have hended := hkept.ends s.now
    rw [Ended, hstate]
    refine Task.exists_mem_note (Task.Waits.mem (h.outstanding hg)) hended fun e he hc => ?_
    exact congrArg Prod.snd (hmatched.settle_result_eq e he _ hended hc)

/-! ## All prefixes -/

/-- **Replies reach their waiters, below a prefix that keeps its front.**  In every state that a run
can come to, a reply below such a prefix whose request is in flight is taken and completes that
request: the request ends with it at once, or, if it still waits for room, as soon as there is some.
Below any other prefix one can publish on, whatever arrives is passed over and leaves the bus as it
is. -/
theorem replies_reach_waiters (fresh : Nat → String) (capacity : Nat) (base : String) (qos : Qos)
    (words : Wording) (steps : List Step) (service id : String) (payload : List UInt8) :
    let s₀ := start capacity base qos words
    let s := s₀.after fresh steps
    let topic := base ++ "/" ++ service ++ "/" ++ id
    let s' := (s.step fresh (.incoming topic payload)).2.2
    (Topic.KeepsFront base →
      Topic.accepts s.bus.responseFilter topic = true ∧
      ∀ r, Envelope.receive (fresh s.made) payload s.wording = .ok r →
        ∀ w ∈ s.bus.desk.waiters, w.requestId = r.requestId →
          (s.step fresh (.incoming topic payload)).1 = .done true ∧
          ∃ k ∈ s₀.inquiries fresh steps, k.call = w.caller ∧ k.requestId = r.requestId ∧
            (¬ s.WaitsForRoom k.call → s'.Ended k.call (.ok r)) ∧
            (s.WaitsForRoom k.call → (s'.step fresh .drain).2.2.Ended k.call (.ok r))) ∧
    (¬ Topic.KeepsFront base → '+' ∉ base.toList → '#' ∉ base.toList →
      Topic.accepts s.bus.responseFilter topic = false ∧
      s.bus.incoming s.wording (fresh s.made) topic payload = (false, [], s.bus)) := by
  intro s₀ s topic s'
  have htracked : s.Tracked (s₀.inquiries fresh steps) :=
    (tracked_start capacity base qos words).after fresh steps
  have hfilter : s.bus.responseFilter = Topic.join [base, "#"] := by
    have hprefix : s.bus.responsePrefix = base := (step_frame_after fresh s₀ steps).2
    rw [Bus.responseFilter, hprefix]
  have htopic : topic = base ++ "/" ++ (service ++ "/" ++ id) := by
    simp only [topic, String.append_assoc]
  refine ⟨fun hfront => ?_, fun hfront hplus hhash => ?_⟩
  · have haccepts : Topic.accepts s.bus.responseFilter topic = true := by
      rw [hfilter, htopic]
      exact Topic.accepts_below hfront _
    refine ⟨haccepts, fun r hreceive w hw hid => ?_⟩
    -- Whoever is in the table is an unanswered request of the run, and its response has come.
    obtain ⟨htaken, hpromised, hended⟩ := htracked.completed haccepts hreceive hw hid
    obtain ⟨k, hk, hcall, hkid⟩ := htracked.unanswered_of_waiter hw
    refine ⟨htaken, k, (mem_unanswered.mp hk).1, hcall, hkid.trans hid, ?_⟩
    rw [hcall]
    -- A request that waits for room keeps the response until the queue is drained.
    refine ⟨hended, fun hroom => ?_⟩
    have hstep : s'.Tracked _ := htracked.step fresh (.incoming topic payload)
    have hkept : s'.Promised w.caller r := hpromised hroom
    exact hkept.drain hstep
  · have hpassed : Topic.accepts s.bus.responseFilter topic = false := by
      rw [hfilter, htopic]
      exact Topic.not_accepts_below hfront hplus hhash _
    refine ⟨hpassed, ?_⟩
    rw [Bus.incoming, hpassed]
    rfl

/-- The reply to a reading. -/
def readingReply (requestId : String) : Envelope :=
  { requestId, correlationId := "c", payload := [52, 50] }

/-- A request to a service that is under way. -/
def reading (base : String) : Run :=
  (start 10 base .atMostOnce).after (fun _ => "fresh")
    [.request "t1" (getReading "R1") (.ofMillis 500)]

/-- The theorem on both sides of it: with a prefix that keeps its front the reply is the result of
the request, and with a slash before the same prefix it is passed over. -/
theorem slash_before_prefix_decides :
    Topic.KeepsFront "edgex/response" ∧
    Envelope.receive "fresh" (readingReply "R1").toWire = .ok (readingReply "R1") ∧
    (reading "edgex/response").bus.desk.waiters = [⟨"R1", 0, 0⟩] ∧
    ((reading "edgex/response").step (fun _ => "fresh")
      (.incoming "edgex/response/svcA/R1" (readingReply "R1").toWire)).2.2.Ended 0
        (.ok (readingReply "R1")) ∧
    ¬ Topic.KeepsFront "/edgex/response" ∧
    (reading "/edgex/response").bus.desk.waiters = [⟨"R1", 0, 0⟩] ∧
    (reading "/edgex/response").bus.incoming {} "fresh" "/edgex/response/svcA/R1"
      (readingReply "R1").toWire = (false, [], (reading "/edgex/response").bus) := by
  have hfront : Topic.KeepsFront "edgex/response" := .inl (by decide)
  have hslashed : ¬ Topic.KeepsFront "/edgex/response" := by
    rintro (h | h)
    · exact h (by decide)
    · exact absurd (h 'e' (by decide)) (by decide)
  have hreceive : Envelope.receive "fresh" (readingReply "R1").toWire =
    .ok (readingReply "R1") := by
    decide +kernel
  have hwaiters : (reading "edgex/response").bus.desk.waiters = [⟨"R1", 0, 0⟩] := by decide +kernel
  have hsent : (reading "edgex/response").bus.client.blocked = [] := by decide +kernel
  -- Nothing is blocked, so nobody waits for room.
  have hroom : ¬ (reading "edgex/response").WaitsForRoom 0 := by
    rintro ⟨sender, hsender, -⟩
    rw [senders, hsent] at hsender
    exact List.not_mem_nil hsender
  have hheard := (replies_reach_waiters (fun _ => "fresh") 10 "edgex/response" .atMostOnce {}
    [.request "t1" (getReading "R1") (.ofMillis 500)] "svcA" "R1" (readingReply "R1").toWire).1
    hfront
  have hpassed := (replies_reach_waiters (fun _ => "fresh") 10 "/edgex/response" .atMostOnce {}
    [.request "t1" (getReading "R1") (.ofMillis 500)] "svcA" "R1" (readingReply "R1").toWire).2
    hslashed (by decide) (by decide)
  rw [← reading] at hheard hpassed
  have htopic : "edgex/response" ++ "/" ++ "svcA" ++ "/" ++ "R1" = "edgex/response/svcA/R1" := by
    decide
  have htopic' : "/edgex/response" ++ "/" ++ "svcA" ++ "/" ++ "R1" = "/edgex/response/svcA/R1" := by
    decide
  rw [htopic] at hheard
  rw [htopic'] at hpassed
  obtain ⟨-, k, -, hcall, -, hended, -⟩ := hheard.2 _ hreceive ⟨"R1", 0, 0⟩
    (hwaiters ▸ List.mem_singleton_self _) rfl
  rw [hcall] at hended
  exact ⟨hfront, hreceive, hwaiters, hended hroom, hslashed, by decide +kernel, hpassed.2⟩

/-- A reply below the prefix as it is configured, for a request that is in flight: it is not on the
filter of responses, nobody hears it, and the request ends with a timeout. -/
theorem reply_below_slashed_prefix_is_lost :
    let s := reading "/edgex/response"
    let heard := s.step (fun _ => "fresh")
      (.incoming "/edgex/response/svcA/R1" (readingReply "R1").toWire)
    s.bus.desk.waiters.map (·.requestId) = ["R1"] ∧
    s.bus.responseFilter = "edgex/response/#" ∧
    Topic.accepts s.bus.responseFilter "/edgex/response/svcA/R1" = false ∧
    (s.bus.incoming {} "fresh" "/edgex/response/svcA/R1" (readingReply "R1").toWire).1 = false ∧
    ((heard.2.2.step (fun _ => "fresh") (.advance (.ofMillis 500))).2.2.tasks.map (·.result)) =
      [some (.error (.timedOut "R1" (.ofMillis 500)))] := by
  decide +kernel

end Mqtt.Run

end CommandRelay
