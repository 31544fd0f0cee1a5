import CommandRelay.Proofs.Bus.Channel
import CommandRelay.Proofs.Bus.Ledger
import CommandRelay.Proofs.Bus.Subscribers

/-!
# What subscribers receive

Every subscriber reads the one channel of the bus at a place of its own.  Its books (`Ledger`) tell
what it receives without a channel and without places, so without other subscribers.

1. A step sends a request exactly if it makes one and the bus does not refuse it
   (`Sound.step_channel`).
2. What the bus gives a subscriber is what the rule of the books gives (`Agrees.next`), so books and
   channel agree after every step (`Follows.step`) and along every run (`Follows.after`).
3. What happens to a subscriber is the same whether or not others receive (`occasions_filter`).
-/

namespace CommandRelay.Bus

open Correlation

/-! ## One receive -/

/-- A reader at a place of a channel has those requests behind it that the books say. -/
structure Agrees (c : Channel Request) (n : Nat) (base : String) (t : Subscriber) (l : Ledger) :
    Prop where
  capacity : c.capacity = n
  base : t.base = base
  behind : ∃ log, c.Records log ∧ t.place ≤ log.length ∧ l.behind = log.drop t.place

namespace Agrees

variable {c : Channel Request} {n : Nat} {base : String} {t : Subscriber} {l : Ledger}

/-- A request that is sent is booked as the channel keeps it. -/
theorem send (h : Agrees c n base t l) (r : Request) :
    Agrees (c.send r) n base t (l.step n base (.sent r)) := by
  obtain ⟨log, hrecords, hplace, hbehind⟩ := h.behind
  refine ⟨h.capacity, h.base, log ++ [r], hrecords.send r, ?_, ?_⟩
  · rw [List.length_append]
    exact Nat.le_add_right_of_le hplace
  · rw [List.drop_append_of_le_length hplace, ← hbehind]
    rfl

/-- What the channel counts as lost is what is overwritten in the books. -/
theorem lost (h : Agrees c n base t l) : c.lost t.place = (l.overwritten n).length := by
  obtain ⟨log, hrecords, -, hbehind⟩ := h.behind
  rw [hrecords.lost, h.capacity, ← hbehind, Ledger.overwritten, List.length_take]
  omega

/-- What the channel has for the subscriber is what is kept in the books. -/
theorem unread (h : Agrees c n base t l) : c.unread t.place = l.kept n := by
  obtain ⟨log, hrecords, -, hbehind⟩ := h.behind
  rw [hrecords.unread, h.capacity, ← hbehind, Ledger.kept]

/-- The bus gives a subscriber what the rule of the books gives. -/
theorem next {b : LocalBus} (h : Agrees b.channel n base t l) :
    (b.next t).1 = (l.receive n base).1 ∧
      Agrees b.channel n base (b.next t).2 (l.receive n base).2 := by
  have hlost := h.lost
  have hunread := h.unread
  have hwants : ∀ r : Request, t.wants r = r.isBelow base := by
    intro r
    rw [Subscriber.wants, h.base, Request.isBelow]
  obtain ⟨log, hrecords, hplace, hbehind⟩ := h.behind
  have hstart := hrecords.drop_start t.place
  rw [hunread] at hstart
  have hlength := congrArg List.length hstart
  rw [List.length_drop] at hlength
  -- The subscriber goes on from its place, or from the oldest record if that has passed it.
  have hle : max t.place b.channel.oldest ≤ log.length := by
    rw [hrecords.oldest]
    omega
  rw [LocalBus.next]
  simp only [hlost, hunread, hwants]
  have hsplit := List.takeWhile_append_dropWhile (p := (!·.isBelow base)) (l := l.kept n)
  rw [Ledger.receive]
  -- The first record that is kept and has the prefix is given; if none has, all of them are passed
  -- over.
  cases hrest : (l.kept n).dropWhile (!·.isBelow base) with
  | nil =>
    rw [hrest, List.append_nil] at hsplit
    refine ⟨rfl, h.capacity, h.base, log, hrecords, ?_, ?_⟩
    · show max t.place b.channel.oldest + _ ≤ _
      rw [hsplit]
      omega
    · show [] = log.drop (max t.place b.channel.oldest + _)
      rw [← List.drop_drop, hstart, hsplit, List.drop_length]
  | cons r rest =>
    rw [hrest] at hsplit
    have hkept := congrArg List.length hsplit
    rw [List.length_append, List.length_cons] at hkept
    refine ⟨rfl, h.capacity, h.base, log, hrecords, ?_, ?_⟩
    · show max t.place b.channel.oldest + _ + 1 ≤ _
      omega
    · show rest = log.drop (max t.place b.channel.oldest + _ + 1)
      have hpassed := (congrArg (List.drop _) hsplit).symm.trans List.drop_left
      rw [Nat.add_assoc, ← List.drop_drop, hstart, ← List.drop_drop, hpassed]
      rfl

end Agrees

namespace LocalRun

/-! ## What a step is for a subscriber -/

/-- The request that a step sends: the one that it makes, unless the bus refuses it. -/
def sent? (s : LocalRun) : LocalStep → Option Request
  | .request _ r _ =>
    if s.held ∧ (s.bus.refusal? (s.bus.desk.waiters.map (·.requestId)) r).isNone then some r
      else none
  | _ => none

/-- What a step is for a named subscriber. -/
def occasion? (s : LocalRun) (name : String) : LocalStep → Option Occasion
  | .receive name' => if name' = name then some .receive else none
  | a => (s.sent? a).map .sent

/-- What some steps are for a named subscriber. -/
def occasions (s : LocalRun) (name : String) : List LocalStep → List Occasion
  | [] => []
  | a :: steps => (s.occasion? name a).toList ++ (s.step a).2.2.occasions name steps

/-- The requests that are sent along some steps. -/
def sent (s : LocalRun) : List LocalStep → List Request
  | [] => []
  | a :: steps => (s.sent? a).toList ++ (s.step a).2.2.sent steps

/-- What a step gives a named subscriber. -/
def given? (s : LocalRun) (name : String) (a : LocalStep) : Option Received :=
  match a with
  | .receive name' => if name' = name then some (shown (s.step a).1 (s.step a).2.1) else none
  | _ => none

/-- What some steps give a named subscriber. -/
def gave (s : LocalRun) (name : String) : List LocalStep → List Received
  | [] => []
  | a :: steps => (s.given? name a).toList ++ (s.step a).2.2.gave name steps

/-- Whatever is no receive of this subscriber is an occasion for it only if a request is sent. -/
theorem occasion?_of_ne (s : LocalRun) {name : String} {a : LocalStep} (h : a ≠ .receive name) :
    s.occasion? name a = (s.sent? a).map .sent := by
  cases a with
  | receive other => exact if_neg fun heq : other = name => h (heq ▸ rfl)
  | _ => rfl

/-- The occasions of a run are those of its parts, one part after the other. -/
theorem occasions_append (s : LocalRun) (name : String) (steps steps' : List LocalStep) :
    s.occasions name (steps ++ steps') =
      s.occasions name steps ++ (s.after steps).occasions name steps' := by
  induction steps generalizing s with
  | nil => rfl
  | cons a steps ih =>
    rw [List.cons_append, occasions, occasions, ih, List.append_assoc]
    rfl

/-- The occasions of a subscriber tell what was sent in the run. -/
theorem sent_occasions (s : LocalRun) (name : String) (steps : List LocalStep) :
    Ledger.sent (s.occasions name steps) = s.sent steps := by
  induction steps generalizing s with
  | nil => rfl
  | cons a steps ih =>
    rw [occasions, sent, Ledger.sent_append, ih]
    congr 1
    cases a with
    | receive name' =>
      rw [occasion?]
      split <;> rfl
    | request name' r timeout =>
      show Ledger.sent ((s.sent? (.request name' r timeout)).map Occasion.sent).toList = _
      cases s.sent? (.request name' r timeout) <;> rfl
    | _ => rfl

/-- A step sends a request exactly if the bus does not refuse the one that it makes. -/
theorem Sound.step_channel {s : LocalRun} {ks : List Inquiry} (h : s.Sound ks) (a : LocalStep) :
    (s.step a).2.2.bus.channel = (s.sent? a).elim s.bus.channel s.bus.channel.send := by
  show (s.stepNow a).2.2.bus.channel = _
  cases a with
  | subscribe name base =>
    rw [stepNow]
    split
    · rfl
    · show (s.unsubscribe name).bus.channel = _
      rw [unsubscribe]
      split <;> rfl
  | unsubscribe name =>
    show (s.unsubscribe name).bus.channel = _
    rw [unsubscribe]
    split <;> rfl
  | receive name =>
    rw [stepNow]
    split
    · rfl
    · exact s.bus.receive_channel _
  | request name r timeout =>
    rw [stepNow, sent?]
    by_cases hheld : s.held = true
    · rw [if_pos hheld]
      show (s.bus.request s.nextNumber r timeout s.now).2.channel = _
      rcases LocalBus.request_cases h.matched h.new_guard r timeout s.now with
        ⟨f, ticket, hf, heq⟩ | ⟨hnone, heq⟩
      · rw [heq, hf, if_neg (by simp)]
        rfl
      · rw [heq, hnone, if_pos ⟨hheld, rfl⟩]
        rfl
    · rw [if_neg hheld, if_neg (fun h => hheld h.1)]
      rfl
  | respond r =>
    rw [stepNow]
    split <;> rfl
  | cancel name =>
    rw [stepNow]
    split <;> rfl
  | poll name => rfl
  | advance d => rfl
  | close => rfl

/-! ## The books of a subscriber -/

/-- The books of a named subscriber agree with the channel. -/
def Follows (s : LocalRun) (n : Nat) (name base : String) (l : Ledger) : Prop :=
  ∃ t, s.Has name t ∧ Agrees s.bus.channel n base t l

section

variable {s : LocalRun} {ks : List Inquiry} {n : Nat} {name base : String} {l : Ledger}

/-- A step does to the books what it is for the subscriber, and gives it what the books say. -/
theorem Follows.step (h : s.Follows n name base l) (hs : s.Sound ks) (hn : s.Named) {a : LocalStep}
    (hends : a.ends name = false) :
    (s.step a).2.2.Follows n name base (l.after n base (s.occasion? name a).toList) ∧
      (s.given? name a).toList = l.gave n base (s.occasion? name a).toList := by
  obtain ⟨t, ht, hagrees⟩ := h
  have hchannel := hs.step_channel a
  -- Only its own receives give the subscriber anything; all other steps send at most one request.
  by_cases ha : a = .receive name
  · subst ha
    obtain ⟨hhas, hshown⟩ := ht.step_receive
    obtain ⟨hgot, hafter⟩ := hagrees.next
    have hoccasion : s.occasion? name (.receive name) = some .receive := if_pos rfl
    have hgiven : s.given? name (.receive name) = some (l.receive n base).1 := by
      rw [given?, if_pos rfl, hshown, hgot]
    rw [hoccasion, hgiven]
    refine ⟨⟨_, hhas, ?_⟩, rfl⟩
    rw [hchannel]
    exact hafter
  · have hgiven : s.given? name a = none := by
      cases a with
      | receive other => exact if_neg fun heq : other = name => ha (heq ▸ rfl)
      | _ => rfl
    have hhas := hn.step_apart ht hends ha
    rw [hgiven, s.occasion?_of_ne ha]
    cases hsent : s.sent? a with
    | none =>
      rw [hsent] at hchannel
      exact ⟨⟨t, hhas, hchannel ▸ hagrees⟩, rfl⟩
    | some r =>
      rw [hsent] at hchannel
      exact ⟨⟨t, hhas, hchannel ▸ hagrees.send r⟩, rfl⟩

/-- The books follow a subscriber through every run in which its subscription does not end. -/
theorem Follows.after (h : s.Follows n name base l) (hs : s.Sound ks) (hn : s.Named)
    {steps : List LocalStep} (hends : ∀ a ∈ steps, a.ends name = false) :
    (s.after steps).Follows n name base (l.after n base (s.occasions name steps)) ∧
      s.gave name steps = l.gave n base (s.occasions name steps) := by
  induction steps generalizing s ks l with
  | nil => exact ⟨h, rfl⟩
  | cons a steps ih =>
    obtain ⟨hfirst, hrest⟩ := List.forall_mem_cons.mp hends
    obtain ⟨hstep, hgiven⟩ := h.step hs hn hfirst
    obtain ⟨hafter, hgave⟩ := ih hstep (hs.step a).1 (hn.step a) hrest
    rw [occasions, Ledger.after_append, Ledger.gave_append, gave, hgiven, hgave]
    exact ⟨hafter, rfl⟩

/-- The channel keeps the last of the requests that were sent along a run. -/
theorem Sound.channel_after (hs : s.Sound ks) {log : List Request}
    (h : s.bus.channel.Records log) (hcapacity : s.bus.channel.capacity = n)
    (steps : List LocalStep) : (s.after steps).bus.channel.Records (log ++ s.sent steps) ∧
      (s.after steps).bus.channel.capacity = n := by
  induction steps generalizing s ks log with
  | nil => exact ⟨(List.append_nil log).symm ▸ h, hcapacity⟩
  | cons a steps ih =>
    have hchannel := hs.step_channel a
    have hstep : (s.step a).2.2.bus.channel.Records (log ++ (s.sent? a).toList) ∧
        (s.step a).2.2.bus.channel.capacity = n := by
      rw [hchannel]
      cases s.sent? a with
      | none => exact ⟨(List.append_nil log).symm ▸ h, hcapacity⟩
      | some r => exact ⟨h.send r, hcapacity⟩
    rw [sent, ← List.append_assoc]
    exact ih (hs.step a).1 hstep.1 hstep.2

/-- Whoever subscribes is behind nothing, whatever was sent before. -/
theorem Follows.subscribe (hs : s.Sound ks) (hn : s.Named) (hheld : s.held = true)
    {log : List Request} (h : s.bus.channel.Records log) (hcapacity : s.bus.channel.capacity = n)
    (name base : String) : (s.step (.subscribe name base)).2.2.Follows n name base {} := by
  have hchannel : (s.step (.subscribe name base)).2.2.bus.channel = s.bus.channel :=
    hs.step_channel (.subscribe name base)
  refine ⟨_, hn.step_subscribe hheld name base, ?_⟩
  rw [hchannel, h.sent]
  exact ⟨hcapacity, rfl, log, h, Nat.le_refl _, List.drop_length.symm⟩

/-- A receive for the books is a receive of the subscriber. -/
theorem exists_receive (s : LocalRun) {steps : List LocalStep} {os os' : List Occasion}
    (h : s.occasions name steps = os ++ .receive :: os') :
    ∃ earlier rest, steps = earlier ++ .receive name :: rest ∧ s.occasions name earlier = os := by
  -- By induction along the steps: some are no occasion, and the others are one each.
  induction steps generalizing s os with
  | nil => cases os <;> cases h
  | cons a steps ih =>
    rw [occasions] at h
    cases ho : s.occasion? name a with
    | none =>
      rw [ho] at h
      obtain ⟨earlier, rest, rfl, hearlier⟩ := ih _ h
      refine ⟨a :: earlier, rest, rfl, ?_⟩
      rw [occasions, ho]
      exact hearlier
    | some o =>
      rw [ho] at h
      cases os with
      | nil =>
        obtain ⟨rfl, -⟩ := List.cons.inj h
        have ha : a = .receive name := by
          by_contra hne
          rw [s.occasion?_of_ne hne] at ho
          obtain ⟨r, -, hr⟩ := Option.map_eq_some_iff.mp ho
          cases hr
        exact ⟨[], steps, by rw [ha]; rfl, rfl⟩
      | cons o' os =>
        obtain ⟨rfl, htail⟩ := List.cons.inj h
        obtain ⟨earlier, rest, rfl, hearlier⟩ := ih _ htail
        refine ⟨a :: earlier, rest, rfl, ?_⟩
        rw [occasions, ho, hearlier]
        rfl

end

/-! ## Other subscribers -/

/-- What a step is an occasion for does not depend on the subscribers. -/
theorem occasion?_blind (s : LocalRun) (name : String) (a : LocalStep) :
    s.blind.occasion? name a = s.occasion? name a := by
  cases a with
  | request other r timeout =>
    have hempty : s.blind.bus.subscribers.isEmpty = s.bus.subscribers.isEmpty := by
      simp only [blind, LocalBus.blind, List.isEmpty_map]
    have hrefusal : s.blind.bus.refusal? (s.bus.desk.waiters.map (·.requestId)) r =
        s.bus.refusal? (s.bus.desk.waiters.map (·.requestId)) r := by
      rw [LocalBus.refusal?, LocalBus.refusal?, hempty]
    have hsent : s.blind.sent? (.request other r timeout) = s.sent? (.request other r timeout) :=
      congrArg (fun f => if s.held = true ∧ Option.isNone f = true then some r else none) hrefusal
    exact congrArg (Option.map _) hsent
  | _ => rfl

end LocalRun

/-- Whether somebody else receives in a step. -/
def LocalStep.isOthers (name : String) : LocalStep → Bool
  | .receive other => other != name
  | _ => false

namespace LocalRun

/-- What happens to a subscriber is the same whether or not others receive. -/
theorem occasions_filter {s s' : LocalRun} {ks : List Inquiry} (hs : s.Sound ks)
    (h : s.blind = s'.blind) (name : String) (steps : List LocalStep) :
    s.occasions name steps = s'.occasions name (steps.filter (!·.isOthers name)) := by
  -- By induction along the steps, with the places of the subscribers left out of the two states.
  induction steps generalizing s s' ks with
  | nil => rfl
  | cons a steps ih =>
    by_cases ha : a.isOthers name = true
    · -- Whoever else receives moves on, and the others are where they were.
      rw [List.filter_cons_of_neg (by simp [ha])]
      cases a with
      | receive other =>
        have hne : other ≠ name := by simpa [LocalStep.isOthers] using ha
        have hnone : s.occasion? name (.receive other) = none := if_neg hne
        have hblind : (s.step (.receive other)).2.2.blind = s.blind := by
          show (s.stepNow (.receive other)).2.2.blind.settle = _
          rw [blind_receive]
          exact congrArg blind (settle_eq hs.settled)
        rw [occasions, hnone]
        exact ih (hs.step _).1 (hblind.trans h)
      | _ => cases ha
    · rw [List.filter_cons_of_pos (by simp [ha]), occasions, occasions, ← occasion?_blind s, h,
        occasion?_blind]
      have hblind : (s.step a).2.2.blind = (s'.step a).2.2.blind := by
        rw [← blind_step s, h, blind_step]
      rw [ih (hs.step a).1 hblind]

/-- **Requests are returned in order, still kept, or accounted for.**  Of whoever subscribes under a
name in a run, and however the run goes on while the subscription lasts, the books say what it
receives:

* each of its receives gives it what the rule of the books gives;
* what is booked, overwritten and kept is what was sent since then, in that order; the channel has
  for the subscriber the requests that are kept, and counts those that are overwritten;
* its receives return the requests that are booked as returned, which have the prefix, in their
  order; those passed over have another one;
* the numbers in the log add up to the requests that are booked as lost;
* each receive loses those of the requests behind that are not among the last `n`, and no others;
* whoever is never more than `n` requests behind when it receives loses nothing, and so is given
  every request with the prefix up to the last one that it looked at;
* it receives the same if nobody else receives. -/
theorem requests_returned_in_order_or_accounted_for (c : Nat) (before : List LocalStep)
    (hheld : ((ofCapacity c).after before).held = true) (name base : String)
    (later : List LocalStep) (hlater : ∀ a ∈ later, a.ends name = false) :
    let n := c.nextPowerOfTwo
    let s := (((ofCapacity c).after before).step (.subscribe name base)).2.2
    let books := fun steps => ({} : Ledger).after n base (s.occasions name steps)
    let booked := (books later).booked
    let gave := s.gave name later
    gave = ({} : Ledger).gave n base (s.occasions name later) ∧
    (∃ t, (s.after later).subscriber? name = some t ∧
      (s.after later).bus.channel.lost t.place = ((books later).overwritten n).length ∧
      (s.after later).bus.channel.unread t.place = (books later).kept n ∧
      booked.map (·.1) ++ (books later).overwritten n ++ (books later).kept n = s.sent later) ∧
    gave.filterMap (·.request) = Ledger.under .returned booked ∧
    (∀ r ∈ Ledger.under .returned booked, base.toList <+: r.topic.toList) ∧
    (∀ r ∈ Ledger.under .passed booked, ¬ base.toList <+: r.topic.toList) ∧
    (gave.map (·.lost)).sum = (Ledger.under .lost booked).length ∧
    (∀ earlier rest, later = earlier ++ .receive name :: rest →
      Ledger.under .lost (books (earlier ++ [.receive name])).booked =
        Ledger.under .lost (books earlier).booked ++ (books earlier).overwritten n) ∧
    ((∀ earlier rest, later = earlier ++ .receive name :: rest →
      (books earlier).behind.length ≤ n) →
      Ledger.under .lost booked = [] ∧
        gave.filterMap (·.request) = (booked.map (·.1)).filter (·.isBelow base)) ∧
    gave = s.gave name (later.filter (!·.isOthers name)) := by
  intro n s books booked gave
  have hsound := (sound_ofCapacity c).after before
  have hnamed := (named_ofCapacity c).after before
  obtain ⟨hrecords, hcapacity⟩ := (sound_ofCapacity c).channel_after
    (Channel.records_ofCapacity c) rfl before
  -- The subscriber agrees with its books from the moment it is there, and every step keeps that.
  have hfollows := Follows.subscribe hsound hnamed hheld hrecords hcapacity name base
  have hs := (hsound.step (.subscribe name base)).1
  have hn := hnamed.step (.subscribe name base)
  obtain ⟨⟨t, ht, hagrees⟩, hgave⟩ := hfollows.after hs hn hlater
  have hproper : (books later).Proper base := Ledger.Proper.after (l := {}) nofun n _
  have hreturned : gave.filterMap (·.request) = Ledger.under .returned booked := by
    show (s.gave name later).filterMap _ = _
    rw [hgave]
    exact (Ledger.returned_after n base {} _).symm
  have hlost : (gave.map (·.lost)).sum = (Ledger.under .lost booked).length := by
    have hcount := Ledger.lost_after n base {} (s.occasions name later)
    show ((s.gave name later).map _).sum = _
    rw [hgave, hcount]
    exact (Nat.zero_add _).symm
  refine ⟨hgave, ⟨t, ht.subscriber?_eq, hagrees.lost, hagrees.unread, ?_⟩, hreturned, ?_, ?_,
    hlost, ?_,
    ?_, ?_⟩
  · -- The three parts are all that the books were told, and they were told what was sent.
    have hall := Ledger.all_after n base {} (s.occasions name later)
    rw [List.append_assoc, Ledger.overwritten_append_kept, ← s.sent_occasions name]
    exact hall
  · intro r hr
    exact List.isPrefixOf_iff_prefix.mp ((hproper _ (Ledger.mem_under.mp hr)).1 rfl)
  · intro r hr hprefix
    have hnot := (hproper _ (Ledger.mem_under.mp hr)).2 rfl
    rw [Request.isBelow, List.isPrefixOf_iff_prefix.mpr hprefix] at hnot
    cases hnot
  · -- A receive is the last occasion of the steps up to it, and the books show what it finds
    -- overwritten.
    rintro earlier rest rfl
    have hlast : s.occasions name (earlier ++ [.receive name]) =
        s.occasions name earlier ++ [.receive] := by
      rw [occasions_append, occasions, occasion?, if_pos rfl]
      rfl
    show Ledger.under .lost (Ledger.after n base {} (s.occasions name _)).booked = _
    rw [hlast, Ledger.after_append]
    exact (Ledger.lost_receive n base _).1
  · -- Nothing is overwritten for whoever keeps up, so every booking is of one returned or passed
    -- over.
    intro hkeepsUp
    have hnone : Ledger.under .lost booked = [] := by
      refine Ledger.lost_of_keepsUp (l := {}) fun os os' hsplit => ?_
      obtain ⟨earlier, rest, hsteps, rfl⟩ := s.exists_receive hsplit
      exact hkeepsUp earlier rest hsteps
    exact ⟨hnone, hreturned.trans (Ledger.returned_of_lost_nil hproper hnone)⟩
  · -- Without the receives of others the run has the same occasions for this subscriber.
    have hfew : ∀ a ∈ later.filter (!·.isOthers name), a.ends name = false :=
      fun a ha => hlater a (List.mem_filter.mp ha).1
    rw [(hfollows.after hs hn hfew).2, ← occasions_filter hs rfl name later]
    exact hgave

/-- A request on a topic. -/
def requestOn (topic requestId : String) : Request :=
  { service := "milling", topic, envelope := { requestId } }

/-- A mill that falls behind on a bus that keeps two requests, while somebody else listens to
everything. -/
def busyMill : List LocalStep :=
  [.subscribe "log" "",
   .request "t1" (requestOn "mill/a" "R1") (.ofMillis 9),
   .request "t2" (requestOn "mill/b" "R2") (.ofMillis 9),
   .receive "log",
   .request "t3" (requestOn "mill/c" "R3") (.ofMillis 9),
   .receive "mill",
   .request "t4" (requestOn "saw/d" "R4") (.ofMillis 9),
   .receive "mill"]

/-- The theorem applied to the mill: the first of its requests is lost and counted, the others are
returned. -/
theorem mill_is_told_what_it_lost :
    let s := ((ofCapacity 2).step (.subscribe "mill" "mill/")).2.2
    let gave := s.gave "mill" busyMill
    gave.filterMap (·.request) = [requestOn "mill/b" "R2", requestOn "mill/c" "R3"] ∧
      (gave.map (·.lost)).sum = 1 ∧
      gave = s.gave "mill" (busyMill.filter (!·.isOthers "mill")) := by
  intro s gave
  obtain ⟨-, -, hreturned, -, -, hlost, -, -, halone⟩ :=
    requests_returned_in_order_or_accounted_for 2 [] rfl "mill" "mill/" busyMill (by decide)
  have hbooked : (Ledger.after (Nat.nextPowerOfTwo 2) "mill/" {}
      (s.occasions "mill" busyMill)).booked =
        [(requestOn "mill/a" "R1", .lost), (requestOn "mill/b" "R2", .returned),
         (requestOn "mill/c" "R3", .returned)] := by
    decide +kernel
  refine ⟨hreturned.trans ?_, hlost.trans ?_, halone⟩
  · exact congrArg (Ledger.under .returned) hbooked
  · exact congrArg (fun b => (Ledger.under .lost b).length) hbooked

end LocalRun

end CommandRelay.Bus
