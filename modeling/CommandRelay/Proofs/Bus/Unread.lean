import CommandRelay.Proofs.Bus.Delivery

/-!
# How a subscription stands

At every moment of a subscription what was sent since it began falls into three parts: what the
subscriber has looked at, what was overwritten before it did, and what it can still read.

1. **`Stands`** — what became of the first part, by the books of the subscriber, and what the
   channel has of the others.
2. **`stands`** — this is how every subscription stands, whoever else uses the bus and whatever for.
-/

namespace CommandRelay.Bus.LocalRun

open Ledger

/-- The books of a subscriber after some steps of its subscription. -/
def books (s : LocalRun) (n : Nat) (name base : String) (steps : List LocalStep) : Ledger :=
  ({} : Ledger).after n base (s.occasions name steps)

/-- How a subscription to a prefix stands that began in a state, after some steps. -/
structure Stands (s : LocalRun) (n : Nat) (name base : String) (steps : List LocalStep) : Prop where
  /-- What was sent is booked, overwritten or kept, in this order. -/
  sent : (s.books n name base steps).booked.map (·.1) ++
    (s.books n name base steps).overwritten n ++
    (s.books n name base steps).kept n = s.sent steps
  /-- The channel has what is kept to be read, and counts what is overwritten as lost. -/
  channel : ∃ t, (s.after steps).subscriber? name = some t ∧
    (s.after steps).bus.channel.unread t.place = (s.books n name base steps).kept n ∧
    (s.after steps).bus.channel.lost t.place = ((s.books n name base steps).overwritten n).length
  /-- What is booked as returned is what the subscriber was given. -/
  returned : (s.gave name steps).filterMap (·.request) =
    under .returned (s.books n name base steps).booked
  /-- What was passed over has another prefix. -/
  passed : ∀ r, (r, .passed) ∈ (s.books n name base steps).booked → r.isBelow base = false
  /-- What was lost is what was overwritten when the subscriber received, and it was told the
  number. -/
  lost : ((s.gave name steps).map (·.lost)).sum =
      (under .lost (s.books n name base steps).booked).length ∧
    ∀ earlier later, steps = earlier ++ .receive name :: later →
      under .lost (s.books n name base (earlier ++ [.receive name])).booked =
        under .lost (s.books n name base earlier).booked ++
          (s.books n name base earlier).overwritten n
  /-- Receives in a row give it what is kept and has the prefix. -/
  next : ∀ k, ((s.after steps).gave name (List.replicate k (.receive name))).filterMap (·.request) =
    (((s.books n name base steps).kept n).filter (·.isBelow base)).take k

/-- Receives in a row are as many occasions to receive. -/
theorem occasions_receives (s : LocalRun) (name : String) (k : Nat) :
    s.occasions name (List.replicate k (.receive name)) = List.replicate k .receive := by
  induction k generalizing s with
  | zero => rfl
  | succ k ih =>
    rw [List.replicate_succ, occasions, occasion?, if_pos rfl, ih]
    rfl

/-- What a receive of the subscriber adds to the books of what was lost. -/
theorem lost_books (s : LocalRun) (n : Nat) (name base : String) (steps : List LocalStep) :
    under .lost (s.books n name base (steps ++ [.receive name])).booked =
      under .lost (s.books n name base steps).booked ++
      (s.books n name base steps).overwritten n := by
  have hlast : s.occasions name (steps ++ [.receive name]) = s.occasions name steps ++
    [.receive] := by
    rw [occasions_append]
    exact congrArg _ (occasions_receives _ name 1)
  rw [books, hlast, Ledger.after_append]
  exact (lost_receive n base _).1

/-- Every subscription stands as the books say, from its beginning to its end. -/
theorem stands (c : Nat) (before : List LocalStep)
    (hheld : ((ofCapacity c).after before).held = true) (name base : String)
    {steps : List LocalStep}
    (hsteps : ∀ a ∈ steps, a.ends name = false) :
    (((ofCapacity c).after before).step (.subscribe name base)).2.2.Stands c.nextPowerOfTwo name
      base
      steps := by
  have hsound := (sound_ofCapacity c).after before
  have hnamed := (named_ofCapacity c).after before
  obtain ⟨hrecords, hcapacity⟩ := (sound_ofCapacity c).channel_after
    (Channel.records_ofCapacity c) rfl before
  have hfollows := Follows.subscribe hsound hnamed hheld hrecords hcapacity name base
  have hs := (hsound.step (.subscribe name base)).1
  have hn := hnamed.step (.subscribe name base)
  generalize (((ofCapacity c).after before).step (.subscribe name base)).2.2 = s at *
  -- From here on the state in which the subscription begins may be any that is followed by empty
  -- books.
  obtain ⟨hafter, hgave⟩ := hfollows.after hs hn hsteps
  have hproper : (s.books c.nextPowerOfTwo name base steps).Proper base :=
    Ledger.Proper.after (l := {}) (List.forall_mem_nil _) _ _
  refine ⟨?_, ?_, ?_, fun r hr => (hproper _ hr).2 rfl, ⟨?_, ?_⟩, fun k => ?_⟩
  · have hall := all_after c.nextPowerOfTwo base {} (s.occasions name steps)
    rw [List.append_assoc, overwritten_append_kept, ← s.sent_occasions name]
    exact hall
  · obtain ⟨t, ht, hagrees⟩ := hafter
    exact ⟨t, ht.subscriber?_eq, hagrees.unread, hagrees.lost⟩
  · rw [hgave]
    exact (returned_after c.nextPowerOfTwo base {} _).symm
  · rw [hgave, books, lost_after]
    exact (Nat.zero_add _).symm
  · intro earlier later _
    exact lost_books s _ name base earlier
  · have hreceives : ∀ a ∈ List.replicate k (LocalStep.receive name), a.ends name = false := by
      intro a ha
      rw [List.eq_of_mem_replicate ha]
      rfl
    obtain ⟨ks, hlater⟩ : ∃ ks, (s.after steps).Sound ks := ⟨_, hs.after steps⟩
    rw [(hafter.after hlater (hn.after steps) hreceives).2, occasions_receives]
    exact gave_receives c.nextPowerOfTwo base _ k

end CommandRelay.Bus.LocalRun
