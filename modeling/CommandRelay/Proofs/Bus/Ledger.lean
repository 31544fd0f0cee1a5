import Mathlib
import CommandRelay.Bus.Local

/-!
# The books of a subscriber

What a subscriber should receive, told by nothing but the requests that are sent while it is
subscribed and by the moments at which it receives.  A ledger books every request once, in the order
of sending, under what became of it; the requests behind were not looked at yet.

1. `Ledger.receive` is the one rule: the oldest requests that there is no room for are lost, those
   with other topics are passed over, and the first one with the prefix is returned.
   `receive_cases` takes it apart.
2. Receives in a row return the requests with the prefix among those that are kept
   (`gave_receives`).
3. What is booked and what is behind are together what was sent (`all_after`).
4. Returned requests have the prefix and requests passed over do not (`Proper.after`).
5. What the receives return and what they count as lost is what is booked (`returned_after`,
   `lost_after`), and nobody who keeps up loses anything (`lost_of_keepsUp`).
-/

namespace CommandRelay.Bus

/-- What became of a request that was sent to a subscriber. -/
inductive Mark where
  | returned
  /-- Its topic has another prefix. -/
  | passed
  /-- It was overwritten before the subscriber looked at it. -/
  | lost
  deriving DecidableEq

/-- Whether a request is for a prefix. -/
def Request.isBelow (base : String) (r : Request) : Bool :=
  base.toList.isPrefixOf r.topic.toList

/-- What happens to a subscriber: a request is sent, or it receives. -/
inductive Occasion where
  | sent (r : Request)
  | receive

/-- The books of a subscriber. -/
structure Ledger where
  /-- The requests that are dealt with. -/
  booked : List (Request × Mark) := []
  /-- The requests that were sent and not looked at, oldest first. -/
  behind : List Request := []

namespace Ledger

/-- The requests that are booked under a mark. -/
def under (m : Mark) (booked : List (Request × Mark)) : List Request :=
  (booked.filter (·.2 = m)).map (·.1)

/-- The requests behind that are not among the last `n`. -/
def overwritten (n : Nat) (l : Ledger) : List Request := l.behind.take (l.behind.length - n)

/-- The last `n` of the requests behind. -/
def kept (n : Nat) (l : Ledger) : List Request := l.behind.drop (l.behind.length - n)

/-- Receives where there is room for `n` requests: those that are overwritten are lost, those that
are kept are passed over up to the first one with the prefix. -/
def receive (n : Nat) (base : String) (l : Ledger) : Received × Ledger :=
  let lost := l.overwritten n
  let passed := (l.kept n).takeWhile (!·.isBelow base)
  let booked := l.booked ++ lost.map (·, .lost) ++ passed.map (·, .passed)
  match (l.kept n).dropWhile (!·.isBelow base) with
  | r :: rest => (⟨lost.length, some r⟩, ⟨booked ++ [(r, .returned)], rest⟩)
  | [] => (⟨lost.length, none⟩, ⟨booked, []⟩)

/-- The books after one occasion. -/
def step (n : Nat) (base : String) (l : Ledger) : Occasion → Ledger
  | .sent r => { l with behind := l.behind ++ [r] }
  | .receive => (l.receive n base).2

/-- The books after some occasions. -/
def after (n : Nat) (base : String) (l : Ledger) (os : List Occasion) : Ledger :=
  os.foldl (step n base) l

/-- What is received along some occasions. -/
def gave (n : Nat) (base : String) (l : Ledger) : List Occasion → List Received
  | [] => []
  | .sent r :: os => (l.step n base (.sent r)).gave n base os
  | .receive :: os => (l.receive n base).1 :: (l.step n base .receive).gave n base os

/-- The requests that are sent along some occasions. -/
def sent : List Occasion → List Request
  | [] => []
  | .sent r :: os => r :: sent os
  | .receive :: os => sent os

/-- Everything that was sent, in the order of sending. -/
def all (l : Ledger) : List Request := l.booked.map (·.1) ++ l.behind

/-- What is returned has the prefix, what is passed over has not. -/
def Proper (base : String) (l : Ledger) : Prop :=
  ∀ e ∈ l.booked, (e.2 = .returned → e.1.isBelow base = true) ∧
    (e.2 = .passed → e.1.isBelow base = false)

variable {n : Nat} {base : String} {l : Ledger}

theorem under_append (m : Mark) (bs bs' : List (Request × Mark)) :
    under m (bs ++ bs') = under m bs ++ under m bs' := by
  rw [under, List.filter_append, List.map_append]
  rfl

theorem under_map (m m' : Mark) (rs : List Request) :
    under m (rs.map (·, m')) = if m' = m then rs else [] := by
  by_cases h : m' = m <;> simp [under, List.filter_map, Function.comp_def, h]

/-- A request stands under a mark if it is booked with it. -/
theorem mem_under {m : Mark} {booked : List (Request × Mark)} {r : Request} :
    r ∈ under m booked ↔ (r, m) ∈ booked := by
  rw [under, List.mem_map]
  constructor
  · rintro ⟨⟨r', m'⟩, he, rfl⟩
    obtain ⟨hmem, hm⟩ := List.mem_filter.mp he
    obtain rfl : m' = m := by simpa using hm
    exact hmem
  · intro he
    exact ⟨(r, m), List.mem_filter.mpr ⟨he, by simp⟩, rfl⟩

theorem map_fst_map (m : Mark) (rs : List Request) : (rs.map (·, m)).map Prod.fst = rs := by
  rw [List.map_map]
  exact List.map_id rs

/-- What is behind is overwritten or kept, and the overwritten requests come first. -/
theorem overwritten_append_kept (n : Nat) (l : Ledger) : l.overwritten n ++ l.kept n = l.behind :=
  List.take_append_drop _ _

/-! ## One receive -/

/-- Whoever receives passes over requests with other topics, and is given the next one if there is
one. -/
theorem receive_cases (n : Nat) (base : String) (l : Ledger) :
    ∃ passed, (∀ r ∈ passed, r.isBelow base = false) ∧
      ((∃ r rest, l.kept n = passed ++ r :: rest ∧ r.isBelow base = true ∧
          l.receive n base = (⟨(l.overwritten n).length, some r⟩,
            ⟨l.booked ++ (l.overwritten n).map (·, .lost) ++ passed.map (·, .passed) ++
              [r].map (·, .returned), rest⟩)) ∨
        (l.kept n = passed ∧
          l.receive n base = (⟨(l.overwritten n).length, none⟩,
            ⟨l.booked ++ (l.overwritten n).map (·, .lost) ++ passed.map (·, .passed), []⟩))) := by
  have hpassed : ∀ r ∈ (l.kept n).takeWhile (!·.isBelow base), r.isBelow base = false := by
    intro r hr
    simpa using List.mem_takeWhile_imp hr
  -- What is kept is split at the first request that has the prefix.
  have hsplit := List.takeWhile_append_dropWhile (p := (!·.isBelow base)) (l := l.kept n)
  refine ⟨(l.kept n).takeWhile (!·.isBelow base), hpassed, ?_⟩
  cases hrest : (l.kept n).dropWhile (!·.isBelow base) with
  | nil =>
    rw [hrest, List.append_nil] at hsplit
    exact .inr ⟨hsplit.symm, by rw [receive, hrest]⟩
  | cons r rest =>
    rw [hrest] at hsplit
    have hr : r.isBelow base = true := by
      have hhead :=
        List.head_dropWhile_not (p := (!·.isBelow base)) (l := l.kept n) (by simp [hrest])
      simpa [hrest] using hhead
    exact .inl ⟨r, rest, hsplit.symm, hr, by rw [receive, hrest]; rfl⟩

/-- A receive moves requests within the ledger and neither adds nor drops one. -/
theorem all_receive (n : Nat) (base : String) (l : Ledger) : (l.receive n base).2.all = l.all := by
  obtain ⟨passed, -, ⟨r, rest, hkept, -, heq⟩ | ⟨hkept, heq⟩⟩ := receive_cases n base l
  · rw [heq, all, all, ← overwritten_append_kept n l, hkept]
    simp only [List.map_append, map_fst_map, List.append_assoc, List.singleton_append]
  · rw [heq, all, all, ← overwritten_append_kept n l, hkept]
    simp only [List.map_append, map_fst_map, List.append_assoc, List.append_nil]

/-- A receive loses the requests behind that are not among the last `n`, and counts them. -/
theorem lost_receive (n : Nat) (base : String) (l : Ledger) :
    under .lost (l.receive n base).2.booked = under .lost l.booked ++ l.overwritten n ∧
      (l.receive n base).1.lost = (l.overwritten n).length := by
  obtain ⟨passed, -, ⟨r, rest, -, -, heq⟩ | ⟨-, heq⟩⟩ := receive_cases n base l
  · rw [heq]
    simp [under_append, under_map, -List.map_cons]
  · rw [heq]
    simp [under_append, under_map]

/-- A receive books as returned what it gives out. -/
theorem returned_receive (n : Nat) (base : String) (l : Ledger) :
    under .returned (l.receive n base).2.booked =
      under .returned l.booked ++ (l.receive n base).1.request.toList := by
  obtain ⟨passed, -, ⟨r, rest, -, -, heq⟩ | ⟨-, heq⟩⟩ := receive_cases n base l
  · rw [heq]
    simp [under_append, under_map, -List.map_cons]
  · rw [heq]
    simp [under_append, under_map]

/-- A receive books with each mark only what the mark is for. -/
theorem Proper.receive (h : l.Proper base) (n : Nat) : (l.receive n base).2.Proper base := by
  have hlost : ∀ e ∈ l.booked ++ (l.overwritten n).map (·, Mark.lost),
      (e.2 = .returned → e.1.isBelow base = true) ∧ (e.2 = .passed → e.1.isBelow base = false) := by
    intro e he
    rcases List.mem_append.mp he with hold | hnew
    · exact h e hold
    · obtain ⟨r, -, rfl⟩ := List.mem_map.mp hnew
      exact ⟨nofun, nofun⟩
  obtain ⟨passed, hothers, hcase⟩ := receive_cases n base l
  have hpassed : ∀ e ∈ l.booked ++ (l.overwritten n).map (·, Mark.lost) ++
      passed.map (·, Mark.passed),
      (e.2 = .returned → e.1.isBelow base = true) ∧ (e.2 = .passed → e.1.isBelow base = false) := by
    intro e he
    rcases List.mem_append.mp he with hold | hnew
    · exact hlost e hold
    · obtain ⟨r, hr, rfl⟩ := List.mem_map.mp hnew
      exact ⟨nofun, fun _ => hothers r hr⟩
  rcases hcase with ⟨r, rest, -, hr, heq⟩ | ⟨-, heq⟩
  · rw [heq]
    intro e he
    rcases List.mem_append.mp he with hold | hnew
    · exact hpassed e hold
    · obtain rfl := List.mem_singleton.mp hnew
      exact ⟨fun _ => hr, nofun⟩
  · rw [heq]
    exact hpassed

/-! ## Receives in a row -/

/-- Where there is room for all that is behind, all of it is kept. -/
theorem kept_of_length_le (h : l.behind.length ≤ n) : l.kept n = l.behind := by
  rw [kept, Nat.sub_eq_zero_of_le h, List.drop_zero]

/-- Receives in a row return what is kept and has the prefix, one by one. -/
theorem gave_receives (n : Nat) (base : String) (l : Ledger) (k : Nat) :
    (l.gave n base (List.replicate k .receive)).filterMap (·.request) =
      ((l.kept n).filter (·.isBelow base)).take k := by
  induction k generalizing l with
  | zero => exact List.take_zero.symm
  | succ k ih =>
    rw [List.replicate_succ, gave, List.filterMap_cons, step, ih]
    obtain ⟨passed, hothers, ⟨r, rest, hkept, hr, heq⟩ | ⟨hkept, heq⟩⟩ := receive_cases n base l
    · -- The first receive leaves behind what is kept after the request that it returns.
      have hroom : rest.length ≤ n := by
        have hlength := congrArg List.length hkept
        rw [kept, List.length_drop, List.length_append, List.length_cons] at hlength
        omega
      have hrest : (l.receive n base).2.kept n = rest := by
        rw [heq]
        exact kept_of_length_le hroom
      have hnone : passed.filter (·.isBelow base) = [] :=
        List.filter_eq_nil_iff.mpr fun q hq => by simp [hothers q hq]
      rw [hrest, heq, hkept, List.filter_append, hnone, List.nil_append,
        List.filter_cons_of_pos hr, List.take_succ_cons]
    · have hrest : (l.receive n base).2.kept n = [] := by
        rw [heq]
        exact kept_of_length_le (Nat.zero_le n)
      have hnone : passed.filter (·.isBelow base) = [] :=
        List.filter_eq_nil_iff.mpr fun q hq => by simp [hothers q hq]
      rw [hrest, heq, hkept, hnone, List.filter_nil, List.take_nil, List.take_nil]

/-! ## A whole life -/

theorem after_append (n : Nat) (base : String) (l : Ledger) (os os' : List Occasion) :
    l.after n base (os ++ os') = (l.after n base os).after n base os' := List.foldl_append

/-- What a ledger gives on occasions in a row is what it gives on the first ones and then on the
others. -/
theorem gave_append (n : Nat) (base : String) (l : Ledger) (os os' : List Occasion) :
    l.gave n base (os ++ os') = l.gave n base os ++ (l.after n base os).gave n base os' := by
  induction os generalizing l with
  | nil => rfl
  | cons o os ih =>
    cases o with
    | sent r => exact ih _
    | receive => exact congrArg (_ :: ·) (ih _)

theorem sent_append (os os' : List Occasion) : sent (os ++ os') = sent os ++ sent os' := by
  induction os with
  | nil => rfl
  | cons o os ih =>
    cases o with
    | sent r => exact congrArg (r :: ·) ih
    | receive => exact ih

/-- A ledger holds what it held, and behind it whatever was sent since then. -/
theorem all_after (n : Nat) (base : String) (l : Ledger) (os : List Occasion) :
    (l.after n base os).all = l.all ++ sent os := by
  induction os generalizing l with
  | nil => exact (List.append_nil _).symm
  | cons o os ih =>
    show ((l.step n base o).after n base os).all = _
    rw [ih]
    cases o with
    | sent r => simp only [step, all, sent, List.append_assoc, List.singleton_append]
    | receive => rw [step, all_receive, sent]

/-- No occasion spoils the marks of a ledger. -/
theorem Proper.after (h : l.Proper base) (n : Nat) (os : List Occasion) :
    (l.after n base os).Proper base := by
  induction os generalizing l with
  | nil => exact h
  | cons o os ih =>
    cases o with
    | sent r => exact ih h
    | receive => exact ih (h.receive n)

/-- The requests that are booked as returned are the ones that were given out, in that order. -/
theorem returned_after (n : Nat) (base : String) (l : Ledger) (os : List Occasion) :
    under .returned (l.after n base os).booked =
      under .returned l.booked ++ (l.gave n base os).filterMap (·.request) := by
  induction os generalizing l with
  | nil => exact (List.append_nil _).symm
  | cons o os ih =>
    cases o with
    | sent r => exact ih _
    | receive =>
      show under .returned ((l.receive n base).2.after n base os).booked = _
      rw [ih, returned_receive, gave, List.filterMap_cons]
      cases (l.receive n base).1.request with
      | none => rw [Option.toList_none, List.append_nil]; rfl
      | some r => rw [Option.toList_some, List.append_assoc]; rfl

/-- The numbers that receives give for what was lost add up to what is booked as lost. -/
theorem lost_after (n : Nat) (base : String) (l : Ledger) (os : List Occasion) :
    (under .lost (l.after n base os).booked).length =
      (under .lost l.booked).length + ((l.gave n base os).map (·.lost)).sum := by
  induction os generalizing l with
  | nil => rfl
  | cons o os ih =>
    cases o with
    | sent r => exact ih _
    | receive =>
      obtain ⟨hbooked, hcount⟩ := lost_receive n base l
      show (under .lost ((l.receive n base).2.after n base os).booked).length = _
      rw [ih, hbooked, List.length_append, gave, List.map_cons, List.sum_cons, hcount,
        Nat.add_assoc]
      rfl

/-- Where nothing was lost, the requests with the prefix were returned. -/
theorem returned_of_lost_nil {booked : List (Request × Mark)}
    (h : ∀ e ∈ booked, (e.2 = .returned → e.1.isBelow base = true) ∧
      (e.2 = .passed → e.1.isBelow base = false))
    (hlost : under .lost booked = []) :
    under .returned booked = (booked.map (·.1)).filter (·.isBelow base) := by
  have hmark : ∀ e ∈ booked, (decide (e.2 = .returned)) = e.1.isBelow base := by
    rintro ⟨r, m⟩ he
    cases m with
    | returned => simpa using (h _ he).1 rfl
    | passed => simpa using (h _ he).2 rfl
    | lost =>
      have hmem : r ∈ under .lost booked := mem_under.mpr he
      rw [hlost] at hmem
      cases hmem
  rw [under, List.filter_congr hmark, List.filter_map]
  rfl

/-- Whoever is never more than `n` requests behind when it receives loses nothing. -/
theorem lost_of_keepsUp {os : List Occasion}
    (h : ∀ earlier rest, os = earlier ++ .receive :: rest →
      (l.after n base earlier).behind.length ≤ n) :
    under .lost (l.after n base os).booked = under .lost l.booked := by
  induction os generalizing l with
  | nil => rfl
  | cons o os ih =>
    have hrest : ∀ earlier rest, os = earlier ++ .receive :: rest →
        ((l.step n base o).after n base earlier).behind.length ≤ n := by
      rintro earlier rest rfl
      exact h (o :: earlier) rest rfl
    show under .lost ((l.step n base o).after n base os).booked = _
    rw [ih hrest]
    cases o with
    | sent r => rfl
    | receive =>
      have hnow : l.behind.length ≤ n := h [] os rfl
      rw [step, (lost_receive n base l).1, overwritten, Nat.sub_eq_zero_of_le hnow, List.take_zero,
        List.append_nil]

end Ledger

end CommandRelay.Bus
