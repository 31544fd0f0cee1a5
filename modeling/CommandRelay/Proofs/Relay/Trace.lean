import Mathlib
import CommandRelay.Relay.Handler

/-!
# Traces of programs

A trace is the list of effects that a program performed, each with its answer.  It is read in two
ways, and the two agree.

1. **Against collaborators** — `trace answer p s` is what is noted when `Program.run` runs `p`
   against collaborators that answer by `answer` from the state `s`.  Every program ends, so every
   program has such a trace.
2. **Against anything** — `Path p tr q` says that `p` comes to `q` if its effects are answered as in
   `tr`, with no word on who answers.  A handler that is interrupted half way has a path that does
   not end in `done`; that is the form in which handlers that run side by side are reasoned about.

`path_trace` ties the first to the second, and `path_bind` takes a path apart along a program.
-/

namespace CommandRelay.Relay

/-- An effect that was performed, and its answer. -/
structure Performed where
  effect : Effect
  answer : effect.Answer

namespace Performed

/-- Whether a collaborator was asked for something: the log and the source of fresh IDs are none. -/
def isCall : Performed → Bool
  | ⟨.fresh, _⟩ | ⟨.log _, _⟩ => false
  | _ => true

/-- The message that was handed to the external broker, if it was one. -/
def publication? : Performed → Option (String × Delivery × List UInt8)
  | ⟨.publish topic delivery payload, _⟩ => some (topic, delivery, payload)
  | _ => none

end Performed

/-- The calls of collaborators in a trace. -/
def calls (tr : List Performed) : List Performed := tr.filter (·.isCall)

/-- The messages that a trace hands to the external broker. -/
def publications (tr : List Performed) : List (String × Delivery × List UInt8) :=
  tr.filterMap (·.publication?)

theorem calls_append (tr tr' : List Performed) : calls (tr ++ tr') = calls tr ++ calls tr' := by
  simp [calls]

/-- A call between effects that are none is all that is called. -/
theorem calls_between {pre post : List Performed} {p : Performed} (hpre : calls pre = [])
    (hp : p.isCall = true) (hpost : calls post = []) : calls (pre ++ p :: post) = [p] := by
  have hrest : calls (p :: post) = p :: calls post := List.filter_cons_of_pos hp
  rw [calls_append, hpre, hrest, hpost, List.nil_append]

theorem publications_append (tr tr' : List Performed) :
    publications (tr ++ tr') = publications tr ++ publications tr' := by
  simp [publications]

/-- A message is handed over by a call, so the calls of a trace hold all its messages. -/
theorem publications_calls (tr : List Performed) : publications (calls tr) = publications tr := by
  induction tr with
  | nil => rfl
  | cons p tr ih =>
    obtain ⟨e, x⟩ := p
    rw [publications, calls] at ih ⊢
    cases e <;> simpa [Performed.isCall, Performed.publication?, publications] using ih

namespace Program

variable {α β σ : Type}

/-- Collaborators that note what they are asked and what they answer. -/
def noting (answer : (e : Effect) → σ → e.Answer × σ) (e : Effect) (s : σ × List Performed) :
    e.Answer × (σ × List Performed) :=
  let (x, s') := answer e s.1
  (x, (s', s.2 ++ [⟨e, x⟩]))

/-- What a program performs when it runs against collaborators with a state. -/
def trace (answer : (e : Effect) → σ → e.Answer × σ) (p : Program α) (s : σ) : List Performed :=
  (run (noting answer) p (s, [])).2.2

/-- A program comes to another one if its effects are answered as a trace says. -/
inductive Path : Program α → List Performed → Program α → Prop
  | stay (p : Program α) : Path p [] p
  | go {e : Effect} {next : e.Answer → Program α} {tr : List Performed} {q : Program α}
      (x : e.Answer) (rest : Path (next x) tr q) : Path (.perform e next) (⟨e, x⟩ :: tr) q

/-! ## What a run notes is a path to its end -/

/-- A run with notes ends as the run does, and adds its trace to the notes. -/
theorem run_noting (answer : (e : Effect) → σ → e.Answer × σ) (p : Program α) (s : σ)
    (past : List Performed) :
    run (noting answer) p (s, past) =
      ((run answer p s).1, ((run answer p s).2, past ++ trace answer p s)) := by
  induction p generalizing s past with
  | done a => simp [trace, run_done]
  | perform e next ih =>
    -- Both sides note the first effect and go on with the same answer.
    rw [trace]
    show run (noting answer) (next (answer e s).1)
        ((answer e s).2, past ++ [⟨e, (answer e s).1⟩]) =
      (_, (_, past ++ (run (noting answer) (next (answer e s).1)
        ((answer e s).2, [] ++ [⟨e, (answer e s).1⟩])).2.2))
    rw [ih, ih]
    simp [run]

theorem trace_perform (answer : (e : Effect) → σ → e.Answer × σ) (e : Effect)
    (next : e.Answer → Program α) (s : σ) :
    trace answer (.perform e next) s =
      ⟨e, (answer e s).1⟩ :: trace answer (next (answer e s).1) (answer e s).2 := by
  rw [trace]
  show (run (noting answer) (next (answer e s).1)
    ((answer e s).2, [] ++ [⟨e, (answer e s).1⟩])).2.2 = _
  rw [run_noting]
  rfl

theorem path_trace (answer : (e : Effect) → σ → e.Answer × σ) (p : Program α) (s : σ) :
    Path p (trace answer p s) (.done (run answer p s).1) := by
  induction p generalizing s with
  | done a => exact .stay _
  | perform e next ih =>
    rw [trace_perform]
    exact .go _ (ih _ _)

/-! ## Taking paths apart -/

theorem path_done {a : α} {tr : List Performed} {q : Program α} (h : Path (.done a) tr q) :
    tr = [] ∧ q = .done a := by
  cases h
  exact ⟨rfl, rfl⟩

/-- A path to the end of a program that performs an effect begins with that effect. -/
theorem path_perform {e : Effect} {next : e.Answer → Program α} {tr : List Performed} {a : α}
    (h : Path (.perform e next) tr (.done a)) :
    ∃ x rest, tr = ⟨e, x⟩ :: rest ∧ Path (next x) rest (.done a) := by
  cases h with
  | go x rest => exact ⟨x, _, rfl, rest⟩

/-- A path through two programs in turn goes through the first and then through the second. -/
theorem path_bind {p : Program α} {f : α → Program β} {tr : List Performed} {b : β}
    (h : Path (p.bind f) tr (.done b)) :
    ∃ tr₁ a tr₂, tr = tr₁ ++ tr₂ ∧ Path p tr₁ (.done a) ∧ Path (f a) tr₂ (.done b) := by
  induction p generalizing tr with
  | done a => exact ⟨[], a, tr, rfl, .stay _, h⟩
  | perform e next ih =>
    obtain ⟨x, rest, rfl, hrest⟩ := path_perform h
    obtain ⟨tr₁, a, tr₂, rfl, h₁, h₂⟩ := ih x hrest
    exact ⟨_, a, tr₂, rfl, .go x h₁, h₂⟩

theorem Path.trans {p q r : Program α} {tr tr' : List Performed} (h : Path p tr q)
    (h' : Path q tr' r) : Path p (tr ++ tr') r := by
  induction h with
  | stay p => exact h'
  | go x _ ih => exact .go x (ih h')

/-- A path comes to a program half way. -/
theorem path_append {p r : Program α} {tr tr' : List Performed} (h : Path p (tr ++ tr') r) :
    ∃ q, Path p tr q ∧ Path q tr' r := by
  induction tr generalizing p with
  | nil => exact ⟨p, .stay p, h⟩
  | cons x tr ih =>
    cases h with
    | go x hrest =>
      obtain ⟨q, hfirst, hsecond⟩ := ih hrest
      exact ⟨q, .go x hfirst, hsecond⟩

end Program

end CommandRelay.Relay
