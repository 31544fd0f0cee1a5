import CommandRelay.Correlation.Desk

/-!
# Runs of the correlation desk

A run is a sequence of steps on one desk with guards that go by names.  A wait takes as long as it
needs: with no response in its guard it ends at its deadline.
-/

namespace CommandRelay.Correlation

/-- A step of a run. -/
inductive DeskStep where
  | register (guard requestId : String)
  | complete (response : Envelope)
  | drop (guard : String)
  | wait (guard : String) (timeout : Duration)

/-- The answer to a step. -/
inductive DeskReply where
  | done (ok : Bool)
  | refused (f : Fault)
  | waited (result : CallResult)

/-- The state of a run. -/
structure DeskRun where
  desk : Desk := {}
  now : Instant := 0
  /-- The callers behind the guards that are held. -/
  held : List (String × CallId) := []
  nextCaller : CallId := 0

namespace DeskRun

/-- The caller behind a guard. -/
def caller? (s : DeskRun) (guard : String) : Option CallId :=
  (s.held.find? (·.1 == guard)).map (·.2)

/-- Drops a guard. -/
def drop (s : DeskRun) (guard : String) : DeskRun :=
  match s.caller? guard with
  | none => s
  | some c => { s with desk := s.desk.drop c, held := s.held.filter (·.1 != guard) }

/-- Waits on the guard of a caller until the wait ends. -/
def wait (s : DeskRun) (guard : String) (caller : CallId) (timeout : Duration) :
    DeskReply × DeskRun :=
  let desk := s.desk.await caller timeout s.now
  let atOnce := (desk.guard? caller).bind fun g => desk.outcome? s.now g
  let now := if atOnce.isSome then s.now else s.now + timeout.nanos
  let (ended, desk) := desk.settle now
  let reply : DeskReply := match ended.find? (·.1 == caller) with
    | some (_, r) => .waited r
    | none => .done false
  (reply, { s with desk, now, held := s.held.filter (·.1 != guard) })

/-- Makes one step.  A guard that is registered anew is dropped once its name has a new one. -/
def step (s : DeskRun) : DeskStep → DeskReply × DeskRun
  | .register guard requestId =>
    let caller := s.nextCaller
    match s.desk.register caller requestId with
    | (.error f, desk) => (.refused f, { s with desk })
    | (.ok (), desk) =>
      let s := { s with desk }.drop guard
      (.done true, { s with held := s.held ++ [(guard, caller)], nextCaller := caller + 1 })
  | .complete response =>
    let (taken, desk) := s.desk.complete response
    (.done taken, { s with desk })
  | .drop guard => (.done (s.caller? guard).isSome, s.drop guard)
  | .wait guard timeout =>
    match s.caller? guard with
    | none => (.done false, s)
    | some caller => s.wait guard caller timeout

/-- The state after a run of steps from the start. -/
def after (steps : List DeskStep) : DeskRun := steps.foldl (fun s a => (s.step a).2) {}

end DeskRun

end CommandRelay.Correlation
