import CommandRelay.Envelope.Basic

/-!
# The correlation desk

Requests and responses travel separately and are brought together by the request ID.  A caller
registers its request ID and holds a guard; a response that arrives for the ID is put into that
guard, once; a guard that is dropped takes its waiter with it.  The waiter is removed by its
ticket, so a guard that was answered never removes the waiter of a later registration of the same
ID.

A caller that waits on its guard ends with the response, or with a timeout at its deadline; it fails
at once if its waiter is gone and no response came.  Callers are told apart by numbers that whoever
uses the desk gives out.
-/

namespace CommandRelay

/-- The number of a caller. -/
abbrev CallId := Nat

/-- How a call ended. -/
abbrev CallResult := Except Fault Envelope

namespace Correlation

/-- An entry of the table: a request that is in flight. -/
structure Waiter where
  requestId : String
  ticket : UInt64
  /-- The caller whose guard gets the response. -/
  caller : CallId
  deriving DecidableEq, Repr

/-- A caller's wait. -/
structure Wait where
  timeout : Duration
  deadline : Instant
  deriving DecidableEq, Repr

/-- What a caller holds from its registration until it has its result. -/
structure Guard where
  caller : CallId
  requestId : String
  ticket : UInt64
  response : Option Envelope := none
  wait : Option Wait := none
  deriving DecidableEq

/-- The table of waiters and the guards that are held.  Guards stand in the order in which they were
registered or last began to wait. -/
structure Desk where
  waiters : List Waiter := []
  nextTicket : UInt64 := 0
  guards : List Guard := []
  deriving DecidableEq, Inhabited

namespace Desk

/-- The waiter for a request ID. -/
def waiter? (d : Desk) (requestId : String) : Option Waiter :=
  d.waiters.find? (·.requestId == requestId)

/-- The guard of a caller. -/
def guard? (d : Desk) (caller : CallId) : Option Guard :=
  d.guards.find? (·.caller == caller)

/-- The number of requests in flight. -/
def inFlight (d : Desk) : Nat := d.waiters.length

/-- Registers a request ID for a caller.  An empty ID can not be registered, nor one in flight. -/
def register (d : Desk) (caller : CallId) (requestId : String) : Except Fault Unit × Desk :=
  if requestId = "" then (.error .noRequestId, d)
  else
    let ticket := d.nextTicket
    let d := { d with nextTicket := ticket + 1 }
    if (d.waiter? requestId).isSome then (.error (.alreadyInFlight requestId), d)
    else
      (.ok (), { d with
        waiters := d.waiters ++ [{ requestId := requestId, ticket, caller }]
        guards := d.guards ++ [{ caller := caller, requestId, ticket }] })

/-- Takes the waiter of a guard out of the table, unless another registration has the ID by now. -/
def release (d : Desk) (g : Guard) : Desk :=
  { d with waiters := d.waiters.filter fun w => w.requestId != g.requestId || w.ticket != g.ticket }

/-- Drops the guard of a caller, and its waiter if it is still in the table. -/
def drop (d : Desk) (caller : CallId) : Desk :=
  match d.guard? caller with
  | none => d
  | some g => { d.release g with guards := d.guards.filter (·.caller != caller) }

/-- Puts a response into the guard of a caller. -/
def deliver (d : Desk) (caller : CallId) (response : Envelope) : Desk :=
  { d with guards := d.guards.map fun g =>
      if g.caller = caller then { g with response := some response } else g }

/-- Hands a response to whoever waits for it; tells whether it was taken. -/
def complete (d : Desk) (response : Envelope) : Bool × Desk :=
  match d.waiter? response.requestId with
  | none => (false, d)
  | some w =>
    let d := { d with waiters := d.waiters.filter (·.requestId != response.requestId) }
    if (d.guard? w.caller).isSome then (true, d.deliver w.caller response) else (false, d)

/-- Begins the wait of a caller, behind all others. -/
def await (d : Desk) (caller : CallId) (timeout : Duration) (now : Instant) : Desk :=
  match d.guard? caller with
  | none => d
  | some g =>
    let wait : Wait := { timeout, deadline := now + timeout.nanos }
    { d with guards := d.guards.filter (·.caller != caller) ++ [{ g with wait := some wait }] }

/-- Whether a response can still reach a guard: its waiter is in the table. -/
def expects (d : Desk) (g : Guard) : Bool := d.waiters.any (·.caller == g.caller)

/-- How the wait of a guard ends at an instant, if it ends by then: a response that is there comes
before everything else, and a deadline last. -/
def outcome? (d : Desk) (now : Instant) (g : Guard) : Option CallResult :=
  match g.wait, g.response with
  | none, _ => none
  | some _, some r => some (.ok r)
  | some w, none =>
    if !d.expects g then some (.error (.channelClosed g.requestId))
    else if w.deadline ≤ now then some (.error (.timedOut g.requestId w.timeout))
    else none

/-- The earliest deadline of a caller that still waits for its response. -/
def nextDeadline? (d : Desk) : Option Instant :=
  (d.guards.filterMap fun g => if g.response.isNone then g.wait.map (·.deadline) else none).min?

/-- The callers whose waits end by an instant, with their results, and the desk without their
guards.  They end in the order of their deadlines, equal ones in the order in which the waits
began. -/
def settle (d : Desk) (now : Instant) : List (CallId × CallResult) × Desk :=
  let due := (d.guards.filter fun g => (d.outcome? now g).isSome).mergeSort fun g h =>
    (g.wait.map (·.deadline)).getD 0 ≤ (h.wait.map (·.deadline)).getD 0
  (due.filterMap fun g => (d.outcome? now g).map fun r => (g.caller, r),
    due.foldl (fun d g => d.drop g.caller) d)

end Desk

end Correlation

end CommandRelay
