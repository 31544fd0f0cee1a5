import CommandRelay.Bus.Local
import CommandRelay.Catalogue.Routing
import CommandRelay.Delivery

/-!
# What a handler does

A handler is a program over the collaborators of the relay: it asks the router, the catalogue and
the internal bus, hands messages to the external broker, and logs.  A program is a finite tree: it
is done, or it performs one effect and goes on with the answer.  How the collaborators answer is
not said here, so what holds of a program holds for every behaviour of them.
-/

namespace CommandRelay.Relay

/-- An effect that a program may perform. -/
inductive Effect where
  /-- Make up a correlation ID, for a message that has none. -/
  | fresh
  | log (e : Event)
  | resolve (base device command : String) (method : Method)
  | query (request : Envelope) (device : String)
  | request (r : Bus.Request) (timeout : Duration)
  | publish (topic : String) (delivery : Delivery) (payload : List UInt8)
  | subscribe (filter : String) (qos : Qos)

/-- What an effect answers. -/
abbrev Effect.Answer : Effect → Type
  | .fresh => String
  | .log _ => Unit
  | .resolve _ _ _ _ => Except Fault Route
  | .query _ _ => Except Fault Envelope
  | .request _ _ => Except Fault Envelope
  | .publish _ _ _ => Except Fault Unit
  | .subscribe _ _ => Except Fault Unit

/-- A program that ends with an `α`. -/
inductive Program (α : Type) where
  | done (a : α)
  | perform (e : Effect) (next : e.Answer → Program α)

namespace Program

/-- Goes on with a second program. -/
def bind {α β : Type} (p : Program α) (f : α → Program β) : Program β :=
  match p with
  | .done a => f a
  | .perform e next => .perform e fun x => (next x).bind f

instance : Monad Program where
  pure := .done
  bind := bind

/-- Performs one effect. -/
def once (e : Effect) : Program e.Answer := .perform e .done

/-- Logs an event. -/
def log (e : Event) : Program Unit := once (.log e)

/-- Runs a program against collaborators with a state. -/
def run {α σ : Type} (answer : (e : Effect) → σ → e.Answer × σ) : Program α → σ → α × σ
  | .done a, s => (a, s)
  | .perform e next, s => run answer (next (answer e s).1) (answer e s).2

theorem run_done {α σ : Type} (answer : (e : Effect) → σ → e.Answer × σ) (a : α) (s : σ) :
    run answer (.done a) s = (a, s) := rfl

end Program

end CommandRelay.Relay
