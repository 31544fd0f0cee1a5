import CommandRelay.Fault

/-!
# Log events

What the relay reports while it runs: how serious it is, a message, and named details.
-/

namespace CommandRelay

/-- How serious an event is. -/
inductive Severity where
  | debug
  | info
  | warn
  | error
  deriving DecidableEq, Repr

/-- The word for a severity. -/
def Severity.word : Severity → String
  | .debug => "DEBUG"
  | .info => "INFO"
  | .warn => "WARN"
  | .error => "ERROR"

/-- A detail of an event. -/
inductive Detail where
  | text (s : String)
  | number (n : Nat)
  | fault (f : Fault)
  deriving DecidableEq, Repr

/-- A detail as text. -/
def Detail.toText : Detail → String
  | .text s => s
  | .number n => String.ofList (Text.decimal n)
  | .fault f => f.message

/-- An event of the log. -/
structure Event where
  severity : Severity
  message : String
  details : List (String × Detail) := []
  deriving DecidableEq, Repr

namespace Event

/-- An error event. -/
def failed (message : String) (details : List (String × Detail)) : Event :=
  { severity := .error, message, details }

/-- A warning. -/
def warning (message : String) (details : List (String × Detail)) : Event :=
  { severity := .warn, message, details }

/-- An event that is no cause for concern. -/
def notice (message : String) (details : List (String × Detail)) : Event :=
  { severity := .info, message, details }

/-- An event for those who look for it. -/
def remark (message : String) (details : List (String × Detail)) : Event :=
  { severity := .debug, message, details }

end Event

end CommandRelay
