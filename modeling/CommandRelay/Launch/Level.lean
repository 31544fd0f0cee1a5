import CommandRelay.Event
import CommandRelay.Text.Blank

/-!
# Log levels

How much of the log is shown.
-/

namespace CommandRelay.Launch

/-- How much is shown. -/
inductive Level where
  | off | error | warn | info | debug | trace
  deriving DecidableEq, Repr

namespace Level

/-- The place of a level in the order of levels. -/
def rank : Level → Nat
  | .off => 0
  | .error => 1
  | .warn => 2
  | .info => 3
  | .debug => 4
  | .trace => 5

/-- All levels. -/
def all : List Level := [.off, .error, .warn, .info, .debug, .trace]

/-- The word for a level. -/
def word : Level → String
  | .off => "off"
  | .error => "error"
  | .warn => "warn"
  | .info => "info"
  | .debug => "debug"
  | .trace => "trace"

/-- The level that a word in any case names, or the number of its place, which may have a plus and
zeros before it. -/
def ofText? (s : String) : Option Level :=
  let place := Text.unsigned? UInt64.size s.toList
  all.find? fun l => Text.equalIgnoringCase s l.word || place == some l.rank

/-- The level that shows a severity. -/
def ofSeverity : Severity → Level
  | .debug => .debug
  | .info => .info
  | .warn => .warn
  | .error => .error

theorem ofText?_word (l : Level) : ofText? l.word = some l := by cases l <;> decide

end Level

end CommandRelay.Launch
