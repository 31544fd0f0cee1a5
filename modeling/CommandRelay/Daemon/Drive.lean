import CommandRelay.Duration
import CommandRelay.Event

/-!
# Driving a link

A link is polled until shutdown is signalled.  Every message it gives is forwarded, every accepted
connection is subscribed on anew, and a lost connection is followed by a pause before the link is
polled again.  Shutdown ends the drive at once, also during a pause; nothing else ends it.
-/

namespace CommandRelay.Daemon

/-- One of the two links. -/
inductive LinkId where
  | external
  | internal
  deriving DecidableEq, Repr

/-- The name of a link in the log. -/
def LinkId.name : LinkId → String
  | .external => "external"
  | .internal => "message-bus"

/-- What polling a link gives. -/
inductive Polled where
  /-- The broker has accepted the connection. -/
  | accepted
  | message (topic : String) (payload : List UInt8)
  /-- Something that asks for nothing. -/
  | other
  /-- There is no connection, or no longer. -/
  | failed
  deriving DecidableEq, Repr

/-- What happens to a drive. -/
inductive Signal where
  | polled (p : Polled)
  | pauseOver
  | shutdown
  /-- Whoever could signal shutdown has gone away. -/
  | abandoned
  deriving DecidableEq, Repr

/-- What a drive does. -/
inductive Action where
  /-- Subscribe on a new connection. -/
  | subscribe
  | forward (topic : String) (payload : List UInt8)
  | log (e : Event)
  deriving DecidableEq, Repr

/-- Where a drive stands. -/
inductive Drive where
  | polling
  | pausing
  | stopped
  deriving DecidableEq, Repr

/-- The pause after a lost connection. -/
def reconnectPause : Duration := .ofMillis 1000

/-- What the log says of a lost connection. -/
def lostEvent (link : LinkId) : Event :=
  .warning "MQTT connection error, reconnecting" [("link", .text link.name)]

/-- One step of a drive; what comes at the wrong time changes nothing. -/
def Drive.step (link : LinkId) : Drive → Signal → List Action × Drive
  | .stopped, _ => ([], .stopped)
  | _, .shutdown => ([], .stopped)
  | d, .abandoned => ([], d)
  | .polling, .polled .accepted => ([.subscribe], .polling)
  | .polling, .polled (.message topic payload) => ([.forward topic payload], .polling)
  | .polling, .polled .other => ([], .polling)
  | .polling, .polled .failed => ([.log (lostEvent link)], .pausing)
  | .pausing, .pauseOver => ([], .polling)
  | .polling, .pauseOver => ([], .polling)
  | .pausing, .polled _ => ([], .pausing)

end CommandRelay.Daemon
