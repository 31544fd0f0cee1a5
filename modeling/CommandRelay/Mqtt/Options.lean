import CommandRelay.Config.Basic

/-!
# Connection options

What a client tells a broker when it connects.
-/

namespace CommandRelay.Mqtt

/-- The options of a connection. -/
structure Options where
  clientId : String
  host : String
  port : UInt16
  keepAliveSecs : UInt64
  /-- Whether the broker forgets the client between two connections. -/
  cleanSession : Bool := true
  credentials : Option (String × String)
  deriving DecidableEq, Repr

/-- The options for a configured connection.  A blank client ID is replaced by one that starts with
`fallback` and ends in a fresh identifier; the connection is kept alive at intervals of five seconds
at least; a client without a user name logs in anonymously. -/
def Options.of (c : Config.Connection) (fallback fresh : String) : Options :=
  { clientId := if Text.allBlank c.clientId then fallback ++ "-" ++ fresh else c.clientId
    host := c.host
    port := c.port
    keepAliveSecs := max c.keepAliveSecs 5
    credentials := if c.username = "" then none else some (c.username, c.password) }

end CommandRelay.Mqtt
