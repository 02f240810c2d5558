import DocGateway.Config.Configuration
/-!
# What a gateway runs under

The part of a configuration that a running gateway needs. All times are in milliseconds.
-/

namespace DocGateway.Gateway

structure Settings where
  bindAddr : SocketAddress
  /-- How many clients may be connected at once. -/
  maxConnections : Nat
  /-- How long a cursor may be left alone. -/
  cursorTimeout : Nat
  /-- The time between two scans for idle cursors. -/
  cursorReapInterval : Nat
  /-- The number of bytes of a request that may be logged. -/
  requestLengthLimit : Nat
  /-- Whom commands of the gateway itself come from. -/
  internalIdentity : Identity
  /-- The time between two looks at the connections during a shutdown. -/
  pollInterval : Nat
  /-- How long a connection must have been idle for a shutdown to close it. -/
  idleGrace : Nat
deriving DecidableEq, Repr, Inhabited

namespace Settings

/-- The settings of a configuration. -/
def ofConfiguration (c : Configuration) : Settings where
  bindAddr := c.network.bindAddr
  maxConnections := c.network.maxConnections
  cursorTimeout := 1000 * c.gateway.idleCursorTimeout
  cursorReapInterval := c.gateway.cursorReapInterval
  requestLengthLimit := c.gateway.requestLengthLimit
  internalIdentity := c.gateway.internalIdentity
  pollInterval := c.shutdown.pollInterval
  idleGrace := c.shutdown.idleGrace

/-- The settings if nothing is said. -/
def standard : Settings := ofConfiguration .standard

end Settings

end DocGateway.Gateway
