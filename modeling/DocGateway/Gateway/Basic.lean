import DocGateway.Connection.State
import DocGateway.Gateway.Expiry
import DocGateway.Gateway.Settings
import DocGateway.Gateway.Worker
/-!
# The gateway

A gateway accepts connections up to a limit, serves each of them, and closes the cursors that were
left alone. All it does is done in steps: a client connects, sends bytes or hangs up, or the cursors
are looked through.
-/

namespace DocGateway

open Gateway (Service Serving Session Settings Shared)

/-- A connection of a gateway. -/
structure Connection where
  handle : ConnectionHandle
  client : Client
  /-- What has arrived and is not yet a message. -/
  stream : Wire.Stream
  /-- Whether a message of it is being handled that never ends. -/
  stalled : Bool

structure Gateway (σ : Type) where
  settings : Settings
  service : Service σ
  shared : Shared σ
  /-- The connections by age. -/
  connections : List Connection
  /-- The identifier of the next connection. -/
  nextConnection : UInt64
  /-- Whether connections are accepted. -/
  ready : Bool
  /-- Whether idle cursors are looked for. -/
  reaping : Bool

namespace Gateway

variable {σ : Type}

/-- A gateway that has just started. -/
def start (settings : Settings) (service : Service σ) (own : σ) : Gateway σ where
  settings
  service
  shared := .start settings.cursorTimeout settings.internalIdentity own
  connections := []
  nextConnection := 1
  ready := true
  reaping := true

/-- The time on the clock of connections. -/
def clock (g : Gateway σ) : UInt64 := UInt64.ofNat g.shared.now

/-- Changes the metrics. -/
def count (g : Gateway σ) (f : Metrics → Metrics) : Gateway σ :=
  { g with shared := { g.shared with metrics := f g.shared.metrics } }

/-- The connection with an identifier. -/
def connection? (g : Gateway σ) (id : UInt64) : Option Connection :=
  g.connections.find? (·.handle.id == id)

/-- Forgets a connection. -/
def forget (g : Gateway σ) (id : UInt64) : Gateway σ :=
  { g with connections := g.connections.filter (·.handle.id != id) }.count Metrics.disconnect

/-- Puts a connection in the place of the one with its identifier. -/
def put (g : Gateway σ) (c : Connection) : Gateway σ :=
  { g with connections := g.connections.map fun d => if d.handle.id == c.handle.id then c else d }

/-! ### What clients do -/

/-- A client connects. A connection over the limit is closed at once, and has no identifier. -/
def accept (g : Gateway σ) (addr : SocketAddress) : Option UInt64 × Gateway σ :=
  if ¬ g.ready ∨ g.settings.maxConnections ≤ g.connections.length then (none, g)
  else
    let id := g.nextConnection
    let handle := (ConnectionHandle.accept id addr g.clock).enter .idle g.clock
    let connection : Connection := ⟨handle, .connected (some addr), .empty, false⟩
    (some id,
      { g with connections := g.connections ++ [connection], nextConnection := id + 1 }.count
        Metrics.accept)

/-- Bytes of a client arrive. What it is answered is returned, each reply by itself. While a message
is being handled nothing is read. -/
def receive (g : Gateway σ) (id : UInt64) (bytes : List UInt8) : List (List UInt8) × Gateway σ :=
  match g.connection? id with
  | none => ([], g)
  | some c =>
    if c.stalled then ([], g)
    else
      let served := serve g.service ⟨c.client, g.shared⟩ (c.stream.extend bytes)
      let g := { g with shared := served.session.shared }
      let c := { c with client := served.session.client, stream := served.stream }
      (served.replies,
        match served.serving with
        | .waiting => g.put { c with handle := c.handle.enter .idle g.clock }
        | .stalled => g.put { c with handle := c.handle.enter .active g.clock, stalled := true }
        | .ended => g.forget id)

/-- A client hangs up. This is noticed when the next message is waited for. -/
def hangUp (g : Gateway σ) (id : UInt64) : Gateway σ :=
  match g.connection? id with
  | some c => if c.stalled then g else g.forget id
  | none => g

/-! ### What the gateway does by itself -/

/-- Looks through the cursors. A command that does not end is the end of this for good. -/
def reap (g : Gateway σ) : Gateway σ :=
  if g.reaping then
    let (ended, shared) := g.shared.reap g.service
    { g with shared, reaping := ended }
  else g

end Gateway

end DocGateway
