import DocGateway.Net.SocketAddress
/-!
# The state of a connection

What a connection is doing, and since when, is kept in one 64-bit word: the time in milliseconds
above, a tag of eight bits below. Whether a connection may be closed for being idle is read off the
word alone.
-/

namespace DocGateway

/-- A span of time. It may end between two ticks of a clock, which counts milliseconds. -/
structure Span where
  nanos : Nat
deriving DecidableEq, Repr, Inhabited

namespace Span

def ofMillis (ms : Nat) : Span := ⟨1000000 * ms⟩

/-- A bare number is a number of milliseconds, as for all other times. -/
instance (ms : Nat) : OfNat Span ms := ⟨.ofMillis ms⟩

end Span

/-- What a connection is doing. -/
inductive ConnectionState where
  /-- Accepted, and nothing read yet. -/
  | fresh
  /-- Waiting for a message. -/
  | idle
  /-- Handling a message. -/
  | active
  | closed
deriving DecidableEq, Repr, Inhabited

namespace ConnectionState

/-- The number of a state in a word. -/
def tag : ConnectionState → UInt64
  | fresh => 0
  | idle => 1
  | active => 2
  | closed => 3

/-- The state of a number. -/
def ofTag (tag : UInt64) : ConnectionState :=
  if tag = 0 then fresh else if tag = 1 then idle else if tag = 2 then active else closed

def name : ConnectionState → String
  | fresh => "new"
  | idle => "idle"
  | active => "active"
  | closed => "closed"

end ConnectionState

/-- A state and the time it was entered, in one word. -/
structure StateWord where
  word : UInt64
deriving DecidableEq, Repr, Inhabited

namespace StateWord

/-- The word of a state that is entered at some time. -/
def pack (state : ConnectionState) (millis : UInt64) : StateWord := ⟨(millis <<< 8) ||| state.tag⟩

/-- The state in a word. -/
def state (w : StateWord) : ConnectionState := .ofTag (w.word &&& 255)

/-- The time at which the state was entered. -/
def since (w : StateWord) : UInt64 := w.word >>> 8

/-- How many milliseconds the state has lasted. A clock that was set back shows no time passed. -/
def elapsed (w : StateWord) (now : UInt64) : Nat := now.toNat - w.since.toNat

/-- Whether the connection has been idle for longer than `grace`. -/
def isIdlePast (w : StateWord) (now : UInt64) (grace : Span) : Bool :=
  w.state = .idle ∧ grace.nanos < (Span.ofMillis (w.elapsed now)).nanos

end StateWord

/-- A connection as the gateway keeps track of it. -/
structure ConnectionHandle where
  id : UInt64
  addr : SocketAddress
  state : StateWord
  /-- Whether the gateway has asked for it to be closed between messages. -/
  closeRequested : Bool
deriving DecidableEq, Repr, Inhabited

namespace ConnectionHandle

/-- A connection that was accepted just now. -/
def accept (id : UInt64) (addr : SocketAddress) (now : UInt64) : ConnectionHandle :=
  ⟨id, addr, .pack .fresh now, false⟩

/-- Enters a state. -/
def enter (c : ConnectionHandle) (state : ConnectionState) (now : UInt64) : ConnectionHandle :=
  { c with state := .pack state now }

/-- Asks for the connection to be closed. -/
def requestClose (c : ConnectionHandle) : ConnectionHandle := { c with closeRequested := true }

/-- Whether the connection may be closed for being idle. -/
def isIdlePast (c : ConnectionHandle) (now : UInt64) (grace : Span) : Bool :=
  c.state.isIdlePast now grace

end ConnectionHandle

end DocGateway
