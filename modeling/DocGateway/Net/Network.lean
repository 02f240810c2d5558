/-!
# The network of a host

A host without a network refuses each attempt to open a connection, even one to itself.
-/

namespace DocGateway

inductive Network where
  | reachable
  | unreachable
deriving DecidableEq, Repr, Inhabited

namespace Network

/-- The system's text for an attempt to open a connection without a network. -/
def unreachableText : String := "Network is unreachable (os error 101)"

/-- Opens a connection. -/
def connect : Network → Except String Unit
  | reachable => .ok ()
  | unreachable => .error unreachableText

end Network

end DocGateway
