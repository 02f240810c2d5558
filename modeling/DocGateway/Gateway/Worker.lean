import DocGateway.Gateway.Handle
import DocGateway.Wire.Encode
import DocGateway.Wire.Stream
/-!
# Serving one connection

What a client sends is cut into messages, and each is handled before the next is looked at. A
connection ends with the first piece that is no message, the first message that cannot be answered,
and the first reply that cannot be written.
-/

namespace DocGateway.Gateway

open Wire (Stream)

/-- What became of a connection after all that has arrived was read. -/
inductive Serving where
  /-- The next message has not arrived in full. -/
  | waiting
  /-- A message is being handled that never ends. -/
  | stalled
  | ended
deriving DecidableEq, Repr, Inhabited

/-- A connection whose messages are served: the replies so far, and what is left. -/
structure Served (σ : Type) where
  replies : List (List UInt8)
  serving : Serving
  stream : Stream
  session : Session σ

namespace Served

variable {σ : Type}

/-- Puts a reply in front of the others. -/
def after (reply : List UInt8) (s : Served σ) : Served σ := { s with replies := reply :: s.replies }

end Served

/-- Handles the messages that have arrived, at most so many. -/
def serveSome {σ : Type} (v : Service σ) : Nat → Session σ → Stream → Served σ
  | 0, session, stream => ⟨[], .waiting, stream, session⟩
  | n + 1, session, stream =>
    match stream.next with
    | (.error _, stream) => ⟨[], .ended, stream, session⟩
    | (.ok none, stream) => ⟨[], .waiting, stream, session⟩
    | (.ok (some m), stream) =>
      match session.handle v m with
      | (.done none, session) => serveSome v n session stream
      | (.done (some reply), session) =>
        match reply.encode with
        | .ok bytes => (serveSome v n session stream).after bytes
        | .error _ => ⟨[], .ended, stream, session⟩
      | (.stalled, session) => ⟨[], .stalled, stream, session⟩
      | (.failed _, session) | (.crashed, session) => ⟨[], .ended, stream, session⟩

/-- Handles all messages that have arrived. There are no more of them than bytes. -/
def serve {σ : Type} (v : Service σ) (session : Session σ) (stream : Stream) : Served σ :=
  serveSome v (stream.buffered + 1) session stream

end DocGateway.Gateway
