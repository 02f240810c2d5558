import DocGateway.Gateway.Basic
/-!
# Shutting down

A gateway that shuts down accepts no more connections. From time to time it closes those that have
been idle for a while, until none is left or the deadline has come. At the deadline all that is left
is closed, and requests are cancelled without an answer.
-/

namespace DocGateway.Gateway

variable {σ : Type}

/-- Closes a connection between messages, or asks for that. -/
def close (g : Gateway σ) (c : Connection) : Gateway σ :=
  if c.stalled then g.put { c with handle := c.handle.requestClose } else g.forget c.handle.id

/-- Closes the connections that have been idle for long enough. -/
def closeIdle (g : Gateway σ) : Gateway σ :=
  let grace := Span.ofMillis g.settings.idleGrace
  let idle :=
    g.connections.filter fun c => !c.handle.closeRequested && c.handle.isIdlePast g.clock grace
  idle.foldl close g

/-- Lets time pass. -/
def wait (g : Gateway σ) (ms : Nat) : Gateway σ :=
  { g with shared := { g.shared with now := g.shared.now + ms } }

/-- Looks at the connections again and again, and says whether none was left in the end. `left` is
the time up to the deadline. -/
def drainWithin : Nat → (left : Option Nat) → Gateway σ → Bool × Gateway σ
  | 0, _, g => (false, g)
  | n + 1, left, g =>
    let g := g.closeIdle
    if g.connections.isEmpty then (true, g)
    else
      match left with
      | some ms =>
        if ms < g.settings.pollInterval then (false, g.wait ms)
        else drainWithin n (some (ms - g.settings.pollInterval)) (g.wait g.settings.pollInterval)
      | none => drainWithin n none (g.wait g.settings.pollInterval)

/-- Ends all connections, also those whose requests never end. -/
def cancelAll (g : Gateway σ) : Gateway σ :=
  let g := { g with shared := { g.shared with cancelled := fun _ => true } }
  g.connections.foldl (fun g c => g.forget c.handle.id) g

/-- How often the connections are looked at: up to the deadline, or else until each idle one has
been idle for long enough. -/
def lookCount (s : Settings) (deadline : Option Nat) : Nat :=
  deadline.getD (s.idleGrace + 1) / max s.pollInterval 1 + 2

/-- Shuts down within a deadline, and says whether every connection closed by itself. Without a
deadline a gateway waits for its requests; one that has to wait forever has no answer. -/
def shutdown (g : Gateway σ) (deadline : Option Nat) : Option Bool × Gateway σ :=
  let (drained, g) := drainWithin (lookCount g.settings deadline) deadline { g with ready := false }
  let stopped := { g with reaping := false }
  if drained then (some true, stopped)
  else if deadline.isSome then (some false, stopped.cancelAll)
  else (none, g)

end DocGateway.Gateway
