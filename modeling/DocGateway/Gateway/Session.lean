import DocGateway.Command.Registry
import DocGateway.Cursor.Track
import DocGateway.Pipeline.Run
/-!
# Commands of a client

All requests to a gateway share the cursors, the metrics and the numbers of replies. A session is
one client before that shared state. A command of a session is parsed, goes through the pipeline,
and its response is followed by the cursor cache. Errors become documents that answer the command;
only a cancelled command has no answer.
-/

namespace DocGateway.Gateway

open Bson (Document)

/-- The way of all commands. -/
structure Service (σ : Type) where
  registry : CommandRegistry
  pipeline : Pipeline σ

/-- What all requests share. -/
structure Shared (σ : Type) where
  cursors : CursorCache
  metrics : Metrics
  /-- The number of the next reply. -/
  nextReply : Int32
  /-- The client that commands of the gateway itself come from. -/
  internalClient : Client
  /-- By which layer a request is cancelled. -/
  cancelled : Cancellation
  /-- The time in milliseconds. -/
  now : Nat
  slowLog : List SlowCommand
  /-- What stages of other kinds bring with them. -/
  own : σ

/-- The shared state before the first request. -/
def Shared.start {σ : Type} (cursorTimeout : Nat) (identity : Identity) (own : σ) : Shared σ :=
  ⟨.empty cursorTimeout, .empty, 1, .internal identity, fun _ => false, 0, [], own⟩

/-- How a piece of work for a client ends. -/
inductive Ending (α : Type) where
  | done (a : α)
  /-- The work is given up for an error that is not answered. -/
  | failed (e : ServerError)
  | crashed
  /-- The work never ends. -/
  | stalled
deriving Repr, Inhabited

/-- Work that goes on with what other work has done. -/
def Ending.map {α β : Type} (f : α → β) : Ending α → Ending β
  | done a => .done (f a)
  | failed e => .failed e
  | crashed => .crashed
  | stalled => .stalled

/-- A client before the shared state. -/
structure Session (σ : Type) where
  client : Client
  shared : Shared σ

namespace Session

variable {σ : Type}

/-- Changes the metrics. -/
def count (s : Session σ) (f : Metrics → Metrics) : Session σ :=
  { s with shared := { s.shared with metrics := f s.shared.metrics } }

/-- Changes the cursors. -/
def withCursors (s : Session σ) (cursors : CursorCache) : Session σ :=
  { s with shared := { s.shared with cursors } }

/-- The document that answers for an error, which is counted. -/
def errorReply (s : Session σ) (e : ServerError) : Document × Session σ :=
  (e.document, s.count (·.error e.code.name))

/-- What a command meets in the pipeline. -/
def scene (s : Session σ) (command : Command) : Scene σ :=
  ⟨.ofCommand command, s.client, s.shared.cursors, s.shared.now, 0, s.shared.slowLog, s.shared.own⟩

/-- The session as a run of the pipeline leaves it. -/
def absorb (s : Session σ) (p : Passage σ) : Session σ :=
  ⟨p.scene.client,
    { s.shared with
      cursors := p.scene.cursors
      metrics := LayerEvent.recordAll s.shared.metrics p.events
      slowLog := p.scene.slowLog
      own := p.scene.own }⟩

/-- Lets the cursors follow a response. -/
def track (s : Session σ) (command : Command) (response : Document) : Session σ :=
  let (opened, cursors) := s.shared.cursors.track s.shared.now command response
  let s := s.withCursors cursors
  if opened.isSome then s.count Metrics.cursorOpened else s

/-- Makes the answer to a command of what the pipeline made of it. -/
def settle (s : Session σ) (p : Passage σ) : Ending Document × Session σ :=
  match p.outcome with
  | .answered (.ok response) => (.done response, s.track p.scene.request.command response)
  | .answered (.error .cancelled) => (.failed .cancelled, s)
  | .answered (.error e) =>
    let (d, s) := s.errorReply e
    (.done d, s)
  | .crashed => (.crashed, s)
  | .stalled => (.stalled, s)

/-- Carries out a command. -/
def dispatch (v : Service σ) (s : Session σ) (d : Document) : Ending Document × Session σ :=
  match v.registry.parse d with
  | .error e =>
    let (d, s) := s.errorReply e
    (.done d, s)
  | .ok command =>
    let s := s.count (·.command command.name)
    let p := v.pipeline.run s.shared.cancelled (s.scene command)
    (s.absorb p).settle p

end Session

end DocGateway.Gateway
