import DocGateway.Gateway.Session
import DocGateway.Proofs.Cursor.Cache
/-!
# How a command ends

A command is refused by the parser, or it goes through the pipeline. What the pipeline makes of it
is given here apart from what the dispatch makes of that: a response or an error becomes a document,
and only cancellation is left without one.

## Key results

- `isOk_document`: the document of an error reports success only for a write batch that failed in
  part
- `dispatch_of_refused`, `dispatch_of_response`, `ending_dispatch`: a dispatch, by what became of
  its command
- `nextReply_dispatch`: a dispatch takes no number of a reply
-/

namespace DocGateway

open Bson (Document)

/-! ### Documents of errors -/

/-- Whether an error is one of a write batch that failed in part. -/
def ServerError.isPartial : ServerError → Bool
  | .bulkWrite _ => true
  | _ => false

/-- The document of an error reports failure, but for a write batch that failed in part. -/
theorem ServerError.isOk_document (e : ServerError) : isOk e.document = e.isPartial := by
  cases e <;> rfl

namespace Gateway

/-- How a dispatch ends when the pipeline has come to an end. -/
def endingOf : Outcome → Ending Document
  | .answered (.ok response) => .done response
  | .answered (.error .cancelled) => .failed .cancelled
  | .answered (.error e) => .done e.document
  | .crashed => .crashed
  | .stalled => .stalled

namespace Session

variable {σ : Type} (v : Service σ) (s : Session σ) {d : Document} {command : Command}

/-- The run of the pipeline with a command of a session. -/
def passage (command : Command) : Passage σ := v.pipeline.run s.shared.cancelled (s.scene command)

/-- What the pipeline makes of the command in a document, unless the document is refused. -/
def outcome? (d : Document) : Option Outcome :=
  (v.registry.parse d).toOption.map fun command => (s.passage v command).outcome

/-- `outcome?` of a refused document is none. -/
theorem outcome?_of_refused {e : ServerError} (h : v.registry.parse d = .error e) :
    s.outcome? v d = none := by
  simp [outcome?, h, Except.toOption]

/-- `outcome?` of any other document is that of the `passage` of its command. -/
theorem outcome?_of_parsed (h : v.registry.parse d = .ok command) :
    s.outcome? v d = some (s.passage v command).outcome := by
  simp [outcome?, h, Except.toOption]

/-! ### The session after a dispatch -/

/-- The session as the pipeline leaves it, before anything is made of the outcome. -/
def passed (command : Command) : Session σ :=
  (s.count (·.command command.name)).absorb (s.passage v command)

/-- `dispatch` of a refused document ends with that of the error, which is counted. -/
theorem dispatch_of_refused {e : ServerError} (h : v.registry.parse d = .error e) :
    s.dispatch v d = (.done e.document, s.count (·.error e.code.name)) := by
  simp [dispatch, h, errorReply]

/-- `dispatch` of any other document is to `settle` the `passage` of its command. -/
theorem dispatch_of_parsed (h : v.registry.parse d = .ok command) :
    s.dispatch v d = (s.passed v command).settle (s.passage v command) := by
  simp only [dispatch, h]
  rfl

/-- `dispatch` ends with the response, which is tracked under the command as the stages left it. -/
theorem dispatch_of_response {response : Document} (h : v.registry.parse d = .ok command)
    (hr : (s.passage v command).outcome = .response response) :
    s.dispatch v d =
      (.done response, (s.passed v command).track (s.passage v command).scene.request.command
        response) := by
  rw [s.dispatch_of_parsed v h, settle, hr]
  rfl

/-- `dispatch` ends as `endingOf` says of the outcome. -/
theorem ending_dispatch {outcome : Outcome} (h : s.outcome? v d = some outcome) :
    (s.dispatch v d).1 = endingOf outcome := by
  cases hp : v.registry.parse d with
  | error e => simp [s.outcome?_of_refused v hp] at h
  | ok command =>
    rw [s.outcome?_of_parsed v hp, Option.some.injEq] at h
    rw [s.dispatch_of_parsed v hp, settle, h]
    match outcome with
    | .answered (.ok _) => rfl
    | .answered (.error e) => cases e <;> rfl
    | .crashed => rfl
    | .stalled => rfl

/-! ### The cache after a response -/

/-- `Session.track` does to the cache what `CursorCache.track` does. -/
theorem cursors_track (command : Command) (response : Document) :
    (s.track command response).shared.cursors =
      (s.shared.cursors.track s.shared.now command response).2 := by
  simp only [track]
  split <;> rfl

/-- `track` takes no time. -/
theorem now_track (command : Command) (response : Document) :
    (s.track command response).shared.now = s.shared.now := by
  simp only [track]
  split <;> rfl

/-! ### Cancellation -/

/-- `track` cancels nothing. -/
theorem cancelled_track (command : Command) (response : Document) :
    (s.track command response).shared.cancelled = s.shared.cancelled := by
  simp only [track]
  split <;> rfl

/-- `dispatch` cancels nothing. -/
theorem cancelled_dispatch (d : Document) :
    (s.dispatch v d).2.shared.cancelled = s.shared.cancelled := by
  cases hp : v.registry.parse d with
  | error e => rw [s.dispatch_of_refused v hp]; rfl
  | ok command =>
    rw [s.dispatch_of_parsed v hp, settle]
    have hpassed : (s.passed v command).shared.cancelled = s.shared.cancelled := rfl
    split
    · exact (cancelled_track _ _ _).trans hpassed
    all_goals exact hpassed

/-! ### Numbers of replies -/

/-- `count` takes no number of a reply. -/
@[simp] theorem nextReply_count (f : Metrics → Metrics) :
    (s.count f).shared.nextReply = s.shared.nextReply := rfl

/-- `withCursors` takes no number of a reply. -/
@[simp] theorem nextReply_withCursors (cursors : CursorCache) :
    (s.withCursors cursors).shared.nextReply = s.shared.nextReply := rfl

/-- `track` takes no number of a reply. -/
@[simp] theorem nextReply_track (command : Command) (response : Document) :
    (s.track command response).shared.nextReply = s.shared.nextReply := by
  simp only [track]
  split <;> rfl

/-- `dispatch` takes no number of a reply. -/
@[simp] theorem nextReply_dispatch (d : Document) :
    (s.dispatch v d).2.shared.nextReply = s.shared.nextReply := by
  cases hp : v.registry.parse d with
  | error e => rw [s.dispatch_of_refused v hp, nextReply_count]
  | ok command =>
    rw [s.dispatch_of_parsed v hp, settle]
    have hpassed : (s.passed v command).shared.nextReply = s.shared.nextReply := rfl
    split <;> simp [errorReply, hpassed]

end Session

end Gateway

end DocGateway
