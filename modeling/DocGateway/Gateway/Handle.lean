import DocGateway.Gateway.Session
import DocGateway.Legacy.Reply
/-!
# Messages of a client

A message asks for a command, and the reply has the form that the message asks for: a command
message for a command message, a legacy reply for a legacy request. What was compressed is answered
in the same envelopes. Closing cursors is not answered, nor is a message that says that more is to
come.
-/

namespace DocGateway.Gateway

open Bson (Document)
open Legacy (singleReply)
open Wire (Body Message Msg MsgFlags Query GetMore)

namespace Session

variable {σ : Type}

/-- Answers a legacy request with an error. -/
def legacyError (s : Session σ) (e : ServerError) : Ending (Option Body) × Session σ :=
  let (d, s) := s.errorReply e
  (.done (some (.reply (singleReply d))), s)

/-- Gives a legacy reply, or answers with the error that there is instead. -/
def legacyReply (s : Session σ) (r : Except ServerError Wire.Reply × CursorCache) :
    Ending (Option Body) × Session σ :=
  match r with
  | (.ok reply, cursors) => (.done (some (.reply reply)), s.withCursors cursors)
  | (.error e, cursors) => (s.withCursors cursors).legacyError e

/-! ### Command messages -/

/-- The reply to a command message, with a checksum if the message has one. -/
def msgReply (m : Msg) (response : Document) : Body :=
  .msg { Msg.reply response with
    flags := if m.flags.checksumPresent then MsgFlags.withChecksum .empty else .empty }

/-- Handles a command message. One without a reply runs by itself: how it ends is nobody's
concern. -/
def handleMsg (v : Service σ) (s : Session σ) (m : Msg) : Ending (Option Body) × Session σ :=
  match m.flags.moreToCome, Legacy.mergeSections m with
  | true, .ok d => (.done none, (s.dispatch v d).2)
  | true, .error _ => (.done none, s)
  | false, .ok d =>
    let (ending, s) := s.dispatch v d
    (ending.map fun response => some (msgReply m response), s)
  | false, .error e =>
    let (d, s) := s.errorReply e
    (.done (some (msgReply m d)), s)

/-! ### Legacy requests -/

/-- Handles a query. -/
def handleQuery (v : Service σ) (s : Session σ) (q : Query) : Ending (Option Body) × Session σ :=
  match Legacy.queryCommand q with
  | .error e => s.legacyError e
  | .ok t =>
    match s.dispatch v t.command with
    | (.done response, s) =>
      s.legacyReply (Legacy.queryReply s.shared.cursors s.shared.now t.shape response)
    | (ending, s) => (ending.map fun _ => none, s)

/-- Handles a request for more. The cursor is looked up before the command runs, which may exhaust
it. -/
def handleGetMore (v : Service σ) (s : Session σ) (g : GetMore) :
    Ending (Option Body) × Session σ :=
  match Legacy.getMoreCommand g with
  | .error e => s.legacyError e
  | .ok command =>
    let (h, cursors) := s.shared.cursors.get s.shared.now g.cursorId
    match (s.withCursors cursors).dispatch v command with
    | (.done response, s) => s.legacyReply (Legacy.getMoreReply s.shared.cursors h response)
    | (ending, s) => (ending.map fun _ => none, s)

/-! ### All messages -/

/-- The error of a message that only a gateway sends. -/
def unexpected (b : Body) : ServerError := .io s!"unexpected {b.opcode.name} from client"

/-- Handles a body without envelopes, and gives the body of the reply if there is one. -/
def handleBody (v : Service σ) (s : Session σ) (b : Body) : Ending (Option Body) × Session σ :=
  match b with
  | .msg m => s.handleMsg v m
  | .query q => s.handleQuery v q
  | .getMore g => s.handleGetMore v g
  | .killCursors k =>
    let (ending, s) := s.dispatch v (Legacy.killCursorsCommand k.cursorIds)
    (ending.map fun _ => none, s)
  | .reply _ | .compressed _ _ => (.failed (unexpected b), s)

/-- The reply of a body, under the next number. -/
def numbered (s : Session σ) (m : Message) (reply : Body) : Message × Session σ :=
  (⟨s.shared.nextReply, m.requestId, reply⟩,
    { s with shared := { s.shared with nextReply := s.shared.nextReply + 1 } })

/-- Handles a message, and gives the reply if there is one. -/
def handle (v : Service σ) (s : Session σ) (m : Message) : Ending (Option Message) × Session σ :=
  let (compressors, body) := m.body.unwrap
  match (s.count (·.message m.body.opcode.name)).handleBody v body with
  | (.done (some reply), s) =>
    let (reply, s) := s.numbered m (.wrap compressors reply)
    (.done (some reply), s)
  | (ending, s) => (ending.map fun _ => none, s)

end Session

end DocGateway.Gateway
