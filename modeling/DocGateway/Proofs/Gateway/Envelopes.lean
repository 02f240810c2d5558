import DocGateway.Proofs.Gateway.Replies
/-!
# Envelopes make no difference

Before anything else a message is counted under its opcode, and its envelopes are taken off. Nothing
that comes after reads that count, so a message in envelopes is handled as the message in them. What
differs is the opcode that was counted, and that the reply goes into the same envelopes again.

## Key results

- `dispatch_met`, `handleBody_met`: the count of messages is not read, and kept apart
- `handle_wrap`: a message in envelopes, and the same message without
-/

namespace DocGateway

/-! ### The count of messages -/

/-- `recordAll` counts the times of stages apart from messages. -/
theorem LayerEvent.recordAll_message (m : Metrics) (opcode : String) (events : List LayerEvent) :
    recordAll (m.message opcode) events = (recordAll m events).message opcode := by
  induction events generalizing m with
  | nil => rfl
  | cons event events ih =>
    have hrecord : record (m.message opcode) event = (record m event).message opcode := by
      cases event <;> rfl
    change recordAll (record (m.message opcode) event) events = _
    rw [hrecord, ih]
    rfl

namespace Gateway

open Bson (Document)
open Wire (Body Message Msg)

namespace Session

variable {σ : Type} (v : Service σ) (s : Session σ) (opcode : String)

/-- The session after a message was counted. -/
def met : Session σ := s.count (·.message opcode)

/-- `met` leaves the cursors. -/
@[simp] theorem cursors_met : (s.met opcode).shared.cursors = s.shared.cursors := rfl

/-- `met` takes no time. -/
@[simp] theorem now_met : (s.met opcode).shared.now = s.shared.now := rfl

/-- `withCursors` and `met` change different things. -/
@[simp] theorem withCursors_met (cursors : CursorCache) :
    (s.met opcode).withCursors cursors = (s.withCursors cursors).met opcode := rfl

/-- What comes of some work, with a message counted besides. -/
def alsoMet {α : Type} (r : α × Session σ) : α × Session σ := (r.1, r.2.met opcode)

/-- `absorb` does not read the count of messages. -/
theorem absorb_met (p : Passage σ) : (s.met opcode).absorb p = (s.absorb p).met opcode := by
  simp only [absorb, met, count, LayerEvent.recordAll_message]

/-- `track` does not read the count of messages. -/
theorem track_met (command : Command) (response : Document) :
    (s.met opcode).track command response = (s.track command response).met opcode := by
  by_cases hopened : (s.shared.cursors.track s.shared.now command response).1.isSome <;>
    simp [track, met, count, withCursors, hopened, Metrics.cursorOpened, Metrics.message]

/-- `settle` does not read the count of messages. -/
theorem settle_met (p : Passage σ) : (s.met opcode).settle p = alsoMet opcode (s.settle p) := by
  unfold settle
  split
  · rw [track_met]
    rfl
  all_goals rfl

/-- `dispatch` does not read the count of messages. -/
theorem dispatch_met (d : Document) :
    (s.met opcode).dispatch v d = alsoMet opcode (s.dispatch v d) := by
  cases hp : v.registry.parse d with
  | error e =>
    rw [dispatch_of_refused v _ hp, dispatch_of_refused v _ hp]
    rfl
  | ok command =>
    have hpassed : (s.met opcode).passed v command = (s.passed v command).met opcode :=
      absorb_met (s.count (·.command command.name)) opcode (s.passage v command)
    rw [dispatch_of_parsed v _ hp, dispatch_of_parsed v _ hp, hpassed]
    exact settle_met _ opcode _

/-- `legacyReply` does not read the count of messages. -/
theorem legacyReply_met (r : Except ServerError Wire.Reply × CursorCache) :
    (s.met opcode).legacyReply r = alsoMet opcode (s.legacyReply r) := by
  obtain ⟨r | r, cursors⟩ := r <;> rfl

/-- `handleMsg` does not read the count of messages. -/
theorem handleMsg_met (m : Msg) :
    (s.met opcode).handleMsg v m = alsoMet opcode (s.handleMsg v m) := by
  simp only [handleMsg, dispatch_met]
  split <;> rfl

/-- `handleQuery` does not read the count of messages. -/
theorem handleQuery_met (q : Wire.Query) :
    (s.met opcode).handleQuery v q = alsoMet opcode (s.handleQuery v q) := by
  unfold handleQuery
  cases Legacy.queryCommand q with
  | error e => rfl
  | ok t =>
    simp only [dispatch_met]
    obtain ⟨ending, s'⟩ := s.dispatch v t.command
    cases ending with
    | done response => exact legacyReply_met _ opcode _
    | _ => rfl

/-- `handleGetMore` does not read the count of messages. -/
theorem handleGetMore_met (g : Wire.GetMore) :
    (s.met opcode).handleGetMore v g = alsoMet opcode (s.handleGetMore v g) := by
  unfold handleGetMore
  cases Legacy.getMoreCommand g with
  | error e => rfl
  | ok command =>
    simp only [withCursors_met, cursors_met, now_met, dispatch_met]
    obtain ⟨ending, s'⟩ :=
      (s.withCursors (s.shared.cursors.get s.shared.now g.cursorId).2).dispatch v command
    cases ending with
    | done response => exact legacyReply_met _ opcode _
    | _ => rfl

/-- `handleBody` does not read the count of messages, whatever the body. -/
theorem handleBody_met (b : Body) :
    (s.met opcode).handleBody v b = alsoMet opcode (s.handleBody v b) := by
  cases b with
  | msg m => exact handleMsg_met v s opcode m
  | query q => exact handleQuery_met v s opcode q
  | getMore g => exact handleGetMore_met v s opcode g
  | killCursors k =>
    simp only [handleBody, dispatch_met]
    rfl
  | reply r => rfl
  | compressed c inner => rfl

/-! ### Messages -/

/-- What is made of the reply to a body in envelopes. -/
def conclude (m : Message) (cs : List Compressor) (r : Ending (Option Body) × Session σ) :
    Ending (Option Message) × Session σ :=
  match r with
  | (.done (some reply), s) =>
    (.done (some ⟨s.shared.nextReply, m.requestId, .wrap cs reply⟩),
      s.numberedFrom (s.shared.nextReply + 1))
  | (ending, s) => (ending.map fun _ => none, s)

/-- `conclude` does not read the count of messages. -/
theorem conclude_alsoMet (m : Message) (cs : List Compressor)
    (r : Ending (Option Body) × Session σ) :
    conclude m cs (alsoMet opcode r) = alsoMet opcode (conclude m cs r) := by
  obtain ⟨(_ | _) | _ | _ | _, s⟩ := r <;> rfl

/-- `handle` counts the message, and apart from that it is `handleBody` of what is in the envelopes,
and `conclude`. -/
theorem handle_eq_conclude {m : Message} {cs : List Compressor} {b : Body}
    (h : m.body.unwrap = (cs, b)) :
    s.handle v m = alsoMet m.body.opcode.name (conclude m cs (s.handleBody v b)) := by
  rw [← conclude_alsoMet, ← handleBody_met, handle, h]
  rfl

end Session

/-- A reply in envelopes. -/
def inEnvelopes (cs : List Compressor) (reply : Message) : Message :=
  { reply with body := .wrap cs reply.body }

/-- `conclude` puts the reply into the envelopes of the message. -/
theorem conclude_wrap {σ : Type} (requestId responseTo : Int32) (cs : List Compressor) (b b' : Body)
    (r : Ending (Option Body) × Session σ) :
    Session.conclude ⟨requestId, responseTo, b'⟩ cs r =
      ((Session.conclude ⟨requestId, responseTo, b⟩ [] r).1.map (Option.map (inEnvelopes cs)),
        (Session.conclude ⟨requestId, responseTo, b⟩ [] r).2) := by
  obtain ⟨(_ | _) | _ | _ | _, s⟩ := r <;> rfl

/-- `handle` of a message in envelopes does what it does with the message in them. The pipeline
meets the same command in the same scene, and so cursors, client and whatever stages keep are the
same afterwards. The handling ends in the same way, and a reply is the same but for being
`inEnvelopes` of the message. Only the opcode that `met` counts is another. -/
theorem handle_wrap {σ : Type} (v : Service σ) (s : Session σ) (requestId responseTo : Int32)
    (cs : List Compressor) {b : Body} (hb : ∀ c inner, b ≠ .compressed c inner) :
    ∃ (ending : Ending (Option Message)) (s' : Session σ),
      s.handle v ⟨requestId, responseTo, b⟩ = (ending, s'.met b.opcode.name) ∧
      s.handle v ⟨requestId, responseTo, .wrap cs b⟩ =
        (ending.map (Option.map (inEnvelopes cs)), s'.met (Body.wrap cs b).opcode.name) ∧
      ∀ reply, ending = .done (some reply) →
        reply.responseTo = requestId ∧ (inEnvelopes cs reply).body.unwrap = (cs, reply.body) := by
  -- the bare message is in an empty stack of envelopes
  have hbare : b.unwrap = ([], b) := unwrap_wrap [] hb
  have hhandle := s.handle_eq_conclude v (m := ⟨requestId, responseTo, b⟩) hbare
  refine ⟨_, _, hhandle, ?_, ?_⟩
  · rw [s.handle_eq_conclude v (m := ⟨requestId, responseTo, .wrap cs b⟩) (unwrap_wrap cs hb),
      conclude_wrap requestId responseTo cs b]
    rfl
  · intro reply hreply
    have hanswered := isAnswered_handle v s ⟨requestId, responseTo, b⟩
    rw [hhandle] at hanswered
    obtain ⟨hto, body, hbody, -⟩ := hanswered.reply hreply
    refine ⟨hto, unwrap_wrap cs fun c inner hc => ?_⟩
    have henvelopes : reply.body.unwrap.1 = b.unwrap.1 := by rw [hbody]
    rw [hc, hbare] at henvelopes
    cases henvelopes

/-- A service that carries out nothing, and takes down every command that comes to the innermost
layer. -/
def recording : Service (List Document) where
  registry := .standard
  pipeline :=
    ⟨[], fun scene => (.response [("ok", .int32 1)],
      { scene with own := scene.own ++ [scene.document] })⟩

/-- A command comes to the innermost layer once, in two envelopes as in none. -/
theorem handle_wrap_recorded :
    let d : Document := [("ping", .int32 1)]
    let b : Body := .msg ⟨⟨0⟩, [.body d]⟩
    let s : Session (List Document) := ⟨.connected none, .start 0 ⟨"internal", "root", []⟩ []⟩
    (∀ c inner, b ≠ .compressed c inner) ∧
      ∃ (ending : Ending (Option Message)) (s' : Session (List Document)),
        s.handle recording ⟨7, 0, b⟩ = (ending, s'.met b.opcode.name) ∧
        s.handle recording ⟨7, 0, .wrap [.snappy, .zlib] b⟩ =
          (ending.map (Option.map (inEnvelopes [.snappy, .zlib])),
            s'.met (Body.wrap [.snappy, .zlib] b).opcode.name) ∧
        (∀ reply, ending = .done (some reply) →
          reply.responseTo = 7 ∧ (inEnvelopes [.snappy, .zlib] reply).body.unwrap =
            ([.snappy, .zlib], reply.body)) ∧
        ending = .done (some ⟨1, 7, .msg (.reply [("ok", .int32 1)])⟩) ∧ s'.shared.own = [d] := by
  intro d b s
  have hb : ∀ c inner, b ≠ .compressed c inner := nofun
  obtain ⟨ending, s', hbare, hwrapped, hreply⟩ := handle_wrap recording s 7 0 [.snappy, .zlib] hb
  -- both runs end alike, so that it is enough to compute the bare one
  have hending : ending = (s.handle recording ⟨7, 0, b⟩).1 := by rw [hbare]
  have hown : s'.shared.own = (s.handle recording ⟨7, 0, b⟩).2.shared.own := by
    rw [hbare]
    rfl
  refine ⟨hb, ending, s', hbare, hwrapped, hreply, ?_, ?_⟩
  · rw [hending]
    with_unfolding_all rfl
  · rw [hown]
    with_unfolding_all rfl

end Gateway

end DocGateway
