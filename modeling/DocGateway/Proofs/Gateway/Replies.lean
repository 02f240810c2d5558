import DocGateway.Gateway.Handle
import DocGateway.Proofs.Gateway.Dispatch
import DocGateway.Proofs.Legacy.Reply
/-!
# Who is answered, and how

A message is answered once, in the shape that it asks for, unless its sender waits for no answer or
the connection ends with it. An error on the way, be it of the translation, of the parser, of a
stage or of the shaping, is an answer like any other.

## Key results

- `ending_of_broken`, `ending_of_settled`: how the handling of a body ends, by what the pipeline
  made of its command
- `isAnswered_handle`: how the handling of a message ends
- `requestId_handleAll`: replies are numbered one after another
- `handle_isAnswered_and_numbered`: when there is a reply, and what it is
-/

namespace DocGateway.Gateway

open Bson (Document)
open Wire (Body Message Msg MsgFlags)

/-! ### Requests and their errors -/

/-- The document of the command that a body asks for, or the error of its translation. -/
def commandOf : Body → Except ServerError Document
  | .msg m => Legacy.mergeSections m
  | .query q => (Legacy.queryCommand q).map (·.command)
  | .getMore g => Legacy.getMoreCommand g
  | .killCursors k => .ok (Legacy.killCursorsCommand k.cursorIds)
  | b => .error (Session.unexpected b)

/-- Whether a body is a command message after which more is to come: its command runs by itself. -/
def isDetached : Body → Bool
  | .msg m => m.flags.moreToCome
  | _ => false

/-- Whether the sender of a body waits for a reply. -/
def wantsReply : Body → Bool
  | .killCursors _ => false
  | b => !isDetached b

/-- Whether the pipeline leaves a command without a document to answer with: it was cancelled, or a
layer broke down or never answers. -/
def isBroken : Outcome → Bool
  | .answered (.error .cancelled) | .crashed | .stalled => true
  | _ => false

/-- The errors for which a body is not answered with the response to its command, by the registry
and by what the pipeline makes of the command. -/
inductive FailsWith (registry : CommandRegistry) (outcome? : Option Outcome) :
    Body → ServerError → Prop
  /-- The body is no command. -/
  | translation {b : Body} {e : ServerError} (h : commandOf b = .error e) :
      FailsWith registry outcome? b e
  /-- The command is not registered, or a field of it has the wrong type. -/
  | parsing {b : Body} {d : Document} {e : ServerError} (hd : commandOf b = .ok d)
      (h : registry.parse d = .error e) :
      FailsWith registry outcome? b e
  /-- The pipeline ends with an error. -/
  | stage {b : Body} {e : ServerError} (h : outcome? = some (.failure e)) :
      FailsWith registry outcome? b e
  /-- The response does not fit into the reply to a query. -/
  | firstShape {q : Wire.Query} {t : Legacy.QueryCommand} {response : Document} {e : ServerError}
      (ht : Legacy.queryCommand q = .ok t) (hr : outcome? = some (.response response))
      (h : Legacy.firstReply t.shape response = .error e) : FailsWith registry outcome? (.query q) e
  /-- The response does not fit into the reply to a request for more. -/
  | nextShape {g : Wire.GetMore} {response : Document} {e : ServerError}
      (hr : outcome? = some (.response response))
      (hok : isOk response = true) (h : Legacy.batchOf response "nextBatch" = .error e) :
      FailsWith registry outcome? (.getMore g) e

/-- What the reply to a body without envelopes has to be: a command message of one body section for
a command message, with a checksum if there was one, and a legacy reply for a legacy request. If an
error was in the way its document is all that the reply holds. Of a legacy reply this is not said
when a write batch failed in part, since that counts as a success. -/
def IsReplyTo (registry : CommandRegistry) (outcome? : Option Outcome) (b reply : Body) : Prop :=
  match b with
  | .msg m => ∃ d, reply = .msg ⟨⟨if m.flags.checksumPresent then 1 else 0⟩, [.body d]⟩ ∧
      (∀ e, FailsWith registry outcome? b e → d = e.document) ∧
      ∀ response, outcome? = some (.response response) → d = response
  | .query _ | .getMore _ => ∃ r, reply = .reply r ∧
      ∀ e, FailsWith registry outcome? b e → e.isPartial = false → r.documents = [e.document]
  | _ => False

/-! ### Envelopes -/

/-- `unwrap` leaves no envelope. -/
theorem unwrap_ne_compressed (b inner : Body) (c : Compressor) :
    b.unwrap.2 ≠ .compressed c inner := by
  induction b with
  | compressed c' b ih => exact ih
  | _ => nofun

/-- `unwrap` finds what `wrap` puts into envelopes. -/
theorem unwrap_wrap (cs : List Compressor) {b : Body} (hb : ∀ c inner, b ≠ .compressed c inner) :
    (Body.wrap cs b).unwrap = (cs, b) := by
  induction cs with
  | nil =>
    cases b with
    | compressed c inner => exact absurd rfl (hb c inner)
    | _ => rfl
  | cons c cs ih =>
    have hwrap : (Body.wrap (c :: cs) b).unwrap = (c :: (Body.wrap cs b).unwrap.1,
        (Body.wrap cs b).unwrap.2) := rfl
    rw [hwrap, ih]

/-- What `IsReplyTo` a body is no envelope. -/
theorem IsReplyTo.ne_compressed {registry : CommandRegistry} {outcome? : Option Outcome}
    {b reply : Body} (h : IsReplyTo registry outcome? b reply) (c : Compressor) (inner : Body) :
    reply ≠ .compressed c inner := by
  rintro rfl
  cases b with
  | msg m =>
    obtain ⟨d, hd, -⟩ := h
    cases hd
  | query q | getMore g =>
    obtain ⟨r, hr, -⟩ := h
    cases hr
  | _ => exact h

/-- The reply that work ends with, if there is one. -/
def Ending.answer? {α : Type} : Ending (Option α) → Option α
  | .done a => a
  | _ => none

namespace Session

variable {σ : Type} (v : Service σ) (s : Session σ)

/-- The session with the number that the next reply gets. -/
def numberedFrom (n : Int32) : Session σ := { s with shared := { s.shared with nextReply := n } }

/-- The session in which the command of a body is carried out: a request for more has looked its
cursor up. -/
def ready : Body → Session σ
  | .getMore g => s.withCursors (s.shared.cursors.get s.shared.now g.cursorId).2
  | _ => s

/-- What the pipeline makes of the command of a body, if it comes to that. -/
def commandOutcome? (b : Body) : Option Outcome :=
  (commandOf b).toOption.bind ((s.ready b).outcome? v)

/-- `commandOutcome?` is the `outcome?` of the document of the command. -/
theorem commandOutcome?_of_ok {b : Body} {d : Document} (h : commandOf b = .ok d) :
    s.commandOutcome? v b = (s.ready b).outcome? v d := by
  simp [commandOutcome?, h, Except.toOption]

/-- `commandOutcome?` does not depend on what is counted. -/
@[simp] theorem commandOutcome?_count (f : Metrics → Metrics) (b : Body) :
    (s.count f).commandOutcome? v b = s.commandOutcome? v b := by
  cases b <;> rfl

/-! ### Bodies, one kind at a time -/

/-- A legacy reply, or the document of the error that there is instead. -/
def orSingle : Except ServerError Wire.Reply → Wire.Reply
  | .ok r => r
  | .error e => Legacy.singleReply e.document

/-- `legacyReply` ends with the reply, or with the document of the error. -/
theorem ending_legacyReply (r : Except ServerError Wire.Reply × CursorCache) :
    (s.legacyReply r).1 = .done (some (.reply (orSingle r.1))) := by
  obtain ⟨r | r, cursors⟩ := r <;> rfl

/-- What becomes of a legacy request after its command: a response is made into a reply, and nothing
else is answered. -/
def replyWith (reply : Session σ → Document → Except ServerError Wire.Reply × CursorCache) :
    Ending Document × Session σ → Ending (Option Body) × Session σ
  | (.done response, s) => s.legacyReply (reply s response)
  | (ending, s) => (ending.map fun _ => none, s)

/-- `handleQuery` makes the reply of what `dispatch` ends with. -/
theorem handleQuery_of_command {q : Wire.Query} {t : Legacy.QueryCommand}
    (ht : Legacy.queryCommand q = .ok t) :
    s.handleQuery v q =
      replyWith (fun s' => Legacy.queryReply s'.shared.cursors s'.shared.now t.shape)
        (s.dispatch v t.command) := by
  unfold handleQuery
  generalize Legacy.queryCommand q = r at ht
  subst ht
  rfl

/-- `handleGetMore` makes the reply of what `dispatch` ends with, at the entry that was looked up
before. -/
theorem handleGetMore_of_command {g : Wire.GetMore} {d : Document}
    (hd : Legacy.getMoreCommand g = .ok d) :
    s.handleGetMore v g =
      replyWith (fun s' => Legacy.getMoreReply s'.shared.cursors
        (s.shared.cursors.get s.shared.now g.cursorId).1)
        ((s.ready (.getMore g)).dispatch v d) := by
  unfold handleGetMore
  generalize Legacy.getMoreCommand g = r at hd
  subst hd
  rfl

/-- `handleMsg` puts what `dispatch` ends with into a message. -/
theorem handleMsg_of_command {m : Msg} {d : Document} (hm : m.flags.moreToCome = false)
    (hd : Legacy.mergeSections m = .ok d) :
    (s.handleMsg v m).1 = (s.dispatch v d).1.map fun response => some (msgReply m response) := by
  simp only [handleMsg, hm, hd]

/-- `handleQuery` replies with the shape of the response, or with an error. -/
theorem handleQuery_of_done {q : Wire.Query} {t : Legacy.QueryCommand} {response : Document}
    (ht : Legacy.queryCommand q = .ok t) (hend : (s.dispatch v t.command).1 = .done response) :
    (s.handleQuery v q).1 =
      .done (some (.reply (orSingle ((Legacy.firstReply t.shape response).map (·.reply))))) := by
  obtain ⟨s', hs⟩ : ∃ s', s.dispatch v t.command = (.done response, s') := ⟨_, Prod.ext hend rfl⟩
  simp only [handleQuery, ht, hs, ending_legacyReply, Legacy.fst_queryReply]

/-- `handleQuery` of a command that is broken off ends without a reply. -/
theorem handleQuery_of_broken {q : Wire.Query} {t : Legacy.QueryCommand} {outcome : Outcome}
    (ht : Legacy.queryCommand q = .ok t) (hend : (s.dispatch v t.command).1 = endingOf outcome)
    (hbroken : isBroken outcome = true) :
    (s.handleQuery v q).1 = (endingOf outcome).map fun _ => none := by
  obtain ⟨s', hs⟩ : ∃ s', s.dispatch v t.command = (endingOf outcome, s') := ⟨_, Prod.ext hend rfl⟩
  simp only [handleQuery, ht, hs]
  match outcome, hbroken with
  | .answered (.error .cancelled), _ => rfl
  | .crashed, _ => rfl
  | .stalled, _ => rfl

/-- `handleGetMore` replies with the batch of the response, or with an error. -/
theorem handleGetMore_of_done {g : Wire.GetMore} {d response : Document}
    (hd : Legacy.getMoreCommand g = .ok d)
    (hend : ((s.ready (.getMore g)).dispatch v d).1 = .done response) :
    ∃ cursors h, (s.handleGetMore v g).1 =
      .done (some (.reply (orSingle (Legacy.getMoreReply cursors h response).1))) := by
  obtain ⟨s', hs⟩ : ∃ s', (s.ready (.getMore g)).dispatch v d = (.done response, s') :=
    ⟨_, Prod.ext hend rfl⟩
  rw [ready] at hs
  simp only [handleGetMore, hd, hs, ending_legacyReply]
  exact ⟨_, _, rfl⟩

/-- `handleGetMore` of a command that is broken off ends without a reply. -/
theorem handleGetMore_of_broken {g : Wire.GetMore} {d : Document} {outcome : Outcome}
    (hd : Legacy.getMoreCommand g = .ok d)
    (hend : ((s.ready (.getMore g)).dispatch v d).1 = endingOf outcome)
    (hbroken : isBroken outcome = true) :
    (s.handleGetMore v g).1 = (endingOf outcome).map fun _ => none := by
  obtain ⟨s', hs⟩ : ∃ s', (s.ready (.getMore g)).dispatch v d = (endingOf outcome, s') :=
    ⟨_, Prod.ext hend rfl⟩
  rw [ready] at hs
  simp only [handleGetMore, hd, hs]
  match outcome, hbroken with
  | .answered (.error .cancelled), _ => rfl
  | .crashed, _ => rfl
  | .stalled, _ => rfl

/-! ### Without a document to answer with -/

/-- What is made of a document does not matter where there is none. -/
theorem map_endingOf_of_broken {α : Type} {outcome : Outcome} (h : isBroken outcome = true)
    (f g : Document → α) :
    (endingOf outcome).map f = (endingOf outcome).map g := by
  match outcome, h with
  | .answered (.error .cancelled), _ => rfl
  | .crashed, _ => rfl
  | .stalled, _ => rfl

/-- `handleBody` of a command that is broken off ends without a reply, unless the command runs by
itself. -/
theorem ending_of_broken {b : Body} {outcome : Outcome} (h : s.commandOutcome? v b = some outcome)
    (hbroken : isBroken outcome = true) (hb : isDetached b = false) :
    (s.handleBody v b).1 = (endingOf outcome).map fun _ => none := by
  -- there is a command, or the pipeline would have made nothing of it
  obtain ⟨d, hd⟩ : ∃ d, commandOf b = .ok d := by
    cases hd : commandOf b with
    | error e => simp [commandOutcome?, hd, Except.toOption] at h
    | ok d => exact ⟨d, rfl⟩
  rw [s.commandOutcome?_of_ok v hd] at h
  have hend := (s.ready b).ending_dispatch v h
  cases b with
  | msg m =>
    rw [handleBody, s.handleMsg_of_command v hb hd]
    exact (congrArg _ hend).trans (map_endingOf_of_broken hbroken _ _)
  | query q =>
    simp only [commandOf, Except.map] at hd
    split at hd
    · cases hd
    · obtain rfl := Except.ok.inj hd
      exact s.handleQuery_of_broken v ‹_› hend hbroken
  | getMore g => exact s.handleGetMore_of_broken v hd hend hbroken
  | killCursors k =>
    obtain rfl := Except.ok.inj hd
    simp only [handleBody]
    exact congrArg _ hend
  | reply r => cases hd
  | compressed c inner => cases hd

/-! ### With a document to answer with -/

/-- `dispatch` of a command that is not broken off ends with a document: that of the error, or the
response. -/
theorem exists_document_of_settled {d : Document}
    (h : ∀ outcome, s.outcome? v d = some outcome → isBroken outcome = false) :
    ∃ a, (s.dispatch v d).1 = .done a ∧ (∀ e, v.registry.parse d = .error e → a = e.document) ∧
      (∀ e, s.outcome? v d = some (.failure e) → a = e.document) ∧
      ∀ response, s.outcome? v d = some (.response response) → a = response := by
  cases hp : v.registry.parse d with
  | error e =>
    refine ⟨e.document, by rw [s.dispatch_of_refused v hp], ?_, ?_, ?_⟩
    · rintro e' ⟨⟩
      rfl
    · simp [s.outcome?_of_refused v hp]
    · simp [s.outcome?_of_refused v hp]
  | ok command =>
    have ho := s.outcome?_of_parsed v hp
    have hend := s.ending_dispatch v ho
    have hsettled := h _ ho
    rw [ho]
    match hout : (s.passage v command).outcome with
    | .answered (.ok response) =>
      rw [hout] at hend
      refine ⟨response, hend, nofun, nofun, ?_⟩
      rintro response' ⟨⟩
      rfl
    | .answered (.error e) =>
      rw [hout] at hend hsettled
      refine ⟨e.document, ?_, nofun, ?_, nofun⟩
      · rw [hend]
        -- of all errors the one for a cancelled command has no document
        cases e <;> first | rfl | cases hsettled
      · rintro e' ⟨⟩
        rfl
    | .crashed => rw [hout] at hsettled; cases hsettled
    | .stalled => rw [hout] at hsettled; cases hsettled

/-- `handleMsg` replies with one document, unless more is to come. -/
theorem exists_msgReply {m : Msg} (hm : m.flags.moreToCome = false)
    (h : ∀ outcome, s.commandOutcome? v (.msg m) = some outcome → isBroken outcome = false) :
    ∃ body, (s.handleMsg v m).1 = .done (some body) ∧
      IsReplyTo v.registry (s.commandOutcome? v (.msg m)) (.msg m) body := by
  have hreply (d : Document) : msgReply m d = .msg ⟨⟨if m.flags.checksumPresent then 1 else 0⟩,
      [.body d]⟩ := by
    simp only [msgReply, Msg.reply]
    split <;> rfl
  cases hd : Legacy.mergeSections m with
  | error e =>
    have hcommand : commandOf (.msg m) = .error e := hd
    have ho : s.commandOutcome? v (.msg m) = none := by
      simp [commandOutcome?, hcommand, Except.toOption]
    refine ⟨msgReply m e.document, by simp only [handleMsg, hm, hd, errorReply], e.document,
      hreply _, ?_, by simp [ho]⟩
    -- the error of the translation is the one that there is
    intro e' he
    cases he with
    | translation he => rw [hcommand] at he; cases he; rfl
    | parsing hd' => rw [hcommand] at hd'; cases hd'
    | stage he => rw [ho] at he; cases he
  | ok d =>
    have hcommand : commandOf (.msg m) = .ok d := hd
    rw [s.commandOutcome?_of_ok v hcommand] at h ⊢
    obtain ⟨a, hend, hparsing, hstage, hresponse⟩ := s.exists_document_of_settled v h
    refine ⟨msgReply m a, by rw [s.handleMsg_of_command v hm hd, hend, Ending.map], a, hreply a,
      ?_, hresponse⟩
    intro e he
    cases he with
    | translation he => rw [hcommand] at he; cases he
    | parsing hd' he => rw [hcommand] at hd'; cases hd'; exact hparsing e he
    | stage he => exact hstage e he

/-- `handleQuery` replies with a legacy reply. -/
theorem exists_queryReply {q : Wire.Query}
    (h : ∀ outcome, s.commandOutcome? v (.query q) = some outcome → isBroken outcome = false) :
    ∃ body, (s.handleQuery v q).1 = .done (some body) ∧
      IsReplyTo v.registry (s.commandOutcome? v (.query q)) (.query q) body := by
  cases ht : Legacy.queryCommand q with
  | error e =>
    have hcommand : commandOf (.query q) = .error e := by simp [commandOf, ht, Except.map]
    have ho : s.commandOutcome? v (.query q) = none := by
      simp [commandOutcome?, hcommand, Except.toOption]
    refine ⟨.reply (Legacy.singleReply e.document),
      by simp only [handleQuery, ht, legacyError, errorReply], _, rfl, ?_⟩
    intro e' he _
    cases he with
    | translation he => rw [hcommand] at he; cases he; rfl
    | parsing hd' => rw [hcommand] at hd'; cases hd'
    | stage he => rw [ho] at he; cases he
    | firstShape ht' => rw [ht] at ht'; cases ht'
  | ok t =>
    have hcommand : commandOf (.query q) = .ok t.command := by simp [commandOf, ht, Except.map]
    rw [s.commandOutcome?_of_ok v hcommand] at h ⊢
    obtain ⟨a, hend, hparsing, hstage, hresponse⟩ := s.exists_document_of_settled v h
    refine ⟨_, s.handleQuery_of_done v ht hend, _, rfl, ?_⟩
    -- a document of failure is the whole reply, whatever the shape
    have hfailed {e : ServerError} (ha : a = e.document) (he : e.isPartial = false) :
        (orSingle ((Legacy.firstReply t.shape a).map (·.reply))).documents = [e.document] := by
      rw [ha, Legacy.firstReply_of_failed _ (e.isOk_document.trans he)]
      rfl
    intro e he hpartial
    cases he with
    | translation he => rw [hcommand] at he; cases he
    | parsing hd' he => rw [hcommand] at hd'; cases hd'; exact hfailed (hparsing e he) hpartial
    | stage he => exact hfailed (hstage e he) hpartial
    | firstShape ht' hr he =>
      rw [ht] at ht'
      cases ht'
      rw [hresponse _ hr, he]
      rfl

/-- `handleGetMore` replies with a legacy reply. -/
theorem exists_getMoreReply {g : Wire.GetMore}
    (h : ∀ outcome, s.commandOutcome? v (.getMore g) = some outcome → isBroken outcome = false) :
    ∃ body, (s.handleGetMore v g).1 = .done (some body) ∧
      IsReplyTo v.registry (s.commandOutcome? v (.getMore g)) (.getMore g) body := by
  cases hd : Legacy.getMoreCommand g with
  | error e =>
    have hcommand : commandOf (.getMore g) = .error e := hd
    have ho : s.commandOutcome? v (.getMore g) = none := by
      simp [commandOutcome?, hcommand, Except.toOption]
    refine ⟨.reply (Legacy.singleReply e.document),
      by simp only [handleGetMore, hd, legacyError, errorReply], _, rfl, ?_⟩
    intro e' he _
    cases he with
    | translation he => rw [hcommand] at he; cases he; rfl
    | parsing hd' => rw [hcommand] at hd'; cases hd'
    | stage he => rw [ho] at he; cases he
    | nextShape hr => rw [ho] at hr; cases hr
  | ok d =>
    have hcommand : commandOf (.getMore g) = .ok d := hd
    rw [s.commandOutcome?_of_ok v hcommand] at h ⊢
    obtain ⟨a, hend, hparsing, hstage, hresponse⟩ :=
      (s.ready (.getMore g)).exists_document_of_settled v h
    obtain ⟨cursors, handle, hreply⟩ := s.handleGetMore_of_done v hd hend
    refine ⟨_, hreply, _, rfl, ?_⟩
    -- a document of failure is the whole reply
    have hfailed {e : ServerError} (ha : a = e.document) (he : e.isPartial = false) :
        (orSingle (Legacy.getMoreReply cursors handle a).1).documents = [e.document] := by
      rw [ha, Legacy.getMoreReply_of_failed _ _ (e.isOk_document.trans he)]
      rfl
    intro e he hpartial
    cases he with
    | translation he => rw [hcommand] at he; cases he
    | parsing hd' he => rw [hcommand] at hd'; cases hd'; exact hfailed (hparsing e he) hpartial
    | stage he => exact hfailed (hstage e he) hpartial
    | nextShape hr hok he =>
      rw [hresponse _ hr, Legacy.getMoreReply_of_error _ _ hok he]
      rfl

/-- `handleBody` of a body that a client may send, and whose command is not broken off if anybody
cares, replies if its sender waits for it. -/
theorem ending_of_settled {b : Body} (hb : ∀ r, b ≠ .reply r)
    (hc : ∀ c inner, b ≠ .compressed c inner)
    (h : isDetached b = true ∨ ∀ outcome, s.commandOutcome? v b = some outcome →
      isBroken outcome = false) :
    ∃ reply?, (s.handleBody v b).1 = .done reply? ∧ reply?.isSome = wantsReply b ∧
      ∀ body ∈ reply?, IsReplyTo v.registry (s.commandOutcome? v b) b body := by
  cases b with
  | msg m =>
    cases hm : m.flags.moreToCome with
    | true =>
      refine ⟨none, ?_, by simp [wantsReply, isDetached, hm], nofun⟩
      -- the command runs by itself, so nothing is waited for
      simp only [handleBody, handleMsg, hm]
      cases Legacy.mergeSections m <;> rfl
    | false =>
      obtain ⟨body, hend, hreply⟩ :=
        s.exists_msgReply v hm (h.resolve_left (by simp [isDetached, hm]))
      refine ⟨some body, hend, by simp [wantsReply, isDetached, hm], ?_⟩
      rintro _ ⟨⟩
      exact hreply
  | query q =>
    obtain ⟨body, hend, hreply⟩ := s.exists_queryReply v (h.resolve_left nofun)
    refine ⟨some body, hend, rfl, ?_⟩
    rintro _ ⟨⟩
    exact hreply
  | getMore g =>
    obtain ⟨body, hend, hreply⟩ := s.exists_getMoreReply v (h.resolve_left nofun)
    refine ⟨some body, hend, rfl, ?_⟩
    rintro _ ⟨⟩
    exact hreply
  | killCursors k =>
    have hcommand : commandOf (.killCursors k) = .ok (Legacy.killCursorsCommand k.cursorIds) := rfl
    have hsettled := h.resolve_left nofun
    rw [s.commandOutcome?_of_ok v hcommand] at hsettled
    obtain ⟨a, hend, -⟩ := s.exists_document_of_settled v hsettled
    exact ⟨none, congrArg (Ending.map fun _ => none) hend, rfl, nofun⟩
  | reply r => exact absurd rfl (hb r)
  | compressed c inner => exact absurd rfl (hc c inner)

/-! ### Numbers of replies -/

/-- `legacyReply` takes no number of a reply. -/
@[simp] theorem nextReply_legacyReply (r : Except ServerError Wire.Reply × CursorCache) :
    (s.legacyReply r).2.shared.nextReply = s.shared.nextReply := by
  obtain ⟨r | r, cursors⟩ := r <;> rfl

/-- `handleBody` takes no number of a reply: a message takes it last. -/
@[simp] theorem nextReply_handleBody (b : Body) :
    (s.handleBody v b).2.shared.nextReply = s.shared.nextReply := by
  -- whatever is dispatched, a number is only taken for the whole message
  cases b with
  | msg m =>
    simp only [handleBody, handleMsg]
    split <;> simp [errorReply]
  | query q =>
    simp only [handleBody, handleQuery]
    split
    · rfl
    · rename_i t _
      have hdispatch := s.nextReply_dispatch v t.command
      split <;> simp_all
  | getMore g =>
    simp only [handleBody, handleGetMore]
    split
    · rfl
    · rename_i command _
      have hdispatch := (s.ready (.getMore g)).nextReply_dispatch v command
      rw [ready] at hdispatch
      split <;> simp_all
  | killCursors k => exact s.nextReply_dispatch v _
  | reply r => rfl
  | compressed c inner => rfl

/-! ### Messages -/

/-- `handle` puts the reply into the envelopes of the request, under the next number. -/
theorem handle_of_reply {m : Message} {reply : Body} {s' : Session σ}
    (h : (s.count (·.message m.body.opcode.name)).handleBody v m.body.unwrap.2 =
      (.done (some reply), s')) :
    s.handle v m = (.done (some ⟨s.shared.nextReply, m.requestId, .wrap m.body.unwrap.1 reply⟩),
      s'.numberedFrom (s.shared.nextReply + 1)) := by
  have hnext : s'.shared.nextReply = s.shared.nextReply :=
    (congrArg (·.2.shared.nextReply) h).symm.trans (nextReply_handleBody v _ _)
  simp only [handle, h, numbered, numberedFrom, hnext]

/-- `handle` without a reply ends as `handleBody` does. -/
theorem handle_of_none {m : Message} {ending : Ending (Option Body)} {s' : Session σ}
    (hnone : ending.answer? = none)
    (h : (s.count (·.message m.body.opcode.name)).handleBody v m.body.unwrap.2 = (ending, s')) :
    s.handle v m = (ending.map fun _ => none, s') := by
  simp only [handle, h]
  match ending, hnone with
  | .done none, _ => rfl
  | .failed e, _ => rfl
  | .crashed, _ => rfl
  | .stalled, _ => rfl

/-- `handle` takes the next number for its reply, and none if there is no reply. -/
theorem nextReply_handle (m : Message) :
    match (s.handle v m).1.answer? with
    | some reply =>
      reply.requestId = s.shared.nextReply ∧
        (s.handle v m).2.shared.nextReply = s.shared.nextReply + 1
    | none => (s.handle v m).2.shared.nextReply = s.shared.nextReply := by
  obtain ⟨ending, s', h⟩ : ∃ ending s',
      (s.count (·.message m.body.opcode.name)).handleBody v m.body.unwrap.2 =
      (ending, s') := ⟨_, _, rfl⟩
  have hnext : s'.shared.nextReply = s.shared.nextReply :=
    (congrArg (·.2.shared.nextReply) h).symm.trans (nextReply_handleBody v _ _)
  -- only a reply takes a number
  match ending, h with
  | .done (some reply), h =>
    rw [s.handle_of_reply v h]
    exact ⟨rfl, rfl⟩
  | .done none, h | .failed e, h | .crashed, h | .stalled, h =>
    rw [s.handle_of_none v rfl h]
    exact hnext

/-- `handleBody` of a body without envelopes: a client may not send it, its command is broken off,
or it is settled. -/
theorem handleBody_cases {b : Body} (hc : ∀ c inner, b ≠ .compressed c inner) :
    (∃ r, b = .reply r ∧ (s.handleBody v b).1 = .failed (unexpected b)) ∨
    (∃ outcome, s.commandOutcome? v b = some outcome ∧ isBroken outcome = true ∧
      isDetached b = false ∧
      (s.handleBody v b).1 = (endingOf outcome).map fun _ => none) ∨
    ((∀ r, b ≠ .reply r) ∧
      (isDetached b = true ∨ ∀ outcome, s.commandOutcome? v b = some outcome →
        isBroken outcome = false) ∧
      ∃ reply?, (s.handleBody v b).1 = .done reply? ∧ reply?.isSome = wantsReply b ∧
        ∀ body ∈ reply?, IsReplyTo v.registry (s.commandOutcome? v b) b body) := by
  by_cases hr : ∃ r, b = .reply r
  · obtain ⟨r, rfl⟩ := hr
    exact .inl ⟨r, rfl, rfl⟩
  · have hr' : ∀ r, b ≠ .reply r := fun r h => hr ⟨r, h⟩
    have hend := s.ending_of_settled v hr' hc
    cases hd : isDetached b with
    | true => exact .inr (.inr ⟨hr', .inl rfl, hend (.inl hd)⟩)
    | false =>
      -- somebody waits for the command, so it matters whether it is broken off
      by_cases hbroken : ∃ outcome, s.commandOutcome? v b = some outcome ∧ isBroken outcome = true
      · obtain ⟨outcome, ho, hbroken⟩ := hbroken
        exact .inr (.inl ⟨outcome, ho, hbroken, rfl, s.ending_of_broken v ho hbroken hd⟩)
      · have hsettled : ∀ outcome, s.commandOutcome? v b = some outcome →
            isBroken outcome = false :=
          fun outcome ho => Bool.eq_false_iff.mpr fun h => hbroken ⟨outcome, ho, h⟩
        exact .inr (.inr ⟨hr', .inr hsettled, hend (.inr hsettled)⟩)

end Session

/-- How the handling of a message has to end. -/
structure IsAnswered {σ : Type} (v : Service σ) (s : Session σ) (m : Message)
    (ending : Ending (Option Message)) : Prop where
  /-- The connection ends with a message that only a gateway sends, and with a command that was
  cancelled. -/
  failed_iff : (∃ e, ending = .failed e) ↔ (∃ r, m.body.unwrap.2 = .reply r) ∨
    s.commandOutcome? v m.body.unwrap.2 = some (.failure .cancelled) ∧
    isDetached m.body.unwrap.2 = false
  /-- A layer that breaks down takes the handling with it. -/
  crashed_iff : ending = .crashed ↔
    s.commandOutcome? v m.body.unwrap.2 = some .crashed ∧ isDetached m.body.unwrap.2 = false
  /-- So does a layer that never answers. -/
  stalled_iff : ending = .stalled ↔
    s.commandOutcome? v m.body.unwrap.2 = some .stalled ∧ isDetached m.body.unwrap.2 = false
  /-- Otherwise there is one reply if the sender waits for it. -/
  isSome_reply {reply? : Option Message} (h : ending = .done reply?) :
    reply?.isSome = wantsReply m.body.unwrap.2
  /-- The reply is to the message, in the envelopes of the message, and of the right shape. -/
  reply {reply : Message} (h : ending = .done (some reply)) :
    reply.responseTo = m.requestId ∧ ∃ body, reply.body.unwrap = (m.body.unwrap.1, body) ∧
      IsReplyTo v.registry (s.commandOutcome? v m.body.unwrap.2) m.body.unwrap.2 body

/-- `handle` ends as `IsAnswered` says, whatever the message. -/
theorem isAnswered_handle {σ : Type} (v : Service σ) (s : Session σ) (m : Message) :
    IsAnswered v s m (s.handle v m).1 := by
  obtain ⟨ending, s', h⟩ : ∃ ending s',
      (s.count (·.message m.body.opcode.name)).handleBody v m.body.unwrap.2 =
      (ending, s') := ⟨_, _, rfl⟩
  obtain ⟨r, hr, hend⟩ | ⟨outcome, ho, hbroken, hd, hend⟩ | ⟨hr, hsettled, reply?, hend,
      hsome, hreply⟩ :=
    (s.count (·.message m.body.opcode.name)).handleBody_cases v fun c inner =>
      unwrap_ne_compressed m.body inner c
  all_goals
    rw [h] at hend
    subst hend
  · -- no command comes of a reply
    have hnone : s.commandOutcome? v (.reply r) = none := rfl
    rw [s.handle_of_none v rfl h]
    constructor <;> simp [Ending.map, hr, hnone]
  · rw [Session.commandOutcome?_count] at ho
    have hr : ∀ r, m.body.unwrap.2 ≠ .reply r := by
      rintro r hr
      rw [hr] at ho
      cases ho
    match outcome, hbroken with
    | .answered (.error .cancelled), _ | .crashed, _ | .stalled, _ =>
      rw [s.handle_of_none v rfl h]
      constructor <;> simp [Ending.map, endingOf, ho, hd, hr, Outcome.failure]
  · rw [Session.commandOutcome?_count] at hsettled hreply
    have hbroken {outcome : Outcome} (hb : isBroken outcome = true) :
        ¬(s.commandOutcome? v m.body.unwrap.2 = some outcome ∧
          isDetached m.body.unwrap.2 = false) := by
      rintro ⟨ho, hd⟩
      obtain hd' | hsettled := hsettled
      · rw [hd] at hd'
        cases hd'
      · rw [hsettled _ ho] at hb
        cases hb
    have hbroken_off : ¬((∃ r, m.body.unwrap.2 = .reply r) ∨
        s.commandOutcome? v m.body.unwrap.2 = some (.failure .cancelled) ∧
        isDetached m.body.unwrap.2 = false) :=
      not_or.mpr ⟨fun ⟨r, h⟩ => hr r h, hbroken rfl⟩
    match reply?, hsome, hreply, h with
    | none, hsome, _, h =>
      rw [s.handle_of_none v rfl h]
      refine ⟨iff_of_false nofun hbroken_off, iff_of_false nofun (hbroken rfl),
        iff_of_false nofun (hbroken rfl), ?_, nofun⟩
      rintro _ ⟨⟩
      exact hsome
    | some body, hsome, hreply, h =>
      have hunwrap := unwrap_wrap m.body.unwrap.1 (IsReplyTo.ne_compressed (hreply body rfl))
      rw [s.handle_of_reply v h]
      refine ⟨iff_of_false nofun hbroken_off, iff_of_false nofun (hbroken rfl),
        iff_of_false nofun (hbroken rfl), ?_, ?_⟩
      · rintro _ ⟨⟩
        exact hsome
      · rintro _ ⟨⟩
        exact ⟨rfl, body, hunwrap, hreply body rfl⟩

/-- How messages end that are handled one after another. Between two of them anything may happen but
that numbers of replies are taken. -/
def handleAll {σ : Type} (v : Service σ) :
    Int32 → List (Session σ × Message) → List (Ending (Option Message))
  | _, [] => []
  | n, (s, m) :: rest =>
    let (ending, s) := (s.numberedFrom n).handle v m
    ending :: handleAll v s.shared.nextReply rest

/-- `handleAll` numbers its replies one after another, in the order in which they are made. -/
theorem requestId_handleAll {σ : Type} (v : Service σ) (n : Int32)
    (ms : List (Session σ × Message)) :
    let replies := (handleAll v n ms).filterMap Ending.answer?
    replies.map (·.requestId) = (List.range replies.length).map fun k => n + Int32.ofNat k := by
  -- by induction on the messages: one without a reply takes no number
  induction ms generalizing n with
  | nil => rfl
  | cons sm ms ih =>
    obtain ⟨s, m⟩ := sm
    have hnext := (s.numberedFrom n).nextReply_handle v m
    simp only [handleAll, List.filterMap_cons]
    split at hnext
    · rename_i reply hreply
      obtain ⟨hid, hnext⟩ := hnext
      -- the numbers of the others are one step behind those of all
      have hshift (k : Nat) : n + 1 + Int32.ofNat k = n + Int32.ofNat (k + 1) := by
        rw [Int32.add_assoc]
        congr 1
        simp [Int32.ofNat_add, Int32.add_comm]
      rw [hreply]
      simp only [List.map_cons, List.length_cons, List.range_succ_eq_map, List.map_map,
        hid, ih, hnext]
      simp [Session.numberedFrom, Function.comp_def, hshift]
    · rename_i hreply
      rw [hreply, hnext]
      exact ih n

/-- `handle` answers each message as `IsAnswered` has it: whether the connection ends, whether there
is a reply, and what is in it. The replies of `handleAll` are numbered one after another, whatever
else happens in between. -/
theorem handle_isAnswered_and_numbered {σ : Type} (v : Service σ) :
    (∀ (s : Session σ) (m : Message), IsAnswered v s m (s.handle v m).1) ∧
    ∀ (n : Int32) (ms : List (Session σ × Message)),
      let replies := (handleAll v n ms).filterMap Ending.answer?
      replies.map (·.requestId) = (List.range replies.length).map fun k => n + Int32.ofNat k :=
  ⟨isAnswered_handle v, requestId_handleAll v⟩

end DocGateway.Gateway
