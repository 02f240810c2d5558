import DocGateway.Proofs.Gateway.Cleanup
import DocGateway.Proofs.Gateway.Envelopes
import DocGateway.Proofs.Gateway.Provenance
import DocGateway.Proofs.Metrics.Counts
/-!
# What a gateway counts

All that a gateway does for clients and for itself is a list of works: a message is handled, or a
cursor that has expired is closed. What is counted can be told from these works: a message under its
opcode, a command if it comes to one, and the error that is answered instead of a response, of which
there is one at most. Nothing else that happens counts any of this.

## Key results

- `Session.grows_dispatch`, `Session.grows_handle`: one command, one message
- `Session.bodyError?_eq_some_iff`: which error is counted for a message
- `Shared.counted_reap`, `counted_occur`: what happens by itself, and all that happens
- `isCounted_play`: the counters of a gateway after all that happened to it
-/

namespace DocGateway

open Bson (Document)
open Wire (Body Message Opcode Stream)

/-- `recordAll` counts the times of stages, and nothing that `Grows` tells of. -/
theorem LayerEvent.grows_recordAll (m : Metrics) (events : List LayerEvent) :
    m.Grows (recordAll m events) [] [] [] [] [] := by
  induction events generalizing m with
  | nil => exact .refl m
  | cons event events ih =>
    have hrecord : m.Grows (record m event) [] [] [] [] [] := by
      cases event <;> exact ⟨rfl, rfl, rfl, rfl, rfl⟩
    exact hrecord.trans (ih (record m event))

namespace Gateway

/-- The error of an `Except`, if it is one. -/
def errorOf? {α : Type} : Except ServerError α → Option ServerError
  | .ok _ => none
  | .error e => some e

/-- A body that `commandOf` refuses fails with that error alone. -/
theorem FailsWith.eq_of_refused {registry : CommandRegistry} {b : Body} {e e' : ServerError}
    (h : FailsWith registry none b e)
    (hd : commandOf b = .error e') : e = e' := by
  cases h with
  | translation he => exact Except.error.inj (he.symm.trans hd)
  | parsing hd' => cases hd'.symm.trans hd
  | stage h | nextShape h | firstShape _ h => cases h

namespace Session

variable {σ : Type} (v : Service σ) (s : Session σ)

/-! ### Commands -/

/-- The error that a document is answered with instead of a response: that of the registry, or the
one that the pipeline ends with. Cancellation is no answer. -/
def dispatchError? (d : Document) : Option ServerError :=
  match v.registry.parse d with
  | .error e => some e
  | .ok command =>
    match (s.passage v command).outcome with
    | .answered (.error .cancelled) => none
    | .answered (.error e) => some e
    | _ => none

/-- The cursor that is newly cached for the response to a document. -/
def opened? (d : Document) : Option Int64 :=
  match v.registry.parse d with
  | .error _ => none
  | .ok command =>
    match (s.passage v command).outcome with
    | .answered (.ok response) =>
      ((s.passed v command).shared.cursors.track (s.passed v command).shared.now
        (s.passage v command).scene.request.command response).1
    | _ => none

/-- `track` counts the cursor that it opens. -/
theorem grows_track (command : Command) (response : Document) :
    s.shared.metrics.Grows (s.track command response).shared.metrics [] [] []
      (s.shared.cursors.track s.shared.now command response).1.toList [] := by
  simp only [track]
  cases (s.shared.cursors.track s.shared.now command response).1 with
  | none => exact .refl _
  | some id => exact .cursorOpened _ id

/-- `dispatch` counts the command under its name, its `dispatchError?` and the cursor that is
`opened?`. -/
theorem grows_dispatch (d : Document) :
    s.shared.metrics.Grows (s.dispatch v d).2.shared.metrics []
      ((v.registry.parse d).toOption.toList.map Command.name)
      ((s.dispatchError? v d).toList.map (·.code.name)) (s.opened? v d).toList [] := by
  cases hp : v.registry.parse d with
  | error e =>
    rw [s.dispatch_of_refused v hp]
    simp only [dispatchError?, opened?, hp]
    exact .error _ e.code.name
  | ok command =>
    -- the command and the times of stages are counted before its outcome is looked at
    have hpassed : s.shared.metrics.Grows (s.passed v command).shared.metrics []
        [command.name] [] [] [] :=
      (Metrics.Grows.command _ command.name).trans (LayerEvent.grows_recordAll _ _)
    rw [s.dispatch_of_parsed v hp, settle]
    simp only [dispatchError?, opened?, hp]
    cases (s.passage v command).outcome with
    | answered a =>
      cases a with
      | ok response => exact hpassed.trans (grows_track _ _ response)
      | error e =>
        cases e with
        | cancelled => exact hpassed
        | _ => exact hpassed.trans (.error _ _)
    | crashed => exact hpassed
    | stalled => exact hpassed

/-- `dispatchError?` is the error of the registry, or that of the pipeline if it is no
cancellation. -/
theorem dispatchError?_eq_some_iff {d : Document} {e : ServerError} :
    s.dispatchError? v d = some e ↔
      v.registry.parse d = .error e ∨ s.outcome? v d = some (.failure e) ∧ e ≠ .cancelled := by
  rw [dispatchError?]
  cases hp : v.registry.parse d with
  | error e' => simp [s.outcome?_of_refused v hp]
  | ok command =>
    rw [s.outcome?_of_parsed v hp]
    cases hout : (s.passage v command).outcome with
    | answered a =>
      cases a with
      | ok response => simp [hout, Outcome.failure]
      | error e' =>
        cases e' with
        -- a cancelled command fails, but counts as no error
        | cancelled => simp [hout, Outcome.failure, eq_comm]
        | _ =>
          simp only [hout, Outcome.failure, Option.some.injEq, reduceCtorEq, Outcome.answered.injEq,
            Except.error.injEq, false_or]
          exact ⟨fun h => ⟨h, by rw [← h]; simp⟩, fun h => h.1⟩
    | crashed => simp [hout, Outcome.failure]
    | stalled => simp [hout, Outcome.failure]

/-- `dispatch` ends with the document of an error, with the response of the pipeline, or with no
answer. -/
theorem dispatch_cases (d : Document) :
    (∃ e, s.dispatchError? v d = some e ∧ (∀ response, s.outcome? v d ≠ some (.response response)) ∧
      (s.dispatch v d).1 = .done e.document) ∨
    (∃ response, s.dispatchError? v d = none ∧ s.outcome? v d = some (.response response) ∧
      (s.dispatch v d).1 = .done response) ∨
    (s.dispatchError? v d = none ∧ (∀ response, s.outcome? v d ≠ some (.response response)) ∧
      ∀ a, (s.dispatch v d).1 ≠ .done a) := by
  cases hp : v.registry.parse d with
  | error e =>
    refine .inl ⟨e, by simp [dispatchError?, hp], ?_, by rw [s.dispatch_of_refused v hp]⟩
    simp [s.outcome?_of_refused v hp]
  | ok command =>
    have ho := s.outcome?_of_parsed v hp
    have hend := s.ending_dispatch v ho
    rw [ho]
    -- a response, an error, or cancellation and layers that break down, which answer nothing
    cases hout : (s.passage v command).outcome with
    | answered a =>
      rw [hout] at hend
      cases a with
      | ok response => exact .inr (.inl ⟨response, by simp [dispatchError?, hp, hout], rfl, hend⟩)
      | error e =>
        cases e with
        | cancelled =>
          exact .inr (.inr ⟨by simp [dispatchError?, hp, hout], by simp [Outcome.response],
            by simp [hend, endingOf]⟩)
        | _ => exact .inl ⟨_, by simp [dispatchError?, hp, hout], by simp [Outcome.response], hend⟩
    | crashed =>
      rw [hout] at hend
      exact .inr (.inr ⟨by simp [dispatchError?, hp, hout], by simp [Outcome.response],
        by simp [hend, endingOf]⟩)
    | stalled =>
      rw [hout] at hend
      exact .inr (.inr ⟨by simp [dispatchError?, hp, hout], by simp [Outcome.response],
        by simp [hend, endingOf]⟩)

/-! ### Messages -/

/-- The error of a response that does not fit into the legacy reply to a body. -/
def shapeError? (b : Body) (response : Document) : Option ServerError :=
  match b with
  | .query q =>
    (Legacy.queryCommand q).toOption.bind fun t => errorOf? (Legacy.firstReply t.shape response)
  | .getMore _ => if isOk response then errorOf? (Legacy.batchOf response "nextBatch") else none
  | _ => none

/-- The response to the command of a body. -/
def response? (b : Body) : Option Document :=
  match s.commandOutcome? v b with
  | some (.answered (.ok response)) => some response
  | _ => none

/-- The error that is answered for a body: that of its translation, of its dispatch, or of the shape
of the response. A message that a client may not send is not answered, nor is one that is no command
and waits for no reply. -/
def bodyError? (b : Body) : Option ServerError :=
  match commandOf b with
  | .error e => match b with
    | .reply _ | .compressed _ _ => none
    | b => if isDetached b then none else some e
  | .ok d => ((s.ready b).dispatchError? v d).or ((s.response? v b).bind (shapeError? b))

/-- The command that a body comes to. -/
def commandOf? (b : Body) : Option Command :=
  (commandOf b).toOption.bind fun d => (v.registry.parse d).toOption

/-- The cursor that is newly cached for a body. -/
def bodyOpened? (b : Body) : Option Int64 := (commandOf b).toOption.bind ((s.ready b).opened? v)

/-- The document of an error fits into every legacy reply. -/
theorem shapeError?_document (b : Body) (e : ServerError) : shapeError? b e.document = none := by
  -- the document of an error names no cursor, so it fits into every shape
  have hcursor : Legacy.cursorOf e.document = .ok none := by rw [Legacy.cursorOf, e.get?_cursor]
  cases b with
  | query q =>
    simp only [shapeError?]
    cases Legacy.queryCommand q with
    | error _ => rfl
    | ok t =>
      change errorOf? (Legacy.firstReply t.shape e.document) = none
      simp only [Legacy.firstReply, Legacy.commandReply, Legacy.findReply, Legacy.batchOf, hcursor,
        bind, Except.bind, pure, Except.pure]
      split
      · rfl
      · split <;> rfl
  | getMore g =>
    simp only [shapeError?, Legacy.batchOf, hcursor, bind, Except.bind, pure, Except.pure]
    split <;> rfl
  | _ => rfl

/-- `response?` is the response of the pipeline. -/
theorem response?_of_ok {b : Body} {d : Document} {response : Document} (hd : commandOf b = .ok d)
    (hr : (s.ready b).outcome? v d = some (.response response)) :
    s.response? v b = some response := by
  rw [response?, s.commandOutcome?_of_ok v hd, hr]
  rfl

/-- `response?` is none if the pipeline gives no response. -/
theorem response?_of_ne {b : Body} {d : Document} (hd : commandOf b = .ok d)
    (hr : ∀ response, (s.ready b).outcome? v d ≠ some (.response response)) :
    s.response? v b = none := by
  rw [response?, s.commandOutcome?_of_ok v hd]
  split
  · rename_i response hout
    exact absurd hout (hr response)
  · rfl

/-- `bodyError?` of a command is its `dispatchError?`, or else the `shapeError?` of its response. -/
theorem bodyError?_of_ok {b : Body} {d : Document} (hd : commandOf b = .ok d) :
    s.bodyError? v b = ((s.ready b).dispatchError? v d).or
      ((s.response? v b).bind (shapeError? b)) := by
  rw [bodyError?, hd]

/-- `legacyError` counts its error. -/
theorem grows_legacyError (e : ServerError) :
    s.shared.metrics.Grows (s.legacyError e).2.shared.metrics [] [] [e.code.name] [] [] :=
  .error _ e.code.name

/-- `legacyReply` counts the error, if there is no reply. -/
theorem grows_legacyReply (r : Except ServerError Wire.Reply × CursorCache) :
    s.shared.metrics.Grows (s.legacyReply r).2.shared.metrics [] []
      ((errorOf? r.1).toList.map (·.code.name)) [] [] := by
  obtain ⟨r | r, cursors⟩ := r
  · exact grows_legacyError _ r
  · exact .refl _

/-- `replyWith` after a `dispatch` counts the command, and the one error that is answered instead of
the response. -/
theorem grows_replyWith {b : Body} {d : Document} (hd : commandOf b = .ok d)
    {reply : Session σ → Document → Except ServerError Wire.Reply × CursorCache}
    (hshape : ∀ s' response, errorOf? (reply s' response).1 = shapeError? b response) :
    (s.ready b).shared.metrics.Grows (replyWith reply ((s.ready b).dispatch v d)).2.shared.metrics
      [] ((commandOf? v b).toList.map Command.name)
      ((s.bodyError? v b).toList.map (·.code.name)) (s.bodyOpened? v b).toList [] := by
  have hcommand : commandOf? v b = (v.registry.parse d).toOption := by rw [commandOf?, hd]; rfl
  have hopened : s.bodyOpened? v b = (s.ready b).opened? v d := by rw [bodyOpened?, hd]; rfl
  have hgrows := (s.ready b).grows_dispatch v d
  rw [hcommand, hopened, s.bodyError?_of_ok v hd]
  obtain ⟨ending, s', hdispatch⟩ : ∃ ending s', (s.ready b).dispatch v d = (ending, s') :=
    ⟨_, _, rfl⟩
  rw [hdispatch] at hgrows ⊢
  obtain ⟨e, he, hout, hend⟩ | ⟨response, he, hout, hend⟩ | ⟨he, hout, hend⟩ :=
    (s.ready b).dispatch_cases v d
  · -- the document of the error fits, so no other error follows
    rw [hdispatch] at hend
    obtain rfl : ending = .done e.document := hend
    have hreply := s'.grows_legacyReply (reply s' e.document)
    rw [hshape, shapeError?_document] at hreply
    rw [he] at hgrows
    rw [he, s.response?_of_ne v hd hout]
    simpa [replyWith] using hgrows.trans hreply
  · rw [hdispatch] at hend
    obtain rfl : ending = .done response := hend
    have hreply := s'.grows_legacyReply (reply s' response)
    rw [hshape] at hreply
    rw [he] at hgrows
    rw [he, s.response?_of_ok v hd hout]
    simpa [replyWith] using hgrows.trans hreply
  · rw [hdispatch] at hend
    rw [he] at hgrows
    rw [he, s.response?_of_ne v hd hout]
    cases ending with
    | done a => exact absurd rfl (hend a)
    | failed _ | crashed | stalled => exact hgrows

/-- `dispatch` alone counts what there is of a body whose response fits. -/
theorem grows_plain {b : Body} {d : Document} (hd : commandOf b = .ok d)
    (hshape : ∀ response, shapeError? b response = none) :
    (s.ready b).shared.metrics.Grows ((s.ready b).dispatch v d).2.shared.metrics []
      ((commandOf? v b).toList.map Command.name)
      ((s.bodyError? v b).toList.map (·.code.name)) (s.bodyOpened? v b).toList [] := by
  have hcommand : commandOf? v b = (v.registry.parse d).toOption := by rw [commandOf?, hd]; rfl
  have hopened : s.bodyOpened? v b = (s.ready b).opened? v d := by rw [bodyOpened?, hd]; rfl
  have herror : s.bodyError? v b = (s.ready b).dispatchError? v d := by
    rw [s.bodyError?_of_ok v hd, funext hshape]
    cases s.response? v b <;> simp
  rw [hcommand, hopened, herror]
  exact (s.ready b).grows_dispatch v d

/-- A body that `commandOf` refuses adds an error if that is answered, and nothing else. -/
theorem grows_refused {b : Body} {e : ServerError} (he : commandOf b = .error e) {m : Metrics}
    (hgrows : s.shared.metrics.Grows m [] [] ((s.bodyError? v b).toList.map (·.code.name)) [] []) :
    s.shared.metrics.Grows m [] ((commandOf? v b).toList.map Command.name)
      ((s.bodyError? v b).toList.map (·.code.name))
      (s.bodyOpened? v b).toList [] := by
  have hcommand : commandOf? v b = none := by rw [commandOf?, he]; rfl
  have hopened : s.bodyOpened? v b = none := by rw [bodyOpened?, he]; rfl
  rw [hcommand, hopened]
  exact hgrows

/-- `handleBody` counts the `commandOf?` of a body, its `bodyError?` and the cursor that is
`bodyOpened?`. -/
theorem grows_handleBody (b : Body) :
    s.shared.metrics.Grows (s.handleBody v b).2.shared.metrics []
      ((commandOf? v b).toList.map Command.name)
      ((s.bodyError? v b).toList.map (·.code.name)) (s.bodyOpened? v b).toList [] := by
  cases b with
  | msg m =>
    cases hmerge : Legacy.mergeSections m with
    | ok d =>
      have hgrows := s.grows_plain v (b := .msg m) hmerge fun _ => rfl
      simp only [handleBody, handleMsg, hmerge]
      cases m.flags.moreToCome <;> exact hgrows
    | error e =>
      -- an error about a message is counted if it is answered
      have hd : commandOf (.msg m) = .error e := hmerge
      refine s.grows_refused v hd ?_
      cases hmore : m.flags.moreToCome with
      | true =>
        simp only [handleBody, handleMsg, hmerge, hmore, bodyError?, hd, isDetached]
        exact .refl _
      | false =>
        simp only [handleBody, handleMsg, hmerge, hmore, bodyError?, hd, isDetached]
        exact .error _ e.code.name
  | query q =>
    rw [handleBody]
    cases ht : Legacy.queryCommand q with
    | error e =>
      have hd : commandOf (.query q) = .error e := by rw [commandOf, ht]; rfl
      refine s.grows_refused v hd ?_
      simp only [handleQuery, ht, bodyError?, hd]
      exact s.grows_legacyError e
    | ok t =>
      have hd : commandOf (.query q) = .ok t.command := by rw [commandOf, ht]; rfl
      -- the reply fails with the error of its shape, and with no other
      rw [s.handleQuery_of_command v ht]
      refine s.grows_replyWith v hd fun s' response => ?_
      rw [Legacy.fst_queryReply, shapeError?, ht]
      change _ = errorOf? (Legacy.firstReply t.shape response)
      cases Legacy.firstReply t.shape response <;> rfl
  | getMore g =>
    rw [handleBody]
    cases hg : Legacy.getMoreCommand g with
    | error e =>
      have hd : commandOf (.getMore g) = .error e := hg
      refine s.grows_refused v hd ?_
      simp only [handleGetMore, hg, bodyError?, hd]
      exact s.grows_legacyError e
    | ok d =>
      rw [s.handleGetMore_of_command v hg]
      refine s.grows_replyWith v (b := .getMore g) hg fun s' response => ?_
      rw [shapeError?, Legacy.getMoreReply]
      by_cases hok : isOk response = true
      · rw [if_neg (not_not_intro hok), if_pos hok]
        cases Legacy.batchOf response "nextBatch" <;> rfl
      · rw [if_pos hok, if_neg hok]
        rfl
  | killCursors k => exact s.grows_plain v (b := .killCursors k) rfl fun _ => rfl
  | reply r => exact .refl _
  | compressed c inner => exact .refl _

/-- `handle` counts the message besides, under its outermost opcode. -/
theorem grows_handle (m : Message) :
    s.shared.metrics.Grows (s.handle v m).2.shared.metrics [m.body.opcode.name]
      ((commandOf? v m.body.unwrap.2).toList.map Command.name)
      ((s.bodyError? v m.body.unwrap.2).toList.map (·.code.name))
      (s.bodyOpened? v m.body.unwrap.2).toList [] := by
  have hmetrics : (s.handle v m).2.shared.metrics =
      (s.handleBody v m.body.unwrap.2).2.shared.metrics.message m.body.opcode.name := by
    rw [s.handle_eq_conclude v (m := m) rfl]
    obtain ⟨(_ | _) | _ | _ | _, s'⟩ := s.handleBody v m.body.unwrap.2 <;> rfl
  rw [hmetrics]
  simpa using (s.grows_handleBody v m.body.unwrap.2).trans (.message _ m.body.opcode.name)

/-- The gateway answers for an error that came of a message. -/
structure AnswersFor (b : Body) (e : ServerError) : Prop where
  /-- The error is one of those that stand in the way of the response. -/
  fails : FailsWith v.registry (s.commandOutcome? v b) b e
  /-- Cancellation is not answered. -/
  not_cancelled : s.commandOutcome? v b ≠ some (.failure .cancelled)
  /-- Nor is a message that only a gateway sends: the connection ends with it. -/
  not_reply (r : Wire.Reply) : b ≠ .reply r
  /-- Nor is a message that is no command, if its sender waits for no reply. -/
  isCommand (hb : isDetached b = true) : ∃ d, commandOf b = .ok d

/-- `errorOf?` is the error that a result is. -/
theorem errorOf?_eq_some_iff {α : Type} {r : Except ServerError α} {e : ServerError} :
    errorOf? r = some e ↔ r = .error e := by
  cases r <;> simp [errorOf?]

/-- `shapeError?` is the error of the legacy reply to a query, or of the batch for a request for
more. -/
theorem shapeError?_eq_some_iff {b : Body} {response : Document} {e : ServerError} :
    shapeError? b response = some e ↔
      (∃ q t, b = .query q ∧ Legacy.queryCommand q = .ok t ∧
        Legacy.firstReply t.shape response = .error e) ∨
        ∃ g, b = .getMore g ∧ isOk response = true ∧
          Legacy.batchOf response "nextBatch" = .error e := by
  -- only queries and requests for more are answered in a shape of their own
  cases b with
  | query q =>
    simp only [shapeError?]
    cases ht : Legacy.queryCommand q with
    | error _ => simp [ht, Except.toOption]
    | ok t => simp [ht, Except.toOption, errorOf?_eq_some_iff]
  | getMore g =>
    simp only [shapeError?]
    split
    · rename_i hok
      simp [errorOf?_eq_some_iff, hok]
    · rename_i hok
      simp [hok]
  | _ => simp [shapeError?]

/-- A command `FailsWith` the error of the registry, that of the pipeline, or that of a response
that does not fit. -/
theorem failsWith_iff_of_ok {registry : CommandRegistry} {outcome? : Option Outcome} {b : Body}
    {d : Document} {e : ServerError} (hd : commandOf b = .ok d) :
    FailsWith registry outcome? b e ↔ registry.parse d = .error e ∨ outcome? = some (.failure e) ∨
        ∃ response, outcome? = some (.response response) ∧ shapeError? b response = some e := by
  constructor
  · intro h
    cases h with
    -- a body that is a command does not fail in its translation
    | translation he => cases hd.symm.trans he
    | parsing hd' he =>
      obtain rfl := Except.ok.inj (hd.symm.trans hd')
      exact .inl he
    | stage h => exact .inr (.inl h)
    | firstShape ht hr he =>
      exact .inr (.inr ⟨_, hr, shapeError?_eq_some_iff.mpr (.inl ⟨_, _, rfl, ht, he⟩)⟩)
    | nextShape hr hok he =>
      exact .inr (.inr ⟨_, hr, shapeError?_eq_some_iff.mpr (.inr ⟨_, rfl, hok, he⟩)⟩)
  · rintro (he | he | ⟨response, hr, he⟩)
    · exact .parsing hd he
    · exact .stage he
    · obtain ⟨q, t, rfl, ht, he⟩ | ⟨g, rfl, hok, he⟩ := shapeError?_eq_some_iff.mp he
      · exact .firstShape ht hr he
      · exact .nextShape hr hok he

/-- `bodyError?` is the error that the gateway `AnswersFor`. -/
theorem bodyError?_eq_some_iff {b : Body} (hb : ∀ c inner, b ≠ .compressed c inner)
    {e : ServerError} :
    s.bodyError? v b = some e ↔ s.AnswersFor v b e := by
  cases hd : commandOf b with
  | error e' =>
    have hout : s.commandOutcome? v b = none := by simp [commandOutcome?, hd, Except.toOption]
    -- what is no command fails with the error of its translation, and the question is whether that
    -- is answered
    have hanswers (hreply : ∀ r, b ≠ .reply r) (hdetached : isDetached b = false) : e' = e ↔
        s.AnswersFor v b e := by
      constructor
      · rintro rfl
        exact ⟨.translation hd, by simp [hout], hreply, by simp [hdetached]⟩
      · intro h
        have hfails := h.fails
        rw [hout] at hfails
        exact (hfails.eq_of_refused hd).symm
    rw [bodyError?, hd]
    cases b with
    | reply r => exact iff_of_false (by simp) fun h => h.not_reply r rfl
    | compressed c inner => exact absurd rfl (hb c inner)
    | msg m =>
      cases hm : isDetached (.msg m) with
      | true =>
        refine iff_of_false (by simp [hm]) fun h => ?_
        obtain ⟨d, hd'⟩ := h.isCommand hm
        cases hd'.symm.trans hd
      | false => simpa [hm] using hanswers (by simp) hm
    | query _ | getMore _ | killCursors _ => simpa [isDetached] using hanswers (by simp) rfl
  | ok d =>
    have hreply (r : Wire.Reply) : b ≠ .reply r := by rintro rfl; cases hd
    have hout := s.commandOutcome?_of_ok v hd
    -- a command is answered for unless it was cancelled
    have hanswers : s.AnswersFor v b e ↔ FailsWith v.registry (s.commandOutcome? v b) b e ∧
        s.commandOutcome? v b ≠ some (.failure .cancelled) :=
      ⟨fun h => ⟨h.fails, h.not_cancelled⟩, fun h => ⟨h.1, h.2, hreply, fun _ => ⟨d, hd⟩⟩⟩
    rw [hanswers, failsWith_iff_of_ok hd, s.bodyError?_of_ok v hd, dispatchError?, response?, hout]
    cases hp : v.registry.parse d with
    | error e' => simp [(s.ready b).outcome?_of_refused v hp]
    | ok command =>
      rw [(s.ready b).outcome?_of_parsed v hp]
      cases hend : ((s.ready b).passage v command).outcome with
      | answered a =>
        cases a with
        | ok response => simp [hend, Outcome.failure, Outcome.response]
        | error e' => cases e' <;> simp [hend, Outcome.failure, Outcome.response]
      | crashed => simp [hend, Outcome.failure, Outcome.response]
      | stalled => simp [hend, Outcome.failure, Outcome.response]

end Session

/-! ### Works -/

/-- Something that a gateway does: it handles a message in a session, or closes a cursor that has
expired. -/
inductive Work (σ : Type) where
  | message (s : Session σ) (m : Message)
  | closing (s : Shared σ) (id : Int64)

namespace Work

variable {σ : Type} (v : Service σ)

/-- The opcode of a message, which is that of its outermost envelope. -/
def opcode? : Work σ → Option Opcode
  | message _ m => some m.body.opcode
  | closing _ _ => none

/-- The command of a work: a document that was dispatched, and is in order. -/
def command? : Work σ → Option Command
  | message _ m => Session.commandOf? v m.body.unwrap.2
  | closing _ id => (v.registry.parse (Legacy.killCursorsCommand [id])).toOption

/-- The error that is made a document in a work. -/
def error? : Work σ → Option ServerError
  | message s m => s.bodyError? v m.body.unwrap.2
  | closing s id => s.closing.dispatchError? v (Legacy.killCursorsCommand [id])

/-- The cursor that is newly cached in a work. -/
def opened? : Work σ → Option Int64
  | message s m => s.bodyOpened? v m.body.unwrap.2
  | closing s id => s.closing.opened? v (Legacy.killCursorsCommand [id])

/-- The cursor that has expired. -/
def expired? : Work σ → Option Int64
  | message _ _ => none
  | closing _ id => some id

end Work

/-- Metrics come of others by some works. -/
def Counted {σ : Type} (v : Service σ) (works : List (Work σ)) (before after : Metrics) : Prop :=
  before.Grows after ((works.filterMap Work.opcode?).map Opcode.name)
    ((works.filterMap (·.command? v)).map Command.name)
    ((works.filterMap (·.error? v)).map (·.code.name)) (works.filterMap (·.opened? v))
    (works.filterMap Work.expired?)

namespace Counted

variable {σ : Type} {v : Service σ} {works works' : List (Work σ)} {m m' m'' : Metrics}

/-- `Counted` holds of no work at all, with the same counters. -/
theorem refl (m : Metrics) : Counted v [] m m := Metrics.Grows.refl m

/-- `Counted` holds of works one after another, with the counters of the first ones in between. -/
theorem append (h : Counted v works m m') (h' : Counted v works' m' m'') :
    Counted v (works ++ works') m m'' := by
  simpa [Counted] using Metrics.Grows.trans h h'

/-- `Counted` holds of one work in front of others. -/
theorem cons {work : Work σ} (h : Counted v [work] m m') (h' : Counted v works m' m'') :
    Counted v (work :: works) m m'' := h.append h'

/-- `Counted` holds of one work that adds what its opcode, its command, its error and its cursors
add. -/
theorem singleton {work : Work σ} (h : m.Grows m' (work.opcode?.toList.map Opcode.name)
      ((work.command? v).toList.map Command.name)
    ((work.error? v).toList.map (·.code.name)) (work.opened? v).toList work.expired?.toList) :
    Counted v [work] m m' := by
  have hsingleton {α : Type} (f : Work σ → Option α) : [work].filterMap f = (f work).toList := by
    rw [List.filterMap_cons, List.filterMap_nil]
    cases f work <;> rfl
  simp only [Counted, hsingleton]
  exact h

/-- `handle` is counted as the work that it is. -/
theorem message (s : Session σ) (m : Message) :
    Counted v [.message s m] s.shared.metrics (s.handle v m).2.shared.metrics :=
  singleton (s.grows_handle v m)

/-- `killExpired` is counted as the work that it is: the cursor, and then its command. -/
theorem closing (s : Shared σ) (id : Int64) :
    Counted v [.closing s id] s.metrics (s.killExpired v id).2.metrics := by
  have hmetrics : (s.killExpired v id).2.metrics =
      (s.closing.dispatch v (Legacy.killCursorsCommand [id])).2.shared.metrics := by
    rw [s.killExpired_eq v, Shared.afterKilling]
    split <;> rfl
  rw [hmetrics]
  exact singleton ((Metrics.Grows.cursorExpired s.metrics id).trans (s.closing.grows_dispatch v _))

end Counted

variable {σ : Type}

/-! ### Connections -/

/-- The messages that are handled of those that have arrived. -/
def handled (v : Service σ) : Nat → Session σ → Stream → List (Work σ)
  | 0, _, _ => []
  | n + 1, session, stream =>
    match stream.next with
    | (.ok (some m), stream) =>
      .message session m ::
        match session.handle v m with
        | (.done none, session) => handled v n session stream
        | (.done (some reply), session) =>
          match reply.encode with
          | .ok _ => handled v n session stream
          | .error _ => []
        | _ => []
    | _ => []

/-- `serveSome` is counted by the messages that are `handled`. -/
theorem counted_serveSome (v : Service σ) (n : Nat) (s : Session σ) (stream : Stream) :
    Counted v (handled v n s stream) s.shared.metrics
      (serveSome v n s stream).session.shared.metrics := by
  -- by induction on the messages that may still come
  induction n generalizing s stream with
  | zero => exact .refl _
  | succ n ih =>
    rw [handled, serveSome]
    obtain ⟨_ | _ | m, rest⟩ := stream.next
    · exact .refl _
    · exact .refl _
    · have hmessage := Counted.message (v := v) s m
      dsimp only
      rcases hhandle : s.handle v m with ⟨ending, s'⟩
      rw [hhandle] at hmessage
      cases ending with
      | done reply? =>
        cases reply? with
        | none => exact hmessage.cons (ih s' rest)
        | some reply =>
          dsimp only
          cases reply.encode with
          | ok bytes => exact hmessage.cons (ih s' rest)
          | error e => exact hmessage
      | _ => exact hmessage

/-! ### Expiry -/

namespace Shared

variable (v : Service σ)

/-- The cursors that are closed of those that have expired: all, unless one of the commands does not
end. -/
def closings (s : Shared σ) : List Int64 → List (Work σ)
  | [] => []
  | id :: ids =>
    .closing s id :: if (s.killExpired v id).1 then closings (s.killExpired v id).2 ids else []

/-- `killAllExpired` is counted by its `closings`. -/
theorem counted_killAllExpired (s : Shared σ) (ids : List Int64) :
    Counted v (s.closings v ids) s.metrics (s.killAllExpired v ids).2.metrics := by
  induction ids generalizing s with
  | nil => exact .refl _
  | cons id ids ih =>
    have hclosing := Counted.closing (v := v) s id
    rw [closings, killAllExpired_cons]
    cases (s.killExpired v id).1 with
    | true => exact hclosing.cons (ih _)
    | false => exact hclosing

/-- The `closings` take the cursors in the order in which they are given, and all of them if each
command ends. -/
theorem expired_closings (s : Shared σ) (ids : List Int64) :
    (s.closings v ids).filterMap Work.expired? <+: ids ∧
      ((s.killAllExpired v ids).1 = true → (s.closings v ids).filterMap Work.expired? = ids) := by
  -- by induction on the cursors: the first one that is not closed ends the list
  induction ids generalizing s with
  | nil => exact ⟨List.nil_prefix, fun _ => rfl⟩
  | cons id ids ih =>
    rw [closings, killAllExpired_cons]
    obtain ⟨hfirst, hall⟩ := ih (s.killExpired v id).2
    cases (s.killExpired v id).1 with
    | true =>
      simp only [List.filterMap_cons, Work.expired?, ↓reduceIte]
      exact ⟨(List.prefix_cons_inj id).mpr hfirst, fun hended => congrArg (id :: ·) (hall hended)⟩
    | false => exact ⟨(List.prefix_cons_inj id).mpr List.nil_prefix, nofun⟩

/-- What is done when the cursors are looked through. -/
def reapWorks (s : Shared σ) : List (Work σ) :=
  { s with cursors := (s.cursors.reapExpired s.now).2 }.closings v (s.cursors.reapExpired s.now).1

/-- `reap` is counted by its `reapWorks`. -/
theorem counted_reap (s : Shared σ) : Counted v (s.reapWorks v) s.metrics (s.reap v).2.metrics :=
  counted_killAllExpired v { s with cursors := (s.cursors.reapExpired s.now).2 } _

end Shared

end Gateway

/-! ### Gateways -/

namespace Gateway

variable {σ : Type} (g : Gateway σ)

/-- What a gateway does when something happens to it. -/
def works : Occurrence → List (Work σ)
  | .receive id bytes =>
    match g.connection? id with
    | none => []
    | some c =>
      let stream := c.stream.extend bytes
      if c.stalled then [] else handled g.service (stream.buffered + 1) ⟨c.client, g.shared⟩ stream
  | .reap => if g.reaping then g.shared.reapWorks g.service else []
  | _ => []

/-- What a gateway does while things happen one after another. -/
def worksOf (g : Gateway σ) : List Occurrence → List (Work σ)
  | [] => []
  | o :: occurrences => g.works o ++ (g.occur o).worksOf occurrences

/-- The service is that of another gateway, and nothing is counted between the two. -/
structure Unmoved (g g' : Gateway σ) : Prop where
  service : g'.service = g.service
  counted : Counted g.service [] g.shared.metrics g'.shared.metrics

variable {g} {g' : Gateway σ}

/-- A gateway is `Unmoved` if nothing happens. -/
theorem Unmoved.refl (g : Gateway σ) : g.Unmoved g := ⟨rfl, .refl _⟩

/-- To `forget` a connection counts nothing. -/
theorem Unmoved.forget (h : g.Unmoved g') (id : UInt64) : g.Unmoved (g'.forget id) := by
  have hdisconnect : Counted g.service [] g'.shared.metrics (g'.forget id).shared.metrics :=
    ⟨rfl, rfl, rfl, rfl, rfl⟩
  exact ⟨h.service, h.counted.append hdisconnect⟩

/-- `closeIdle` counts nothing. -/
theorem Unmoved.closeIdle (h : g.Unmoved g') : g.Unmoved g'.closeIdle := by
  refine List.foldlRecOn (motive := g.Unmoved) _ _ h fun g' h c _ => ?_
  rw [close]
  split
  · exact ⟨h.service, h.counted⟩
  · exact h.forget _

/-- `cancelAll` counts nothing. -/
theorem Unmoved.cancelAll (h : g.Unmoved g') : g.Unmoved g'.cancelAll :=
  List.foldlRecOn (motive := g.Unmoved) _ _ ⟨h.service, h.counted⟩ fun _ h c _ =>
    h.forget c.handle.id

/-- `drainWithin` counts nothing, however long it waits. -/
theorem Unmoved.drainWithin (h : g.Unmoved g') (n : Nat) (left : Option Nat) :
    g.Unmoved (drainWithin n left g').2 := by
  -- by induction on the looks at the connections, as in the definition
  induction n generalizing g' left with
  | zero => exact h
  | succ n ih =>
    have hwait (ms : Nat) : g.Unmoved (g'.closeIdle.wait ms) :=
      ⟨h.closeIdle.service, h.closeIdle.counted⟩
    cases left with
    | some ms =>
      simp only [Gateway.drainWithin]
      split
      · exact h.closeIdle
      · split
        · exact hwait ms
        · exact ih (hwait _) _
    | none =>
      simp only [Gateway.drainWithin]
      split
      · exact h.closeIdle
      · exact ih (hwait _) _

/-- `shutdown` counts nothing. -/
theorem Unmoved.shutdown (g : Gateway σ) (deadline : Option Nat) :
    g.Unmoved (g.shutdown deadline).2 := by
  have hclosed : g.Unmoved { g with ready := false } := ⟨rfl, .refl _⟩
  let looks := lookCount g.settings deadline
  have hdrained := hclosed.drainWithin looks deadline
  have hstopped : g.Unmoved
      { (Gateway.drainWithin looks deadline { g with ready := false }).2 with reaping := false } :=
    ⟨hdrained.service, hdrained.counted⟩
  -- whether all connections are gone by then decides if they are cancelled
  simp only [Gateway.shutdown]
  split
  · exact hstopped
  · split
    · exact hstopped.cancelAll
    · exact hdrained

/-- Whatever happens to a gateway, it counts its `works`, and keeps its service. -/
theorem counted_occur (g : Gateway σ) (o : Occurrence) :
    (g.occur o).service = g.service ∧
      Counted g.service (g.works o) g.shared.metrics (g.occur o).shared.metrics := by
  -- all but messages and the looking through of cursors counts nothing
  have hunmoved {g' : Gateway σ} (h : g.Unmoved g') : g'.service = g.service ∧
      Counted g.service [] g.shared.metrics g'.shared.metrics :=
    ⟨h.service, h.counted⟩
  cases o with
  | accept addr =>
    refine hunmoved ?_
    rw [occur, accept]
    split
    · exact .refl g
    · exact ⟨rfl, ⟨rfl, rfl, rfl, rfl, rfl⟩⟩
  | receive id bytes =>
    rw [occur, receive, works]
    cases g.connection? id with
    | none => exact ⟨rfl, .refl _⟩
    | some c =>
      cases hstalled : c.stalled with
      | true =>
        simp only [hstalled, ↓reduceIte]
        exact ⟨trivial, .refl _⟩
      | false =>
        -- however the serving ends, the connection is no part of what is counted
        have hserved :=
          counted_serveSome g.service ((c.stream.extend bytes).buffered + 1) ⟨c.client, g.shared⟩
            (c.stream.extend bytes)
        simp only [Bool.false_eq_true, ↓reduceIte, hstalled]
        split
        · exact ⟨rfl, hserved⟩
        · exact ⟨rfl, hserved⟩
        · exact ⟨rfl, ⟨hserved.messages, hserved.commands, hserved.errors, hserved.opened,
            hserved.expired⟩⟩
  | hangUp id =>
    refine hunmoved ?_
    rw [occur, hangUp]
    split
    · split
      · exact .refl g
      · exact (Unmoved.refl g).forget id
    · exact .refl g
  | reap =>
    rw [occur, reap, works]
    split
    · exact ⟨rfl, Shared.counted_reap g.service g.shared⟩
    · exact ⟨rfl, .refl _⟩
  | wait ms => exact ⟨rfl, .refl _⟩
  | shutdown deadline => exact hunmoved (.shutdown g deadline)

/-- `play` counts the `worksOf` all that happens. -/
theorem counted_play (g : Gateway σ) (occurrences : List Occurrence) :
    Counted g.service (g.worksOf occurrences) g.shared.metrics
      (g.play occurrences).shared.metrics := by
  induction occurrences generalizing g with
  | nil => exact .refl _
  | cons o occurrences ih =>
    obtain ⟨hservice, hcounted⟩ := g.counted_occur o
    have hrest := ih (g.occur o)
    rw [hservice] at hrest
    exact hcounted.append hrest

/-- The counters after some works, from those before. -/
structure IsCounted (v : Service σ) (works : List (Work σ)) (before after : Metrics) : Prop where
  /-- Each message that is handled is counted once, under the opcode of its outermost envelope. -/
  messages (o : Opcode) : after.messages.count o.name = before.messages.count o.name +
    works.countP fun w => w.opcode? = some o
  allMessages : after.messages.total = before.messages.total + works.countP fun w =>
    w.opcode?.isSome
  /-- Each command is counted once: a document that was dispatched and is in order. Names whose
  hashes agree are counted together. -/
  commands (name : String) : after.commands.count name =
    before.commands.count name + works.countP fun w => (w.command? v).any fun c =>
      sameSeries c.name name
  allCommands : after.commands.total = before.commands.total + works.countP fun w =>
    (w.command? v).isSome
  /-- An error that is made a document is counted once, under its code. There is one in a work at
  most. -/
  errors (c : ErrorCode) : after.errors.count c.name = before.errors.count c.name +
    works.countP fun w => (w.error? v).map ServerError.code = some c
  allErrors : after.errors.total = before.errors.total + works.countP fun w => (w.error? v).isSome
  /-- A cursor is counted when it is newly cached. -/
  opened : after.cursorsOpened = before.cursorsOpened + works.countP fun w => (w.opened? v).isSome
  /-- A cursor that has expired is counted when it is closed. -/
  expired : after.cursorsExpired = before.cursorsExpired + works.countP fun w => w.expired?.isSome

/-- A series has as many works as have a label in it. -/
theorem countP_labels {α : Type} (f : Work σ → Option α) (label : α → String)
    (works : List (Work σ)) (name : String) :
    ((works.filterMap f).map label).countP (sameSeries · name) = works.countP fun w =>
      (f w).any fun a => sameSeries (label a) name := by
  rw [List.countP_map, List.countP_filterMap]
  congr 1
  funext w
  cases f w <;> rfl

/-- What is `Counted` says how far each counter has gone up. -/
theorem isCounted {v : Service σ} {works : List (Work σ)} {m m' : Metrics}
    (h : Counted v works m m') : IsCounted v works m m' where
  messages o := by
    rw [h.messages, Tally.count_foldl, countP_labels]
    -- labels tell the kinds of messages apart
    congr 2
    funext w
    cases w.opcode? <;> simp [sameSeries_opcode]
  allMessages := by
    rw [h.messages, Tally.total_foldl, List.length_map, List.length_filterMap_eq_countP]
  commands name := by rw [h.commands, Tally.count_foldl, countP_labels]
  allCommands := by
    rw [h.commands, Tally.total_foldl, List.length_map, List.length_filterMap_eq_countP]
  errors c := by
    rw [h.errors, Tally.count_foldl, countP_labels]
    congr 2
    funext w
    cases w.error? v <;> simp [sameSeries_errorCode]
  allErrors := by rw [h.errors, Tally.total_foldl, List.length_map, List.length_filterMap_eq_countP]
  opened := by rw [h.opened, List.length_filterMap_eq_countP]
  expired := by rw [h.expired, List.length_filterMap_eq_countP]

/-- Whatever happens to a gateway, its counters tell what it has done (`IsCounted`). Each message is
counted once, and so is each command, and the error that the gateway answers for (`Work.error?`),
which is one for a message at most; what is not answered is not counted. Each cursor that is newly
cached is counted, and each that has expired, as far as its turn to be closed has come: all that
`reapExpired` reports, if the commands that close them end. -/
theorem isCounted_play (g : Gateway σ) (occurrences : List Occurrence) :
    IsCounted g.service (g.worksOf occurrences) g.shared.metrics
      (g.play occurrences).shared.metrics ∧
    (∀ (s : Session σ) (m : Message) (e : ServerError),
      (Work.message s m).error? g.service = some e ↔ s.AnswersFor g.service m.body.unwrap.2 e) ∧
    (∀ (s : Shared σ) (id : Int64) (e : ServerError),
      (Work.closing s id).error? g.service = some e ↔
      g.service.registry.parse (Legacy.killCursorsCommand [id]) = .error e ∨
        s.closing.outcome? g.service (Legacy.killCursorsCommand [id]) = some (.failure e) ∧
        e ≠ .cancelled) ∧
    ∀ s : Shared σ, (s.reapWorks g.service).filterMap Work.expired? <+:
      (s.cursors.reapExpired s.now).1 ∧
      ((s.reap g.service).1 = true → (s.reapWorks g.service).filterMap Work.expired? =
        (s.cursors.reapExpired s.now).1) := by
  refine ⟨isCounted (g.counted_play occurrences), fun s m e => ?_,
    fun s id e => s.closing.dispatchError?_eq_some_iff g.service, fun s => ?_⟩
  · exact s.bodyError?_eq_some_iff g.service fun c inner => unwrap_ne_compressed m.body inner c
  · exact Shared.expired_closings g.service _ _

end Gateway

end DocGateway
