import DocGateway.Proofs.Command.Kinds
import DocGateway.Proofs.Gateway.Replies
/-!
# Whether a cursor is exhausted

A client learns from the cursor of a legacy reply whether there is more, and the gateway from the
slot of the cursor. Both are taken from one response, but apart from each other. They agree whenever
the response names a cursor. If it names none, the client is told that the cursor is exhausted, and
the slot stays.

## Key results

- `kind_of_findQuery`, `cursorId?_of_getMoreCommand`: legacy requests become the commands that the
  cache follows
- `handleGetMore_of_succeeds`, `handleQuery_of_succeeds`: the reply and the cache after a request
  whose command succeeds
- `exhausted_iff_removed`: when the reply and the cache agree
- `exhausted_and_cached`: a response with which they do not
-/

namespace DocGateway

open Bson (Document Value)

/-! ### Commands of legacy requests -/

/-- `insert` leaves the first key of a document that has one. -/
theorem Bson.Document.firstKey?_insert (d : Document) (f : String × Value) (key : String)
    (v : Value) :
    Document.firstKey? (Document.insert (f :: d) key v) = some f.1 := by
  obtain ⟨k, w⟩ := f
  simp only [Document.insert]
  split <;> rfl

/-- `insertAll` leaves the first key of a document that has one. -/
theorem Bson.Document.firstKey?_insertAll (d e : Document) (f : String × Value) :
    Document.firstKey? (Document.insertAll (f :: d) e) = some f.1 := by
  induction e generalizing d f with
  | nil => rfl
  | cons g e ih =>
    have hinsert : Document.insertAll (f :: d) (g :: e) =
        Document.insertAll (Document.insert (f :: d) g.1 g.2) e := rfl
    -- the document stays one that starts with a field
    obtain ⟨f', d', hd⟩ : ∃ f' d', Document.insert (f :: d) g.1 g.2 = f' :: d' := by
      obtain ⟨k, w⟩ := f
      simp only [Document.insert]
      split <;> exact ⟨_, _, rfl⟩
    have hkey := Document.firstKey?_insert d f g.1 g.2
    rw [hd] at hkey
    rw [hinsert, hd, ih d' f']
    exact hkey

namespace Legacy

/-- `getMoreCommand` makes a `getMore` of the cursor that the request names. -/
theorem cursorId?_of_getMoreCommand {registry : CommandRegistry} {g : Wire.GetMore} {d : Document}
    {command : Command} (hd : getMoreCommand g = .ok d) (hp : registry.parse d = .ok command) :
    command.kind = .getMore ∧ command.cursorId? = some g.cursorId := by
  obtain ⟨hdocument, name, hname, hkind⟩ := registry.kindOf_of_parse hp
  simp only [getMoreCommand, bind, Except.bind] at hd
  split at hd
  · cases hd
  · cases hd
    cases hname
    have hgetMore : command.kind = .getMore := (Except.ok.inj hkind).symm
    refine ⟨hgetMore, ?_⟩
    rw [Command.cursorId?, hgetMore, hdocument]
    rfl

/-- `commandQuery` makes no find query. -/
theorem shape_commandQuery {q : Wire.Query} {db : String} {c : QueryCommand}
    (h : commandQuery q db = .ok c) :
    c.shape ≠ .find := by
  simp only [commandQuery, bind, Except.bind] at h
  split at h
  · cases h
  · cases h
    nofun

/-- `findQuery` makes a command whose first key is `find`. -/
theorem firstKey?_findQuery {q : Wire.Query} {db coll : String} {c : QueryCommand}
    (h : findQuery q db coll = .ok c)
    (hc : c.shape = .find) : c.command.firstKey? = some "find" := by
  simp only [findQuery, bind, Except.bind] at h
  split at h
  · cases h
  · split at h
    · cases h
    · split at h
      · cases h
        cases hc
      · cases h
        exact Document.firstKey?_insertAll _ _ _

/-- A query of the shape `find` is a `find` command. -/
theorem kind_of_findQuery {registry : CommandRegistry} {q : Wire.Query} {c : QueryCommand}
    {command : Command} (hq : queryCommand q = .ok c) (hc : c.shape = .find)
    (hp : registry.parse c.command = .ok command) :
    command.kind = .find := by
  obtain ⟨-, name, hname, hkind⟩ := registry.kindOf_of_parse hp
  -- of all commands that queries become, only `find` has a reply of that shape
  have hfirst : c.command.firstKey? = some "find" := by
    simp only [queryCommand, bind, Except.bind] at hq
    split at hq
    · cases hq
    · split at hq
      · exact absurd hc (shape_commandQuery hq)
      · split at hq
        · cases hq
        · exact firstKey?_findQuery hq hc
  rw [hfirst] at hname
  cases hname
  exact (Except.ok.inj hkind).symm

end Legacy

namespace Gateway

open Wire (Body Message)

/-- The cursor that a legacy reply tells its client of, if that is how the handling of a message
ends. -/
def toldCursor? (ending : Ending (Option Message)) : Option Int64 :=
  ending.answer?.bind fun message =>
    match message.body.unwrap.2 with
    | .reply reply => some reply.cursorId
    | _ => none

namespace Session

variable {σ : Type} (v : Service σ) (s : Session σ)

/-- The cache as stages leave it behind the command of a body. -/
def leftCursors (b : Body) : CursorCache :=
  match (commandOf b).toOption.bind fun d => (v.registry.parse d).toOption with
  | some command => ((s.ready b).passage v command).scene.cursors
  | none => s.shared.cursors

/-- The command of a body succeeds with a response, and no stage rewrites the command. -/
structure Succeeds (b : Body) (response : Document) : Prop where
  outcome : s.commandOutcome? v b = some (.response response)
  isOk : isOk response = true
  unchanged {d : Document} {command : Command} (hd : commandOf b = .ok d)
    (hp : v.registry.parse d = .ok command) :
    ((s.ready b).passage v command).scene.request.command = command

variable {v s}

/-- `Succeeds` does not depend on what is counted. -/
theorem Succeeds.count {b : Body} {response : Document} (h : s.Succeeds v b response)
    (f : Metrics → Metrics) :
    (s.count f).Succeeds v b response where
  outcome := by rw [commandOutcome?_count, h.outcome]
  isOk := h.isOk
  unchanged hd hp := by cases b <;> exact h.unchanged hd hp

/-- `dispatch` of a command that `Succeeds` tracks its response in the cache that the stages
leave. -/
theorem Succeeds.dispatch {b : Body} {response : Document} (h : s.Succeeds v b response) :
    ∃ d command, commandOf b = .ok d ∧ v.registry.parse d = .ok command ∧
      (s.ready b).dispatch v d =
        (.done response, ((s.ready b).passed v command).track command response) ∧
      ((s.ready b).passed v command).shared.cursors = s.leftCursors v b := by
  have ho := h.outcome
  cases hd : commandOf b with
  | error e => simp [commandOutcome?, hd, Except.toOption] at ho
  | ok d =>
    rw [s.commandOutcome?_of_ok v hd] at ho
    -- a command that is refused has no response
    cases hp : v.registry.parse d with
    | error e => simp [(s.ready b).outcome?_of_refused v hp] at ho
    | ok command =>
      rw [(s.ready b).outcome?_of_parsed v hp, Option.some.injEq] at ho
      refine ⟨d, command, rfl, hp, ?_, ?_⟩
      · rw [(s.ready b).dispatch_of_response v hp ho, h.unchanged hd hp]
      · simp only [leftCursors, hd, Except.toOption, Option.bind_some, hp]
        rfl

/-- `handleGetMore` of a command that `Succeeds` replies with the cursor that the response names, or
with none, and the cache is as the response leaves it. -/
theorem handleGetMore_of_succeeds {g : Wire.GetMore} {response : Document}
    (h : s.Succeeds v (.getMore g) response) (hid : g.cursorId ≠ exhaustedCursor) {id : Int64}
    {batch : Option (List Document)} (hb : Legacy.batchOf response "nextBatch" = .ok (id, batch)) :
    ∃ reply, (s.handleGetMore v g).1 = .done (some (.reply reply)) ∧
      reply.cursorId = (respondedCursor? response).getD exhaustedCursor ∧
      (respondedCursor? response = none →
        (s.handleGetMore v g).2.shared.cursors.contains g.cursorId =
        (s.leftCursors v (.getMore g)).contains g.cursorId) ∧
      (respondedCursor? response = some exhaustedCursor →
        (s.handleGetMore v g).2.shared.cursors.contains g.cursorId = false) ∧
      (respondedCursor? response = some g.cursorId →
        (s.handleGetMore v g).2.shared.cursors.contains g.cursorId = true) := by
  obtain ⟨d, command, hd, hp, hdispatch, hleft⟩ := h.dispatch
  obtain ⟨hkind, hcursor⟩ := Legacy.cursorId?_of_getMoreCommand hd hp
  obtain ⟨s', hs'⟩ : ∃ s', s' = ((s.ready (.getMore g)).passed v command).track command response :=
    ⟨_, rfl⟩
  have hnotKill : command.kind ≠ .killCursors := by rw [hkind]; rintro ⟨⟩
  have htracked : s'.shared.cursors =
      ((s.leftCursors v (.getMore g)).track ((s.ready (.getMore g)).passed v command).shared.now
        command response).2 := by
    rw [hs', cursors_track, hleft]
  rw [← hs', ready] at hdispatch
  have hhandle : s.handleGetMore v g = s'.legacyReply (Legacy.getMoreReply s'.shared.cursors
      (s.shared.cursors.get s.shared.now g.cursorId).1 response) := by
    have hd' : Legacy.getMoreCommand g = .ok d := hd
    simp only [handleGetMore, hd', hdispatch]
  rw [hhandle, Legacy.getMoreReply_of_batch _ _ h.isOk hb]
  -- counting the documents of the reply leaves all slots as they are
  refine ⟨_, rfl, Legacy.id_batchOf hb, fun hnone => ?_, fun hexhausted => ?_, fun hnamed => ?_⟩ <;>
    change s'.shared.cursors.contains g.cursorId = _ <;> rw [htracked]
  · rw [CursorCache.track_of_unnamed _ _ hnotKill hnone]
  · rw [CursorCache.track_of_exhausted _ _ h.isOk hnotKill hexhausted, hcursor]
    exact CursorCache.contains_close_self _ _
  · rw [CursorCache.track_of_named _ _ h.isOk hnotKill hnamed hid]
    exact CursorCache.contains_get _ _ hid

/-- `legacyReply` leaves the cache that comes with the reply. -/
theorem cursors_legacyReply (s : Session σ) (r : Except ServerError Wire.Reply × CursorCache) :
    (s.legacyReply r).2.shared.cursors = r.2 := by
  obtain ⟨r | r, cursors⟩ := r <;> rfl

/-- `handleQuery` of a find query that `Succeeds` leaves the cursor of its reply cached. -/
theorem handleQuery_of_succeeds {q : Wire.Query} {t : Legacy.QueryCommand} {response : Document}
    (h : s.Succeeds v (.query q) response) (hq : Legacy.queryCommand q = .ok t)
    (ht : t.shape = .find) :
    ∃ reply, (s.handleQuery v q).1 = .done (some (.reply reply)) ∧
      (reply.cursorId ≠ exhaustedCursor →
        (s.handleQuery v q).2.shared.cursors.contains reply.cursorId = true) := by
  obtain ⟨d, command, hd, hp, hdispatch, -⟩ := h.dispatch
  obtain rfl : t.command = d := by
    simpa only [commandOf, hq, Except.map, Except.ok.injEq] using hd
  have hkind := Legacy.kind_of_findQuery hq ht hp
  have hnotKill : command.kind ≠ .killCursors := by rw [hkind]; rintro ⟨⟩
  obtain ⟨s', hs'⟩ : ∃ s', s' = ((s.ready (.query q)).passed v command).track command response :=
    ⟨_, rfl⟩
  rw [← hs'] at hdispatch
  change s.dispatch v t.command = _ at hdispatch
  have hhandle : s.handleQuery v q =
      s'.legacyReply (Legacy.queryReply s'.shared.cursors s'.shared.now t.shape response) := by
    simp only [handleQuery, hq, hdispatch]
  rw [hhandle, ending_legacyReply, cursors_legacyReply, Legacy.fst_queryReply, ht]
  refine ⟨_, rfl, fun hid => ?_⟩
  cases hfirst : Legacy.firstReply .find response with
  | error e =>
    -- the reply is one of failure, and that has no cursor
    rw [hfirst] at hid
    exact absurd rfl hid
  | ok first =>
    rw [hfirst] at hid
    -- the response names the cursor, and so the cache has looked it up
    have hnamed := Legacy.cursorId_of_firstReply_find hfirst hid
    refine Legacy.contains_queryReply _ ?_
    rw [hs', cursors_track, CursorCache.track_of_named _ _ h.isOk hnotKill hnamed hid]
    exact CursorCache.contains_get _ _ hid

variable (v s)

/-! ### Messages -/

/-- `leftCursors` does not depend on what is counted. -/
@[simp] theorem leftCursors_count (f : Metrics → Metrics) (b : Body) :
    (s.count f).leftCursors v b = s.leftCursors v b := by
  cases b <;> rfl

/-- `handle` tells the client of the cursor of the legacy reply, and leaves the cache as
`handleBody` does. -/
theorem handle_of_legacyReply {m : Message} {b : Body} {reply : Wire.Reply}
    (hm : m.body.unwrap.2 = b)
    (h : ((s.count (·.message m.body.opcode.name)).handleBody v b).1 =
      .done (some (.reply reply))) :
    toldCursor? (s.handle v m).1 = some reply.cursorId ∧ (s.handle v m).2.shared.cursors =
      ((s.count (·.message m.body.opcode.name)).handleBody v b).2.shared.cursors := by
  subst hm
  rw [s.handle_of_reply v (Prod.ext h rfl)]
  refine ⟨?_, rfl⟩
  simp only [toldCursor?, Ending.answer?, Option.bind_some,
    unwrap_wrap m.body.unwrap.1 (b := .reply reply) nofun]

end Session

/-- After a successful response that names the cursor or an exhausted one, the legacy reply of
`handle` to a request for more tells of the `exhaustedCursor` exactly if the cache has no such
cursor any more. If the response names none, the reply tells of the `exhaustedCursor` too, but the
cursor stays cached as it was. A reply to a find query that tells of a cursor with more leaves it
cached. -/
theorem exhausted_iff_removed {σ : Type} (v : Service σ) (s : Session σ) (m : Message) :
    (∀ g response, m.body.unwrap.2 = .getMore g → g.cursorId ≠ exhaustedCursor →
      s.Succeeds v (.getMore g) response →
      ∀ id batch, Legacy.batchOf response "nextBatch" = .ok (id, batch) →
      ∃ told, toldCursor? (s.handle v m).1 = some told ∧
        (∀ named, respondedCursor? response = some named → named = exhaustedCursor ∨
          named = g.cursorId →
          (told = exhaustedCursor ↔ (s.handle v m).2.shared.cursors.contains g.cursorId = false)) ∧
        (respondedCursor? response = none → told = exhaustedCursor ∧
          (s.handle v m).2.shared.cursors.contains g.cursorId =
            (s.leftCursors v (.getMore g)).contains g.cursorId)) ∧
    ∀ q t response told, m.body.unwrap.2 = .query q → Legacy.queryCommand q = .ok t →
    t.shape = .find →
      s.Succeeds v (.query q) response → toldCursor? (s.handle v m).1 = some told →
      told ≠ exhaustedCursor →
        (s.handle v m).2.shared.cursors.contains told = true := by
  refine ⟨fun g response hm hid h id batch hb => ?_, fun q t response told hm hq ht h htold hid =>
    ?_⟩
  -- the reply and the cache are those of the body, with the message counted before
  · obtain ⟨reply, hend, htells, hunnamed, hexhausted, hnamed⟩ :=
      Session.handleGetMore_of_succeeds (h.count _) hid hb
    obtain ⟨hclient, hcursors⟩ := s.handle_of_legacyReply v hm hend
    simp only [Session.handleBody] at hcursors
    refine ⟨_, hclient, fun named hresponse hsame => ?_, fun hresponse => ?_⟩ <;>
      rw [hcursors, htells, hresponse]
    · obtain rfl | rfl := hsame
      · exact iff_of_true rfl (hexhausted hresponse)
      · exact iff_of_false hid (by rw [hnamed hresponse]; decide)
    · exact ⟨rfl, (hunnamed hresponse).trans (by rw [Session.leftCursors_count])⟩
  · obtain ⟨reply, hend, hcached⟩ := Session.handleQuery_of_succeeds (h.count _) hq ht
    obtain ⟨hclient, hcursors⟩ := s.handle_of_legacyReply v hm hend
    simp only [Session.handleBody] at hcursors
    obtain rfl : reply.cursorId = told := Option.some.inj (hclient.symm.trans htold)
    rw [hcursors]
    exact hcached hid

/-- A service without stages that gives one answer to everything. -/
def answering (response : Document) : Service Unit where
  registry := .standard
  pipeline := ⟨[], fun s => (.response response, s)⟩

/-- A client of a gateway that has just started. -/
def newcomer : Session Unit := ⟨.connected none, .start 600 ⟨"internal", "root", ["root"]⟩ ()⟩

/-- Whatever `answering` responds is the response to the command that came. -/
theorem succeeds_answering (s : Session Unit) {b : Body} {response : Document}
    (hok : isOk response = true)
    (ho : s.commandOutcome? (answering response) b = some (.response response)) :
    s.Succeeds (answering response) b response where
  outcome := ho
  isOk := hok
  unchanged _ _ := by
    simp only [Session.passage, Pipeline.run, Passage.run, answering]
    split <;> rfl

/-- A request for more of cursor 7. -/
def moreOfSeven : Message := ⟨1, 0, .getMore ⟨0, "db.c", 0, 7⟩⟩

/-- A response that names the cursor again: whether the reply tells of the `exhaustedCursor` depends
on the cache. -/
theorem exhausted_iff_removed_continued :
    let response : Document :=
      [("ok", .int32 1), ("cursor", .document [("id", .int64 7), ("nextBatch", .array [])])]
    let handled := newcomer.handle (answering response) moreOfSeven
    newcomer.Succeeds (answering response) moreOfSeven.body response ∧
      respondedCursor? response = some 7 ∧
      ∃ told, toldCursor? handled.1 = some told ∧
      (told = exhaustedCursor ↔ handled.2.shared.cursors.contains 7 = false) := by
  intro response handled
  have hsucceeds : newcomer.Succeeds (answering response) moreOfSeven.body response :=
    succeeds_answering _ rfl rfl
  obtain ⟨told, htold, hiff, -⟩ :=
    (exhausted_iff_removed (answering response) newcomer moreOfSeven).1 ⟨0, "db.c", 0, 7⟩ response
      rfl (by decide) hsucceeds 7 (some []) rfl
  exact ⟨hsucceeds, rfl, told, htold, hiff 7 rfl (.inr rfl)⟩

/-- A response that names no cursor: the reply tells of the `exhaustedCursor`, but the cursor stays
cached. -/
theorem exhausted_and_cached :
    let response : Document := [("ok", .int32 1)]
    let handled := newcomer.handle (answering response) moreOfSeven
    newcomer.Succeeds (answering response) moreOfSeven.body response ∧
      respondedCursor? response = none ∧
      toldCursor? handled.1 = some exhaustedCursor ∧ handled.2.shared.cursors.contains 7 = true :=
  ⟨succeeds_answering _ rfl rfl, rfl, rfl, rfl⟩

end Gateway

end DocGateway
