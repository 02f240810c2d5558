import DocGateway.Proofs.Cursor.Views
import DocGateway.Proofs.Gateway.Exhaustion
import DocGateway.Proofs.Gateway.Provenance
import Mathlib.Logic.Basic
/-!
# What messages do to the numbers of cursors

If the pipeline leaves the cursors to the gateway, then the response to a command can only close
cursors, and the legacy reply that is made of the response can only count what it holds. So all that
a message does to the cache, as far as a client can ever be told of it, is to set the numbers of
some cursors back to nothing, and to add to the number of one.

## Key results

- `cursors_dispatch`: the cache follows the response, and nothing else happens to it
- `sent_dispatch`, `sent_handleBody`: numbers after a command, and after a message
- `labelled_handleBody`: slots go on to lead to entries of their cursors
-/

namespace DocGateway

open Bson (Document)
open Wire (Body Message)

/-- A scene has the cache of another, and a command that names the same cursors. -/
structure Scene.KeepsCursors {σ : Type} (t s : Scene σ) : Prop where
  cursors : t.cursors = s.cursors
  cursorId? : t.request.command.cursorId? = s.request.command.cursorId?
  cursorIds : t.request.command.cursorIds = s.request.command.cursorIds

/-- A pipeline does nothing to the cursor cache, and does not change which cursors a command
names. -/
def Pipeline.LeavesCursors {σ : Type} (p : Pipeline σ) : Prop :=
  ∀ (cancelled : Cancellation) (scene : Scene σ), (p.run cancelled scene).scene.KeepsCursors scene

namespace Legacy

/-- The number of documents that a response adds to the cursor of a request for more. -/
def nextCount (response : Document) : Nat :=
  if isOk response then
    match batchOf response "nextBatch" with
    | .ok (_, batch) => (batch.getD []).length
    | .error _ => 0
  else 0

/-- `getMoreReply` counts the documents of the batch at the entry that was looked up. -/
theorem snd_getMoreReply (c : CursorCache) (h : CursorHandle) (response : Document) :
    (getMoreReply c h response).2 = c.consume h (nextCount response) := by
  rw [nextCount]
  -- only the batch of a successful response is counted
  cases hok : isOk response with
  | false =>
    rw [getMoreReply_of_failed c h hok]
    exact (c.consume_zero h).symm
  | true =>
    cases hbatch : batchOf response "nextBatch" with
    | error e =>
      rw [getMoreReply_of_error c h hok hbatch]
      exact (c.consume_zero h).symm
    | ok next =>
      obtain ⟨id, batch⟩ := next
      rw [getMoreReply_of_batch c h hok hbatch]
      rfl

end Legacy

namespace Gateway

/-- A body names a cursor: as a request for more, or in the command that it comes to. -/
def Names (registry : CommandRegistry) (b : Body) (id : Int64) : Prop :=
  (∃ g, b = .getMore g ∧ g.cursorId = id) ∨
    ∃ d command, commandOf b = .ok d ∧ registry.parse d = .ok command ∧
    (command.cursorId? = some id ∨ id ∈ command.cursorIds)

/-- What is counted for a body whose command was answered with a document: what a first batch takes,
or what a next batch holds if the cursor was not closed with it. -/
def counted (b : Body) (closed : List Int64) (ending : Ending Document) (id : Int64) : Nat :=
  match b, ending with
  | .query q, .done answer =>
    match (Legacy.queryCommand q).toOption.bind fun t => Legacy.taken? t.shape answer with
    | some (cursor, n) => if id = cursor then n else 0
    | none => 0
  | .getMore g, .done answer => if id = g.cursorId ∧ id ∉ closed then Legacy.nextCount answer else 0
  | _, _ => 0

/-- Nothing is counted for an OP_MSG. -/
@[simp] theorem counted_msg (m : Wire.Msg) (closed : List Int64) (ending : Ending Document)
    (id : Int64) :
    counted (.msg m) closed ending id = 0 := by
  cases ending <;> rfl

/-- Nothing is counted for an OP_KILL_CURSORS. -/
@[simp] theorem counted_killCursors (k : Wire.KillCursors) (closed : List Int64)
    (ending : Ending Document) (id : Int64) :
    counted (.killCursors k) closed ending id = 0 := by
  cases ending <;> rfl

namespace Session

variable {σ : Type} (v : Service σ) (s : Session σ) {id : Int64}

/-! ### Commands -/

/-- The command in a document, with the response to it if there is one. -/
def responded? (d : Document) : Option (Command × Document) :=
  match v.registry.parse d with
  | .error _ => none
  | .ok command =>
    match (s.passage v command).outcome with
    | .answered (.ok response) => some (command, response)
    | _ => none

/-- The cursors that are closed for the response to a document. -/
def closed (d : Document) : List Int64 :=
  match s.responded? v d with
  | some (command, response) => CursorCache.closedBy command response
  | none => []

/-- `responded?` is a command of the registry with the response of the pipeline. -/
theorem responded?_eq_some {d : Document} {command : Command} {response : Document}
    (h : s.responded? v d = some (command, response)) :
    v.registry.parse d = .ok command ∧ s.outcome? v d = some (.response response) := by
  rw [responded?] at h
  split at h
  · cases h
  · rename_i parsed hp
    split at h
    · rename_i hout
      cases h
      exact ⟨hp, (s.outcome?_of_parsed v hp).trans (congrArg some hout)⟩
    · cases h

/-- `dispatch` ends with the document of an error, or with the response. -/
theorem answer_of_done {d answer : Document} (h : (s.dispatch v d).1 = .done answer) :
    (∃ e : ServerError, answer = e.document) ∨ s.outcome? v d = some (.response answer) := by
  cases hp : v.registry.parse d with
  | error e =>
    rw [s.dispatch_of_refused v hp] at h
    cases h
    exact .inl ⟨e, rfl⟩
  | ok command =>
    rw [s.ending_dispatch v (s.outcome?_of_parsed v hp)] at h
    rw [s.outcome?_of_parsed v hp]
    cases hout : (s.passage v command).outcome with
    | answered a =>
      rw [hout] at h
      cases a with
      | ok response =>
        cases h
        exact .inr rfl
      | error e =>
        -- a cancelled command does not end with a document
        refine .inl ⟨e, ?_⟩
        cases e <;> cases h <;> rfl
    | crashed =>
      rw [hout] at h
      cases h
    | stalled =>
      rw [hout] at h
      cases h

variable {v}

/-- `dispatch` does to the cache what `track` does for the response, and nothing if there is
none. -/
theorem cursors_dispatch (hv : v.pipeline.LeavesCursors) (d : Document) :
    (∃ command response, s.closed v d = CursorCache.closedBy command response ∧
        (s.dispatch v d).2.shared.cursors =
          (s.shared.cursors.track s.shared.now command response).2) ∨
      s.closed v d = [] ∧ (s.dispatch v d).2.shared.cursors = s.shared.cursors := by
  cases hp : v.registry.parse d with
  | error e =>
    rw [s.dispatch_of_refused v hp]
    exact .inr ⟨by simp only [closed, responded?, hp], rfl⟩
  | ok command =>
    have hkeeps : (s.passage v command).scene.KeepsCursors (s.scene command) :=
      hv s.shared.cancelled (s.scene command)
    have hpassed : (s.passed v command).shared.cursors = s.shared.cursors := hkeeps.cursors
    rw [s.dispatch_of_parsed v hp, settle]
    cases hout : (s.passage v command).outcome with
    | answered a =>
      cases a with
      | ok response =>
        -- what comes out of the pipeline may be another command, but it names the same cursors
        have hid : (s.passage v command).scene.request.command.cursorId? = command.cursorId? :=
          hkeeps.cursorId?
        have hids : (s.passage v command).scene.request.command.cursorIds = command.cursorIds :=
          hkeeps.cursorIds
        refine .inl ⟨(s.passage v command).scene.request.command, response, ?_, ?_⟩
        · simp only [closed, responded?, hp, hout, CursorCache.closedBy, hid, hids]
        · simp only [cursors_track, hpassed]
          rfl
      | error e =>
        refine .inr ⟨by simp only [closed, responded?, hp, hout], ?_⟩
        cases e <;> exact hpassed
    | crashed => exact .inr ⟨by simp only [closed, responded?, hp, hout], hpassed⟩
    | stalled => exact .inr ⟨by simp only [closed, responded?, hp, hout], hpassed⟩

/-- `Labelled` is kept by `dispatch`. -/
theorem labelled_dispatch (hv : v.pipeline.LeavesCursors) (hc : s.shared.cursors.Labelled)
    (d : Document) :
    (s.dispatch v d).2.shared.cursors.Labelled := by
  obtain ⟨command, response, -, hcursors⟩ | ⟨-, hcursors⟩ := s.cursors_dispatch hv d
  · exact hcursors ▸ hc.track _ _ _
  · exact hcursors ▸ hc

/-- `dispatch` sets the numbers of the `closed` cursors back to nothing, and leaves all others. -/
theorem sent_dispatch (hv : v.pipeline.LeavesCursors) (hc : s.shared.cursors.Labelled)
    (d : Document) (id : Int64) :
    (s.dispatch v d).2.shared.cursors.sent id =
      if id ∈ s.closed v d then 0 else s.shared.cursors.sent id := by
  obtain ⟨command, response, hclosed, hcursors⟩ | ⟨hclosed, hcursors⟩ := s.cursors_dispatch hv d
  · rw [hcursors, hclosed, CursorCache.sent_track _ hc]
  · simp [hcursors, hclosed]

/-- `dispatch` adds nothing to the count of any entry. -/
theorem consumed_dispatch (hv : v.pipeline.LeavesCursors) (d : Document) (h : CursorHandle) :
    (s.dispatch v d).2.shared.cursors.consumed h = s.shared.cursors.consumed h := by
  obtain ⟨command, response, -, hcursors⟩ | ⟨-, hcursors⟩ := s.cursors_dispatch hv d
  · rw [hcursors, CursorCache.consumed_track]
  · rw [hcursors]

/-- `Holds` is kept by `dispatch` for a cursor that is cached: it keeps its entry, or is closed. -/
theorem holds_dispatch (hv : v.pipeline.LeavesCursors) {h : CursorHandle}
    (hh : s.shared.cursors.Holds h id)
    (hcached : id = exhaustedCursor ∨ s.shared.cursors.contains id = true) (d : Document) :
    (s.dispatch v d).2.shared.cursors.Holds h id := by
  obtain ⟨command, response, -, hcursors⟩ | ⟨-, hcursors⟩ := s.cursors_dispatch hv d
  · exact hcursors ▸ hh.track _ hcached _ _
  · exact hcursors ▸ hh

/-- `dispatch` leaves a cursor cached that is not `closed`. -/
theorem contains_dispatch (hv : v.pipeline.LeavesCursors)
    (hcached : s.shared.cursors.contains id = true) (d : Document) :
    (s.dispatch v d).2.shared.cursors.contains id = decide (id ∉ s.closed v d) := by
  obtain ⟨command, response, hclosed, hcursors⟩ | ⟨hclosed, hcursors⟩ := s.cursors_dispatch hv d
  · rw [hcursors, hclosed, CursorCache.contains_track _ hcached]
  · simpa [hcursors, hclosed] using hcached

/-! ### Bodies -/

variable (v) in
/-- The cursors that are closed for a body. -/
def bodyClosed (b : Body) : List Int64 :=
  match commandOf b with
  | .ok d => (s.ready b).closed v d
  | .error _ => []

variable (v) in
/-- What a body adds to the number of a cursor. -/
def bodyCounted (b : Body) (id : Int64) : Nat :=
  match commandOf b with
  | .ok d => counted b ((s.ready b).closed v d) ((s.ready b).dispatch v d).1 id
  | .error _ => 0

/-- `replyWith` leaves the cache as the legacy reply does, if there is an answer, and as it is
otherwise. -/
theorem cursors_replyWith (reply : Session σ → Document →
      Except ServerError Wire.Reply × CursorCache) (r : Ending Document × Session σ) :
    (replyWith reply r).2.shared.cursors =
      match r.1 with
      | .done answer => (reply r.2 answer).2
      | _ => r.2.shared.cursors := by
  obtain ⟨ending, s'⟩ := r
  cases ending with
  | done answer => exact cursors_legacyReply s' _
  | _ => rfl

/-- `Labelled` is kept by `ready`. -/
theorem labelled_ready (hc : s.shared.cursors.Labelled) (b : Body) :
    (s.ready b).shared.cursors.Labelled := by
  cases b with
  | getMore g => exact hc.get _ g.cursorId
  | _ => exact hc

/-- `ready` adds nothing to any number. -/
theorem sent_ready (hc : s.shared.cursors.Labelled) (b : Body) (id : Int64) :
    (s.ready b).shared.cursors.sent id = s.shared.cursors.sent id := by
  cases b with
  | getMore g => exact CursorCache.sent_get _ hc g.cursorId id
  | _ => rfl

/-- The numbers after `handleQuery` are those after its command, and what the reply takes is
added. -/
theorem sent_handleQuery (hv : v.pipeline.LeavesCursors) (hc : s.shared.cursors.Labelled)
    {q : Wire.Query} {t : Legacy.QueryCommand} (ht : Legacy.queryCommand q = .ok t) (id : Int64) :
    (s.handleQuery v q).2.shared.cursors.sent id =
        (if id ∈ s.closed v t.command then 0 else s.shared.cursors.sent id) +
          counted (.query q) (s.closed v t.command) (s.dispatch v t.command).1 id := by
  have hlabelled := s.labelled_dispatch hv hc t.command
  rw [← s.sent_dispatch hv hc t.command id, s.handleQuery_of_command v ht, cursors_replyWith]
  cases (s.dispatch v t.command).1 with
  | done answer =>
    -- what the reply takes is read from the shape of the very command that was sent
    have hcounted : (Legacy.queryCommand q).toOption.bind (fun t => Legacy.taken? t.shape answer) =
        Legacy.taken? t.shape answer := by
      rw [ht]
      rfl
    simp only [Legacy.snd_queryReply, counted, hcounted]
    cases htaken : Legacy.taken? t.shape answer with
    | none => rfl
    | some taken =>
      exact CursorCache.sent_take _ hlabelled (Legacy.taken?_eq_some htaken).1 taken.2 id
  | failed | crashed | stalled => rfl

/-- The numbers after `handleGetMore` are those after its command, and what the batch holds is added
if the cursor was not `closed`. -/
theorem sent_handleGetMore (hv : v.pipeline.LeavesCursors) (hc : s.shared.cursors.Labelled)
    {g : Wire.GetMore} {d : Document} (hg : Legacy.getMoreCommand g = .ok d)
    (hid : id ≠ exhaustedCursor) :
    (s.handleGetMore v g).2.shared.cursors.sent id =
        (if id ∈ (s.ready (.getMore g)).closed v d then 0 else s.shared.cursors.sent id) +
          counted (.getMore g) ((s.ready (.getMore g)).closed v d)
          ((s.ready (.getMore g)).dispatch v d).1 id := by
  have hready := s.labelled_ready hc (.getMore g)
  have hlabelled := (s.ready (.getMore g)).labelled_dispatch hv hready d
  have hsent := (s.ready (.getMore g)).sent_dispatch hv hready d id
  rw [s.sent_ready hc] at hsent
  rw [← hsent, s.handleGetMore_of_command v hg, cursors_replyWith]
  cases ((s.ready (.getMore g)).dispatch v d).1 with
  | done answer =>
    -- the entry that was looked up is that of the cursor, unless the cursor was closed
    have hcached : g.cursorId = exhaustedCursor ∨
        (s.ready (.getMore g)).shared.cursors.contains g.cursorId = true := by
      by_cases hg : g.cursorId = exhaustedCursor
      · exact .inl hg
      · exact .inr (CursorCache.contains_get _ _ hg)
    have hholds :=
      (s.ready (.getMore g)).holds_dispatch hv
        (CursorCache.holds_get s.shared.now hc g.cursorId) hcached d
    simp only [Legacy.snd_getMoreReply, CursorCache.sent_consume hlabelled hholds, counted]
    -- the batch is counted for its own cursor, and for no other
    congr 1
    by_cases hcursor : id = g.cursorId
    · have hcached := hcached.resolve_left (hcursor ▸ hid)
      simp [← hcursor, (s.ready (.getMore g)).contains_dispatch hv (hcursor ▸ hcached) d]
    · rw [if_neg fun h => hcursor h.1, if_neg fun h => hcursor h.1]
  | failed | crashed | stalled => rfl

/-- The numbers after `handleBody`: those of `bodyClosed` are set back to nothing, and `bodyCounted`
is added. -/
theorem sent_handleBody (hv : v.pipeline.LeavesCursors) (hc : s.shared.cursors.Labelled) (b : Body)
    (hid : id ≠ exhaustedCursor) :
    (s.handleBody v b).2.shared.cursors.sent id =
      (if id ∈ s.bodyClosed v b then 0 else s.shared.cursors.sent id) + s.bodyCounted v b id := by
  rw [bodyClosed, bodyCounted]
  -- what comes to no command closes and counts nothing
  have hnone : s.shared.cursors.sent id =
      (if id ∈ ([] : List Int64) then 0 else s.shared.cursors.sent id) + 0 := by simp
  cases b with
  | msg m =>
    cases hm : Legacy.mergeSections m with
    | error e =>
      simp only [handleBody, handleMsg, commandOf, hm]
      cases m.flags.moreToCome <;> exact hnone
    | ok d =>
      have hsent := s.sent_dispatch hv hc d id
      simp only [handleBody, handleMsg, commandOf, hm, counted_msg, ready]
      cases m.flags.moreToCome <;> exact hsent
  | query q =>
    cases ht : Legacy.queryCommand q with
    | error e =>
      simp only [handleBody, handleQuery, commandOf, ht]
      exact hnone
    | ok t =>
      have hsent := s.sent_handleQuery hv hc ht id
      simp only [commandOf, ht]
      exact hsent
  | getMore g =>
    cases hg : Legacy.getMoreCommand g with
    | error e =>
      simp only [handleBody, handleGetMore, commandOf, hg]
      exact hnone
    | ok d =>
      have hsent := s.sent_handleGetMore hv hc hg hid
      simp only [commandOf, hg]
      exact hsent
  | killCursors k =>
    have hsent := s.sent_dispatch hv hc (Legacy.killCursorsCommand k.cursorIds) id
    simp only [handleBody, commandOf, counted_killCursors, ready]
    exact hsent
  | reply r => exact hnone
  | compressed c inner => exact hnone

/-- `Labelled` is kept by `handleBody`. -/
theorem labelled_handleBody (hv : v.pipeline.LeavesCursors) (hc : s.shared.cursors.Labelled)
    (b : Body) :
    (s.handleBody v b).2.shared.cursors.Labelled := by
  -- the command keeps the labels, and so does what the reply counts after it
  have hdispatch (d : Document) := (s.ready b).labelled_dispatch hv (s.labelled_ready hc b) d
  cases b with
  | msg m =>
    simp only [handleBody, handleMsg]
    cases m.flags.moreToCome <;> cases Legacy.mergeSections m <;>
      first | exact hc | exact hdispatch _
  | query q =>
    cases ht : Legacy.queryCommand q with
    | error e =>
      simp only [handleBody, handleQuery, ht]
      exact hc
    | ok t =>
      rw [handleBody, s.handleQuery_of_command v ht, cursors_replyWith]
      split
      · rw [Legacy.snd_queryReply]
        split
        · exact hdispatch _
        · exact ((hdispatch _).get _ _).consume _ _
      · exact hdispatch _
  | getMore g =>
    cases hg : Legacy.getMoreCommand g with
    | error e =>
      simp only [handleBody, handleGetMore, hg]
      exact hc
    | ok d =>
      rw [handleBody, s.handleGetMore_of_command v hg, cursors_replyWith]
      split
      · rw [Legacy.snd_getMoreReply]
        exact (hdispatch d).consume _ _
      · exact hdispatch d
  | killCursors k => exact hdispatch _
  | reply r => exact hc
  | compressed c inner => exact hc

/-! ### Cursors that a body has nothing to do with -/

variable (v) in
/-- A body uses a cursor: it names the cursor, or the response to its command carries it. -/
def Uses (b : Body) (id : Int64) : Prop :=
  Names v.registry b id ∨ ∃ response, s.commandOutcome? v b = some (.response response) ∧
    respondedCursor? response = some id

/-- `bodyClosed` are cursors that the body `Uses`. -/
theorem uses_of_mem_bodyClosed {b : Body} (hid : id ∈ s.bodyClosed v b) : s.Uses v b id := by
  rw [bodyClosed] at hid
  split at hid
  · rename_i d hd
    rw [closed] at hid
    split at hid
    · rename_i command response hr
      exact .inl (.inr ⟨d, command, hd, ((s.ready b).responded?_eq_some v hr).1,
        CursorCache.named_of_mem_closedBy hid⟩)
    · cases hid
  · cases hid

/-- `bodyCounted` is nothing but for cursors that the body `Uses`. -/
theorem uses_of_bodyCounted {b : Body} (hid : s.bodyCounted v b id ≠ 0) : s.Uses v b id := by
  rw [bodyCounted] at hid
  split at hid
  case h_2 => exact absurd rfl hid
  rename_i d hd
  unfold counted at hid
  split at hid
  · rename_i q answer hend
    split at hid
    · rename_i cursor n htaken
      obtain ⟨t, -, htaken⟩ := Option.bind_eq_some_iff.mp htaken
      obtain rfl : id = cursor := of_not_not fun h => hid (if_neg h)
      obtain ⟨e, rfl⟩ | hout := (s.ready (.query q)).answer_of_done v hend
      · -- the document of an error has no cursor
        rw [Legacy.taken?_of_get?_none t.shape e.get?_cursor] at htaken
        cases htaken
      · exact .inr ⟨answer, (s.commandOutcome?_of_ok v hd).trans hout,
          (Legacy.respondedCursor?_of_taken htaken).2⟩
    · exact absurd rfl hid
  · rename_i g answer _
    exact .inl (.inl ⟨g, rfl, (of_not_not fun h => hid (if_neg fun hboth => h hboth.1.symm))⟩)
  · exact absurd rfl hid

/-- `handleBody` leaves the number of a cursor that the body does not use. -/
theorem sent_of_not_uses (hv : v.pipeline.LeavesCursors) (hc : s.shared.cursors.Labelled) {b : Body}
    (hid : id ≠ exhaustedCursor) (huses : ¬s.Uses v b id) :
    (s.handleBody v b).2.shared.cursors.sent id = s.shared.cursors.sent id := by
  have hclosed : id ∉ s.bodyClosed v b := fun h => huses (s.uses_of_mem_bodyClosed h)
  have hcounted : s.bodyCounted v b id = 0 := of_not_not fun h => huses (s.uses_of_bodyCounted h)
  rw [s.sent_handleBody hv hc b hid, if_neg hclosed, hcounted, Nat.add_zero]

end Session

end Gateway

end DocGateway
