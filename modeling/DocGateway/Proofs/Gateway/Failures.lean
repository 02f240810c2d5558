import DocGateway.Proofs.Gateway.Hidden
import DocGateway.Proofs.Legacy.Reply
/-!
# Failures

A command that fails leaves the cursors as the pipeline left them, and the client is told of the
failure in the very words of the pipeline. The same holds when only the reply cannot be made: what a
reply takes from its cursor is counted while the reply is made, so it has to be shown that nothing
can go wrong any more once something is counted.

## Key results

- `Legacy.Making.result_queryReply`, `Legacy.Making.result_getMoreReply`: replies made step by step,
  each step with its effect at once
- `Legacy.cursors_of_error`, `Legacy.cursors_of_error_more`: a reply that cannot be made counts
  nothing
- `Gateway.Session.dispatch_of_failed`, `Gateway.Session.handleBody_of_failed`: a command that
  fails, and what its sender is told
- `Gateway.failure_verbatim_and_cursors_kept`: all of it together
-/

namespace DocGateway

open Bson (Document Value)

/-! ### Making replies step by step -/

namespace Legacy

open Wire (Reply)

/-- Work on a reply that may fail at any step. What it has done to the cache by then stays done. -/
abbrev Making := ExceptT ServerError (StateM CursorCache)

namespace Making

variable {α β : Type} (cursors : CursorCache)

/-- What comes of the work, and the cache after it. -/
def result (m : Making α) : Except ServerError α × CursorCache := m cursors

/-- A step that only looks at the response. -/
def check (r : Except ServerError α) : Making α := fun cursors => (r, cursors)

/-- A step that adds to the count of a cursor. -/
def count (now : Nat) (id : Int64) (n : Nat) : Making Unit :=
  fun cursors => (.ok (), recordTaken cursors now (some (id, n)))

/-- The last step of a reply to a request for more: the count is read, and what the reply holds is
added to it. -/
def goOn (h : CursorHandle) (reply : Reply) : Making Reply := fun cursors =>
  (.ok { reply with startingFrom := startingFrom (cursors.consumed h) },
    cursors.consume h reply.documents.length)

/-- A check that succeeds leaves the cache. -/
theorem result_check_ok (a : α) (f : α → Making β) :
    result cursors (check (.ok a) >>= f) = result cursors (f a) := rfl

/-- The reply to a command in a query. The batch is counted before it is known whether it can be
unwrapped. -/
def commandReply (now : Nat) (unwrap : Bool) (response : Document) : Making Reply := do
  match ← check (cursorOf response) with
  | none => return singleReply response
  | some cursor =>
    let items ← check (itemsOf cursor "firstBatch")
    if let some xs := items then count now (idOf cursor) xs.length
    if unwrap then
      match items with
      | some xs => return singleReply [("ok", .int32 1), ("result", .array xs)]
      | none => throw (.internal "missing firstBatch in cursor response")
    else return singleReply response

/-- The reply to a find query. -/
def findReply (now : Nat) (response : Document) : Making Reply := do
  match ← check (cursorOf response) with
  | none => return emptyReply
  | some cursor =>
    match ← check (itemsOf cursor "firstBatch") with
    | none => return { emptyReply with cursorId := idOf cursor }
    | some items =>
      let documents ← check (documentsOf items)
      count now (idOf cursor) documents.length
      return { emptyReply with cursorId := idOf cursor, documents }

/-- The reply to a query. -/
def queryReply (now : Nat) (shape : ReplyShape) (response : Document) : Making Reply :=
  if ¬ isOk response then return singleReply response
  else
    match shape with
    | .explain => return singleReply response
    | .command unwrap => commandReply now unwrap response
    | .find => findReply now response

/-- The reply to a request for more. -/
def getMoreReply (h : CursorHandle) (response : Document) : Making Reply :=
  if ¬ isOk response then return singleReply response
  else do
    match ← check (cursorOf response) with
    | none => goOn h emptyReply
    | some cursor =>
      match ← check (itemsOf cursor "nextBatch") with
      | none => goOn h { emptyReply with cursorId := idOf cursor }
      | some items =>
        let documents ← check (documentsOf items)
        goOn h { emptyReply with cursorId := idOf cursor, documents }

variable (now : Nat) {response : Document}

/-- `Making.commandReply` gives what `Legacy.queryReply` does for a command. -/
theorem result_commandReply (unwrap : Bool) (hok : isOk response = true) :
    result cursors (commandReply now unwrap response) =
      Legacy.queryReply cursors now (.command unwrap) response := by
  rw [Legacy.queryReply, firstReply, if_neg (not_not_intro hok), commandReply]
  conv_rhs => simp only [Legacy.commandReply, bind, Except.bind]
  -- one step after another, the failure of each first
  cases hcursor : cursorOf response with
  | error e => rfl
  | ok cursor? =>
    rw [result_check_ok]
    cases cursor? with
    | none => rfl
    | some cursor =>
      dsimp only
      cases hitems : itemsOf cursor "firstBatch" with
      | error e => rfl
      | ok items? =>
        rw [result_check_ok]
        -- what is counted is what can be unwrapped, so no failure comes after it
        cases items? with
        | none => cases unwrap <;> rfl
        | some items => cases unwrap <;> rfl

/-- `Making.findReply` gives what `Legacy.queryReply` does for a find query. -/
theorem result_findReply (hok : isOk response = true) :
    result cursors (findReply now response) = Legacy.queryReply cursors now .find response := by
  rw [Legacy.queryReply, firstReply, if_neg (not_not_intro hok), findReply]
  conv_rhs => simp only [Legacy.findReply, batchOf, bind, Except.bind]
  -- along the checks, each of which fails before anything is counted, or leaves the next
  cases hcursor : cursorOf response with
  | error e => rfl
  | ok cursor? =>
    rw [result_check_ok]
    cases cursor? with
    | none => rfl
    | some cursor =>
      dsimp only
      cases hitems : itemsOf cursor "firstBatch" with
      | error e => rfl
      | ok items? =>
        rw [result_check_ok]
        cases items? with
        | none => rfl
        | some items =>
          dsimp only
          cases hdocuments : documentsOf items with
          | error e => rfl
          | ok documents => rfl

/-- `Making.queryReply` gives what `Legacy.queryReply` does. -/
theorem result_queryReply (shape : ReplyShape) (response : Document) :
    result cursors (queryReply now shape response) =
      Legacy.queryReply cursors now shape response := by
  unfold queryReply
  cases hok : isOk response with
  | false =>
    rw [Legacy.queryReply, firstReply_of_failed shape hok]
    rfl
  | true =>
    -- each shape is made step by step, as the reply is
    cases shape with
    | explain =>
      rw [Legacy.queryReply, firstReply, if_neg (not_not_intro hok)]
      rfl
    | command unwrap => exact result_commandReply cursors now unwrap hok
    | find => exact result_findReply cursors now hok

/-- `Making.getMoreReply` gives what `Legacy.getMoreReply` does. -/
theorem result_getMoreReply (h : CursorHandle) (response : Document) :
    result cursors (getMoreReply h response) = Legacy.getMoreReply cursors h response := by
  rw [getMoreReply]
  cases hok : isOk response with
  | false =>
    rw [getMoreReply_of_failed cursors h hok]
    rfl
  | true =>
    rw [Legacy.getMoreReply, if_neg (not_not_intro hok), if_neg (not_not_intro rfl)]
    conv_rhs => simp only [batchOf, bind, Except.bind]
    -- along the checks, as for a find query
    cases hcursor : cursorOf response with
    | error e => rfl
    | ok cursor? =>
      rw [result_check_ok]
      cases cursor? with
      | none => rfl
      | some cursor =>
        dsimp only
        cases hitems : itemsOf cursor "nextBatch" with
        | error e => rfl
        | ok items? =>
          rw [result_check_ok]
          cases items? with
          | none => rfl
          | some items =>
            dsimp only
            cases hdocuments : documentsOf items with
            | error e => rfl
            | ok documents => rfl

end Making

variable (cursors : CursorCache) {response : Document} {e : ServerError}

/-! ### Replies that cannot be made -/

/-- `queryReply` that fails has counted nothing. -/
theorem cursors_of_error {now : Nat} {shape : ReplyShape}
    (h : (queryReply cursors now shape response).1 = .error e) :
    (queryReply cursors now shape response).2 = cursors := by
  rw [queryReply] at h ⊢
  cases hfirst : firstReply shape response with
  | error e => rfl
  | ok first =>
    rw [hfirst] at h
    cases h

/-- `getMoreReply` that fails has counted nothing. -/
theorem cursors_of_error_more {h : CursorHandle}
    (he : (getMoreReply cursors h response).1 = .error e) :
    (getMoreReply cursors h response).2 = cursors := by
  cases hok : isOk response with
  | false => rw [getMoreReply_of_failed cursors h hok]
  | true =>
    cases hbatch : batchOf response "nextBatch" with
    | error e => rw [getMoreReply_of_error cursors h hok hbatch]
    | ok next =>
      rw [getMoreReply_of_batch cursors h hok hbatch] at he
      cases he

/-- A reply that tells of a failure and of nothing else. -/
structure IsVerbatim (reply : Reply) (failure : Document) : Prop where
  cursorId : reply.cursorId = exhaustedCursor
  startingFrom : reply.startingFrom = 0
  documents : reply.documents = [failure]

/-- `singleReply` of a failure `IsVerbatim`. -/
theorem isVerbatim_singleReply (failure : Document) : IsVerbatim (singleReply failure) failure :=
  ⟨rfl, rfl, rfl⟩

end Legacy

/-! ### Commands that fail -/

/-- A command fails, and this document tells so: the response of the pipeline if it does not report
success, or the document of an error. A write batch that failed in part has succeeded as a command,
and a command that was cancelled is not answered. -/
inductive Outcome.FailsAs : Outcome → Document → Prop
  | response {d : Document} (hok : isOk d = false) : FailsAs (.response d) d
  | error {e : ServerError} (hpartial : e.isPartial = false) (hcancelled : e ≠ .cancelled) :
      FailsAs (.failure e) e.document

/-- What a command `FailsAs` reports no success. -/
theorem Outcome.FailsAs.isOk {o : Outcome} {failure : Document} (h : o.FailsAs failure) :
    isOk failure = false := by
  cases h with
  | response hok => exact hok
  | error hpartial hcancelled => rw [ServerError.isOk_document, hpartial]

namespace Gateway

open Wire (Body)

/-- `endingOf` a command that fails is the document that it `FailsAs`. -/
theorem endingOf_of_failed {o : Outcome} {failure : Document} (h : o.FailsAs failure) :
    endingOf o = .done failure := by
  cases h with
  | response hok => rfl
  | @error e hpartial hcancelled =>
    cases e with
    | cancelled => exact absurd rfl hcancelled
    | _ => rfl

namespace Session

variable {σ : Type} (v : Service σ) (s : Session σ) {b : Body} {d failure : Document}
  {command : Command}

/-- `dispatch` of a command that fails ends with the document that it `FailsAs`, and leaves the
cursors as the pipeline does. -/
theorem dispatch_of_failed (hparse : v.registry.parse d = .ok command)
    (hfails : (s.passage v command).outcome.FailsAs failure) :
    (s.dispatch v d).1 = .done failure ∧ (s.dispatch v d).2.shared.cursors =
      (s.passage v command).scene.cursors := by
  constructor
  · rw [s.ending_dispatch v (s.outcome?_of_parsed v hparse), endingOf_of_failed hfails]
  · have hpassed : (s.passed v command).shared.cursors = (s.passage v command).scene.cursors := rfl
    rw [s.dispatch_of_parsed v hparse, settle]
    generalize hout : (s.passage v command).outcome = out at hfails
    cases hfails with
    | response hok =>
      -- the response is looked at, but it changes nothing
      have hcursors :=
        cursors_track (s.passed v command) (s.passage v command).scene.request.command failure
      rw [CursorCache.track_of_failed _ _ hok] at hcursors
      exact hcursors.trans hpassed
    | @error e hpartial hcancelled =>
      cases e with
      | cancelled => exact absurd rfl hcancelled
      | _ => exact hpassed

/-- `handleBody` of a command that fails replies with the document that it `FailsAs`, and counts
nothing. -/
theorem handleBody_of_failed (hd : commandOf b = .ok d) (hparse : v.registry.parse d = .ok command)
    (hfails : ((s.ready b).passage v command).outcome.FailsAs failure) :
    (s.handleBody v b).1 = .done (failureReply b failure) ∧
      (s.handleBody v b).2.shared.cursors = ((s.ready b).passage v command).scene.cursors := by
  obtain ⟨f, hbody, hfailure, -⟩ := s.exists_handleBody_eq hd
  obtain ⟨hending, hcursors⟩ := (s.ready b).dispatch_of_failed v hparse hfails
  have hdispatch : (s.ready b).dispatch v d = (.done failure, ((s.ready b).dispatch v d).2) :=
    Prod.ext hending rfl
  rw [hbody v, hdispatch, hfailure failure _ hfails.isOk]
  exact ⟨rfl, hcursors⟩

end Session

/-- Failures leave the cursors alone and reach the client word by word. A command whose outcome
`FailsAs` a document, whatever else its response has, is answered with that document
(`failureReply`), and the cache stays as the pipeline left it; in a legacy reply of any shape the
document stands alone (`IsVerbatim`), of a cursor that has no more. A reply that cannot be made of a
response changes nothing either, even though it is made step by step, with each count made at once
(`Making`). -/
theorem failure_verbatim_and_cursors_kept {σ : Type} (v : Service σ) :
    (∀ (s : Session σ) {d : Document} {command : Command} {failure : Document},
      v.registry.parse d = .ok command →
      (s.passage v command).outcome.FailsAs failure →
        isOk failure = false ∧ (s.dispatch v d).1 = .done failure ∧
          (s.dispatch v d).2.shared.cursors = (s.passage v command).scene.cursors) ∧
    (∀ (s : Session σ) {b : Body} {d : Document} {command : Command} {failure : Document},
      commandOf b = .ok d →
      v.registry.parse d = .ok command → ((s.ready b).passage v command).outcome.FailsAs failure →
        (s.handleBody v b).1 = .done (failureReply b failure) ∧
          (s.handleBody v b).2.shared.cursors = ((s.ready b).passage v command).scene.cursors) ∧
    ∀ (cursors : CursorCache) (now : Nat) (shape : Legacy.ReplyShape) (h : CursorHandle)
      (response : Document),
      let first := Legacy.queryReply cursors now shape response
      let more := Legacy.getMoreReply cursors h response
      (isOk response = false → ∃ reply, Legacy.IsVerbatim reply response ∧
        first = (.ok reply, cursors) ∧ more = (.ok reply, cursors)) ∧
        (∀ e, first.1 = .error e → first.2 = cursors) ∧
        (∀ e, more.1 = .error e → more.2 = cursors) ∧
        Legacy.Making.result cursors (Legacy.Making.queryReply now shape response) = first ∧
        Legacy.Making.result cursors (Legacy.Making.getMoreReply h response) = more := by
  refine ⟨?dispatched, ?answered, ?replied⟩
  case dispatched =>
    intro s d command failure hparse hfails
    exact ⟨hfails.isOk, s.dispatch_of_failed v hparse hfails⟩
  case answered =>
    intro s b d command failure hd hparse hfails
    exact s.handleBody_of_failed v hd hparse hfails
  -- a response that reports a failure is not looked into
  case replied =>
    intro cursors now shape h response first more
    refine ⟨fun hok => ?_, fun e he => Legacy.cursors_of_error cursors he,
      fun e he => Legacy.cursors_of_error_more cursors he,
      Legacy.Making.result_queryReply cursors now shape response,
      Legacy.Making.result_getMoreReply cursors h response⟩
    have hfirst : first = (.ok (Legacy.singleReply response), cursors) := by
      unfold first
      rw [Legacy.queryReply, Legacy.firstReply_of_failed shape hok]
      rfl
    exact ⟨_, Legacy.isVerbatim_singleReply response, hfirst,
      Legacy.getMoreReply_of_failed cursors h hok⟩

end Gateway

end DocGateway
