import DocGateway.Proofs.Gateway.Runs
/-!
# Where closed cursors come from

The gateway closes expired cursors in its own name. A cursor can only expire if it is cached, and it
is cached because a response named it, or because a request for more did: such a request has its
cursor looked up before anything is known of it, and nothing takes the entry back if the command
fails.

## Key results

- `Traced.effect`: whatever happens, it is known of each cached cursor who named it
- `exists_known_play`: whatever happens to a gateway, so it is of each cursor that it has cached
- `expired_is_known`: an expired cursor was named by a successful response or by a request for more
- `reap_of_refused`: a request for more alone is enough
-/

namespace DocGateway

open Bson (Document)

/-- The document of an error has no cursor. -/
theorem ServerError.get?_cursor (e : ServerError) : e.document.get? "cursor" = none := by
  have hlabels (labels : List String) : (labelFields labels).lookup "cursor" = none := by
    simp only [labelFields]
    split <;> rfl
  have hfields (f : WriteFailure) : f.fields.lookup "cursor" = none := by
    obtain ⟨errors, _ | concern, labels⟩ := f <;>
      simpa [WriteFailure.fields, List.lookup_cons] using hlabels labels
  cases e with
  | command e => simpa [document, Document.get?, List.lookup_cons] using hlabels e.labels
  | writeException f | bulkWrite f =>
    simpa [document, Document.get?, List.lookup_cons] using hfields f
  | _ => rfl

namespace Gateway

/-! ### Who named a cursor -/

/-- A cursor was named by a successful response, or by a request for more that looked it up. -/
def Known (history : List Event) (id : Int64) : Prop :=
  (∃ response, .responded response ∈ history ∧ isOk response = true ∧
    respondedCursor? response = some id) ∨
    .lookedUp id ∈ history

/-- What is `Known` stays so. -/
theorem Known.mono {history history' : List Event} {id : Int64} (h : Known history id)
    (hearlier : history <+: history') :
    Known history' id := by
  obtain ⟨response, hmem, hresponse⟩ | hmem := h
  · exact .inl ⟨response, hearlier.subset hmem, hresponse⟩
  · exact .inr (hearlier.subset hmem)

/-- The response that a task goes on with was taken down, or is the document of an error. -/
def Task.IsTraced (history : List Event) : Task → Prop
  | answered _ _ response => .responded response ∈ history
  | tracked _ response => .responded response ∈ history ∨ response.get? "cursor" = none
  | _ => True

/-- A task that `IsTraced` stays so. -/
theorem Task.IsTraced.mono {history history' : List Event} {task : Task} (h : task.IsTraced history)
    (hearlier : history <+: history') : task.IsTraced history' := by
  cases task with
  | answered purpose command response => exact hearlier.subset h
  | tracked purpose response => exact h.imp_left fun h => hearlier.subset h
  | _ => trivial

namespace Traffic

/-- It is known of each cached cursor who named it, and so it was of each that expired. -/
structure Traced (t : Traffic) : Prop where
  known {id : Int64} (h : t.cursors.contains id = true) : Known t.history id
  traced {task : Task} (h : task ∈ t.tasks) : task.IsTraced t.history
  expired {earlier : List Event} {id : Int64} (h : earlier ++ [.expired id] <+: t.history) :
    Known earlier id

variable {t : Traffic}

namespace Traced

/-- `Traced` holds before anything has happened. -/
theorem start (ttl : Nat) : (Traffic.start ttl).Traced where
  known h := by cases h
  traced h := by cases h
  expired h := absurd (List.prefix_nil.mp h) (by simp)

variable (h : t.Traced)

include h in
/-- `Traced` is kept by a cache in which each cursor is known. -/
theorem withCursors {cursors : CursorCache}
    (hc : ∀ id, cursors.contains id = true → t.cursors.contains id = true ∨ Known t.history id) :
    (t.withCursors cursors).Traced where
  known hid := (hc _ hid).elim h.known fun h => h
  traced hmem := h.traced hmem
  expired hearlier := h.expired hearlier

include h in
/-- `Traced` is kept if cursors are removed. -/
theorem shrink {cursors : CursorCache} (hc : t.cursors.Shrinks cursors) :
    (t.withCursors cursors).Traced :=
  h.withCursors fun _ hid => .inl (hc.contains hid)

include h in
/-- `Traced` is kept by a look-up of a cursor that is known. -/
theorem lookUp {id : Int64} (hid : Known t.history id) : (t.lookUp id).2.Traced :=
  h.withCursors fun _ hother => (t.cursors.contains_of_get t.now hother).elim
    (fun heq => .inr (heq ▸ hid)) .inl

include h in
/-- `Traced` is kept by a task that `IsTraced`, in the place of another. -/
theorem put (i : Nat) (task : Task) (htask : task.IsTraced t.history) : (t.put i task).Traced where
  known hid := h.known hid
  traced hmem := (List.mem_or_eq_of_mem_set hmem).elim h.traced fun heq => heq ▸ htask
  expired hearlier := h.expired hearlier

include h in
/-- `Traced` is kept by a new task that `IsTraced`. -/
theorem add (task : Task) (htask : task.IsTraced t.history) : (t.add task).Traced where
  known hid := h.known hid
  traced hmem :=
    (List.mem_append.mp hmem).elim h.traced fun heq => List.mem_singleton.mp heq ▸ htask
  expired hearlier := h.expired hearlier

include h in
/-- `Traced` is kept by any event, but of an expired cursor it has to be known who named it. -/
theorem note (e : Event) (he : ∀ id, e = .expired id → Known t.history id) : (t.note e).Traced where
  known hid := (h.known hid).mono (List.prefix_append _ _)
  traced hmem := (h.traced hmem).mono (List.prefix_append _ _)
  expired hearlier := by
    obtain heq | hearlier := List.prefix_concat_iff.mp hearlier
    · obtain ⟨rfl, hlast⟩ := List.append_inj' heq rfl
      exact he _ (List.singleton_inj.mp hlast).symm
    · exact h.expired hearlier

include h in
/-- `Traced` is kept by the next step of a task. -/
theorem advance (i : Nat) {task : Task} (htask : task.IsTraced t.history) :
    (t.advance i task).Traced := by
  match task with
  | .asking id =>
    have hnoted := h.note (.lookedUp id) (by rintro _ ⟨⟩)
    exact (hnoted.lookUp (.inr (List.mem_append_right _ (List.mem_singleton_self _)))).put i
      (.dispatched (.more _)) trivial
  | .dispatched purpose => exact h
  | .answered purpose command response =>
    obtain hc | ⟨ids, hc⟩ | ⟨hok, id, hid, -, hc⟩ := t.cursors.track_cases t.now command response
    all_goals simp only [Traffic.advance, hc]
    · exact (h.shrink CursorCache.shrinks_refl).put i _ (.inl htask)
    · exact (h.shrink (CursorCache.shrinks_closeAll ids)).put i _ (.inl htask)
    · exact (h.lookUp (.inl ⟨response, htask, hok, hid⟩)).put i _ (.inl htask)
  | .tracked .plain response => exact h.put i .finished trivial
  | .tracked (.query shape) response =>
    simp only [Traffic.advance, answerQuery]
    split
    · exact (h.note (.delivered _) (by rintro _ ⟨⟩)).put i .finished trivial
    · rename_i id n htaken
      -- a reply that takes documents is to a response that names a cursor
      obtain ⟨hok, hid⟩ := Legacy.respondedCursor?_of_taken htaken
      obtain hmem | hnone := htask
      · exact (h.lookUp (.inl ⟨response, hmem, hok, hid⟩)).put i (.counting _ _ n) trivial
      · rw [Legacy.taken?_of_get?_none shape hnone] at htaken
        cases htaken
  | .tracked (.more l) response =>
    -- the entry was made by the look-up before, so the reply adds none
    have hc : t.cursors.Shrinks (Legacy.getMoreReply t.cursors l.handle response).2 := by
      obtain hc | ⟨n, hc⟩ := Legacy.snd_getMoreReply_cases t.cursors l.handle response
      · rw [hc]
        exact CursorCache.shrinks_refl
      · rw [hc]
        exact CursorCache.shrinks_consume l.handle n
    exact ((h.shrink hc).note (.delivered _) (by rintro _ ⟨⟩)).put i .finished trivial
  | .tracked (.expiry id) response =>
    exact (h.shrink (CursorCache.shrinks_close id)).put i .finished trivial
  | .counting d l n =>
    exact ((h.shrink (CursorCache.shrinks_consume l.handle n)).note (.delivered d)
      (by rintro _ ⟨⟩)).put i .finished trivial
  | .finished => exact h

end Traced

/-- The task of a request `IsTraced`, as it has no response yet. -/
theorem isTraced_ofBody (history : List Event) (b : Wire.Body) :
    (Task.ofBody b).IsTraced history := by
  cases b with
  | msg m =>
    rw [Task.ofBody]
    split <;> trivial
  | query q =>
    rw [Task.ofBody]
    split <;> trivial
  | getMore g =>
    rw [Task.ofBody]
    split <;> trivial
  | _ => trivial

/-- `Traced` is kept by all effects but look-ups by stages. -/
theorem Traced.effect (h : t.Traced) {a : Action} (ha : ∀ id, a ≠ .access (.lookUp id))
    {t' : Traffic} (heffect : t.Effect a t') :
    t'.Traced := by
  cases heffect with
  | nothing => exact h
  | arrive b => exact h.add _ (isTraced_ofBody _ b)
  | respond hi command response =>
    exact (h.note (.responded response) nofun).put _ (.answered _ command response)
      (List.mem_append_right _ (List.mem_singleton_self _))
  | fail hi e => exact h.put _ (.tracked _ e.document) (.inr e.get?_cursor)
  | @cancel i purpose hi =>
    cases purpose with
    | expiry id => exact h.put i (.tracked (.expiry id) []) (.inr rfl)
    | _ => exact h.put i .finished trivial
  | advance hi => exact h.advance _ (h.traced (List.mem_of_getElem? hi))
  -- the cursor was cached, so it is known, and that it expired is taken down now
  | expire hid =>
    refine ((h.shrink (CursorCache.shrinks_close _)).note (.expired _) ?_).add
      (.dispatched (.expiry _)) trivial
    rintro _ ⟨⟩
    exact h.known hid
  | access a =>
    cases a with
    | lookUp id => exact absurd rfl (ha id)
    | close id => exact h.shrink (CursorCache.shrinks_close id)
    | clear => exact h.shrink CursorCache.shrinks_clear
    | keep handle f => exact h.shrink (CursorCache.shrinks_modify handle fun _ => rfl)
  | pass ms => exact ⟨h.known, h.traced, h.expired⟩

/-- `Traced` is kept on the way to all that a service `Reaches`, if its stages look nothing up. -/
theorem Traced.reaches (h : t.Traced) {σ : Type} {v : Service σ} {allowed : Access → Prop}
    {t' : Traffic} (hreaches : t.Reaches v allowed t')
    (hallowed : ∀ id, ¬allowed (.lookUp id)) : t'.Traced := by
  induction hreaches with
  | refl => exact h
  | step _ ha ih =>
    refine ih.effect ?_ (effect_step _ _)
    rintro id rfl
    cases ha with
    | access ha => exact hallowed id ha

/-- `Traced` is kept by all actions, one after another, but look-ups by stages. -/
theorem Traced.run (h : t.Traced) {actions : List Action}
    (ha : ∀ id, .access (.lookUp id) ∉ actions) :
    (t.run actions).Traced := by
  induction actions generalizing t with
  | nil => exact h
  | cons a actions ih =>
    refine ih (h.effect ?_ (effect_step t a)) fun id hid => ha id (List.mem_cons_of_mem _ hid)
    rintro id rfl
    exact ha id List.mem_cons_self

/-- After all that `play` lets happen to a gateway, each cursor that is cached is `Known`, as long
as stages look none up. -/
theorem exists_known_play {σ : Type} {v : Service σ} {allowed : Access → Prop}
    (hv : AccessesOnly v allowed)
    (hallowed : ∀ id, ¬allowed (.lookUp id)) (settings : Settings) (own : σ)
    (occurrences : List Occurrence) :
    ∃ t, (start settings.cursorTimeout).Reaches v allowed t ∧
      t.IsOf ((Gateway.start settings v own).play occurrences).shared ∧
      ∀ id, t.cursors.contains id = true → Known t.history id := by
  obtain ⟨t, hreaches, hat⟩ := exists_reaches_play hv (isAt_start settings v own) occurrences
  exact ⟨t, hreaches, hat.isOf, fun _ => ((Traced.start _).reaches hreaches hallowed).known⟩

/-- Whatever requests come in a run of `Traffic` and however they are interleaved, as long as stages
look no cursors up, each expired cursor that the gateway closes is `Known` before: a successful
response has named it, or a request for more has had it looked up. That the actions of `Traffic` are
those of a gateway is `exists_known_play` for all that can happen to it, and `exists_reaches_reap`
for the cursors that it finds expired. -/
theorem expired_is_known (ttl : Nat) {actions : List Action}
    (ha : ∀ id, .access (.lookUp id) ∉ actions) {earlier : List Event} {id : Int64}
    (h : earlier ++ [.expired id] <+: ((start ttl).run actions).history) :
    Known earlier id :=
  ((Traced.start ttl).run ha).expired h

/-- A response that opens a cursor. -/
def opening : Document :=
  [("ok", .int32 1),
    ("cursor", .document [("id", .int64 7), ("firstBatch", .array [.document []])])]

/-- A find query opens a cursor, which is left alone until it expires. -/
def openedAndLeft : List Action :=
  [.arrive (.query ⟨⟨0⟩, "db.c", 0, 0, [], none⟩), .respond 0 ⟨.find, []⟩ opening, .advance 0,
    .advance 0, .advance 0, .pass 600, .expire 7]

/-- Cursor 7 expires, which is `Known` by the response that opened it. -/
theorem expired_is_known_openedAndLeft :
    let t := (start 600).run openedAndLeft
    (∀ id, .access (.lookUp id) ∉ openedAndLeft) ∧
      t.history.dropLast ++ [.expired 7] <+: t.history ∧
      Known t.history.dropLast 7 := by
  have ha : ∀ id, .access (.lookUp id) ∉ openedAndLeft := by simp [openedAndLeft]
  exact ⟨ha, ⟨[], rfl⟩, expired_is_known 600 ha ⟨[], rfl⟩⟩

end Traffic

/-! ### A request for more is enough -/

/-- The commands that have come to the innermost layer, each with the identities that it came
from. -/
abbrev Requests : Type := List (List Identity × Document)

/-- A service that knows no cursor, and refuses whatever it is asked. -/
def refusing : Service Requests where
  registry := .standard
  pipeline := ⟨[], fun s => (.failure (.ofCode .cursorNotFound "no such cursor"),
    { s with own := s.own ++ [(s.client.identities, s.document)] })⟩

/-- The identity of the gateway itself. -/
def root : Identity := ⟨"internal", "root", ["root"]⟩

/-- The pipeline answers no command with success, and still `reap` closes, in the gateway's own
name, the cursor that a client has asked more of. -/
theorem reap_of_refused :
    let s := (Session.mk (.connected none) (.start 0 root [])).handle refusing
      ⟨1, 0, .getMore ⟨0, "db.c", 0, 99⟩⟩
    (∀ scene, ∃ e, (refusing.pipeline.terminal scene).1 = .failure e) ∧
      s.2.shared.cursors.contains 99 = true ∧
      (s.2.shared.reap refusing).2.own =
        [([], [("getMore", .int64 99), ("batchSize", .int32 0), ("$db", .string "db"),
          ("collection", .string "c")]), ([root], Legacy.killCursorsCommand [99])] := by
  refine ⟨fun scene => ⟨_, rfl⟩, rfl, ?_⟩
  with_unfolding_all rfl

end Gateway

end DocGateway
