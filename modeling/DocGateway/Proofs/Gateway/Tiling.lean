import DocGateway.Proofs.Gateway.Runs
import Mathlib.Algebra.GroupWithZero.Nat
/-!
# Legacy replies tile a result set

A client that reads a cursor with legacy requests is told by each reply where in the result set it
starts. However the requests are interleaved, and whatever else goes on, each reply starts where the
replies before it have ended. What is counted, is counted at an entry of the cache; that the entry
is the right one follows from the lives of cursors, each of which has its own entry.

## Key results

- `Sound.effect`: nothing that happens makes the counts wrong
- `exists_sound_play`: whatever happens to a gateway, its counts are right
- `replies_tile`: what each reply holds, and where it starts
-/

namespace DocGateway

open Bson (Document Value)
open Wire (Reply)

/-- The number of items in the first batch of a response. -/
def Legacy.firstBatchSize (response : Document) : Nat :=
  (((response.getDocument? "cursor").bind (·.getArray? "firstBatch")).map (·.length)).getD 0

namespace Gateway

open Legacy (ReplyShape Carries)

/-! ### What replies hold -/

namespace Delivery

/-- The number of documents that a reply hands on from a cursor. A failure hands on none. A response
that is given as one document hands on what its first batch holds. -/
def size : Delivery → Nat
  | first (.command _) _ response _ => if isOk response then Legacy.firstBatchSize response else 0
  | first _ _ response reply | next _ response reply =>
    if isOk response then (reply.toOption.map (·.documents.length)).getD 0 else 0

/-- What a reply adds to the count of an entry. -/
def sizeAt (h : CursorHandle) (d : Delivery) : Nat :=
  match d.lookUp? with
  | some l => if l.handle = h then d.size else 0
  | none => 0

/-- What a reply hands on in the life of a cursor in which a look-up was made. -/
def sizeIn (l : LookUp) (d : Delivery) : Nat :=
  match d.lookUp? with
  | some l' => if l'.cursor = l.cursor ∧ l'.lifetime = l.lifetime then d.size else 0
  | none => 0

/-- What a reply has to be after earlier ones: the documents of the batch are all that it holds, and
it starts where the earlier ones have ended. A reply to a find query starts at the beginning, and is
counted for the cursor that it opens. -/
def Tiles (earlier : List Delivery) : Delivery → Prop
  | first .find counted? response reply =>
    isOk response = true → ∀ ds, Carries response "firstBatch" ds →
      ∃ r, reply = .ok r ∧ r.documents = ds ∧ r.startingFrom = 0 ∧
        (r.cursorId ≠ exhaustedCursor → ds ≠ [] → ∃ l, counted? = some l ∧ l.cursor = r.cursorId)
  | next l response reply => isOk response = true → ∀ ds, Carries response "nextBatch" ds →
      ∃ r, reply = .ok r ∧ r.documents = ds ∧
        (l.cursor ≠ exhaustedCursor →
          r.startingFrom.toInt = min (((earlier.map (sizeIn l)).sum : Nat) : Int)
            Int32.maxValue.toInt)
  | first _ _ _ _ => True

variable {shape : ReplyShape} {response : Document} {counted? : Option LookUp}

/-- `commandReply` takes as many documents as `firstBatchSize` tells. -/
theorem firstBatchSize_of_taken {unwrap : Bool} {reply : Reply} {id : Int64} {n : Nat}
    (h : Legacy.commandReply unwrap response = .ok ⟨reply, some (id, n)⟩) :
    Legacy.firstBatchSize response = n := by
  simp only [Legacy.commandReply, bind, Except.bind] at h
  rcases hcursor : Legacy.cursorOf response with e | _ | cursor
  · simp [hcursor] at h
  · simp [hcursor, pure, Except.pure] at h
  · simp only [hcursor] at h
    rcases hitems : Legacy.itemsOf cursor "firstBatch" with e | _ | items
    · simp [hitems] at h
    · cases unwrap <;> simp [hitems, pure, Except.pure] at h
    -- a reply that takes documents is of a response with a cursor and a batch
    · rw [Legacy.firstBatchSize, Legacy.getDocument?_of_cursorOf hcursor, Option.bind_some,
        Legacy.getArray?_of_itemsOf hitems]
      cases unwrap <;> simp [hitems, pure, Except.pure] at h <;> exact h.2.2

/-- The `size` of a reply to a query is what it takes from its cursor. -/
theorem size_first {id : Int64} {n : Nat} (h : Legacy.taken? shape response = some (id, n)) :
    (first shape counted? response ((Legacy.firstReply shape response).map (·.reply))).size =
      n := by
  obtain ⟨-, reply, hfirst⟩ := Legacy.taken?_eq_some h
  have hok := (Legacy.cursorOf_of_taken hfirst).1
  rw [hfirst]
  -- an explanation takes nothing
  cases shape with
  | explain => simp [Legacy.firstReply, hok] at hfirst
  | command unwrap =>
    rw [Legacy.firstReply, if_neg (not_not_intro hok)] at hfirst
    simp only [size, hok, ↓reduceIte, firstBatchSize_of_taken hfirst]
  | find =>
    rw [Legacy.firstReply, if_neg (not_not_intro hok)] at hfirst
    simp only [Legacy.findReply, bind, Except.bind] at hfirst
    split at hfirst
    · cases hfirst
    · rename_i batch _
      obtain ⟨id', _ | ds⟩ := batch <;> cases hfirst
      simp [size, hok, Except.toOption, Except.map]

/-- `Tiles` holds of a reply to a query that is counted for the cursor from which it takes
documents. -/
theorem tiles_first (earlier : List Delivery)
    (h : ∀ id n, Legacy.taken? shape response = some (id, n) →
      ∃ l, counted? = some l ∧ l.cursor = id) :
    Tiles earlier
      (first shape counted? response ((Legacy.firstReply shape response).map (·.reply))) := by
  cases shape with
  | command unwrap => trivial
  | explain => trivial
  -- only the replies to find queries say where they start
  | find =>
    intro hok ds hds
    obtain ⟨id, batch, hb, hbatch, hsome⟩ := Legacy.batchOf_of_carries hds
    have hfirst := Legacy.firstReply_find hok hb
    refine ⟨_, by rw [hfirst, Except.map], hbatch, rfl, fun hid hne => h id ds.length ?_⟩
    have hid' : id ≠ exhaustedCursor := hid
    simp [Legacy.taken?, hfirst, Except.toOption, Option.filter, hsome hne, hid']

end Delivery

/-! ### Counts and entries -/

/-- The look-up of a request for more. -/
def Purpose.lookUp? : Purpose → Option LookUp
  | more l => some l
  | _ => none

/-- A task has nothing wrong to go on with: its look-up leads to an entry, and what it is about to
count is what its reply hands on. -/
def Task.IsReady (c : CursorCache) (since : CursorHandle → Nat) : Task → Prop
  | dispatched purpose | answered purpose _ _ | tracked purpose _ =>
    ∀ l, purpose.lookUp? = some l → l.IsIn c since
  | counting d l n => l.IsIn c since ∧ d.lookUp? = some l ∧ d.size = n ∧ ∀ earlier, d.Tiles earlier
  | asking _ | finished => True

namespace Task

variable {c c' : CursorCache} {since since' : CursorHandle → Nat}

/-- `IsReady` holds of the task of a request, which has nothing to go on with yet. -/
theorem isReady_ofBody (b : Wire.Body) : (ofBody b).IsReady c since := by
  -- no task starts with a look-up: a request for more has yet to ask for its cursor
  cases b with
  | msg m =>
    rw [ofBody]
    split
    · rintro l ⟨⟩
    · trivial
  | query q =>
    rw [ofBody]
    split
    · rintro l ⟨⟩
    · trivial
  | getMore g =>
    rw [ofBody]
    split <;> trivial
  | killCursors k => rintro l ⟨⟩
  | _ => trivial

/-- `IsReady` is kept while entries stay where they are. -/
theorem IsReady.mono {task : Task} (h : task.IsReady c since)
    (hentries : ∀ h < c.entries.length, c'.idAt h = c.idAt h)
    (hsince : ∀ h < c.entries.length, since' h = since h) : task.IsReady c' since' := by
  cases task with
  | dispatched purpose | answered purpose command response | tracked purpose response =>
    exact fun l hl => (h l hl).mono hentries hsince
  | counting d l n => exact ⟨h.1.mono hentries hsince, h.2⟩
  | asking id | finished => trivial

end Task

namespace Traffic

/-- The counts are right: each entry counts what was handed on at it. The look-ups that are still in
use lead to the entries of their lives, and each reply is what it has to be. -/
structure Sound (t : Traffic) (since : CursorHandle → Nat) : Prop where
  dated : t.cursors.Dated t.removals since
  ready {task : Task} (h : task ∈ t.tasks) : task.IsReady t.cursors since
  counted {d : Delivery} {l : LookUp} (h : d ∈ t.deliveries) (hl : d.lookUp? = some l) :
    l.IsIn t.cursors since
  consumed (h : CursorHandle) : t.cursors.consumed h = (t.deliveries.map (·.sizeAt h)).sum
  tiles {earlier : List Delivery} {d : Delivery} (h : earlier ++ [d] <+: t.deliveries) :
    d.Tiles earlier

variable {t : Traffic} {since : CursorHandle → Nat}

/-! ### What keeps it sound -/

namespace Sound

/-- `Sound` holds before any traffic. -/
theorem start (ttl : Nat) : (Traffic.start ttl).Sound fun _ => 0 where
  dated := .empty ttl _ _
  ready h := by cases h
  counted h := by cases h
  consumed h := rfl
  tiles h := absurd (List.prefix_nil.mp h) (by simp)

variable (h : t.Sound since)

include h in
/-- `Sound` is kept by a cache that `Shrinks` and counts nothing. -/
theorem withCursors {cursors : CursorCache} (hc : t.cursors.Shrinks cursors)
    (hconsumed : ∀ h, cursors.consumed h = t.cursors.consumed h) :
    (t.withCursors cursors).Sound since where
  dated := h.dated.mono hc
  ready htask := (h.ready htask).mono (fun h _ => hc.idAt h) fun _ _ => rfl
  counted hd hl := (h.counted hd hl).mono (fun h _ => hc.idAt h) fun _ _ => rfl
  consumed handle := (hconsumed handle).trans (h.consumed handle)
  tiles hd := h.tiles hd

include h in
/-- `Sound` is kept by a task that `IsReady`, in the place of another. -/
theorem put (i : Nat) (task : Task) (htask : task.IsReady t.cursors since) :
    (t.put i task).Sound since where
  dated := h.dated
  ready hmem := by
    obtain hmem | rfl := List.mem_or_eq_of_mem_set hmem
    · exact h.ready hmem
    · exact htask
  counted hd hl := h.counted hd hl
  consumed handle := h.consumed handle
  tiles hd := h.tiles hd

include h in
/-- `Sound` is kept by a new task that `IsReady`. -/
theorem add (task : Task) (htask : task.IsReady t.cursors since) : (t.add task).Sound since where
  dated := h.dated
  ready hmem := by
    obtain hmem | hmem := List.mem_append.mp hmem
    · exact h.ready hmem
    · exact List.mem_singleton.mp hmem ▸ htask
  counted hd hl := h.counted hd hl
  consumed handle := h.consumed handle
  tiles hd := h.tiles hd

include h in
/-- `Sound` is kept by an event that is no reply. -/
theorem note (e : Event) (he : e.delivery? = none) : (t.note e).Sound since where
  dated := h.dated
  ready hmem := h.ready hmem
  counted hd hl := h.counted (deliveries_note he ▸ hd) hl
  consumed handle := by rw [deliveries_note he]; exact h.consumed handle
  tiles hd := h.tiles (deliveries_note he ▸ hd)

include h in
/-- `Sound` is kept by `lookUp`, which leads to an entry, and tasks are as ready as before. -/
theorem lookUp (id : Int64) :
    ∃ since', (t.lookUp id).2.Sound since' ∧ (t.lookUp id).1.IsIn (t.lookUp id).2.cursors since' ∧
      ∀ task, Task.IsReady t.cursors since task → task.IsReady (t.lookUp id).2.cursors since' := by
  -- the look-up may make an entry, whose life starts with it
  obtain ⟨since', hdated, hsince, hidAt, hnew⟩ := h.dated.get t.now id
  have hentries (h : CursorHandle) (hlt : h < t.cursors.entries.length) :=
    CursorCache.idAt_get_of_lt t.now hlt id
  have hready (task : Task) (htask : task.IsReady t.cursors since) := htask.mono hentries hsince
  refine ⟨since', ⟨hdated, fun hmem => hready _ (h.ready hmem), ?_, ?_, h.tiles⟩,
    ⟨hidAt, hnew⟩, hready⟩
  · intro d l hd hl
    exact (h.counted hd hl).mono hentries hsince
  · intro handle
    exact (t.cursors.consumed_get t.now id handle).trans (h.consumed handle)

include h in
/-- `Sound` is kept by a reply that `Tiles` those before it, if the cache counts what it hands
on. -/
theorem deliver {cursors : CursorCache} (i : Nat) {d : Delivery} (hc : t.cursors.Shrinks cursors)
    (hconsumed : ∀ h, cursors.consumed h = t.cursors.consumed h + d.sizeAt h)
    (hl : ∀ l, d.lookUp? = some l → l.IsIn t.cursors since) (htiles : d.Tiles t.deliveries) :
    ((t.withCursors cursors).deliver i d).Sound since where
  dated := h.dated.mono hc
  ready hmem := by
    obtain hmem | rfl := List.mem_or_eq_of_mem_set hmem
    · exact (h.ready hmem).mono (fun h _ => hc.idAt h) fun _ _ => rfl
    · trivial
  counted {d' l} hd hl' := by
    have hin : l.IsIn t.cursors since := by
      rw [deliveries_deliver] at hd
      obtain hd | hd := List.mem_append.mp hd
      · exact h.counted hd hl'
      · exact hl _ (List.mem_singleton.mp hd ▸ hl')
    exact hin.mono (fun h _ => hc.idAt h) fun _ _ => rfl
  consumed handle := by
    rw [deliveries_deliver, List.map_append, List.sum_append, deliveries_withCursors, ← h.consumed]
    rw [List.map_singleton, List.sum_singleton]
    exact hconsumed handle
  tiles hd := by
    rw [deliveries_deliver, deliveries_withCursors] at hd
    -- the last reply is the new one, and all others were sent before
    obtain heq | hd := List.prefix_concat_iff.mp hd
    · obtain ⟨rfl, hlast⟩ := List.append_inj' heq rfl
      exact List.singleton_inj.mp hlast ▸ htiles
    · exact h.tiles hd

include h in
/-- The count of an entry is what was handed on in the life that the entry belongs to. -/
theorem consumed_eq {l : LookUp} (hl : l.IsIn t.cursors since) (hid : l.cursor ≠ exhaustedCursor) :
    t.cursors.consumed l.handle = (t.deliveries.map (·.sizeIn l)).sum := by
  rw [h.consumed]
  congr 1
  refine List.map_congr_left fun d hd => ?_
  simp only [Delivery.sizeAt, Delivery.sizeIn]
  split
  · rename_i l' hl'
    simp only [hl.handle_eq_iff (h.counted hd hl') h.dated hid]
  · rfl

/-! ### Steps -/

include h in
/-- `Sound` is kept by `answerMore`: the reply starts at the count of its entry, and is counted
there. -/
theorem answerMore (i : Nat) {l : LookUp} (hl : l.IsIn t.cursors since) (response : Document) :
    (t.answerMore i l response).Sound since := by
  have hl' {reply : Except ServerError Reply} : ∀ l',
      (Delivery.next l response reply).lookUp? = some l' →
      l'.IsIn t.cursors since := by
    rintro _ ⟨⟩
    exact hl
  -- a reply without documents is not counted
  have hzero {d : Delivery} (hsize : d.size = 0) (handle : CursorHandle) :
      t.cursors.consumed handle = t.cursors.consumed handle + d.sizeAt handle := by
    simp only [Delivery.sizeAt, hsize, ite_self]
    split <;> rfl
  rw [Traffic.answerMore]
  cases hok : isOk response with
  | false =>
    rw [Legacy.getMoreReply_of_failed _ _ hok]
    refine h.deliver i CursorCache.shrinks_refl (hzero ?_) hl' ?_
    · simp [Delivery.size, hok]
    · intro hok'
      rw [hok] at hok'
      cases hok'
  | true =>
    cases hb : Legacy.batchOf response "nextBatch" with
    | error e =>
      rw [Legacy.getMoreReply_of_error _ _ hok hb]
      refine h.deliver i CursorCache.shrinks_refl (hzero ?_) hl' ?_
      · simp [Delivery.size, Except.toOption]
      · intro _ ds hds
        -- a response that carries documents has a batch
        obtain ⟨id, batch, hb', -⟩ := Legacy.batchOf_of_carries hds
        rw [hb] at hb'
        cases hb'
    | ok batch =>
      obtain ⟨id, batch⟩ := batch
      rw [Legacy.getMoreReply_of_batch _ _ hok hb]
      refine h.deliver i (CursorCache.shrinks_consume _ _) ?_ hl' ?_
      · intro handle
        rw [t.cursors.consumed_consume (CursorCache.lt_length_of_idAt hl.idAt)]
        simp [Delivery.sizeAt, Delivery.lookUp?, Delivery.size, hok, Except.toOption]
      · intro _ ds hds
        obtain ⟨id', batch', hb', hds', -⟩ := Legacy.batchOf_of_carries hds
        rw [hb] at hb'
        cases hb'
        refine ⟨_, rfl, hds', fun hid => ?_⟩
        -- the count of the entry is what was handed on before
        rw [← h.consumed_eq hl hid]
        exact Legacy.toInt_startingFrom _

include h in
/-- `Sound` is kept by `answerQuery`, which replies, or gets a task ready to count. -/
theorem answerQuery (i : Nat) (shape : ReplyShape) (response : Document) :
    ∃ since', (t.answerQuery i shape response).Sound since' := by
  cases htaken : Legacy.taken? shape response with
  | none =>
    refine ⟨since, ?_⟩
    rw [Traffic.answerQuery, htaken, ← withCursors_self t]
    -- no cursor is opened, so the reply is sent at once and nothing is counted
    refine h.deliver i CursorCache.shrinks_refl (fun _ => rfl) (by rintro l ⟨⟩)
      (Delivery.tiles_first _ ?_)
    rw [htaken]
    rintro id n ⟨⟩
  | some taken =>
    obtain ⟨id, n⟩ := taken
    obtain ⟨since', hsound, hl, -⟩ := h.lookUp id
    refine ⟨since', ?_⟩
    simp only [Traffic.answerQuery, htaken]
    -- the reply waits until what it takes is counted
    refine hsound.put i _ ⟨hl, rfl, Delivery.size_first htaken, fun earlier =>
      Delivery.tiles_first earlier ?_⟩
    rw [htaken]
    rintro _ _ ⟨⟩
    exact ⟨_, rfl, rfl⟩

include h in
/-- `Sound` is kept by the next step of a task that `IsReady`. -/
theorem advance (i : Nat) {task : Task} (htask : task.IsReady t.cursors since) :
    ∃ since', (t.advance i task).Sound since' := by
  match task with
  | .asking id =>
    obtain ⟨since', hsound, hl, -⟩ := h.lookUp id
    refine ⟨since', (hsound.note (.lookedUp id) rfl).put i (.dispatched (.more _)) ?_⟩
    rintro _ ⟨⟩
    exact hl
  | .dispatched purpose => exact ⟨since, h⟩
  | .answered purpose command response =>
    have hready : (Task.tracked purpose response).IsReady t.cursors since := htask
    obtain hc | ⟨ids, hc⟩ | ⟨-, id, -, -, hc⟩ := t.cursors.track_cases t.now command response
    all_goals simp only [Traffic.advance, hc]
    · rw [withCursors_self]
      exact ⟨since, h.put i _ hready⟩
    · have hsound :=
        h.withCursors (CursorCache.shrinks_closeAll ids) (t.cursors.consumed_closeAll ids)
      exact ⟨since,
        hsound.put i _ (hready.mono (fun h _ => (CursorCache.shrinks_closeAll ids).idAt h)
          fun _ _ => rfl)⟩
    · obtain ⟨since', hsound, -, hmono⟩ := h.lookUp id
      exact ⟨since', hsound.put i _ (hmono _ hready)⟩
  | .tracked .plain response => exact ⟨since, h.put i .finished trivial⟩
  | .tracked (.query shape) response => exact h.answerQuery i shape response
  | .tracked (.more l) response => exact ⟨since, h.answerMore i (htask l rfl) response⟩
  | .tracked (.expiry id) response =>
    have hsound := h.withCursors (CursorCache.shrinks_close id) (t.cursors.consumed_close id)
    exact ⟨since, hsound.put i .finished trivial⟩
  | .counting d l n =>
    -- the reply was made when the entry was looked up, and is counted now
    obtain ⟨hin, hl, rfl, htiles⟩ := htask
    refine ⟨since, h.deliver i (CursorCache.shrinks_consume _ _) ?_ ?_ (htiles _)⟩
    · intro handle
      rw [t.cursors.consumed_consume (CursorCache.lt_length_of_idAt hin.idAt)]
      simp only [Delivery.sizeAt, hl]
    · intro l' hl'
      rw [hl] at hl'
      cases hl'
      exact hin
  | .finished => exact ⟨since, h⟩

end Sound

/-- `Sound` is kept by all that can happen. -/
theorem Sound.effect (h : t.Sound since) {a : Action} {t' : Traffic} (heffect : t.Effect a t') :
    ∃ since', t'.Sound since' := by
  -- what becomes of the command of a task leaves the task with the look-up that it has
  have hready {i : Nat} {purpose : Purpose} (hi : t.tasks[i]? = some (.dispatched purpose))
      (l : LookUp)
      (hl : purpose.lookUp? = some l) : l.IsIn t.cursors since :=
    h.ready (List.mem_of_getElem? hi) l hl
  cases heffect with
  | nothing => exact ⟨since, h⟩
  | arrive b => exact ⟨since, h.add _ (Task.isReady_ofBody b)⟩
  | respond hi command response =>
    exact ⟨since, (h.note (.responded response) rfl).put _ (.answered _ command response)
      (hready hi)⟩
  | fail hi e => exact ⟨since, h.put _ (.tracked _ e.document) (hready hi)⟩
  | @cancel i purpose hi =>
    cases purpose with
    | expiry id => exact ⟨since, h.put i (.tracked (.expiry id) []) nofun⟩
    | _ => exact ⟨since, h.put i .finished trivial⟩
  | advance hi => exact h.advance _ (h.ready (List.mem_of_getElem? hi))
  | @expire id hid =>
    have hsound := h.withCursors (CursorCache.shrinks_close id) (t.cursors.consumed_close id)
    exact ⟨since, (hsound.note (.expired id) rfl).add (.dispatched (.expiry id)) nofun⟩
  | access a =>
    cases a with
    | lookUp id =>
      obtain ⟨since', hsound, -⟩ := h.lookUp id
      exact ⟨since', hsound⟩
    | close id =>
      exact ⟨since, h.withCursors (CursorCache.shrinks_close id) (t.cursors.consumed_close id)⟩
    | clear => exact ⟨since, h.withCursors CursorCache.shrinks_clear t.cursors.consumed_clear⟩
    | keep handle f =>
      exact ⟨since, h.withCursors (CursorCache.shrinks_modify handle fun _ => rfl)
        (t.cursors.consumed_modify handle fun _ => rfl)⟩
  | pass ms => exact ⟨since, h.dated, h.ready, h.counted, h.consumed, h.tiles⟩

/-- `Sound` is kept by any actions, one after another. -/
theorem Sound.run (h : t.Sound since) (actions : List Action) :
    ∃ since', (t.run actions).Sound since' := by
  induction actions generalizing t since with
  | nil => exact ⟨since, h⟩
  | cons a actions ih =>
    obtain ⟨since', hstep⟩ := h.effect (t.effect_step a)
    exact ih hstep

/-- `Sound` is kept on the way to all that a service `Reaches`. -/
theorem Sound.reaches (h : t.Sound since) {σ : Type} {v : Service σ} {allowed : Access → Prop}
    {t' : Traffic}
    (hreaches : t.Reaches v allowed t') : ∃ since', t'.Sound since' := by
  induction hreaches with
  | refl => exact ⟨since, h⟩
  | step _ _ ih =>
    obtain ⟨since', hsound⟩ := ih
    exact hsound.effect (effect_step _ _)

/-- After all that `play` lets happen to a gateway, its cache is that of some traffic that is
`Sound`. -/
theorem exists_sound_play {σ : Type} {v : Service σ} {allowed : Access → Prop}
    (hv : AccessesOnly v allowed) (settings : Settings) (own : σ) (occurrences : List Occurrence) :
    ∃ t, (start settings.cursorTimeout).Reaches v allowed t ∧
      t.IsOf ((Gateway.start settings v own).play occurrences).shared ∧ ∃ since, t.Sound since := by
  obtain ⟨t, hreaches, hat⟩ := exists_reaches_play hv (isAt_start settings v own) occurrences
  exact ⟨t, hreaches, hat.isOf, (Sound.start settings.cursorTimeout).reaches hreaches⟩

/-- However requests are interleaved in a run of `Traffic`, and whatever else goes on, each delivery
`Tiles` those before it: a reply to a find query holds the documents of its first batch and starts
at the beginning, and a reply to a request for more holds the documents of its batch and starts
where the replies before it, in the same life of the same cursor, have ended. That the actions of
`Traffic` are those of a gateway is `exists_reaches_handleBody` for the handling of one body, with
the reply that it delivers, and `exists_sound_play` for all that can happen to a gateway. -/
theorem replies_tile (ttl : Nat) (actions : List Action) {earlier : List Delivery} {d : Delivery}
    (h : earlier ++ [d] <+: ((start ttl).run actions).deliveries) : d.Tiles earlier := by
  obtain ⟨since, hsound⟩ := (Sound.start ttl).run actions
  exact hsound.tiles h

/-- A response with documents under a key of its cursor. -/
def batchResponse (id : Int64) (key : String) (ds : List Document) : Document :=
  [("ok", .int32 1),
    ("cursor", .document [("id", .int64 id), (key, .array (ds.map Value.document))])]

/-- A document that holds a number. -/
def numbered (n : Int32) : Document := [("n", .int32 n)]

/-- Two requests for more of one cursor are under way before the first batch is counted. One of them
is the last, but the other one, which gets the batch before, is answered first. A request for more
of another cursor comes in between. -/
def twoReaders : List Action :=
  let more (id : Int64) : Action := .arrive (.getMore ⟨0, "db.c", 0, id⟩)
  let respond (i : Nat) (asked id : Int64) (ns : List Int32) : Action :=
    .respond i ⟨.getMore, [("getMore", .int64 asked)]⟩
      (batchResponse id "nextBatch" (ns.map numbered))
  [.arrive (.query ⟨⟨0⟩, "db.c", 0, 0, [], none⟩),
    .respond 0 ⟨.find, []⟩ (batchResponse 7 "firstBatch" [numbered 1, numbered 2]),
    .advance 0, .advance 0,
    more 7, .advance 1, more 7, .advance 2, .advance 0,
    more 8, .advance 3, respond 3 8 8 [9], .advance 3, .advance 3,
    respond 2 7 7 [3], .advance 2, .advance 2, respond 1 7 0 [4], .advance 1, .advance 1]

/-- The last reply starts where the two before it have ended, although its cursor was removed by
then. -/
theorem replies_tile_twoReaders :
    let t := (start 600).run twoReaders
    let l : LookUp := ⟨7, 0, 0⟩
    let last : Delivery :=
      .next l (batchResponse 0 "nextBatch" [numbered 4]) (.ok ⟨0, 0, 3, [numbered 4]⟩)
    t.deliveries.dropLast ++ [last] <+: t.deliveries ∧ last.Tiles t.deliveries.dropLast ∧
      (t.deliveries.dropLast.map (·.sizeIn l)).sum = 3 ∧ t.cursors.contains 7 = false :=
  ⟨⟨[], rfl⟩, replies_tile 600 twoReaders ⟨[], rfl⟩, rfl, rfl⟩

end Traffic

end Gateway

end DocGateway
