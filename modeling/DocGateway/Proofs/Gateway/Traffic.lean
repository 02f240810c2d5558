import DocGateway.Proofs.Cursor.Lifetimes
import DocGateway.Proofs.Legacy.Reply
/-!
# Requests that are under way at the same time

While the command of one request is in the pipeline, other requests come and go, and all of them use
one cursor cache. Here a request is a task, which comes forward by one access to the cache at a
time, and the tasks take their steps in any order. What stages do to the cache, and what answers
they give, comes from outside, and so does the passing of time.

How often a cursor was removed, and what has happened so far, is kept besides: it changes no step.

## Key results

- `effect_step`: what comes of what can happen
- `history_prefix_of_effect`: what was taken down stays
-/

namespace DocGateway.Gateway

open Bson (Document)
open Wire (Body Reply)
open Legacy (ReplyShape)

/-! ### Tasks -/

/-- What the response to a command is for. -/
inductive Purpose where
  /-- A command message, or a request to close cursors: the cache is not asked again. -/
  | plain
  | query (shape : ReplyShape)
  /-- A request for more, which has looked its cursor up. -/
  | more (l : LookUp)
  /-- The gateway itself closes an expired cursor. -/
  | expiry (id : Int64)

/-- A reply to a legacy request, or the error that there is instead, with the response that it was
made of. -/
inductive Delivery where
  /-- A reply to a query. If it is counted for a cursor, the cursor was looked up for it. -/
  | first (shape : ReplyShape) (counted? : Option LookUp) (response : Document)
      (reply : Except ServerError Reply)
  /-- A reply to a request for more. -/
  | next (l : LookUp) (response : Document) (reply : Except ServerError Reply)

/-- The look-up whose entry a reply is counted at. -/
def Delivery.lookUp? : Delivery → Option LookUp
  | first _ counted? _ _ => counted?
  | next l _ _ => some l

/-- What a client is sent. -/
def Delivery.reply : Delivery → Except ServerError Reply
  | first _ _ _ reply | next _ _ reply => reply

/-- How far a request has come. -/
inductive Task where
  /-- A request for more, whose cursor is still to be looked up. -/
  | asking (id : Int64)
  /-- The command is in the pipeline. -/
  | dispatched (purpose : Purpose)
  /-- The command has its response, and the cache is still to follow it. -/
  | answered (purpose : Purpose) (command : Command) (response : Document)
  /-- The cache has followed the response. -/
  | tracked (purpose : Purpose) (response : Document)
  /-- The documents of a first batch are still to be counted. -/
  | counting (d : Delivery) (l : LookUp) (n : Nat)
  | finished

/-- The task of a request. -/
def Task.ofBody : Body → Task
  | .msg m => match Legacy.mergeSections m with
    | .ok _ => dispatched .plain
    | .error _ => finished
  | .query q => match Legacy.queryCommand q with
    | .ok t => dispatched (.query t.shape)
    | .error _ => finished
  | .getMore g => match Legacy.getMoreCommand g with
    | .ok _ => asking g.cursorId
    | .error _ => finished
  | .killCursors _ => dispatched .plain
  | .reply _ | .compressed _ _ => finished

/-! ### Traffic -/

/-- What a stage, or an operator, can do to the cache. -/
inductive Access where
  | lookUp (id : Int64)
  | close (id : Int64)
  | clear
  /-- Changes what stages keep beside a cursor. -/
  | keep (h : CursorHandle) (f : Sidecar → Sidecar)

/-- Accesses the cache. -/
def Access.apply (now : Nat) (c : CursorCache) : Access → CursorCache
  | lookUp id => (c.get now id).2
  | close id => c.close id
  | clear => c.clear
  | keep h f => c.modify h fun e => { e with sidecar := f e.sidecar }

/-- What has happened. -/
inductive Event where
  /-- A command got its response. -/
  | responded (response : Document)
  /-- A request for more looked its cursor up. -/
  | lookedUp (id : Int64)
  | delivered (d : Delivery)
  /-- The gateway sends the command that closes an expired cursor. -/
  | expired (id : Int64)

/-- The reply that was sent, if that is what has happened. -/
def Event.delivery? : Event → Option Delivery
  | delivered d => some d
  | _ => none

/-- What can happen next. -/
inductive Action where
  /-- A request arrives. -/
  | arrive (b : Body)
  /-- The pipeline comes to an end with the command of a task, which stages may have rewritten, and
  its response. -/
  | respond (i : Nat) (command : Command) (response : Document)
  /-- The command of a task fails, in the pipeline or before. -/
  | fail (i : Nat) (e : ServerError)
  /-- The command of a task is cancelled. -/
  | cancel (i : Nat)
  /-- A task takes its next step. -/
  | advance (i : Nat)
  /-- The gateway finds a cursor expired, if it is. -/
  | expire (id : Int64)
  | access (a : Access)
  /-- Time passes. -/
  | pass (milliseconds : Nat)

structure Traffic where
  cursors : CursorCache
  /-- The time in milliseconds. -/
  now : Nat
  /-- How often each cursor was removed. -/
  removals : Int64 → Nat
  tasks : List Task
  /-- What has happened, the earliest first. -/
  history : List Event

namespace Traffic

/-- No traffic yet. -/
def start (ttl : Nat) : Traffic := ⟨.empty ttl, 0, fun _ => 0, [], []⟩

/-- The replies so far, the earliest first. -/
def deliveries (t : Traffic) : List Delivery := t.history.filterMap Event.delivery?

/-- Changes the cursors. -/
def withCursors (t : Traffic) (cursors : CursorCache) : Traffic :=
  { t with cursors, removals := t.cursors.removalsTo cursors t.removals }

/-- Takes down what happens. -/
def note (t : Traffic) (e : Event) : Traffic := { t with history := t.history ++ [e] }

/-- Puts a task in its place. -/
def put (t : Traffic) (i : Nat) (task : Task) : Traffic := { t with tasks := t.tasks.set i task }

/-- Adds a task. -/
def add (t : Traffic) (task : Task) : Traffic := { t with tasks := t.tasks ++ [task] }

/-- Ends a task with a reply. -/
def deliver (t : Traffic) (i : Nat) (d : Delivery) : Traffic :=
  (t.note (.delivered d)).put i .finished

/-- Looks a cursor up. -/
def lookUp (t : Traffic) (id : Int64) : LookUp × Traffic :=
  let (h, cursors) := t.cursors.get t.now id
  (⟨id, h, t.removals id⟩, t.withCursors cursors)

/-- Replies to a query, or gets ready to count what the reply takes from a cursor. -/
def answerQuery (t : Traffic) (i : Nat) (shape : ReplyShape) (response : Document) : Traffic :=
  let reply := (Legacy.firstReply shape response).map (·.reply)
  match Legacy.taken? shape response with
  | none => t.deliver i (.first shape none response reply)
  | some (id, n) =>
    let (l, t) := t.lookUp id
    t.put i (.counting (.first shape (some l) response reply) l n)

/-- Replies to a request for more. -/
def answerMore (t : Traffic) (i : Nat) (l : LookUp) (response : Document) : Traffic :=
  let (reply, cursors) := Legacy.getMoreReply t.cursors l.handle response
  (t.withCursors cursors).deliver i (.next l response reply)

/-- A task takes its next step, if there is one without the pipeline. -/
def advance (t : Traffic) (i : Nat) : Task → Traffic
  | .asking id =>
    let (l, t) := t.lookUp id
    (t.note (.lookedUp id)).put i (.dispatched (.more l))
  | .answered purpose command response =>
    (t.withCursors (t.cursors.track t.now command response).2).put i (.tracked purpose response)
  | .tracked .plain _ => t.put i .finished
  | .tracked (.query shape) response => t.answerQuery i shape response
  | .tracked (.more l) response => t.answerMore i l response
  | .tracked (.expiry id) _ => (t.withCursors (t.cursors.close id)).put i .finished
  | .counting d l n => (t.withCursors (t.cursors.consume l.handle n)).deliver i d
  | .dispatched _ | .finished => t

/-- What follows the command of a task that was cancelled: an expired cursor is closed all the
same. -/
def afterCancel : Purpose → Task
  | .expiry id => .tracked (.expiry id) []
  | _ => .finished

/-- One thing happens. -/
def step (t : Traffic) : Action → Traffic
  | .arrive b => t.add (.ofBody b)
  | .respond i command response =>
    match t.tasks[i]? with
    | some (.dispatched purpose) =>
      (t.note (.responded response)).put i (.answered purpose command response)
    | _ => t
  | .fail i e =>
    match t.tasks[i]? with
    | some (.dispatched purpose) => t.put i (.tracked purpose e.document)
    | _ => t
  | .cancel i =>
    match t.tasks[i]? with
    | some (.dispatched purpose) => t.put i (afterCancel purpose)
    | _ => t
  | .advance i =>
    match t.tasks[i]? with
    | some task => t.advance i task
    | none => t
  | .expire id =>
    match t.cursors.removeIdle t.now id with
    | (true, cursors) => ((t.withCursors cursors).note (.expired id)).add (.dispatched (.expiry id))
    | (false, _) => t
  | .access a => t.withCursors (a.apply t.now t.cursors)
  | .pass ms => { t with now := t.now + ms }

/-- Things happen one after another. -/
def run (t : Traffic) (actions : List Action) : Traffic := actions.foldl step t

/-! ### What happens -/

/-- What comes of what can happen: nothing if there is nobody that it can happen to, and else one
change of the traffic. -/
inductive Effect (t : Traffic) : Action → Traffic → Prop
  | nothing (a : Action) : Effect t a t
  | arrive (b : Body) : Effect t (.arrive b) (t.add (.ofBody b))
  | respond {i : Nat} {purpose : Purpose} (hi : t.tasks[i]? = some (.dispatched purpose))
      (command : Command)
      (response : Document) :
      Effect t (.respond i command response)
      ((t.note (.responded response)).put i (.answered purpose command response))
  | fail {i : Nat} {purpose : Purpose} (hi : t.tasks[i]? = some (.dispatched purpose))
      (e : ServerError) :
      Effect t (.fail i e) (t.put i (.tracked purpose e.document))
  | cancel {i : Nat} {purpose : Purpose} (hi : t.tasks[i]? = some (.dispatched purpose)) :
      Effect t (.cancel i) (t.put i (afterCancel purpose))
  | advance {i : Nat} {task : Task} (hi : t.tasks[i]? = some task) :
      Effect t (.advance i) (t.advance i task)
  | expire {id : Int64} (hid : t.cursors.contains id = true) :
      Effect t (.expire id) (((t.withCursors (t.cursors.close id)).note (.expired id)).add
        (.dispatched (.expiry id)))
  | access (a : Access) : Effect t (.access a) (t.withCursors (a.apply t.now t.cursors))
  | pass (ms : Nat) : Effect t (.pass ms) { t with now := t.now + ms }

/-- `step` has one `Effect` that the action can have. -/
theorem effect_step (t : Traffic) (a : Action) : t.Effect a (t.step a) := by
  cases a with
  | arrive b => exact .arrive b
  | respond i command response =>
    simp only [step]
    split
    · exact .respond ‹_› command response
    · exact .nothing _
  | fail i e =>
    simp only [step]
    split
    · exact .fail ‹_› e
    · exact .nothing _
  | cancel i =>
    simp only [step]
    split
    · exact .cancel ‹_›
    · exact .nothing _
  | advance i =>
    simp only [step]
    split
    · exact .advance ‹_›
    · exact .nothing _
  | expire id =>
    simp only [step]
    -- a cursor that was used in the meantime has not expired
    obtain ⟨hc, hid⟩ | hc := t.cursors.removeIdle_cases t.now id
    · rw [hc]
      exact .expire hid
    · rw [hc]
      exact .nothing _
  | access a => exact .access a
  | pass ms => exact .pass ms

/-! ### What is taken down -/

variable {t : Traffic}

/-- `withCursors` sends no reply. -/
@[simp] theorem deliveries_withCursors (cursors : CursorCache) :
    (t.withCursors cursors).deliveries = t.deliveries := rfl

/-- `put` sends no reply. -/
@[simp] theorem deliveries_put (i : Nat) (task : Task) : (t.put i task).deliveries = t.deliveries :=
  rfl

/-- `add` sends no reply. -/
@[simp] theorem deliveries_add (task : Task) : (t.add task).deliveries = t.deliveries := rfl

/-- `lookUp` sends no reply. -/
@[simp] theorem deliveries_lookUp (id : Int64) : (t.lookUp id).2.deliveries = t.deliveries := rfl

/-- `note` sends no reply, if it takes down something else. -/
theorem deliveries_note {e : Event} (h : e.delivery? = none) :
    (t.note e).deliveries = t.deliveries := by
  simp [deliveries, note, h]

/-- `deliver` sends its reply after all others. -/
theorem deliveries_deliver (i : Nat) (d : Delivery) :
    (t.deliver i d).deliveries = t.deliveries ++ [d] := by
  simp [deliveries, deliver, note, put, Event.delivery?]

/-- `withCursors` of the same cursors changes nothing. -/
theorem withCursors_self (t : Traffic) : t.withCursors t.cursors = t := by
  have hremovals : t.cursors.removalsTo t.cursors t.removals = t.removals := by
    funext id
    simp [CursorCache.removalsTo]
  rw [withCursors, hremovals]

/-- `note` keeps what was taken down. -/
theorem history_prefix_note (t : Traffic) (e : Event) : t.history <+: (t.note e).history :=
  List.prefix_append _ _

/-- `advance` keeps what was taken down. -/
theorem history_prefix_advance (t : Traffic) (i : Nat) (task : Task) :
    t.history <+: (t.advance i task).history := by
  match task with
  | .asking id => exact history_prefix_note t _
  | .tracked (.query shape) response =>
    simp only [advance, answerQuery]
    split
    · exact history_prefix_note t _
    · exact List.prefix_rfl
  | .tracked (.more l) response => exact history_prefix_note t _
  | .counting d l n => exact history_prefix_note t _
  | .answered purpose command response | .tracked .plain response | .tracked (.expiry id) response
  | .dispatched purpose | .finished => exact List.prefix_rfl

/-- Each `Effect` keeps what was taken down. -/
theorem history_prefix_of_effect {t' : Traffic} {a : Action} (h : t.Effect a t') :
    t.history <+: t'.history := by
  cases h with
  | respond hi command response => exact history_prefix_note t _
  | advance hi => exact t.history_prefix_advance _ _
  | expire hid => exact history_prefix_note t _
  | nothing | arrive | fail | cancel | access | pass => exact List.prefix_rfl

end Traffic

end DocGateway.Gateway
