import DocGateway.Gateway.Expiry
import DocGateway.Proofs.Cursor.Expiry
import DocGateway.Proofs.Gateway.Exhaustion
/-!
# The gateway closes what has expired

For each cursor that has expired the gateway sends a command of its own. What comes to the pipeline
is seen by a watch in front of it, which takes down each command with its client, and changes
nothing else. Whatever the stages do, even if they look the cursor up again, it is gone once its
command has ended.

## Key results

- `Pipeline.run_watched`, `Session.dispatch_watched`: the watch changes nothing
- `Shared.killAllExpired_watched`: what it sees of the closing of some cursors
- `expired_once_and_closed`: cursors expire once and only when they are idle, and each that has
  expired is closed by one command
-/

namespace DocGateway

open Bson (Document)

/-- The commands that came to a pipeline, each with its client. -/
abbrev Visits := List (Client × Command)

variable {σ : Type}

/-! ### A watch before a pipeline -/

namespace Scene

/-- The scene with what the watch has seen. -/
def watched (s : Scene σ) (visits : Visits) : Scene (σ × Visits) :=
  ⟨s.request, s.client, s.cursors, s.now, s.spent, s.slowLog, (s.own, visits)⟩

/-- The scene without what the watch has seen. -/
def unwatched (s : Scene (σ × Visits)) : Scene σ :=
  ⟨s.request, s.client, s.cursors, s.now, s.spent, s.slowLog, s.own.1⟩

/-- The watch sees a command. -/
def seen (s : Scene (σ × Visits)) : Scene (σ × Visits) :=
  { s with own := (s.own.1, s.own.2 ++ [(s.client, s.request.command)]) }

end Scene

/-- What a stage does among watched layers. It neither sees nor changes what the watch has seen. -/
def Entry.watched (entry : Entry σ) (visits : Visits) : Entry (σ × Visits) :=
  match entry with
  | .stop outcome s => .stop outcome (s.watched visits)
  | .pass s leave => .pass (s.watched visits) fun a inside =>
    ((leave a inside.unwatched).1, (leave a inside.unwatched).2.watched inside.own.2)

/-- A stage among watched layers. -/
def Stage.watched (stage : Stage σ) : Stage (σ × Visits) :=
  ⟨stage.name, fun s => (stage.enter s.unwatched).watched s.own.2⟩

/-- The innermost layer of watched layers. -/
def Terminal.watched (terminal : Terminal σ) : Terminal (σ × Visits) := fun s =>
  ((terminal s.unwatched).1, (terminal s.unwatched).2.watched s.own.2)

/-- The pipeline with a watch at its first layer. -/
def Pipeline.watched (p : Pipeline σ) : Pipeline (σ × Visits) :=
  match p.stages with
  | [] => ⟨[], fun s => Terminal.watched p.terminal s.seen⟩
  | stage :: rest =>
    ⟨⟨stage.name, fun s => stage.watched.enter s.seen⟩ :: rest.map Stage.watched,
      Terminal.watched p.terminal⟩

namespace Passage

/-- The run with what the watch has seen. -/
def watched (p : Passage σ) (visits : Visits) : Passage (σ × Visits) :=
  ⟨p.outcome, p.scene.watched visits, p.events⟩

/-- The rest of `run` after a stage was entered. -/
def ofEntry (terminal : Terminal σ) (cancelled : Cancellation) (position : Nat) (name : String)
    (rest : List (Stage σ)) :
    Entry σ → Passage σ
  | .stop outcome scene => ofStage position name outcome scene []
  | .pass scene leave =>
    let inside := run terminal cancelled (position + 1) rest scene
    match inside.outcome with
    | .answered a =>
      ofStage position name (leave a inside.scene).1 (leave a inside.scene).2 inside.events
    | broken => ofStage position name broken inside.scene inside.events

variable (terminal : Terminal σ) (cancelled : Cancellation) (position : Nat) (name : String)
  (visits : Visits)

/-- `run` enters the first stage, unless it is cancelled before that. -/
theorem run_cons (stage : Stage σ) (rest : List (Stage σ)) (scene : Scene σ) :
    run terminal cancelled position (stage :: rest) scene =
      if cancelled position then ⟨.failure .cancelled, scene.tick, []⟩
      else ofEntry terminal cancelled position stage.name rest (stage.enter scene.tick) := by
  rw [run]
  split
  · rfl
  · cases stage.enter scene.tick <;> rfl

/-- `ofStage` does not see the watch. -/
theorem watched_ofStage (outcome : Outcome) (scene : Scene σ) (inside : List LayerEvent) :
    ofStage position name outcome (scene.watched visits) inside =
      (ofStage position name outcome scene inside).watched visits := by
  cases outcome <;> rfl

/-- `ofEntry` does not see the watch, if the layers inside do not. -/
theorem watched_ofEntry {rest : List (Stage σ)} (entry : Entry σ)
    (hrest : ∀ scene : Scene σ, run (Terminal.watched terminal) cancelled (position + 1)
      (rest.map Stage.watched) (scene.watched visits) =
      (run terminal cancelled (position + 1) rest scene).watched visits) :
    ofEntry (Terminal.watched terminal) cancelled position name (rest.map Stage.watched)
      (entry.watched visits) =
      (ofEntry terminal cancelled position name rest entry).watched visits := by
  cases entry with
  | stop outcome scene => exact watched_ofStage position name visits outcome scene []
  | pass scene leave =>
    simp only [ofEntry, Entry.watched, hrest]
    obtain ⟨outcome, inside, events⟩ := run terminal cancelled (position + 1) rest scene
    -- the stage makes its end of the answer in the scene without the watch
    cases outcome with
    | answered a => exact watched_ofStage position name visits _ _ events
    | crashed | stalled => rfl

/-- `run` does not see the watch. -/
theorem watched_run (stages : List (Stage σ)) (scene : Scene σ) :
    run (Terminal.watched terminal) cancelled position (stages.map Stage.watched)
      (scene.watched visits) =
      (run terminal cancelled position stages scene).watched visits := by
  -- by induction on the stages: each hands what it sees on to the next one
  induction stages generalizing position scene with
  | nil =>
    rw [List.map_nil, run, run]
    split <;> rfl
  | cons stage rest ih =>
    rw [List.map_cons, run_cons, run_cons]
    split
    · rfl
    · exact watched_ofEntry terminal cancelled position stage.name visits (stage.enter scene.tick)
        (ih (position + 1))

end Passage

/-- `Pipeline.run` does not see the watch, which sees the command if it comes to the first layer. -/
theorem Pipeline.watched_run (p : Pipeline σ) (cancelled : Cancellation) (scene : Scene σ)
    (visits : Visits) :
    p.watched.run cancelled (scene.watched visits) = (p.run cancelled scene).watched
      (if cancelled 0 then visits else visits ++ [(scene.client, scene.request.command)]) := by
  obtain ⟨stages, terminal⟩ := p
  -- the watch counts at the first layer, which may be the innermost one
  cases stages with
  | nil =>
    rw [run, run, watched, Passage.run, Passage.run]
    split <;> rfl
  | cons stage rest =>
    rw [run, run, watched, Passage.run_cons, Passage.run_cons]
    split
    · rfl
    · exact Passage.watched_ofEntry terminal cancelled 0 stage.name _
        (stage.enter scene.tick) fun scene =>
        Passage.watched_run terminal cancelled 1 _ rest scene

namespace Gateway

/-- The service with a watch at the first layer of its pipeline. -/
def Service.watched (v : Service σ) : Service (σ × Visits) := ⟨v.registry, v.pipeline.watched⟩

/-- The shared state with what the watch has seen. -/
def Shared.watched (s : Shared σ) (visits : Visits) : Shared (σ × Visits) :=
  ⟨s.cursors, s.metrics, s.nextReply, s.internalClient, s.cancelled, s.now, s.slowLog,
    (s.own, visits)⟩

namespace Session

/-- The session with what the watch has seen. -/
def watched (s : Session σ) (visits : Visits) : Session (σ × Visits) :=
  ⟨s.client, s.shared.watched visits⟩

/-- What the watch sees of a command. -/
def visits (v : Service σ) (s : Session σ) (d : Document) : Visits :=
  match v.registry.parse d with
  | .ok command => if s.shared.cancelled 0 then [] else [(s.client, command)]
  | .error _ => []

/-- `track` does not see the watch. -/
theorem watched_track (s : Session σ) (visits : Visits) (command : Command) (response : Document) :
    (s.watched visits).track command response = (s.track command response).watched visits := by
  simp only [track]
  split <;> simp_all [watched, withCursors, count, Shared.watched]

/-- `absorb` and `settle` do not see the watch. -/
theorem watched_settle (s : Session σ) (p : Passage σ) (before after : Visits) :
    ((s.watched before).absorb (p.watched after)).settle (p.watched after) =
      (((s.absorb p).settle p).1, ((s.absorb p).settle p).2.watched after) := by
  have habsorb : (s.watched before).absorb (p.watched after) = (s.absorb p).watched after := rfl
  rw [habsorb]
  obtain ⟨outcome, scene, events⟩ := p
  match outcome with
  | .answered (.ok response) => exact Prod.ext rfl (watched_track _ after _ response)
  | .answered (.error e) => cases e <;> rfl
  | .crashed | .stalled => rfl

/-- `dispatch` does not see the watch, which sees what `visits` says. -/
theorem watched_dispatch (v : Service σ) (s : Session σ) (visits : Visits) (d : Document) :
    (s.watched visits).dispatch v.watched d =
      ((s.dispatch v d).1, (s.dispatch v d).2.watched (visits ++ s.visits v d)) := by
  cases hp : v.registry.parse d with
  | error e =>
    simp only [dispatch, Service.watched, hp, Session.visits, List.append_nil]
    rfl
  | ok command =>
    have hp' : v.watched.registry.parse d = .ok command := hp
    have hvisits : visits ++ s.visits v d =
        if s.shared.cancelled 0 then visits else visits ++ [(s.client, command)] := by
      rw [Session.visits, hp]
      cases s.shared.cancelled 0 <;> simp
    -- the run is all that the watch takes part in
    have hpassage : (s.watched visits).passage v.watched command =
        (s.passage v command).watched (visits ++ s.visits v d) := by
      rw [hvisits]
      exact v.pipeline.watched_run s.shared.cancelled (s.scene command) visits
    rw [dispatch_of_parsed _ _ hp, dispatch_of_parsed _ _ hp', passed, hpassage]
    exact watched_settle (s.count (·.command command.name)) (s.passage v command) visits _

end Session

/-! ### Closing what has expired -/

/-- The command that closes one cursor. -/
def killing (id : Int64) : Command := ⟨.killCursors, Legacy.killCursorsCommand [id]⟩

/-- `killing` lists its cursor and no other. -/
@[simp] theorem cursorIds_killing (id : Int64) : (killing id).cursorIds = [id] := rfl

/-- `killing` is parsed by a registry that has `killCursors`. -/
theorem parse_killing (registry : CommandRegistry) (id : Int64) :
    registry.parse (Legacy.killCursorsCommand [id]) =
      if registry.contains "killCursors" then .ok (killing id)
      else .error (CommandRegistry.notFound "killCursors") := rfl

namespace Shared

/-- What is left after the command that closes a cursor, and whether it ended. -/
def afterKilling (id : Int64) (r : Ending Document × Session σ) : Bool × Shared σ :=
  match r.1 with
  | .done _ | .failed _ =>
    (true, { r.2.shared with internalClient := r.2.client, cursors := r.2.shared.cursors.close id })
  | .crashed | .stalled => (false, { r.2.shared with internalClient := r.2.client })

/-- `afterKilling` does not see the watch. -/
theorem watched_afterKilling (id : Int64) (ending : Ending Document) (session : Session σ)
    (visits : Visits) :
    afterKilling id (ending, session.watched visits) =
      ((afterKilling id (ending, session)).1,
        (afterKilling id (ending, session)).2.watched visits) := by
  cases ending <;> rfl

variable (v : Service σ) (s : Shared σ)

/-- The session in which the gateway closes a cursor. -/
def closing : Session σ := ⟨s.internalClient, { s with metrics := s.metrics.cursorExpired }⟩

/-- `killExpired` is a `dispatch` by the internal client, and what is left of it. -/
theorem killExpired_eq (id : Int64) :
    s.killExpired v id =
      afterKilling id (s.closing.dispatch v (Legacy.killCursorsCommand [id])) := by
  simp only [killExpired, closing]
  generalize Session.dispatch v _ _ = r
  obtain ⟨ending, session⟩ := r
  cases ending <;> rfl

/-- Whether commands that close cursors come to the pipeline: there are such commands, and requests
are not cancelled before they come to a layer. -/
def isClosing : Bool := v.registry.contains "killCursors" && !s.cancelled 0

/-- What the watch sees of the closing of one cursor. -/
def visit (id : Int64) : Visits := if s.isClosing v then [(s.internalClient, killing id)] else []

/-- The watch sees the `visit` of the closing. -/
theorem visits_closing (id : Int64) :
    s.closing.visits v (Legacy.killCursorsCommand [id]) = s.visit v id := by
  rw [Session.visits, parse_killing, visit, isClosing]
  cases v.registry.contains "killCursors" <;> cases hcancelled : s.cancelled 0 <;>
    simp [closing, hcancelled]

/-- `killExpired` does not see the watch, which sees its `visit`. -/
theorem watched_killExpired (visits : Visits) (id : Int64) :
    (s.watched visits).killExpired v.watched id =
      ((s.killExpired v id).1, (s.killExpired v id).2.watched (visits ++ s.visit v id)) := by
  have hclosing : (s.watched visits).closing = s.closing.watched visits := rfl
  rw [killExpired_eq, killExpired_eq, hclosing, Session.watched_dispatch, watched_afterKilling,
    visits_closing]

/-- `killExpired` does not change whether commands come to the pipeline. -/
theorem isClosing_killExpired (id : Int64) :
    (s.killExpired v id).2.isClosing v = s.isClosing v := by
  have hcancelled : (s.killExpired v id).2.cancelled = s.cancelled := by
    rw [killExpired_eq, afterKilling]
    split <;> exact s.closing.cancelled_dispatch v _
  rw [isClosing, isClosing, hcancelled]

/-- `killExpired` leaves the cursor uncached, if its command ends. -/
theorem contains_killExpired {id : Int64} (h : (s.killExpired v id).1 = true) :
    (s.killExpired v id).2.cursors.contains id = false := by
  rw [killExpired_eq, afterKilling] at h ⊢
  -- whatever the command did, the cursor is closed after it, unless the command never ends
  split at h
  · exact CursorCache.contains_close_self _ id
  · exact CursorCache.contains_close_self _ id
  · cases h
  · cases h

/-- What the watch sees of the closing of some cursors: one command for each, up to one that does
not end. -/
def visits (s : Shared σ) : List Int64 → Visits
  | [] => []
  | id :: ids =>
    s.visit v id ++ if (s.killExpired v id).1 then visits (s.killExpired v id).2 ids else []

/-- `killAllExpired` goes on until a command does not end. -/
theorem killAllExpired_cons (id : Int64) (ids : List Int64) :
    s.killAllExpired v (id :: ids) =
      if (s.killExpired v id).1 then (s.killExpired v id).2.killAllExpired v ids
      else (false, (s.killExpired v id).2) := by
  rw [killAllExpired]
  obtain ⟨ended, s'⟩ := s.killExpired v id
  cases ended <;> rfl

/-- `killAllExpired` does not see the watch, which sees its `visits`. -/
theorem watched_killAllExpired (seen : Visits) (ids : List Int64) :
    (s.watched seen).killAllExpired v.watched ids =
      ((s.killAllExpired v ids).1,
        (s.killAllExpired v ids).2.watched (seen ++ s.visits v ids)) := by
  -- by induction on the cursors: what was seen before stays in front
  induction ids generalizing s seen with
  | nil => rw [visits, List.append_nil]; rfl
  | cons id ids ih =>
    rw [killAllExpired_cons, killAllExpired_cons, watched_killExpired, visits]
    cases (s.killExpired v id).1 with
    | true =>
      simp only [↓reduceIte, ← List.append_assoc]
      exact ih _ _
    | false => simp

/-- The command at a place is that of the cursor there, if all before it ended. -/
theorem getElem?_visits (ids : List Int64) (k : Nat) :
    (s.visits v ids)[k]? =
      if s.isClosing v && (s.killAllExpired v (ids.take k)).1 then
        ids[k]?.map fun id => ((s.killAllExpired v (ids.take k)).2.internalClient, killing id)
      else none := by
  induction ids generalizing s k with
  | nil => cases k <;> simp [visits]
  | cons id ids ih =>
    have hrest := ih (s.killExpired v id).2
    rw [isClosing_killExpired] at hrest
    rw [visits, visit]
    cases hclosing : s.isClosing v with
    | false =>
      -- nothing comes to the pipeline, now or later
      simp only [hclosing, Bool.false_and] at hrest
      cases hended : (s.killExpired v id).1 <;> simp [hrest]
    | true =>
      cases k with
      | zero => simp [killAllExpired]
      | succ k =>
        rw [List.take_succ_cons, killAllExpired_cons]
        cases hended : (s.killExpired v id).1 <;> simp [hrest, hclosing]

/-- `killAllExpired` leaves the last cursor uncached, if its command ends. -/
theorem contains_killAllExpired {ids : List Int64} {id : Int64}
    (h : (s.killAllExpired v (ids ++ [id])).1 = true) :
    (s.killAllExpired v (ids ++ [id])).2.cursors.contains id = false := by
  -- by induction on the cursors before it, which have all been closed
  induction ids generalizing s with
  | nil =>
    rw [List.nil_append, killAllExpired_cons] at h ⊢
    split at h
    · rename_i hended
      rw [if_pos hended]
      exact s.contains_killExpired v hended
    · cases h
  | cons first ids ih =>
    rw [List.cons_append, killAllExpired_cons] at h ⊢
    split at h
    · rename_i hended
      rw [if_pos hended]
      exact ih _ h
    · cases h

end Shared

/-- What becomes of cursors that the gateway closes, and what a watch sees of that. -/
structure ClosesEach (v : Service σ) (s : Shared σ) (ids : List Int64)
    (visits : Visits) : Prop where
  /-- The watch sees these commands, and changes nothing. -/
  watched : (s.watched []).killAllExpired v.watched ids =
    ((s.killAllExpired v ids).1, (s.killAllExpired v ids).2.watched visits)
  /-- One command comes to the pipeline for each cursor, in their order, from the gateway's own
  client, if all commands before it ended. None comes if there are no such commands, or requests are
  cancelled before they come to a layer. -/
  getElem?_eq (k : Nat) : visits[k]? = if s.isClosing v && (s.killAllExpired v (ids.take k)).1 then
    ids[k]?.map fun id => ((s.killAllExpired v (ids.take k)).2.internalClient, killing id) else none
  /-- A cursor is not cached once it was its turn, whatever its command came to. -/
  contains_eq {k : Nat} {id : Int64} (hid : ids[k]? = some id)
    (hended : (s.killAllExpired v (ids.take (k + 1))).1 = true) :
    (s.killAllExpired v (ids.take (k + 1))).2.cursors.contains id = false

/-- What `ClosesEach` states holds of the `visits`. -/
theorem closesEach (v : Service σ) (s : Shared σ) (ids : List Int64) :
    ClosesEach v s ids (s.visits v ids) where
  watched := s.watched_killAllExpired v [] ids
  getElem?_eq := s.getElem?_visits v ids
  contains_eq {k id} hid hended := by
    have htake : ids.take (k + 1) = ids.take k ++ [id] := by
      rw [List.take_add_one, hid, Option.toList_some]
    rw [htake] at hended ⊢
    exact s.contains_killAllExpired v hended

end Gateway

end DocGateway
