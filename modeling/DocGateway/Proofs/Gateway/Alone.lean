import DocGateway.Gateway.Expiry
import DocGateway.Proofs.Gateway.Replies
import DocGateway.Proofs.Gateway.Traffic
/-!
# Requests by themselves are traffic

A request that is handled by itself, from its arrival to its reply, does what the steps of one task
do. So does the gateway when it closes expired cursors. Nothing is made up for that: what a command
comes to is what the pipeline makes of it, and what stages do to the cache is what they may do.

## Key results

- `exists_reaches_dispatch`: a command
- `exists_reaches_handleBody`: a request, with its reply
- `exists_reaches_reap`: the closing of expired cursors
-/

namespace DocGateway.Gateway

open Bson (Document)
open Legacy (ReplyShape)
open Wire (Body Reply)

/-! ### What comes from outside -/

/-- What the stages of a service do to the cache consists of accesses that are allowed. -/
def AccessesOnly {σ : Type} (v : Service σ) (allowed : Access → Prop) : Prop :=
  ∀ (s : Session σ) (command : Command), ∃ accesses : List Access, (∀ a ∈ accesses, allowed a) ∧
    (s.passage v command).scene.cursors = accesses.foldl (Access.apply s.shared.now)
      s.shared.cursors

/-- What a service can bring about, or its clients, or the clock. -/
inductive Action.IsFrom {σ : Type} (v : Service σ) (allowed : Access → Prop) : Action → Prop
  | arrive (b : Body) : IsFrom v allowed (.arrive b)
  /-- What a command comes to is what the pipeline makes of it. -/
  | respond {s : Session σ} {command : Command} {response : Document} (i : Nat)
      (h : (s.passage v command).outcome = .response response) :
      IsFrom v allowed (.respond i (s.passage v command).scene.request.command response)
  | refuse {d : Document} {e : ServerError} (i : Nat) (h : v.registry.parse d = .error e) :
      IsFrom v allowed (.fail i e)
  | fail {s : Session σ} {command : Command} {e : ServerError} (i : Nat)
      (h : (s.passage v command).outcome = .failure e) :
      IsFrom v allowed (.fail i e)
  | cancel {s : Session σ} {command : Command} (i : Nat)
      (h : (s.passage v command).outcome = .failure .cancelled) :
      IsFrom v allowed (.cancel i)
  | advance (i : Nat) : IsFrom v allowed (.advance i)
  | expire (id : Int64) : IsFrom v allowed (.expire id)
  | access {a : Access} (h : allowed a) : IsFrom v allowed (.access a)
  | pass (ms : Nat) : IsFrom v allowed (.pass ms)

namespace Traffic

/-- Some traffic becomes other traffic by actions that are `IsFrom` the service. -/
inductive Reaches {σ : Type} (v : Service σ) (allowed : Access → Prop) (t : Traffic) :
    Traffic → Prop
  | refl : Reaches v allowed t t
  | step {t' : Traffic} (h : Reaches v allowed t t') {a : Action}
      (ha : a.IsFrom v allowed) : Reaches v allowed t (t'.step a)

/-- The cache and the time are those that all requests share. -/
structure IsOf {σ : Type} (t : Traffic) (s : Shared σ) : Prop where
  cursors : t.cursors = s.cursors
  now : t.now = s.now

variable {σ : Type} {v : Service σ} {allowed : Access → Prop} {s : Session σ}
  {t t' t'' : Traffic} {i : Nat}

/-- One action that is `IsFrom` the service. -/
theorem Reaches.of_step {a : Action} (ha : a.IsFrom v allowed) (h : t.step a = t') :
    t.Reaches v allowed t' :=
  h ▸ Reaches.refl.step ha

/-- `Reaches` goes on with other actions behind those that were taken. -/
theorem Reaches.trans (h : t.Reaches v allowed t') (h' : t'.Reaches v allowed t'') :
    t.Reaches v allowed t'' := by
  induction h' with
  | refl => exact h
  | step _ ha ih => exact ih.step ha

/-- What was taken down in the `history` stays. -/
theorem Reaches.history_prefix (h : t.Reaches v allowed t') : t.history <+: t'.history := by
  induction h with
  | refl => exact List.prefix_rfl
  | step _ _ ih => exact ih.trans (history_prefix_of_effect (effect_step _ _))

/-! ### Steps of a task -/

/-- `respond` takes down the response, and the task goes on to track it. -/
theorem step_respond {purpose : Purpose} (hi : t.tasks[i]? = some (.dispatched purpose))
    (command : Command) (response : Document) :
    t.step (.respond i command response) = (t.note (.responded response)).put i
      (.answered purpose command response) := by
  simp only [step, hi]

/-- `fail` tracks nothing, and the task has the document of the error. -/
theorem step_fail {purpose : Purpose} (hi : t.tasks[i]? = some (.dispatched purpose))
    (e : ServerError) :
    t.step (.fail i e) = t.put i (.tracked purpose e.document) := by
  simp only [step, hi]

/-- `cancel` ends the task, unless that closes an expired cursor: it goes on to do so. -/
theorem step_cancel {purpose : Purpose} (hi : t.tasks[i]? = some (.dispatched purpose)) :
    t.step (.cancel i) = t.put i (afterCancel purpose) := by
  simp only [step, hi]

/-- `advance` can always be taken. -/
theorem reaches_advance {task : Task} (hi : t.tasks[i]? = some task) :
    t.Reaches v allowed (t.advance i task) :=
  .of_step (.advance i) (by simp only [step, hi])

/-- A task is found where it was put. -/
theorem getElem?_of_set {task present : Task} (h : t'.tasks = t.tasks.set i task)
    (hi : t.tasks[i]? = some present) :
    t'.tasks[i]? = some task := by
  rw [h, List.getElem?_set_self (List.getElem?_eq_some_iff.mp hi).1]

/-- To put a task where it stands changes nothing. -/
theorem set_getElem?_self {tasks : List Task} {task : Task} (hi : tasks[i]? = some task) :
    tasks.set i task = tasks := by
  obtain ⟨hlt, rfl⟩ := List.getElem?_eq_some_iff.mp hi
  exact List.set_getElem_self hlt

/-- `add` puts a new task behind all others. -/
theorem getElem?_add (t : Traffic) (task : Task) :
    (t.add task).tasks[t.tasks.length]? = some task :=
  List.getElem?_concat_length

/-! ### Commands -/

/-- `Reaches` holds for all that stages are allowed to do to the cache. -/
theorem exists_reaches_accesses (t : Traffic) (v : Service σ) {accesses : List Access}
    (h : ∀ a ∈ accesses, allowed a) :
    ∃ removals,
      t.Reaches v allowed { t with cursors := accesses.foldl (Access.apply t.now) t.cursors,
                                   removals } := by
  induction accesses generalizing t with
  | nil => exact ⟨t.removals, .refl⟩
  | cons a accesses ih =>
    have hstep : t.Reaches v allowed (t.step (.access a)) :=
      .of_step (.access (h a List.mem_cons_self)) rfl
    obtain ⟨removals, hrest⟩ := ih (t.step (.access a)) fun b hb => h b (List.mem_cons_of_mem _ hb)
    exact ⟨removals, hstep.trans hrest⟩

/-- The task of a command after `Session.settle`, by what that ended with. -/
def settled (purpose : Purpose) : Ending Document → Task
  | .done response => .tracked purpose response
  | .failed _ => afterCancel purpose
  | .crashed | .stalled => .dispatched purpose

/-- What `Session.settle` does to the cache, the task of the command does. -/
theorem exists_reaches_settle (ht : t.IsOf s.shared) {purpose : Purpose}
    (hi : t.tasks[i]? = some (.dispatched purpose)) (before : Session σ) (command : Command) :
    ∃ t', t.Reaches v allowed t' ∧ t'.IsOf (s.settle (before.passage v command)).2.shared ∧
      t'.deliveries = t.deliveries ∧
      t'.tasks = t.tasks.set i (settled purpose (s.settle (before.passage v command)).1) := by
  rw [Session.settle]
  split
  -- a response is taken down, and then the cache follows it
  · rename_i response houtcome
    let command' := (before.passage v command).scene.request.command
    let answered := (t.note (.responded response)).put i (.answered purpose command' response)
    have hanswered : t.Reaches v allowed answered :=
      .of_step (.respond i houtcome) (step_respond hi command' response)
    have hi' : answered.tasks[i]? = some (.answered purpose command' response) :=
      getElem?_of_set rfl hi
    refine ⟨_, hanswered.trans (reaches_advance hi'), ⟨?_, ?_⟩, deliveries_note rfl,
      List.set_set ..⟩
    · rw [Session.cursors_track, ← ht.cursors, ← ht.now]
      rfl
    · rw [Session.now_track, ← ht.now]
      rfl
  · rename_i houtcome
    exact ⟨_, .of_step (.cancel i houtcome) (step_cancel hi), ⟨ht.cursors, ht.now⟩, rfl, rfl⟩
  · rename_i e _ houtcome
    exact ⟨_, .of_step (.fail i houtcome) (step_fail hi e), ⟨ht.cursors, ht.now⟩, rfl, rfl⟩
  · exact ⟨t, .refl, ht, rfl, (set_getElem?_self hi).symm⟩
  · exact ⟨t, .refl, ht, rfl, (set_getElem?_self hi).symm⟩

/-- What `Session.dispatch` does to the cache, and what it ends with, the task of its command comes
to. -/
theorem exists_reaches_dispatch (hv : AccessesOnly v allowed) (ht : t.IsOf s.shared)
    {purpose : Purpose} (hi : t.tasks[i]? = some (.dispatched purpose)) (d : Document) :
    ∃ t', t.Reaches v allowed t' ∧ t'.IsOf (s.dispatch v d).2.shared ∧
      t'.deliveries = t.deliveries ∧
      t'.tasks = t.tasks.set i (settled purpose (s.dispatch v d).1) := by
  cases hp : v.registry.parse d with
  | error e =>
    rw [s.dispatch_of_refused v hp]
    exact ⟨_, .of_step (.refuse i hp) (step_fail hi e), ⟨ht.cursors, ht.now⟩, rfl, rfl⟩
  | ok command =>
    -- first the stages have what they want of the cache
    obtain ⟨accesses, hallowed, haccesses⟩ := hv s command
    obtain ⟨removals, hreaches⟩ := t.exists_reaches_accesses v hallowed
    have hof : IsOf { t with cursors := accesses.foldl (Access.apply t.now) t.cursors, removals }
        (s.passed v command).shared := by
      refine ⟨?_, ht.now⟩
      rw [ht.cursors, ht.now]
      exact haccesses.symm
    obtain ⟨t', hsettles, hsettled⟩ := exists_reaches_settle hof hi s command
    rw [s.dispatch_of_parsed v hp]
    exact ⟨t', hreaches.trans hsettles, hsettled⟩

/-! ### Legacy replies -/

/-- What `Legacy.queryReply` does to the cache, the task of the query does, and it sends that
reply. -/
theorem exists_reaches_answerQuery {shape : ReplyShape} {response : Document}
    (hi : t.tasks[i]? = some (.tracked (.query shape) response)) :
    ∃ t', t.Reaches v allowed t' ∧
      t'.cursors = (Legacy.queryReply t.cursors t.now shape response).2 ∧ t'.now = t.now ∧
      ∃ d : Delivery, t'.deliveries = t.deliveries ++ [d] ∧
      d.reply = (Legacy.queryReply t.cursors t.now shape response).1 := by
  have hanswers : t.Reaches v allowed (t.answerQuery i shape response) := reaches_advance hi
  rw [answerQuery] at hanswers
  rw [Legacy.fst_queryReply, Legacy.snd_queryReply]
  cases htaken : Legacy.taken? shape response with
  | none =>
    rw [htaken] at hanswers
    exact ⟨_, hanswers, rfl, rfl, _, deliveries_deliver i _, rfl⟩
  | some taken =>
    -- the task looks the cursor up first, and counts in a step of its own
    obtain ⟨id, n⟩ := taken
    rw [htaken] at hanswers
    let d : Delivery :=
      .first shape (some (t.lookUp id).1) response
        ((Legacy.firstReply shape response).map (·.reply))
    have hi' : ((t.lookUp id).2.put i (.counting d (t.lookUp id).1 n)).tasks[i]? =
        some (.counting d (t.lookUp id).1 n) :=
      getElem?_of_set rfl hi
    exact ⟨_, hanswers.trans (reaches_advance hi'), rfl, rfl, d, deliveries_deliver i d, rfl⟩

/-- What `Legacy.getMoreReply` does to the cache, the task of the request does, and it sends that
reply. -/
theorem exists_reaches_answerMore {l : LookUp} {response : Document}
    (hi : t.tasks[i]? = some (.tracked (.more l) response)) :
    ∃ t', t.Reaches v allowed t' ∧
      t'.cursors = (Legacy.getMoreReply t.cursors l.handle response).2 ∧ t'.now = t.now ∧
      ∃ d : Delivery, t'.deliveries = t.deliveries ++ [d] ∧
      d.reply = (Legacy.getMoreReply t.cursors l.handle response).1 :=
  ⟨_, reaches_advance hi, rfl, rfl, _, deliveries_deliver i _, rfl⟩

/-- `Session.legacyReply` takes over the cache that the reply leaves. -/
theorem isOf_legacyReply {r : Except ServerError Reply × CursorCache} (hc : t.cursors = r.2)
    (hnow : t.now = s.shared.now) :
    t.IsOf (s.legacyReply r).2.shared := by
  obtain ⟨r | r, cursors⟩ := r <;> exact ⟨hc, hnow⟩

/-! ### Requests -/

/-- What `Session.handleQuery` does to the cache, the steps of a task do. -/
theorem exists_reaches_handleQuery (hv : AccessesOnly v allowed) (ht : t.IsOf s.shared)
    {q : Wire.Query} {c : Legacy.QueryCommand} (hq : Legacy.queryCommand q = .ok c) :
    ∃ t', t.Reaches v allowed t' ∧ t'.IsOf (s.handleQuery v q).2.shared ∧
      ∀ reply, (s.handleQuery v q).1 = .done (some (.reply reply)) →
        ∃ d : Delivery, t'.deliveries = t.deliveries ++ [d] ∧ Session.orSingle d.reply = reply := by
  -- the request arrives, its command is dispatched, and its reply is made
  let arrived := t.add (.dispatched (.query c.shape))
  have harrive : t.step (.arrive (.query q)) = arrived := by
    rw [step, Task.ofBody, hq]
  have harrived : t.Reaches v allowed arrived := .of_step (.arrive _) harrive
  have hof : arrived.IsOf s.shared := ⟨ht.cursors, ht.now⟩
  obtain ⟨t', hdispatches, hof, hdeliveries, htasks⟩ :=
    exists_reaches_dispatch hv hof (t.getElem?_add _) c.command
  have hi := getElem?_of_set htasks (t.getElem?_add _)
  have hreaches := harrived.trans hdispatches
  obtain ⟨ending, s', hs⟩ : ∃ ending s', s.dispatch v c.command = (ending, s') := ⟨_, _, rfl⟩
  rw [hs] at hof hi
  simp only [Session.handleQuery, hq, hs]
  cases ending with
  | done response =>
    obtain ⟨t'', hanswers, hcursors, hnow, d, hdelivered, hreply⟩ := exists_reaches_answerQuery hi
    rw [hof.cursors, hof.now] at hcursors hreply
    refine ⟨t'', hreaches.trans hanswers, isOf_legacyReply hcursors (hnow.trans hof.now),
      fun reply h => ⟨d, ?_, ?_⟩⟩
    · rw [hdelivered, hdeliveries, deliveries_add]
    · rw [Session.ending_legacyReply] at h
      cases h
      rw [hreply]
  | failed | crashed | stalled => exact ⟨t', hreaches, hof, by rintro _ ⟨⟩⟩

/-- What `Session.handleGetMore` does to the cache, the steps of a task do. -/
theorem exists_reaches_handleGetMore (hv : AccessesOnly v allowed) (ht : t.IsOf s.shared)
    {g : Wire.GetMore} {command : Document} (hg : Legacy.getMoreCommand g = .ok command) :
    ∃ t', t.Reaches v allowed t' ∧ t'.IsOf (s.handleGetMore v g).2.shared ∧
      ∀ reply, (s.handleGetMore v g).1 = .done (some (.reply reply)) →
        ∃ d : Delivery, t'.deliveries = t.deliveries ++ [d] ∧ Session.orSingle d.reply = reply := by
  -- the request arrives and looks its cursor up; then its command is dispatched, and its reply is
  -- made
  let arrived := t.add (.asking g.cursorId)
  let l := (arrived.lookUp g.cursorId).1
  let found :=
    ((arrived.lookUp g.cursorId).2.note (.lookedUp g.cursorId)).put t.tasks.length
      (.dispatched (.more l))
  have harrive : t.step (.arrive (.getMore g)) = arrived := by
    rw [step, Task.ofBody, hg]
  have harrived : t.Reaches v allowed arrived := .of_step (.arrive _) harrive
  have hfound : t.Reaches v allowed found := harrived.trans (reaches_advance (t.getElem?_add _))
  -- the entry is the one that the session has looked up
  have hhandle : l.handle = (s.shared.cursors.get s.shared.now g.cursorId).1 := by
    rw [← ht.cursors, ← ht.now]
    rfl
  have hof : found.IsOf (s.ready (.getMore g)).shared := by
    refine ⟨?_, ht.now⟩
    rw [Session.ready, Session.withCursors, ← ht.cursors, ← ht.now]
    rfl
  have hi : found.tasks[t.tasks.length]? = some (.dispatched (.more l)) :=
    getElem?_of_set rfl (t.getElem?_add (.asking g.cursorId))
  obtain ⟨t', hdispatches, hof, hdeliveries, htasks⟩ := exists_reaches_dispatch hv hof hi command
  have hi' := getElem?_of_set htasks hi
  have hreaches := hfound.trans hdispatches
  obtain ⟨ending, s', hs⟩ : ∃ ending s', (s.ready (.getMore g)).dispatch v command = (ending, s') :=
    ⟨_, _, rfl⟩
  rw [hs] at hof hi'
  rw [Session.ready] at hs
  simp only [Session.handleGetMore, hg, hs]
  cases ending with
  | done response =>
    obtain ⟨t'', hanswers, hcursors, hnow, d, hdelivered, hreply⟩ := exists_reaches_answerMore hi'
    rw [hof.cursors, hhandle] at hcursors hreply
    refine ⟨t'', hreaches.trans hanswers, isOf_legacyReply hcursors (hnow.trans hof.now),
      fun reply h => ⟨d, ?_, ?_⟩⟩
    · rw [hdelivered, hdeliveries, deliveries_put, deliveries_note rfl, deliveries_lookUp,
        deliveries_add]
    · rw [Session.ending_legacyReply] at h
      cases h
      rw [hreply]
  | failed | crashed | stalled => exact ⟨t', hreaches, hof, by rintro _ ⟨⟩⟩

/-- What `Session.dispatch` does to the cache for a request without a legacy reply, the steps of a
task do. -/
theorem exists_reaches_plain (hv : AccessesOnly v allowed) (ht : t.IsOf s.shared) {b : Body}
    (hb : Task.ofBody b = .dispatched .plain) (d : Document) :
    ∃ t', t.Reaches v allowed t' ∧ t'.IsOf (s.dispatch v d).2.shared := by
  have harrive : t.step (.arrive b) = t.add (.dispatched .plain) := by rw [step, hb]
  have harrived : t.Reaches v allowed (t.add (.dispatched .plain)) := .of_step (.arrive b) harrive
  have hof : (t.add (.dispatched .plain)).IsOf s.shared := ⟨ht.cursors, ht.now⟩
  obtain ⟨t', hdispatches, hof, -⟩ := exists_reaches_dispatch hv hof (t.getElem?_add _) d
  exact ⟨t', harrived.trans hdispatches, hof⟩

/-- What `Session.handleBody` does to the cache, the steps of a task do, and a legacy reply that
answers a response is delivered. -/
theorem exists_reaches_handleBody (hv : AccessesOnly v allowed) (ht : t.IsOf s.shared) (b : Body) :
    ∃ t', t.Reaches v allowed t' ∧ t'.IsOf (s.handleBody v b).2.shared ∧
      ∀ reply, (s.handleBody v b).1 = .done (some (.reply reply)) →
        (∃ e, commandOf b = .error e ∧ reply = Legacy.singleReply e.document) ∨
        ∃ d : Delivery, t'.deliveries = t.deliveries ++ [d] ∧ Session.orSingle d.reply = reply := by
  cases b with
  | msg m =>
    simp only [Session.handleBody, Session.handleMsg]
    cases hm : Legacy.mergeSections m with
    -- what is no command does nothing to the cache
    | error e => cases m.flags.moreToCome <;> exact ⟨t, .refl, ⟨ht.cursors, ht.now⟩, by rintro _ ⟨⟩⟩
    | ok d =>
      obtain ⟨t', hreaches, hof⟩ :=
        exists_reaches_plain hv ht (b := .msg m) (by rw [Task.ofBody, hm]) d
      cases m.flags.moreToCome with
      | true => exact ⟨t', hreaches, hof, by rintro _ ⟨⟩⟩
      | false =>
        refine ⟨t', hreaches, hof, fun reply h => ?_⟩
        -- a command message has no legacy reply
        cases hend : (s.dispatch v d).1 <;> simp [hend, Ending.map, Session.msgReply] at h
  | query q =>
    cases hq : Legacy.queryCommand q with
    | error e =>
      simp only [Session.handleBody, Session.handleQuery, hq]
      refine ⟨t, .refl, ⟨ht.cursors, ht.now⟩, fun reply h =>
        .inl ⟨e, by simp [commandOf, hq, Except.map], ?_⟩⟩
      cases h
      rfl
    | ok c =>
      obtain ⟨t', hreaches, hof, hreply⟩ := exists_reaches_handleQuery hv ht hq
      exact ⟨t', hreaches, hof, fun reply h => .inr (hreply reply h)⟩
  | getMore g =>
    cases hg : Legacy.getMoreCommand g with
    | error e =>
      simp only [Session.handleBody, Session.handleGetMore, hg]
      refine ⟨t, .refl, ⟨ht.cursors, ht.now⟩, fun reply h => .inl ⟨e, hg, ?_⟩⟩
      cases h
      rfl
    | ok command =>
      obtain ⟨t', hreaches, hof, hreply⟩ := exists_reaches_handleGetMore hv ht hg
      exact ⟨t', hreaches, hof, fun reply h => .inr (hreply reply h)⟩
  | killCursors k =>
    obtain ⟨t', hreaches, hof⟩ :=
      exists_reaches_plain hv ht (b := .killCursors k) rfl (Legacy.killCursorsCommand k.cursorIds)
    refine ⟨t', hreaches, hof, fun reply h => ?_⟩
    cases hend : (s.dispatch v (Legacy.killCursorsCommand k.cursorIds)).1 <;>
      simp [Session.handleBody, hend, Ending.map] at h
  | reply r => exact ⟨t, .refl, ht, by rintro _ ⟨⟩⟩
  | compressed c inner => exact ⟨t, .refl, ht, by rintro _ ⟨⟩⟩

/-! ### Expired cursors -/

variable {shared : Shared σ}

/-- What `Shared.killExpired` does to the cache, the steps of a task do. -/
theorem exists_reaches_killExpired (hv : AccessesOnly v allowed) (ht : t.IsOf shared) {id : Int64}
    (hi : t.tasks[i]? = some (.dispatched (.expiry id))) :
    ∃ t', t.Reaches v allowed t' ∧ t'.IsOf (shared.killExpired v id).2 ∧ ∀ j, j ≠ i →
      t'.tasks[j]? = t.tasks[j]? := by
  obtain ⟨session, hsession⟩ : ∃ session : Session σ,
      session = ⟨shared.internalClient, { shared with metrics := shared.metrics.cursorExpired }⟩ :=
    ⟨_, rfl⟩
  have hof : t.IsOf session.shared := by
    rw [hsession]
    exact ⟨ht.cursors, ht.now⟩
  obtain ⟨t', hreaches, hof, -, htasks⟩ :=
    exists_reaches_dispatch hv hof hi (Legacy.killCursorsCommand [id])
  obtain ⟨ending, s', hs⟩ : ∃ ending s', session.dispatch v (Legacy.killCursorsCommand [id]) =
      (ending, s') := ⟨_, _, rfl⟩
  have hothers (j : Nat) (hj : j ≠ i) : t'.tasks[j]? = t.tasks[j]? := by
    rw [htasks, List.getElem?_set_ne hj.symm]
  rw [hs] at hof htasks
  simp only [Shared.killExpired, ← hsession, hs]
  -- if the command ends at all the cursor is closed, whatever the command came to
  have hclose {response : Document} (hi' : t'.tasks[i]? = some (.tracked (.expiry id) response)) :
      ∃ t'', t.Reaches v allowed t'' ∧
        t''.IsOf { s'.shared with
          internalClient := s'.client, cursors := s'.shared.cursors.close id } ∧
        ∀ j, j ≠ i → t''.tasks[j]? = t.tasks[j]? := by
    refine ⟨_, hreaches.trans (reaches_advance hi'), ⟨?_, hof.now⟩, fun j hj => ?_⟩
    · rw [← hof.cursors]
      rfl
    · rw [← hothers j hj]
      exact List.getElem?_set_ne hj.symm
  match ending with
  | .done response => exact hclose (getElem?_of_set htasks hi)
  | .failed e => exact hclose (getElem?_of_set htasks hi)
  | .crashed | .stalled => exact ⟨t', hreaches, ⟨hof.cursors, hof.now⟩, hothers⟩

/-- What `Shared.killAllExpired` does to the cache, the steps of as many tasks do. -/
theorem exists_reaches_killAllExpired (hv : AccessesOnly v allowed) (ids : List Int64)
    (ht : t.IsOf shared)
    (hids : ∀ k id, ids[k]? = some id → t.tasks[i + k]? = some (.dispatched (.expiry id))) :
    ∃ t', t.Reaches v allowed t' ∧ t'.IsOf (shared.killAllExpired v ids).2 := by
  -- by induction on the cursors, each with the task behind the last one
  induction ids generalizing t shared i with
  | nil => exact ⟨t, .refl, ht⟩
  | cons id ids ih =>
    obtain ⟨t', hreaches, hof, hothers⟩ := exists_reaches_killExpired hv ht (hids 0 id rfl)
    obtain ⟨ended, shared', hk⟩ : ∃ ended shared', shared.killExpired v id = (ended, shared') :=
      ⟨_, _, rfl⟩
    rw [hk] at hof
    simp only [Shared.killAllExpired, hk]
    cases ended with
    -- a command that does not end leaves the others undone
    | false => exact ⟨t', hreaches, hof⟩
    | true =>
      have hids' (k : Nat) (id' : Int64) (hk : ids[k]? = some id') :
          t'.tasks[i + 1 + k]? = some (.dispatched (.expiry id')) := by
        rw [hothers _ (by omega), Nat.add_assoc, Nat.add_comm 1 k]
        exact hids (k + 1) id' hk
      obtain ⟨t'', hrest, hof'⟩ := ih hof hids'
      exact ⟨t'', hreaches.trans hrest, hof'⟩

/-- What `removeAllIdle` does to the cache can be done, and each cursor gets a task to close it. -/
theorem exists_reaches_expire (v : Service σ) (allowed : Access → Prop) (t : Traffic)
    (ids : List Int64) :
    ∃ removals, t.Reaches v allowed
      { t with
        cursors := (t.cursors.removeAllIdle t.now ids).2
        removals
        tasks :=
          t.tasks ++ (t.cursors.removeAllIdle t.now ids).1.map fun id => .dispatched (.expiry id)
        history := t.history ++ (t.cursors.removeAllIdle t.now ids).1.map .expired } := by
  -- by induction on the cursors, from any traffic
  induction ids generalizing t with
  | nil => exact ⟨t.removals, by simpa [CursorCache.removeAllIdle] using Reaches.refl⟩
  | cons id ids ih =>
    have hstep : t.Reaches v allowed (t.step (.expire id)) := .of_step (.expire id) rfl
    obtain ⟨removed, cursors, hc⟩ : ∃ removed cursors, t.cursors.removeIdle t.now id =
        (removed, cursors) := ⟨_, _, rfl⟩
    simp only [step, hc] at hstep
    simp only [CursorCache.removeAllIdle, hc]
    cases removed with
    | true =>
      obtain ⟨removals, hrest⟩ :=
        ih (((t.withCursors cursors).note (.expired id)).add (.dispatched (.expiry id)))
      exact ⟨removals, by simpa [withCursors, note, add] using hstep.trans hrest⟩
    | false =>
      obtain ⟨removals, hrest⟩ := ih t
      -- a cursor that is not removed leaves the cache
      obtain rfl : t.cursors = cursors := by
        obtain ⟨h, -⟩ | h := t.cursors.removeIdle_cases t.now id
        · rw [h] at hc; cases hc
        · rw [h] at hc; exact (Prod.mk.inj hc).2
      exact ⟨removals, by simpa using hrest⟩

/-- What `Shared.reap` does to the cache, the steps of its tasks do. The cursors that it finds are
taken down as expired. -/
theorem exists_reaches_reap (hv : AccessesOnly v allowed) (ht : t.IsOf shared) :
    ∃ t', t.Reaches v allowed t' ∧ t'.IsOf (shared.reap v).2 ∧
      ∀ id ∈ (shared.cursors.reapExpired shared.now).1, .expired id ∈ t'.history := by
  obtain ⟨removals, hexpire⟩ := exists_reaches_expire v allowed t (shared.cursors.idle shared.now)
  rw [ht.cursors, ht.now] at hexpire
  obtain ⟨ids, hids⟩ : ∃ ids, ids = (shared.cursors.reapExpired shared.now).1 := ⟨_, rfl⟩
  -- first all cursors are found, and then their tasks close them
  obtain ⟨found, hfound⟩ : ∃ found : Traffic, found =
      { t with
        cursors := (shared.cursors.reapExpired shared.now).2
        removals
        tasks := t.tasks ++ ids.map fun id => .dispatched (.expiry id)
        history := t.history ++ ids.map .expired } := ⟨_, rfl⟩
  have hreaches : t.Reaches v allowed found := by
    rw [hfound, hids, ht.now]
    exact hexpire
  have hof : found.IsOf { shared with cursors := (shared.cursors.reapExpired shared.now).2 } := by
    rw [hfound]
    exact ⟨rfl, ht.now⟩
  have htasks (k : Nat) (id : Int64) (hk : ids[k]? = some id) :
      found.tasks[t.tasks.length + k]? = some (.dispatched (.expiry id)) := by
    rw [hfound, List.getElem?_append_right (Nat.le_add_right _ _), Nat.add_sub_cancel_left,
      List.getElem?_map, hk]
    rfl
  obtain ⟨t', hkills, hkilled⟩ := exists_reaches_killAllExpired hv ids hof htasks
  refine ⟨t', hreaches.trans hkills, ?_, fun id hid => hkills.history_prefix.subset ?_⟩
  · rw [hids] at hkilled
    exact hkilled
  · rw [hfound]
    exact List.mem_append_right _ (List.mem_map_of_mem (hids ▸ hid))

end Traffic

end DocGateway.Gateway
