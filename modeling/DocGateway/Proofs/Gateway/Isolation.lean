import DocGateway.Proofs.Gateway.Envelopes
import DocGateway.Proofs.Stages.Isolating
import Mathlib.Data.List.Forall2
/-!
# Clients do not disturb each other

Clients share one gateway: its cursors, its pipeline and the numbers of its replies. If the pipeline
answers a command by its document and by what it keeps of the client, and leaves the cursors to the
gateway, then all that a client could see of the others are the numbers of cursors. So clients with
cursors of their own are answered as if each were alone, but for the numbers of replies and the
time.

## Key results

- `Session.Alike.handle`: a message is answered in the same way in sessions that a client cannot
  tell apart
- `Company.Alike.receive_other`, `Company.Alike.receive_own`: one message, of another client or of
  its own
- `Company.alike_endings`: all messages of a client, among those of others and by themselves
-/

namespace DocGateway

open Bson (Document)
open Wire (Body Message)

namespace Gateway

variable {σ : Type} {v : Service σ} {visible : Int64 → Prop}

/-- The numbers of some cursors are the same. -/
structure Shared.Alike (visible : Int64 → Prop) (a b : Shared σ) : Prop where
  left : a.cursors.Labelled
  right : b.cursors.Labelled
  sent {id : Int64} (h : visible id) : a.cursors.sent id = b.cursors.sent id

/-- `counted` is the same for responses that are alike. -/
theorem counted_congr {ending ending' : Ending Document} (h : ending.Rel Document.Alike ending')
    (b : Body) (closed : List Int64) (id : Int64) :
    counted b closed ending id = counted b closed ending' id := by
  cases h with
  | done h =>
    cases b with
    | query q => simp only [counted, taken?_eq_of_alike h]
    | getMore g => simp only [counted, Legacy.nextCount, h.isOk, h.batchOf]
    | _ => rfl
  | failed | crashed | stalled => rfl

namespace Session

/-- What a pipeline learns of a session besides the command: the client, and by which layer a
request is cancelled. -/
def situation (s : Session σ) : Client × Cancellation := (s.client, s.shared.cancelled)

/-- Sessions that a client cannot tell apart who sees the numbers of some cursors. -/
structure Alike (visible : Int64 → Prop) (s s' : Session σ) : Prop where
  situation : s.situation = s'.situation
  shared : s.shared.Alike visible s'.shared

variable {s s' : Session σ}

/-! ### Commands -/

/-- `passage` of one command in one situation gives outcomes that are alike, and leaves the same
client. -/
theorem alike_passage (hv : v.pipeline.IsIsolating) (h : s.situation = s'.situation)
    (command : Command) :
    (s.passage v command).outcome.Alike (s'.passage v command).outcome ∧
      (s.passage v command).scene.client = (s'.passage v command).scene.client := by
  obtain ⟨hclient, hcancelled⟩ := Prod.mk.inj h
  rw [passage, passage, hcancelled]
  exact hv.alike _ ⟨rfl, hclient⟩

/-- `dispatch` of one document in one situation ends with documents that are alike. -/
theorem alike_dispatch (hv : v.pipeline.IsIsolating) (h : s.situation = s'.situation)
    (d : Document) :
    (s.dispatch v d).1.Rel Document.Alike (s'.dispatch v d).1 := by
  cases hp : v.registry.parse d with
  | error e =>
    rw [s.dispatch_of_refused v hp, s'.dispatch_of_refused v hp]
    exact .done (.refl _)
  | ok command =>
    rw [s.ending_dispatch v (s.outcome?_of_parsed v hp),
      s'.ending_dispatch v (s'.outcome?_of_parsed v hp)]
    exact alike_endingOf (alike_passage hv h command).1

/-- The cursors that are `closed` are the same in one situation. -/
theorem closed_congr (hv : v.pipeline.IsIsolating) (h : s.situation = s'.situation) (d : Document) :
    s.closed v d = s'.closed v d := by
  cases hp : v.registry.parse d with
  | error e => simp only [closed, responded?, hp]
  | ok command =>
    have houtcome := (alike_passage hv h command).1
    simp only [closed, responded?, hp]
    generalize (s.passage v command).outcome = o, (s'.passage v command).outcome = o' at houtcome
    cases houtcome with
    | response h => exact h.closedBy command
    | failure | crashed | stalled => rfl

/-- `track` leaves the situation. -/
@[simp] theorem situation_track (s : Session σ) (command : Command) (response : Document) :
    (s.track command response).situation = s.situation := by
  simp only [track]
  split <;> rfl

/-- `settle` leaves the situation. -/
@[simp] theorem situation_settle (s : Session σ) (p : Passage σ) :
    (s.settle p).2.situation = s.situation := by
  rw [settle]
  split <;> first | rfl | exact situation_track _ _ _

/-- `dispatch` leaves the same situation if it finds the same. -/
theorem situation_dispatch_congr (hv : v.pipeline.IsIsolating) (h : s.situation = s'.situation)
    (d : Document) :
    (s.dispatch v d).2.situation = (s'.dispatch v d).2.situation := by
  cases hp : v.registry.parse d with
  | error e =>
    rw [s.dispatch_of_refused v hp, s'.dispatch_of_refused v hp]
    exact h
  | ok command =>
    rw [s.dispatch_of_parsed v hp, s'.dispatch_of_parsed v hp, situation_settle, situation_settle]
    exact Prod.ext (alike_passage hv h command).2 (Prod.mk.inj h).2

/-! ### Bodies -/

/-- `ready` leaves the situation. -/
@[simp] theorem situation_ready (s : Session σ) (b : Body) :
    (s.ready b).situation = s.situation := by
  cases b <;> rfl

/-- `replyWith` leaves the situation. -/
@[simp] theorem situation_replyWith (reply : Session σ → Document →
      Except ServerError Wire.Reply × CursorCache)
    (r : Ending Document × Session σ) : (replyWith reply r).2.situation = r.2.situation := by
  obtain ⟨ending, s⟩ := r
  cases ending with
  | done answer =>
    rw [replyWith]
    obtain ⟨_ | _, cursors⟩ := reply s answer <;> rfl
  | _ => rfl

/-- `handleBody` leaves the situation that the dispatch of its command does. -/
theorem situation_handleBody (v : Service σ) (s : Session σ) (b : Body) :
    (s.handleBody v b).2.situation =
      match commandOf b with
      | .ok d => ((s.ready b).dispatch v d).2.situation
      | .error _ => s.situation := by
  -- whatever the kind of body, what comes after its command is only a reply
  cases b with
  | msg m =>
    simp only [handleBody, handleMsg, commandOf, ready]
    cases m.flags.moreToCome <;> cases Legacy.mergeSections m <;> rfl
  | query q =>
    cases ht : Legacy.queryCommand q with
    | error e =>
      simp only [handleBody, handleQuery, commandOf, ht]
      rfl
    | ok t =>
      rw [handleBody, s.handleQuery_of_command v ht, situation_replyWith, commandOf, ht]
      rfl
  | getMore g =>
    cases hg : Legacy.getMoreCommand g with
    | error e =>
      simp only [handleBody, handleGetMore, commandOf, hg]
      rfl
    | ok d =>
      rw [handleBody, s.handleGetMore_of_command v hg, situation_replyWith, commandOf, hg]
  | killCursors k => rfl
  | reply r => rfl
  | compressed c inner => rfl

/-- `replyWith` makes replies that are alike of responses that are alike, if the legacy replies
are. -/
theorem alike_replyWith
    {reply reply' : Session σ → Document → Except ServerError Wire.Reply × CursorCache}
    {r r' : Ending Document × Session σ} (h : r.1.Rel Document.Alike r'.1)
    (hreply : ∀ d d', d.Alike d' →
      (Body.reply (orSingle (reply r.2 d).1)).Alike (.reply (orSingle (reply' r'.2 d').1))) :
    (replyWith reply r).1.Rel (Option.Rel Body.Alike) (replyWith reply' r').1 := by
  obtain ⟨ending, s⟩ := r
  obtain ⟨ending', s'⟩ := r'
  -- a reply is made only of a document
  cases h with
  | done h =>
    rw [replyWith, replyWith, ending_legacyReply, ending_legacyReply]
    exact .done (.some (hreply _ _ h))
  | failed e => exact .failed e
  | crashed => exact .crashed
  | stalled => exact .stalled

/-- The count at the entry of a request for more is `sent` of its cursor, after the dispatch as
before. -/
theorem consumed_ready_dispatch (hv : v.pipeline.LeavesCursors) (hc : s.shared.cursors.Labelled)
    (g : Wire.GetMore) (d : Document) :
    ((s.ready (.getMore g)).dispatch v d).2.shared.cursors.consumed
      (s.shared.cursors.get s.shared.now g.cursorId).1 =
      s.shared.cursors.sent g.cursorId := by
  rw [(s.ready (.getMore g)).consumed_dispatch hv, ← CursorCache.consumed_fst_get s.shared.now hc]
  exact CursorCache.consumed_get _ _ _ _

/-- `handleBody` ends in the same way in sessions that are alike. -/
theorem Alike.handleBody (hv : v.pipeline.IsIsolating) (h : s.Alike visible s') {b : Body}
    (hb : ∀ id, id ≠ exhaustedCursor → s.Uses v b id → visible id) :
    (s.handleBody v b).1.Rel (Option.Rel Body.Alike) (s'.handleBody v b).1 := by
  have hdispatch (d : Document) : ((s.ready b).dispatch v d).1.Rel Document.Alike
      ((s'.ready b).dispatch v d).1 :=
    alike_dispatch hv (by simpa using h.situation) d
  cases b with
  | msg m =>
    simp only [Session.handleBody, handleMsg]
    cases m.flags.moreToCome with
    | true => cases Legacy.mergeSections m <;> exact .done .none
    | false =>
      cases Legacy.mergeSections m with
      | error e => exact .done (.some (.refl _))
      | ok d => exact (hdispatch d).map fun h => .some (alike_msgReply h m)
  | query q =>
    cases ht : Legacy.queryCommand q with
    | error e =>
      simp only [Session.handleBody, handleQuery, ht]
      exact .done (.some (.refl _))
    | ok t =>
      rw [Session.handleBody, Session.handleBody, s.handleQuery_of_command v ht,
        s'.handleQuery_of_command v ht]
      exact alike_replyWith (hdispatch t.command) fun d d' h => alike_queryReply h t.shape _ _ _ _
  | getMore g =>
    cases hg : Legacy.getMoreCommand g with
    | error e =>
      simp only [Session.handleBody, handleGetMore, hg]
      exact .done (.some (.refl _))
    | ok d =>
      -- where the batch starts is the one count of the cache that a client is told
      have hsent : s.shared.cursors.sent g.cursorId = s'.shared.cursors.sent g.cursorId := by
        by_cases hid : g.cursorId = exhaustedCursor
        · rw [hid, h.shared.left.sent_exhausted, h.shared.right.sent_exhausted]
        · exact h.shared.sent (hb _ hid (.inl (.inl ⟨g, rfl, rfl⟩)))
      rw [Session.handleBody, Session.handleBody, s.handleGetMore_of_command v hg,
        s'.handleGetMore_of_command v hg]
      refine alike_replyWith (hdispatch d) fun a a' h' => alike_getMoreReply h' ?_
      rw [s.consumed_ready_dispatch hv.keeps h.shared.left,
        s'.consumed_ready_dispatch hv.keeps h.shared.right, hsent]
  | killCursors k => exact (hdispatch _).map fun _ => .none
  | reply r => exact .failed _
  | compressed c inner => exact .failed _

/-- `handleBody` leaves sessions alike that are alike. -/
theorem Alike.after_handleBody (hv : v.pipeline.IsIsolating) (h : s.Alike visible s') (b : Body) :
    (s.handleBody v b).2.Alike visible (s'.handleBody v b).2 := by
  have hready : (s.ready b).situation = (s'.ready b).situation := by simpa using h.situation
  refine ⟨?_, s.labelled_handleBody hv.keeps h.shared.left b,
    s'.labelled_handleBody hv.keeps h.shared.right b,
    fun {id} hid => ?_⟩
  · rw [situation_handleBody, situation_handleBody]
    cases commandOf b with
    | error e => exact h.situation
    | ok d => exact situation_dispatch_congr hv hready d
  -- nothing is ever counted for the number of no cursor
  · by_cases hexhausted : id = exhaustedCursor
    · rw [hexhausted, (s.labelled_handleBody hv.keeps h.shared.left b).sent_exhausted,
        (s'.labelled_handleBody hv.keeps h.shared.right b).sent_exhausted]
    · rw [s.sent_handleBody hv.keeps h.shared.left b hexhausted,
        s'.sent_handleBody hv.keeps h.shared.right b hexhausted, h.shared.sent hid, bodyClosed,
        bodyClosed, bodyCounted, bodyCounted]
      cases commandOf b with
      | error e => rfl
      | ok d => simp only [closed_congr hv hready d, counted_congr (alike_dispatch hv hready d)]

/-! ### Messages -/

/-- `handle` leaves the situation and the cursors that `handleBody` does. -/
theorem after_handle (v : Service σ) (s : Session σ) (m : Message) :
    (s.handle v m).2.situation = (s.handleBody v m.body.unwrap.2).2.situation ∧
      (s.handle v m).2.shared.cursors = (s.handleBody v m.body.unwrap.2).2.shared.cursors := by
  rw [s.handle_eq_conclude v (m := m) rfl]
  obtain ⟨(_ | _) | _ | _ | _, s'⟩ := s.handleBody v m.body.unwrap.2 <;> exact ⟨rfl, rfl⟩

/-- `handle` cancels nothing. -/
theorem cancelled_handle (v : Service σ) (s : Session σ) (m : Message) :
    (s.handle v m).2.shared.cancelled = s.shared.cancelled := by
  have hsituation : (s.handle v m).2.situation.2 = s.situation.2 := by
    rw [(s.after_handle v m).1, situation_handleBody]
    split
    · exact ((s.ready _).cancelled_dispatch v _).trans (congrArg Prod.snd (s.situation_ready _))
    · rfl
  exact hsituation

/-- `handle` ends in the same way in sessions that are alike, and leaves them alike. -/
theorem Alike.handle (hv : v.pipeline.IsIsolating) (h : s.Alike visible s') {m : Message}
    (hm : ∀ id, id ≠ exhaustedCursor → s.Uses v m.body.unwrap.2 id → visible id) :
    (s.handle v m).1.Rel (Option.Rel Message.Alike) (s'.handle v m).1 ∧
      (s.handle v m).2.Alike visible (s'.handle v m).2 := by
  constructor
  · have hbody := h.handleBody hv hm
    rw [s.handle_eq_conclude v (m := m) rfl, s'.handle_eq_conclude v (m := m) rfl]
    generalize s.handleBody v m.body.unwrap.2 = r, s'.handleBody v m.body.unwrap.2 = r' at hbody
    obtain ⟨ending, t⟩ := r
    obtain ⟨ending', t'⟩ := r'
    cases hbody with
    | done hreply =>
      cases hreply with
      | none => exact .done .none
      | some hreply => exact .done (.some ⟨rfl, hreply.wrap m.body.unwrap.1⟩)
    | failed e => exact .failed e
    | crashed => exact .crashed
    | stalled => exact .stalled
  -- the reply takes a number, which is not part of what sessions have alike
  · have hafter := h.after_handleBody hv m.body.unwrap.2
    obtain ⟨hsituation, hcursors⟩ := s.after_handle v m
    obtain ⟨hsituation', hcursors'⟩ := s'.after_handle v m
    refine ⟨by rw [hsituation, hsituation', hafter.situation], ?_, ?_, fun hid => ?_⟩
    · rw [hcursors]
      exact hafter.shared.left
    · rw [hcursors']
      exact hafter.shared.right
    · rw [hcursors, hcursors']
      exact hafter.shared.sent hid

end Session

/-! ### Clients in company -/

/-- A message of a client, and the time in milliseconds that has passed since the message before
it. -/
structure Arrival (ι : Type) where
  sender : ι
  message : Message
  elapsed : Nat

/-- Whether work was brought to an end. -/
def Ending.isDone {α : Type} : Ending α → Bool
  | done _ => true
  | _ => false

/-- Endings between which `Rel` holds are both brought to an end, or neither is. -/
theorem Ending.Rel.isDone {α β : Type} {r : α → β → Prop} {a : Ending α} {b : Ending β}
    (h : a.Rel r b) : a.isDone = b.isDone := by
  cases h <;> rfl

/-- Clients before the state that they share. A client whose connection has ended is there no
more. -/
structure Company (ι σ : Type) where
  clients : ι → Option Client
  shared : Shared σ

namespace Company

variable {ι : Type}

/-- The session in which a message is handled, if the connection of its sender has not ended. -/
def session? (c : Company ι σ) (a : Arrival ι) : Option (Session σ) :=
  (c.clients a.sender).map fun client => ⟨client, { c.shared with now := c.shared.now + a.elapsed }⟩

variable [DecidableEq ι]

/-- Puts a client, or none, in the place of another. -/
def put (c : Company ι σ) (i : ι) (client : Option Client) (shared : Shared σ) : Company ι σ :=
  ⟨fun j => if j = i then client else c.clients j, shared⟩

/-- Handles a message. A connection ends with the first message that is not brought to an end, and
what its client sends after it is lost. -/
def receive (v : Service σ) (c : Company ι σ) (a : Arrival ι) :
    Option (Ending (Option Message)) × Company ι σ :=
  match c.session? a with
  | none => (none, c)
  | some s =>
    let (ending, s) := s.handle v a.message
    (some ending, c.put a.sender (if ending.isDone then some s.client else none) s.shared)

/-- `receive` handles a message in the session of its sender, and keeps the client if that is
brought to an end. -/
theorem receive_of_session {v : Service σ} {c : Company ι σ} {a : Arrival ι} {s : Session σ}
    (hs : c.session? a = some s) :
    c.receive v a =
      (some (s.handle v a.message).1,
        c.put a.sender
          (if (s.handle v a.message).1.isDone then some (s.handle v a.message).2.client else none)
          (s.handle v a.message).2.shared) := by
  rw [receive, hs]

/-- How the messages of a client end that are handled, among those of all. -/
def endings (v : Service σ) (i : ι) :
    Company ι σ → List (Arrival ι) → List (Ending (Option Message))
  | _, [] => []
  | c, a :: arrivals =>
    let (ending?, c) := c.receive v a
    if a.sender = i then ending?.toList ++ endings v i c arrivals else endings v i c arrivals

/-- A client uses a cursor with one of its messages. -/
def Uses (v : Service σ) (i : ι) (id : Int64) : Company ι σ → List (Arrival ι) → Prop
  | _, [] => False
  | c, a :: arrivals =>
    (a.sender = i ∧ ∃ s, c.session? a = some s ∧ s.Uses v a.message.body.unwrap.2 id) ∨
      Uses v i id (c.receive v a).2 arrivals

/-- Companies that a client cannot tell apart who sees the numbers of some cursors. -/
structure Alike (visible : Int64 → Prop) (i : ι) (c c' : Company ι σ) : Prop where
  client : c.clients i = c'.clients i
  cancelled : c.shared.cancelled = c'.shared.cancelled
  shared : c.shared.Alike visible c'.shared

namespace Alike

variable {i : ι} {c c' : Company ι σ}

/-- `receive` for another client leaves companies alike, if it uses none of the cursors that are
seen. -/
theorem receive_other (hv : v.pipeline.LeavesCursors) (h : c.Alike visible i c') {a : Arrival ι}
    (ha : a.sender ≠ i)
    (huses : ∀ s, c.session? a = some s → ∀ id, id ≠ exhaustedCursor →
      s.Uses v a.message.body.unwrap.2 id → ¬visible id) :
    (c.receive v a).2.Alike visible i c' := by
  cases hs : c.session? a with
  | none =>
    rw [receive, hs]
    exact h
  | some s =>
    obtain ⟨hcancelled, hcursors⟩ : s.shared.cancelled = c.shared.cancelled ∧
        s.shared.cursors = c.shared.cursors := by
      obtain ⟨client, -, rfl⟩ := Option.map_eq_some_iff.mp hs
      exact ⟨rfl, rfl⟩
    have hlabelled : s.shared.cursors.Labelled := hcursors ▸ h.shared.left
    -- the numbers change for the cursors alone that the other client uses
    have hafter : (s.handle v a.message).2.shared.cursors =
        (s.handleBody v a.message.body.unwrap.2).2.shared.cursors :=
      (s.after_handle v a.message).2
    have hlabelled' := s.labelled_handleBody hv hlabelled a.message.body.unwrap.2
    rw [receive_of_session hs]
    refine ⟨(if_neg ha.symm).trans h.client,
      (s.cancelled_handle v a.message).trans (hcancelled.trans h.cancelled), ?_, h.shared.right,
      fun {id} hid => ?_⟩
    · exact hafter ▸ hlabelled'
    · rw [← h.shared.sent hid, ← hcursors, put, hafter]
      by_cases hexhausted : id = exhaustedCursor
      · rw [hexhausted, hlabelled'.sent_exhausted, hlabelled.sent_exhausted]
      · exact s.sent_of_not_uses hv hlabelled hexhausted fun hused =>
          huses s hs id hexhausted hused hid

/-- `receive` for the client itself ends in the same way in companies that are alike, and leaves
them alike. -/
theorem receive_own (hv : v.pipeline.IsIsolating) (h : c.Alike visible i c') {a a' : Arrival ι}
    (ha : a.sender = i) (ha' : a'.sender = i) (hmessage : a'.message = a.message)
    (huses : ∀ s, c.session? a = some s → ∀ id, id ≠ exhaustedCursor →
      s.Uses v a.message.body.unwrap.2 id → visible id) :
    Option.Rel (Ending.Rel (Option.Rel Message.Alike)) (c.receive v a).1 (c'.receive v a').1 ∧
      (c.receive v a).2.Alike visible i (c'.receive v a').2 := by
  subst ha
  cases hclient : c.clients a.sender with
  | none =>
    have hclient' : c'.clients a'.sender = none := by rw [ha', ← h.client, hclient]
    have hs : c.session? a = none := by rw [session?, hclient]; rfl
    have hs' : c'.session? a' = none := by rw [session?, hclient']; rfl
    rw [receive, receive, hs, hs']
    exact ⟨.none, h⟩
  | some client =>
    have hclient' : c'.clients a'.sender = some client := by rw [ha', ← h.client, hclient]
    obtain ⟨s, hs, hshared⟩ : ∃ s, c.session? a = some s ∧
        s = ⟨client, { c.shared with now := c.shared.now + a.elapsed }⟩ :=
      ⟨_, by rw [session?, hclient]; rfl, rfl⟩
    obtain ⟨s', hs', hshared'⟩ : ∃ s', c'.session? a' = some s' ∧
        s' = ⟨client, { c'.shared with now := c'.shared.now + a'.elapsed }⟩ :=
      ⟨_, by rw [session?, hclient']; rfl, rfl⟩
    have halike : s.Alike visible s' := by
      rw [hshared, hshared']
      exact ⟨Prod.ext rfl h.cancelled, h.shared.left, h.shared.right, h.shared.sent⟩
    -- the sessions differ in the time and in cursors that are not seen
    obtain ⟨hending, hafter⟩ := halike.handle hv (huses s hs)
    obtain ⟨hclient, hcancelled⟩ := Prod.mk.inj hafter.situation
    rw [receive_of_session hs, receive_of_session hs', hmessage, hending.isDone, hclient]
    exact ⟨.some hending, (if_pos rfl).trans (if_pos ha'.symm).symm, hcancelled, hafter.shared⟩

/-- `endings` are the same in companies that are alike, be there messages of others in between or
not. -/
theorem endings (hv : v.pipeline.IsIsolating) (h : c.Alike visible i c')
    {arrivals alone : List (Arrival ι)}
    (halone : alone.map (fun a => (a.sender, a.message)) =
      (arrivals.filter (·.sender = i)).map fun a => (a.sender, a.message))
    (hown : ∀ id, id ≠ exhaustedCursor → Uses v i id c arrivals → visible id)
    (hothers : ∀ j, j ≠ i → ∀ id, id ≠ exhaustedCursor → Uses v j id c arrivals → ¬visible id) :
    List.Forall₂ (Ending.Rel (Option.Rel Message.Alike)) (Company.endings v i c arrivals)
      (Company.endings v i c' alone) := by
  -- over all messages, of which those of others have nothing beside them on the right
  induction arrivals generalizing c c' alone with
  | nil =>
    obtain rfl := List.map_eq_nil_iff.mp halone
    exact .nil
  | cons a arrivals ih =>
    have hown' (id : Int64) (hid : id ≠ exhaustedCursor)
        (huses : Uses v i id (c.receive v a).2 arrivals) : visible id :=
      hown id hid (.inr huses)
    have hothers' (j : ι) (hj : j ≠ i) (id : Int64) (hid : id ≠ exhaustedCursor)
        (huses : Uses v j id (c.receive v a).2 arrivals) :
        ¬visible id := hothers j hj id hid (.inr huses)
    by_cases ha : a.sender = i
    · rw [List.filter_cons_of_pos (by simpa using ha), List.map_cons] at halone
      obtain ⟨a', alone, rfl, hhead, halone⟩ := List.map_eq_cons_iff.mp halone
      obtain ⟨hsender, hmessage⟩ := Prod.mk.inj hhead
      have ha' : a'.sender = i := hsender.trans ha
      obtain ⟨hending, hafter⟩ :=
        h.receive_own hv ha ha' hmessage fun s hs id hid huses =>
          hown id hid (.inl ⟨ha, s, hs, huses⟩)
      simp only [Company.endings, if_pos ha, if_pos ha']
      have hrest := ih hafter halone hown' hothers'
      generalize (c.receive v a).1 = ending?, (c'.receive v a').1 = ending?' at hending
      cases hending with
      | none => exact hrest
      | some hending => exact .cons hending hrest
    · rw [List.filter_cons_of_neg (by simpa using ha)] at halone
      simp only [Company.endings, if_neg ha]
      exact ih (h.receive_other hv.keeps ha fun s hs id hid huses =>
        hothers a.sender ha id hid (.inl ⟨rfl, s, hs, huses⟩))
        halone hown' hothers'

end Alike

/-! ### A backend for all clients -/

/-- A backend that has one more document in every cursor. -/
def endless : Stage σ where
  name := "endless"
  enter s :=
    match s.request.command.cursorId? with
    | some id =>
      .stop
        (.response [("cursor", .document [("id", .int64 id), ("nextBatch", .array [.document []])]),
          ("ok", .int32 1)]) s
    | none => .pass s fun a s => (.answered a, s)

/-- `endless` answers a command by its document alone. -/
theorem isIsolating_endless : (endless : Stage σ).IsIsolating where
  keeps s := by
    rw [endless]
    dsimp only
    split
    · exact .stop (.refl s)
    · exact .pass (.refl s) fun _ u => .refl u
  alike h := by
    simp only [endless, h.request]
    split
    · exact .stop ⟨.response (.refl _), h⟩
    · exact .pass h id

/-- A gateway to the backend. -/
def endlessly : Service Unit :=
  ⟨.standard, ⟨[endless], ServerInfo.terminal ⟨"4.2", "library", 30, []⟩⟩⟩

/-- The pipeline of `endlessly` is isolating, stage by stage. -/
theorem isIsolating_endlessly : endlessly.pipeline.IsIsolating :=
  isIsolating_of_layers (ServerInfo.isIsolating_terminal _) fun stage hstage => by
    obtain rfl := List.mem_singleton.mp hstage
    exact isIsolating_endless

/-- A response of `endlessly` carries the cursor that the command continues, if any. -/
theorem cursorId?_of_respondedCursor? {s : Session Unit} {command : Command} {response : Document}
    {id : Int64} (hr : (s.passage endlessly command).outcome = .response response)
    (hid : respondedCursor? response = some id) :
    command.cursorId? = some id := by
  obtain ⟨i, hpassage⟩ : ∃ i : ServerInfo, s.passage endlessly command =
      Passage.run i.terminal s.shared.cancelled 0 [endless] (s.scene command) := ⟨_, rfl⟩
  rw [hpassage, Passage.run] at hr
  cases hcancelled : s.shared.cancelled 0 with
  | true => simp [hcancelled, Outcome.failure, Outcome.response] at hr
  | false =>
    simp only [hcancelled, Bool.false_eq_true, if_false] at hr
    have hcommand : (s.scene command).tick.request.command = command := rfl
    cases hcursor : command.cursorId? with
    -- the stage answers for the innermost layer
    | some cursor =>
      simp only [endless, hcommand, hcursor, Passage.outcome_ofStage] at hr
      cases hr
      exact hid
    | none =>
      -- the innermost layer answers, and that never names a cursor
      have hinside : s.shared.cancelled 1 = false := by
        cases hinside : s.shared.cancelled 1 with
        | true =>
          simp [endless, hcommand, hcursor, Passage.run, hinside, Outcome.failure,
            Outcome.response] at hr
        | false => rfl
      simp only [endless, hcommand, hcursor, Passage.run, hinside, Bool.false_eq_true,
        if_false] at hr
      have hterminal : (i.terminal (s.scene command).tick.tick).1 = .response response := by
        split at hr
        · rename_i a ha
          rw [ha]
          simpa using hr
        · simpa using hr
      rw [ServerInfo.respondedCursor?_of_terminal hterminal] at hid
      cases hid

/-- A body uses the cursors of `endlessly` that its command names, and no others. -/
theorem names_of_uses {s : Session Unit} {b : Body} {id : Int64} (h : s.Uses endlessly b id) :
    Names CommandRegistry.standard b id := by
  obtain h | ⟨response, hr, hid⟩ := h
  · exact h
  · cases hd : commandOf b with
    | error e => simp [Session.commandOutcome?, hd, Except.toOption] at hr
    | ok d =>
      rw [s.commandOutcome?_of_ok _ hd] at hr
      cases hp : CommandRegistry.standard.parse d with
      | error e =>
        rw [(s.ready b).outcome?_of_refused _ hp] at hr
        cases hr
      -- a cursor in the response is the one in the command
      | ok command =>
        rw [(s.ready b).outcome?_of_parsed _ hp] at hr
        exact .inr ⟨d, command, hd, hp,
          .inl (cursorId?_of_respondedCursor? (Option.some.inj hr) hid)⟩

/-- A request for more `Names` its cursor alone. -/
theorem eq_of_names_getMore {registry : CommandRegistry} {g : Wire.GetMore} {id : Int64}
    (h : Names registry (.getMore g) id) : id = g.cursorId := by
  obtain ⟨g', hg, rfl⟩ | ⟨d, command, hd, hp, h⟩ := h
  · cases hg
    rfl
  · obtain ⟨hkind, hcursor⟩ := Legacy.cursorId?_of_getMoreCommand hd hp
    obtain h | h := h
    · exact Option.some.inj (h.symm.trans hcursor)
    · simp [Command.cursorIds, hkind] at h

/-- The command to log out. -/
def logout : Body := .msg ⟨.empty, [.body [("logout", .int32 1)]]⟩

/-- `logout` names no cursor. -/
theorem not_names_logout (id : Int64) : ¬Names .standard logout id := by
  rintro (⟨g, hg, -⟩ | ⟨d, command, hd, hp, h⟩)
  · cases hg
  · cases hd
    cases hp
    obtain h | h := h <;> cases h

/-- A request for more of a cursor. -/
def more (id : Int64) : Body := .getMore ⟨0, "library.books", 0, id⟩

/-! ### Among others and alone -/

/-- A client that shares no cursor with another, where both have messages that name it or responses
that carry it (`Uses`), is answered as if it were alone with its messages, whatever messages of
others come in between: the `endings` of its messages are the same, with the same replies but for
their numbers and the time. When its messages come makes no difference either. -/
theorem alike_endings (hv : v.pipeline.IsIsolating) {c : Company ι σ}
    (hc : c.shared.cursors.Labelled) {i : ι} {arrivals alone : List (Arrival ι)}
    (halone : alone.map (fun a => (a.sender, a.message)) =
      (arrivals.filter (·.sender = i)).map fun a => (a.sender, a.message))
    (happart : ∀ j, j ≠ i → ∀ id, id ≠ exhaustedCursor → Uses v i id c arrivals →
      ¬Uses v j id c arrivals) :
    List.Forall₂ (Ending.Rel (Option.Rel Message.Alike)) (endings v i c arrivals)
      (endings v i c alone) := by
  -- what the client sees are the cursors that nobody else uses
  have hself : c.Alike (fun id => ∀ j, j ≠ i → ¬Uses v j id c arrivals) i c :=
    ⟨rfl, rfl, hc, hc, fun _ => rfl⟩
  exact hself.endings hv halone (fun id hid huses j hj => happart j hj id hid huses) fun j hj id _
    huses hvisible => hvisible j hj huses

/-- Two clients read on in cursors of their own, and one of them logs out in between. The `endings`
of the other are those that it has alone. -/
theorem alike_endings_endlessly :
    List.Forall₂ (Ending.Rel (Option.Rel Message.Alike))
      (endings endlessly true ⟨fun _ => some (.connected none), .start 1000 ⟨"", "", []⟩ ()⟩
        [⟨true, ⟨1, 0, more 7⟩, 10⟩, ⟨false, ⟨1, 0, more 8⟩, 2⟩, ⟨false, ⟨2, 0, logout⟩, 0⟩,
          ⟨true, ⟨2, 0, .compressed .zlib (more 7)⟩, 5⟩])
      (endings endlessly true ⟨fun _ => some (.connected none), .start 1000 ⟨"", "", []⟩ ()⟩
        [⟨true, ⟨1, 0, more 7⟩, 0⟩, ⟨true, ⟨2, 0, .compressed .zlib (more 7)⟩, 300⟩]) := by
  refine alike_endings isIsolating_endlessly (CursorCache.labelled_empty 1000) rfl ?_
  rintro j hj id - huses hother
  have hid : id = 7 := by
    obtain ⟨-, s, -, h⟩ | ⟨hsender, -⟩ | ⟨hsender, -⟩ | ⟨-, s, -, h⟩ | h := huses
    · exact eq_of_names_getMore (names_of_uses h)
    · cases hsender
    · cases hsender
    · exact eq_of_names_getMore (names_of_uses h)
    · exact h.elim
  -- the other client asks for cursor 8, and logs out
  obtain ⟨rfl, -⟩ | ⟨-, s, -, h⟩ | ⟨-, s, -, h⟩ | ⟨rfl, -⟩ | h := hother
  · exact hj rfl
  · rw [hid] at h
    exact absurd (eq_of_names_getMore (names_of_uses h)) (by decide)
  · exact not_names_logout id (names_of_uses h)
  · exact hj rfl
  · exact h

end Company

end Gateway

end DocGateway
