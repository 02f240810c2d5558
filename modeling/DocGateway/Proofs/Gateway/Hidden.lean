import DocGateway.Proofs.Command.Quotes
import DocGateway.Proofs.Gateway.Envelopes
import DocGateway.Proofs.Pipeline.Onion
import DocGateway.Stages.CommandFilter
/-!
# Commands that do not exist for clients

Whatever form a message has, what counts is the first key of the command that it asks for. A
command that is not registered comes to no layer, and one that is hidden comes no further than the
stage that hides it. So it makes no difference what the layers behind are. The client is told that
there was a failure, and no cursor is opened or closed on the way. A hidden command that is
cancelled before it comes to that stage is given up instead.

## Key results

- `CommandFilter.exists_run`: a hidden command in a pipeline
- `dispatch_of_unknown`, `dispatch_of_hidden`: what is dispatched
- `exists_handleBody_eq`: a failure, in the form that each body asks for
- `handle_of_denied`: all messages
-/

namespace DocGateway

open Bson (Document Value)

/-! ### The stage that hides commands -/

/-- A stage that passes requests on. It may change a document, but not what the command is called;
the answer is that of the layers inside, and it does nothing about cursors. -/
def Stage.PassesOn {σ : Type} (stage : Stage σ) : Prop :=
  ∀ s, ∃ s' leave, stage.enter s = .pass s' leave ∧
    s'.request.commandName = s.request.commandName ∧ s'.cursors = s.cursors ∧
    ∀ a s'', (leave a s'').1 = .answered a ∧ (leave a s'').2.cursors = s''.cursors

namespace CommandFilter

variable {σ : Type} {name : String} {c : Config} {before after : List (Stage σ)}
  {terminal : Terminal σ} {cancelled : Cancellation}

/-- What comes of a command that is hidden and comes to the layers from place `k` on, where the
stage that hides it is `n` places further in. -/
structure IsHidden (cancelled : Cancellation) (k n : Nat) (s : Scene σ) (r : Passage σ) :
    Prop where
  /-- The command is denied, if it is not cancelled by the time that it comes to that stage. -/
  answer : r.outcome = .answered (if (List.range' k (n + 1)).any cancelled then .error .cancelled
    else .ok (denial s.request.commandName))
  cursors : r.scene.cursors = s.cursors
  terminal : .terminal ∉ r.events
  /-- A stage is entered that is no further in, if the command is not cancelled by then. -/
  entered (j : Nat) : .entered j ∈ r.events ↔
    k ≤ j ∧ j ≤ k + n ∧ ∀ i, k ≤ i → i ≤ j → cancelled i = false

/-- `run` that is cancelled before it comes to a layer enters none. -/
theorem run_of_cancelled {k : Nat} (hk : cancelled k = true) (stages : List (Stage σ))
    (s : Scene σ) :
    Passage.run terminal cancelled k stages s = ⟨.failure .cancelled, s.tick, []⟩ := by
  rw [Passage.run.eq_def]
  exact if_pos hk

/-- `run` from the stage itself ends with its denial. -/
theorem run_of_hidden {k : Nat} (hk : cancelled k = false) {s : Scene σ}
    (hs : c.hidden.contains s.request.commandName = true) :
    Passage.run terminal cancelled k (stage name c :: after) s =
      ⟨.response (denial s.request.commandName), s.tick, [.entered k, .left k name true]⟩ := by
  have henter : (stage name c).enter s.tick =
      .stop (.response (denial s.request.commandName)) s.tick := if_pos hs
  rw [Passage.run, if_neg (Bool.eq_false_iff.mp hk), henter]
  rfl

/-- `run` from a stage that passes requests on ends with the answer of the layers inside. -/
theorem run_of_passesOn {first : Stage σ} {rest : List (Stage σ)} {k : Nat} {s s₁ : Scene σ}
    {leave : Answer → Scene σ → Outcome × Scene σ} {a : Answer} (hk : cancelled k = false)
    (henter : first.enter s.tick = .pass s₁ leave)
    (hinside : (Passage.run terminal cancelled (k + 1) rest s₁).outcome = .answered a)
    (hleave : (leave a (Passage.run terminal cancelled (k + 1) rest s₁).scene).1 = .answered a) :
    Passage.run terminal cancelled k (first :: rest) s =
      ⟨.answered a, (leave a (Passage.run terminal cancelled (k + 1) rest s₁).scene).2,
        .entered k :: (Passage.run terminal cancelled (k + 1) rest s₁).events ++
          [.left k first.name a.isOk]⟩ := by
  rw [Passage.run, if_neg (Bool.eq_false_iff.mp hk), henter]
  simp only [hinside, hleave]
  rfl

namespace IsHidden

variable {k n : Nat} {s : Scene σ}

/-- `IsHidden` holds of a run that is cancelled before it comes to the next layer. -/
theorem of_cancelled (hk : cancelled k = true) :
    IsHidden cancelled k n s ⟨.failure .cancelled, s.tick, []⟩ where
  answer := by simp [List.range'_succ, hk, Outcome.failure]
  cursors := rfl
  terminal := List.not_mem_nil
  entered j := by
    refine ⟨fun h => (List.not_mem_nil h).elim, ?_⟩
    rintro ⟨hj, -, hspared⟩
    rw [hspared k (Nat.le_refl k) hj] at hk
    cases hk

/-- `IsHidden` holds of a run that comes to the stage itself. -/
theorem of_hidden (hk : cancelled k = false) :
    IsHidden cancelled k 0 s
      ⟨.response (denial s.request.commandName), s.tick, [.entered k, .left k name true]⟩ where
  answer := by simp [hk, Outcome.response]
  cursors := rfl
  terminal := by simp
  entered j := by
    -- the stage itself is the only one that is entered
    have hj : .entered j ∈ [LayerEvent.entered k, .left k name true] ↔ j = k := by simp
    rw [hj, Nat.add_zero]
    constructor
    · rintro rfl
      exact ⟨Nat.le_refl _, Nat.le_refl _, fun i hi hi' => Nat.le_antisymm hi hi' ▸ hk⟩
    · rintro ⟨hle, hge, -⟩
      exact Nat.le_antisymm hge hle

/-- `IsHidden` is kept one stage further out, if this stage passes on what is answered inside. -/
theorem outward (name : String) (succeeded : Bool) {s₁ s₂ : Scene σ} {inside : Passage σ}
    (h : IsHidden cancelled (k + 1) n s₁ inside) (hk : cancelled k = false)
    (hname : s₁.request.commandName = s.request.commandName) (hin : s₁.cursors = s.cursors)
    (hout : s₂.cursors = inside.scene.cursors) :
    IsHidden cancelled k (n + 1) s ⟨inside.outcome, s₂,
      .entered k :: inside.events ++ [.left k name succeeded]⟩ where
  answer := by
    rw [List.range'_succ, List.any_cons, hk, Bool.false_or, ← hname]
    exact h.answer
  cursors := hout.trans (h.cursors.trans hin)
  terminal := by simpa using h.terminal
  entered j := by
    have hj : .entered j ∈ (.entered k :: inside.events ++ [.left k name succeeded] :
        List LayerEvent) ↔ j = k ∨ .entered j ∈ inside.events := by simp
    -- one more stage is entered than inside, which is the outermost
    rw [hj, h.entered]
    constructor
    · rintro (rfl | ⟨hle, hge, hspared⟩)
      · exact ⟨Nat.le_refl _, by omega, fun i hi hi' => Nat.le_antisymm hi hi' ▸ hk⟩
      · refine ⟨by omega, by omega, fun i hi hi' => ?_⟩
        obtain rfl | hi := Nat.eq_or_lt_of_le hi
        · exact hk
        · exact hspared i hi hi'
    · rintro ⟨hle, hge, hspared⟩
      obtain rfl | hlt := Nat.eq_or_lt_of_le hle
      · exact .inl rfl
      · exact .inr ⟨hlt, by omega, fun i hi hi' => hspared i (by omega) hi'⟩

end IsHidden

/-- `run` with a hidden command comes to one end, whatever there is behind the stage that hides it,
and `IsHidden` holds of that. -/
theorem exists_run (name : String) (hbefore : ∀ stage ∈ before, stage.PassesOn)
    (cancelled : Cancellation) (k : Nat) {s : Scene σ}
    (hs : c.hidden.contains s.request.commandName = true) :
    ∃ r, IsHidden cancelled k before.length s r ∧ ∀ after terminal,
      Passage.run terminal cancelled k (before ++ stage name c :: after) s = r := by
  -- by induction on the stages in front, from the outermost one on
  induction before generalizing k s with
  | nil =>
    cases hk : cancelled k with
    | true => exact ⟨_, .of_cancelled hk, fun after terminal => run_of_cancelled hk _ s⟩
    | false => exact ⟨_, .of_hidden hk, fun after terminal => run_of_hidden hk hs⟩
  | cons first before ih =>
    obtain ⟨hfirst, hbefore⟩ := List.forall_mem_cons.mp hbefore
    cases hk : cancelled k with
    | true => exact ⟨_, .of_cancelled hk, fun after terminal => run_of_cancelled hk _ s⟩
    | false =>
      -- the command is called the same inside, so it is hidden there
      obtain ⟨s₁, leave, henter, hname, hcursors, hleave⟩ := hfirst s.tick
      have hname : s₁.request.commandName = s.request.commandName := hname
      obtain ⟨inside, hinside, hrun⟩ := ih hbefore (k + 1) (s := s₁) (hname ▸ hs)
      obtain ⟨a, ha⟩ : ∃ a, inside.outcome = .answered a := ⟨_, hinside.answer⟩
      obtain ⟨hanswer, hscene⟩ := hleave a inside.scene
      refine ⟨_, hinside.outward first.name a.isOk hk hname hcursors hscene,
        fun after terminal => ?_⟩
      have hinner := hrun after terminal
      rw [List.cons_append, run_of_passesOn hk henter (by rw [hinner, ha])
        (by rw [hinner, hanswer]), hinner, ha]

end CommandFilter

/-! ### Failures -/

/-- A document that says that a command failed. -/
def IsFailure (d : Document) : Prop := d.get? "ok" = some (.int32 0)

/-- What `IsFailure` reports no success. -/
theorem IsFailure.isOk {d : Document} (h : IsFailure d) : isOk d = false := by
  rw [DocGateway.isOk, h]
  rfl

/-- A denial `IsFailure`. -/
theorem CommandFilter.isFailure_denial (commandName : String) : IsFailure (denial commandName) :=
  rfl

/-- The document of an error `IsFailure`, but for a write batch that failed in part. -/
theorem ServerError.isFailure_document {e : ServerError} (h : e.isPartial = false) :
    IsFailure e.document := by
  cases e with
  | bulkWrite f => cases h
  | _ => rfl

namespace Gateway

open Wire (Body Message Msg)

/-- The body that answers a body with a failure, if it is answered. -/
def failureReply (b : Body) (d : Document) : Option Body :=
  match b with
  | .msg m => if m.flags.moreToCome then none else some (Session.msgReply m d)
  | .query _ | .getMore _ => some (.reply (Legacy.singleReply d))
  | _ => none

namespace Session

variable {σ : Type} (v : Service σ) (s : Session σ) {b : Body} {d : Document}

/-- `handleBody` makes what it ends with of what `dispatch` ends with, in the same way for all
services. A failure answers the body in the form that it asks for, a command that was cancelled is
not answered, and nothing else comes of either. -/
theorem exists_handleBody_eq (hd : commandOf b = .ok d) :
    ∃ f : Ending Document × Session σ → Ending (Option Body) × Session σ,
      (∀ v : Service σ, s.handleBody v b = f ((s.ready b).dispatch v d)) ∧
      (∀ failure s', isOk failure = false → f (.done failure, s') =
        (.done (failureReply b failure), s')) ∧
      ∀ s', f (.failed .cancelled, s') =
        (if isDetached b then .done none else .failed .cancelled, s') := by
  cases b with
  | msg m =>
    have hd : Legacy.mergeSections m = .ok d := hd
    cases hm : m.flags.moreToCome with
    -- what the command ends with is thrown away
    | true =>
      exact ⟨fun r => (.done none, r.2), fun v =>
        by simp only [handleBody, handleMsg, hm, hd, ready],
        fun failure s' _ => by simp [failureReply, hm], fun s' => by simp [isDetached, hm]⟩
    | false =>
      exact ⟨fun r => (r.1.map fun response => some (msgReply m response), r.2),
        fun v => by simp only [handleBody, handleMsg, hm, hd, ready],
        fun failure s' _ => by
          simp [failureReply, hm, Ending.map], fun s' => by simp [isDetached, hm, Ending.map]⟩
  | query q =>
    cases ht : Legacy.queryCommand q with
    | error e => simp [commandOf, ht, Except.map] at hd
    | ok t =>
      obtain rfl : t.command = d := by simpa [commandOf, ht, Except.map] using hd
      refine ⟨_, fun v => s.handleQuery_of_command v ht, fun failure s' hfailure => ?_,
        fun s' => rfl⟩
      simp only [replyWith, Legacy.queryReply, Legacy.firstReply_of_failed _ hfailure]
      rfl
  | getMore g =>
    refine ⟨_, fun v => s.handleGetMore_of_command v hd, fun failure s' hfailure => ?_,
      fun s' => rfl⟩
    simp only [replyWith, Legacy.getMoreReply_of_failed _ _ hfailure]
    rfl
  | killCursors k =>
    obtain rfl := Except.ok.inj hd
    exact ⟨fun r => (r.1.map fun _ => none, r.2), fun v => rfl, fun failure s' _ => rfl,
      fun s' => rfl⟩
  | reply r => cases hd
  | compressed c inner => cases hd

/-! ### Commands that are denied -/

/-- How the dispatch of a command ends that is denied: with a failure. Cursors are left alone. -/
structure IsDenied (r : Ending Document × Session σ) : Prop where
  ending : ∃ failure, IsFailure failure ∧ r.1 = .done failure
  cursors : r.2.shared.cursors = s.shared.cursors

/-- How the dispatch of a command ends that is interrupted: nothing answers it. Cursors are left
alone. -/
structure IsInterrupted (r : Ending Document × Session σ) : Prop where
  ending : r.1 = .failed .cancelled
  cursors : r.2.shared.cursors = s.shared.cursors

/-- `dispatch` of a command that is not registered `IsDenied`, and does not look at the pipeline. -/
theorem dispatch_of_unknown {command : String} (hcommand : d.firstKey? = some command)
    (hunknown : v.registry.contains command = false) :
    s.IsDenied (s.dispatch v d) ∧
      ∀ pipeline, s.dispatch ⟨v.registry, pipeline⟩ d = s.dispatch v d := by
  have hparse : v.registry.parse d = .error (CommandRegistry.notFound command) := by
    simp only [CommandRegistry.parse, hcommand, hunknown]
    rfl
  refine ⟨?_, fun pipeline => ?_⟩
  · rw [s.dispatch_of_refused v hparse]
    exact ⟨⟨_, ServerError.isFailure_document rfl, rfl⟩, rfl⟩
  · rw [s.dispatch_of_refused v hparse, s.dispatch_of_refused ⟨v.registry, pipeline⟩ hparse]

/-- The document of an error of the registry `IsFailure`. -/
theorem isFailure_of_parse {registry : CommandRegistry} {e : ServerError}
    (h : registry.parse d = .error e) : IsFailure e.document := by
  obtain ⟨code, text, rfl, -⟩ :=
    isBrief_parse (n := (d.firstKey?.getD "").utf8ByteSize) (fun name hname => by simp [hname]) h
  rfl

variable {before : List (Stage σ)} {stage command : String} {c : CommandFilter.Config}

/-- The service with a stage that hides commands between other stages. -/
def filtering (registry : CommandRegistry) (before : List (Stage σ)) (stage : String)
    (c : CommandFilter.Config) (after : List (Stage σ)) (terminal : Terminal σ) : Service σ :=
  ⟨registry, before ++ CommandFilter.stage stage c :: after, terminal⟩

/-- `settle` after a run of which `IsHidden` holds: the dispatch `IsDenied` or `IsInterrupted`. -/
theorem settle_of_isHidden {n : Nat} {parsed : Command} {p : Passage σ}
    (hp : CommandFilter.IsHidden s.shared.cancelled 0 n (s.scene parsed) p) :
    ((∀ i ≤ n, s.shared.cancelled i = false) →
      s.IsDenied (((s.count (·.command parsed.name)).absorb p).settle p)) ∧
    ((∃ i ≤ n, s.shared.cancelled i = true) →
      s.IsInterrupted (((s.count (·.command parsed.name)).absorb p).settle p)) := by
  constructor
  · intro hspared
    have hany : (List.range' 0 (n + 1)).any s.shared.cancelled = false := by
      simpa [List.mem_range'_1, Nat.lt_succ_iff] using hspared
    have hout : p.outcome =
        .response (CommandFilter.denial (s.scene parsed).request.commandName) := by
      rw [hp.answer, hany]
      rfl
    have hfailure := CommandFilter.isFailure_denial (s.scene parsed).request.commandName
    rw [settle, hout]
    refine ⟨⟨_, hfailure, rfl⟩, ?_⟩
    -- a failure says nothing about cursors that the cache would follow
    simp only [Outcome.response, cursors_track, CursorCache.track_of_failed _ _ hfailure.isOk]
    exact hp.cursors
  · rintro ⟨i, hi, hcut⟩
    have hany : (List.range' 0 (n + 1)).any s.shared.cancelled = true := by
      rw [List.any_eq_true]
      exact ⟨i, by simp [List.mem_range'_1]; omega, hcut⟩
    have hout : p.outcome = .failure .cancelled := by
      rw [hp.answer, hany]
      rfl
    rw [settle, hout]
    exact ⟨rfl, hp.cursors⟩

/-- `dispatch` of a hidden command does not depend on what there is behind the stage that hides it.
It `IsDenied` if no layer up to that stage is cancelled, and `IsInterrupted` otherwise. -/
theorem dispatch_of_hidden (registry : CommandRegistry) (stage : String)
    (hbefore : ∀ stage ∈ before, stage.PassesOn) (hcommand : d.firstKey? = some command)
    (hhidden : c.hidden.contains command = true) :
    ∃ r, (∀ after terminal, s.dispatch (filtering registry before stage c after terminal) d = r) ∧
      (∀ e, registry.parse d = .error e → s.IsDenied r) ∧
      ∀ parsed, registry.parse d = .ok parsed →
        (∀ after terminal, CommandFilter.IsHidden s.shared.cancelled 0 before.length
          (s.scene parsed) (s.passage (filtering registry before stage c after terminal) parsed)) ∧
        ((∀ i ≤ before.length, s.shared.cancelled i = false) → s.IsDenied r) ∧
        ((∃ i ≤ before.length, s.shared.cancelled i = true) → s.IsInterrupted r) := by
  cases hparse : registry.parse d with
  | error e =>
    refine ⟨(.done e.document, s.count (·.error e.code.name)), fun after terminal =>
      s.dispatch_of_refused (filtering registry before stage c after terminal) hparse, ?_, ?_⟩
    · rintro - -
      exact ⟨⟨_, isFailure_of_parse hparse, rfl⟩, rfl⟩
    · intro parsed h
      cases h
  | ok parsed =>
    -- what the stage looks at is the first key of the document
    have hscene : c.hidden.contains (s.scene parsed).request.commandName = true := by
      obtain ⟨rfl, name, hname, -⟩ := registry.kindOf_of_parse hparse
      obtain rfl := Option.some_inj.mp (hname.symm.trans hcommand)
      simpa [scene, Request.ofCommand, Command.name, hname] using hhidden
    obtain ⟨p, hp, hrun⟩ :=
      CommandFilter.exists_run stage hbefore s.shared.cancelled 0 hscene
    have hpassage (after : List (Stage σ)) (terminal : Terminal σ) :
        s.passage (filtering registry before stage c after terminal) parsed = p :=
      hrun after terminal
    refine ⟨((s.count (·.command parsed.name)).absorb p).settle p, fun after terminal => ?_, ?_, ?_⟩
    · rw [s.dispatch_of_parsed (filtering registry before stage c after terminal) hparse, passed,
        hpassage]
    · intro e h
      cases h
    · intro _ h
      obtain rfl := Except.ok.inj h
      exact ⟨fun after terminal => hpassage after terminal ▸ hp, s.settle_of_isHidden hp⟩

/-! ### Bodies and messages -/

/-- What the handling of a message leaves of the cursors whose command does nothing about them. -/
structure LeavesCursors (m : Message) (after : Session σ) : Prop where
  /-- Each cursor that was cached has the entry that it had. -/
  kept (id : Int64) (slot : CursorSlot) (hslot : s.shared.cursors.slot? id = some slot) :
    ∃ slot', after.shared.cursors.slot? id = some slot' ∧ slot'.handle = slot.handle
  /-- No cursor is cached that was not, but for the one that a request for more names. -/
  opened (id : Int64) (hid : after.shared.cursors.contains id = true) :
    s.shared.cursors.contains id = true ∨ ∃ g, m.body.unwrap.2 = .getMore g ∧ g.cursorId = id

/-- How the handling of a message ends whose command is denied: it is answered with a failure, if
its sender waits for an answer. -/
structure IsDenial (m : Message) (r : Ending (Option Message) × Session σ) : Prop
    extends LeavesCursors s m r.2 where
  ending : ∃ failure, IsFailure failure ∧
    r.1 = .done ((failureReply m.body.unwrap.2 failure).map fun body =>
      ⟨s.shared.nextReply, m.requestId, .wrap m.body.unwrap.1 body⟩)

/-- How the handling of a message ends whose command is interrupted: it fails, unless its sender
does not wait for an answer. There is no reply. -/
structure IsInterruption (m : Message) (r : Ending (Option Message) × Session σ) : Prop
    extends LeavesCursors s m r.2 where
  ending : r.1 = if isDetached m.body.unwrap.2 then .done none else .failed .cancelled

/-- `ready` takes no entry from any cursor, and makes one for the cursor of a request for more
alone. -/
theorem slot?_ready (b : Body) (id : Int64) :
    (∀ slot, s.shared.cursors.slot? id = some slot →
      ∃ slot', (s.ready b).shared.cursors.slot? id = some slot' ∧ slot'.handle = slot.handle) ∧
    ((s.ready b).shared.cursors.contains id = true →
      s.shared.cursors.contains id = true ∨ ∃ g, b = .getMore g ∧ g.cursorId = id) := by
  cases b with
  | getMore g =>
    refine ⟨fun slot hslot => ?_, fun hcontains => ?_⟩
    · have hready : (s.ready (.getMore g)).shared.cursors =
          (s.shared.cursors.get s.shared.now g.cursorId).2 := rfl
      rw [hready]
      by_cases hid : id = g.cursorId
      · subst hid
        -- the look-up of the number of no cursor leaves the cache as it is
        by_cases hexhausted : g.cursorId = exhaustedCursor
        · rw [hexhausted, CursorCache.slot?_get_exhausted, ← hexhausted]
          exact ⟨slot, hslot, rfl⟩
        · rw [CursorCache.slot?_get _ _ hexhausted, if_pos rfl]
          exact ⟨_, rfl, (CursorCache.get_of_slot _ _ hexhausted hslot).1⟩
      · rw [CursorCache.slot?_get_of_ne _ _ hid]
        exact ⟨slot, hslot, rfl⟩
    · obtain rfl | hcontains := CursorCache.contains_of_get _ _ hcontains
      · exact .inr ⟨g, rfl, rfl⟩
      · exact .inl hcontains
  | _ => exact ⟨fun slot hslot => ⟨slot, hslot, rfl⟩, .inl⟩

/-- `conclude` leaves the cursors. -/
theorem cursors_conclude (m : Message) (cs : List Compressor)
    (r : Ending (Option Body) × Session σ) :
    (conclude m cs r).2.shared.cursors = r.2.shared.cursors := by
  obtain ⟨(_ | _) | _ | _ | _, s⟩ := r <;> rfl

/-- `handle` leaves the cursors if `handleBody` leaves them as `ready` does. -/
theorem leavesCursors_handle {m : Message} (h : (s.handleBody v m.body.unwrap.2).2.shared.cursors =
    (s.ready m.body.unwrap.2).shared.cursors) : s.LeavesCursors m (s.handle v m).2 := by
  have hcursors :
      (s.handle v m).2.shared.cursors = (s.ready m.body.unwrap.2).shared.cursors := by
    rw [s.handle_eq_conclude v (m := m) rfl]
    exact (cursors_conclude m _ _).trans h
  refine ⟨fun id slot hslot => ?_, fun id hid => ?_⟩
  · rw [hcursors]
    exact (s.slot?_ready m.body.unwrap.2 id).1 slot hslot
  · rw [hcursors] at hid
    exact (s.slot?_ready m.body.unwrap.2 id).2 hid

/-- `handle` of a message whose dispatch `IsDenied` is a denial. -/
theorem isDenial_of_isDenied {m : Message} (hd : commandOf m.body.unwrap.2 = .ok d)
    (h : (s.ready m.body.unwrap.2).IsDenied ((s.ready m.body.unwrap.2).dispatch v d)) :
    s.IsDenial m (s.handle v m) := by
  obtain ⟨f, hf, hfailed, -⟩ := s.exists_handleBody_eq hd
  obtain ⟨failure, hfailure, hend⟩ := h.ending
  have hnext := s.nextReply_handleBody v m.body.unwrap.2
  have hcursors := h.cursors
  -- what is made of the body, before it is put into envelopes
  obtain ⟨s', hs'⟩ : ∃ s', (s.ready m.body.unwrap.2).dispatch v d = (.done failure, s') :=
    ⟨_, Prod.ext hend rfl⟩
  have hbody : s.handleBody v m.body.unwrap.2 =
      (.done (failureReply m.body.unwrap.2 failure), s') := by
    rw [hf, hs', hfailed failure s' hfailure.isOk]
  rw [hs'] at hcursors
  refine ⟨s.leavesCursors_handle v (by rw [hbody, hcursors]), failure, hfailure, ?_⟩
  rw [s.handle_eq_conclude v (m := m) rfl, hbody]
  rw [hbody] at hnext
  have hnext : s'.shared.nextReply = s.shared.nextReply := hnext
  cases failureReply m.body.unwrap.2 failure with
  | none => rfl
  | some body => rw [← hnext]; rfl

/-- `handle` of a message whose dispatch `IsInterrupted` is an interruption. -/
theorem isInterruption_of_isInterrupted {m : Message} (hd : commandOf m.body.unwrap.2 = .ok d)
    (h : (s.ready m.body.unwrap.2).IsInterrupted ((s.ready m.body.unwrap.2).dispatch v d)) :
    s.IsInterruption m (s.handle v m) := by
  obtain ⟨f, hf, -, hcancelled⟩ := s.exists_handleBody_eq hd
  have hcursors := h.cursors
  obtain ⟨s', hs'⟩ : ∃ s', (s.ready m.body.unwrap.2).dispatch v d = (.failed .cancelled, s') :=
    ⟨_, Prod.ext h.ending rfl⟩
  -- an interrupted command ends the handling, unless no one waits for it
  have hbody : s.handleBody v m.body.unwrap.2 =
      (if isDetached m.body.unwrap.2 then .done none else .failed .cancelled, s') := by
    rw [hf, hs', hcancelled s']
  rw [hs'] at hcursors
  refine ⟨s.leavesCursors_handle v (by rw [hbody, hcursors]), ?_⟩
  rw [s.handle_eq_conclude v (m := m) rfl, hbody]
  cases isDetached m.body.unwrap.2 <;> rfl

/-- `handle` depends on the service by the dispatch of its command alone. -/
theorem handle_congr {v v' : Service σ} {m : Message} (hd : commandOf m.body.unwrap.2 = .ok d)
    (h : (s.ready m.body.unwrap.2).dispatch v d = (s.ready m.body.unwrap.2).dispatch v' d) :
    s.handle v m = s.handle v' m := by
  obtain ⟨f, hf, -, -⟩ := s.exists_handleBody_eq hd
  rw [s.handle_eq_conclude v (m := m) rfl, s.handle_eq_conclude v' (m := m) rfl, hf v, hf v', h]

end Session

open Session (filtering)

/-- A service that hides a command from the innermost layer, which takes down every command that
comes to it. -/
def hidingPing : Service (List Document) :=
  filtering .standard [] "filtercommand" ⟨["ping"]⟩ [] recording.pipeline.terminal

/-- A client that has just connected. -/
def visitor (cancelled : Cancellation) : Session (List Document) :=
  ⟨.connected none, { Shared.start 0 ⟨"internal", "root", []⟩ [] with cancelled }⟩

/-- A query on the command collection, in an envelope and with its command wrapped. -/
def wrappedPing : Message :=
  ⟨7, 0, .compressed .snappy
    (.query ⟨⟨0⟩, "db.$cmd", 0, -1, [("$query", .document [("ping", .int32 1)])], none⟩)⟩

end Gateway

end DocGateway
