import DocGateway.Proofs.Gateway.Effects
import DocGateway.Proofs.Gateway.Likeness
import DocGateway.Proofs.Stages.BuiltIn
/-!
# Layers that keep clients apart

A layer keeps clients apart if it looks at nothing but the request and the client, and leaves the
cursors to the gateway. What it does besides, in the slow log or in a state of its own, makes no
difference to anybody. A pipeline of such layers is such a pipeline, and all stages that the gateway
brings with it are such layers, as is the innermost one.

## Key results

- `isIsolating_of_layers`: a pipeline of layers that keep clients apart
- `BuiltIn.isIsolating`, `ServerInfo.isIsolating_terminal`: the layers of the gateway
-/

namespace DocGateway

open Bson (Document Value)

variable {σ : Type}

/-! ### Pipelines -/

/-- Scenes with the same request of the same client. -/
structure Scene.Alike (s s' : Scene σ) : Prop where
  request : s.request = s'.request
  client : s.client = s'.client

/-- A pipeline answers a request of a client in one way, apart from the time that a response tells,
and keeps the same of the client. The cursors it leaves alone. -/
structure Pipeline.IsIsolating (p : Pipeline σ) : Prop where
  keeps : p.LeavesCursors
  alike (cancelled : Cancellation) {scene scene' : Scene σ} (h : scene.Alike scene') :
    (p.run cancelled scene).outcome.Alike (p.run cancelled scene').outcome ∧
      (p.run cancelled scene).scene.client = (p.run cancelled scene').scene.client

/-! ### Layers -/

namespace Scene

variable {s s' t u : Scene σ}

/-- `KeepsCursors` holds where nothing is done. -/
theorem KeepsCursors.refl (s : Scene σ) : s.KeepsCursors s := ⟨rfl, rfl, rfl⟩

/-- `KeepsCursors` is kept by one layer after another. -/
theorem KeepsCursors.trans (h : u.KeepsCursors t) (h' : t.KeepsCursors s) : u.KeepsCursors s :=
  ⟨h.cursors.trans h'.cursors, h.cursorId?.trans h'.cursorId?, h.cursorIds.trans h'.cursorIds⟩

/-- `tick` does nothing to cursors. -/
theorem KeepsCursors.tick (h : t.KeepsCursors s.tick) : t.KeepsCursors s :=
  ⟨h.cursors, h.cursorId?, h.cursorIds⟩

/-- `tick` keeps scenes alike. -/
theorem Alike.tick (h : s.Alike s') : s.tick.Alike s'.tick := ⟨h.request, h.client⟩

end Scene

/-- Layers end in the same way, and leave the same request and client. -/
def EndAlike (r r' : Outcome × Scene σ) : Prop := r.1.Alike r'.1 ∧ r.2.Alike r'.2

/-- A stage leaves the cursors alone on the way in and on the way out. -/
inductive Entry.KeepsCursors (s : Scene σ) : Entry σ → Prop
  | stop {o : Outcome} {t : Scene σ} (ht : t.KeepsCursors s) : KeepsCursors s (.stop o t)
  | pass {t : Scene σ} {leave : Answer → Scene σ → Outcome × Scene σ} (ht : t.KeepsCursors s)
      (hleave : ∀ a u, (leave a u).2.KeepsCursors u) : KeepsCursors s (.pass t leave)

/-- A stage does the same with two requests: it answers them in the same way, or passes on the same,
and makes the same of what comes back. -/
inductive Entry.Alike : Entry σ → Entry σ → Prop
  | stop {o o' : Outcome} {t t' : Scene σ} (h : EndAlike (o, t) (o', t')) :
      Alike (.stop o t) (.stop o' t')
  | pass {t t' : Scene σ} {leave leave' : Answer → Scene σ → Outcome × Scene σ} (ht : t.Alike t')
      (hleave : ∀ {a a' u u'}, EndAlike (.answered a, u) (.answered a', u') →
        EndAlike (leave a u) (leave' a' u')) :
      Alike (.pass t leave) (.pass t' leave')

/-- A stage looks at nothing but the request and the client, and leaves the cursors alone. -/
structure Stage.IsIsolating (stage : Stage σ) : Prop where
  keeps (s : Scene σ) : (stage.enter s).KeepsCursors s
  alike {s s' : Scene σ} (h : s.Alike s') : (stage.enter s).Alike (stage.enter s')

/-- So does the innermost layer. -/
structure Terminal.IsIsolating (terminal : Terminal σ) : Prop where
  keeps (s : Scene σ) : (terminal s).2.KeepsCursors s
  alike {s s' : Scene σ} (h : s.Alike s') : EndAlike (terminal s) (terminal s')

/-! ### Pipelines of layers -/

namespace Passage

/-- `ofStage` leaves the scene that the stage does. -/
@[simp] theorem scene_ofStage (position : Nat) (name : String) (outcome : Outcome) (s : Scene σ)
    (inside : List LayerEvent) :
    (ofStage position name outcome s inside).scene = s := by
  cases outcome <;> rfl

variable {terminal : Terminal σ} {stages : List (Stage σ)}

/-- `run` through layers that leave the cursors alone leaves them alone. -/
theorem keepsCursors_run (hterminal : ∀ s, (terminal s).2.KeepsCursors s)
    (hstages : ∀ stage ∈ stages, ∀ s, (stage.enter s).KeepsCursors s) (cancelled : Cancellation)
    (position : Nat) (s : Scene σ) :
    (run terminal cancelled position stages s).scene.KeepsCursors s := by
  induction stages generalizing position s with
  | nil =>
    rw [run]
    split
    · exact (Scene.KeepsCursors.refl _).tick
    · exact (hterminal s.tick).tick
  | cons stage stages ih =>
    obtain ⟨hstage, hstages⟩ := List.forall_mem_cons.mp hstages
    rw [run]
    split
    · exact (Scene.KeepsCursors.refl _).tick
    · have henter := hstage s.tick
      cases he : stage.enter s.tick with
      | stop o t =>
        rw [he] at henter
        cases henter with
        | stop ht => simpa using ht.tick
      | pass t leave =>
        rw [he] at henter
        cases henter with
        | pass ht hleave =>
          -- the stage keeps them on the way in, the layers inside by the induction, and the way out
          -- does
          have hinside := (ih hstages (position + 1) t).trans ht.tick
          dsimp only
          split
          · simpa using (hleave _ _).trans hinside
          · simpa using hinside

/-- `run` through layers that look at nothing but the request and the client ends in the same way in
scenes that are alike. -/
theorem alike_run (hterminal : ∀ {s s' : Scene σ}, s.Alike s' → EndAlike (terminal s) (terminal s'))
    (hstages : ∀ stage ∈ stages, ∀ {s s' : Scene σ}, s.Alike s' →
      (stage.enter s).Alike (stage.enter s')) (cancelled : Cancellation)
    (position : Nat) {s s' : Scene σ} (h : s.Alike s') :
    EndAlike ((run terminal cancelled position stages s).outcome,
      (run terminal cancelled position stages s).scene)
      ((run terminal cancelled position stages s').outcome,
        (run terminal cancelled position stages s').scene) := by
  induction stages generalizing position s s' with
  | nil =>
    rw [run, run]
    split
    · exact ⟨.failure _, h.tick⟩
    · exact hterminal h.tick
  | cons stage stages ih =>
    obtain ⟨hstage, hstages⟩ := List.forall_mem_cons.mp hstages
    rw [run, run]
    split
    · exact ⟨.failure _, h.tick⟩
    · have henter := hstage h.tick
      generalize stage.enter s.tick = entry, stage.enter s'.tick = entry' at henter
      cases henter with
      | stop h => simpa using h
      | pass ht hleave =>
        -- the layers inside end alike, and what the stage makes of that is alike too
        have hinside := ih hstages (position + 1) ht
        obtain ⟨houtcome, hscene⟩ := hinside
        dsimp only
        generalize run terminal cancelled (position + 1) stages _ = inside at houtcome hscene ⊢
        generalize run terminal cancelled (position + 1) stages _ = inside' at houtcome hscene ⊢
        obtain ⟨o, u, events⟩ := inside
        obtain ⟨o', u', events'⟩ := inside'
        cases houtcome with
        | response hresponse => simpa using hleave ⟨.response hresponse, hscene⟩
        | failure e => simpa using hleave ⟨.failure e, hscene⟩
        | crashed => exact ⟨.crashed, hscene⟩
        | stalled => exact ⟨.stalled, hscene⟩

end Passage

/-- A pipeline `IsIsolating` if its layers are. -/
theorem isIsolating_of_layers {p : Pipeline σ} (hterminal : Terminal.IsIsolating p.terminal)
    (hstages : ∀ stage ∈ p.stages, stage.IsIsolating) :
    p.IsIsolating where
  keeps _ scene :=
    Passage.keepsCursors_run hterminal.keeps (fun stage hstage =>
      (hstages stage hstage).keeps) _ 0 scene
  alike cancelled _ _ h :=
    have hrun :=
      Passage.alike_run hterminal.alike (fun stage hstage => (hstages stage hstage).alike)
        cancelled 0 h
    ⟨hrun.1, hrun.2.client⟩

/-! ### The layers of the gateway -/

/-- `HintRemoval.apply` leaves all other fields. -/
theorem HintRemoval.get?_apply (commandName : String) (d : Document) {key : String}
    (hkey : key ∉ ["hint", "deletes", "updates"]) :
    (apply commandName d).get? key = d.get? key := by
  simp only [List.mem_cons, List.not_mem_nil, or_false, not_or] at hkey
  obtain ⟨hhint, hdeletes, hupdates⟩ := hkey
  -- the lists of statements are replaced under their own keys
  have hstatements (d : Document) {other : String} (hother : key ≠ other) :
      (ofStatements d other).get? key = d.get? key := by
    rw [ofStatements]
    split
    · exact Document.get?_insert_of_ne _ _ _ hother
    · rfl
  have herase : (d.erase "hint").get? key = d.get? key := Document.get?_erase_of_ne _ _ hhint
  unfold apply
  split
  · exact herase
  · exact herase
  · exact herase
  · exact (hstatements _ hdeletes).trans herase
  · exact (hstatements _ hupdates).trans herase
  · rfl

/-- `ReadDefaults.apply` leaves all other fields. -/
theorem ReadDefaults.get?_apply (c : Config) (commandName : String) (d : Document) {key : String}
    (hkey : key ∉ ["readConcern", "maxTimeMS"]) :
    (apply c commandName d).get? key = d.get? key := by
  simp only [List.mem_cons, List.not_mem_nil, or_false, not_or] at hkey
  -- a default is set at its own key alone
  have hdefault (d : Document) {other : String} (hother : key ≠ other) (v? : Option Value) :
      (setDefault d other v?).get? key = d.get? key := by
    cases v? with
    | none => rfl
    | some v =>
      rw [setDefault, setIfUnset]
      split <;> first | rfl | exact Document.get?_insert_of_ne _ _ _ hother
  simp only [apply]
  split
  · rfl
  · rw [hdefault _ hkey.2]
    split
    · exact hdefault _ hkey.1 _
    · rfl

/-- `WriteConcern.apply` leaves all other fields. -/
theorem WriteConcern.get?_apply (c : Config) (commandName : String) (d : Document) {key : String}
    (hkey : key ≠ "writeConcern") :
    (apply c commandName d).get? key = d.get? key := by
  unfold apply
  split
  · rfl
  · split
    · exact Document.get?_insert_of_ne _ _ _ hkey
    · rfl

/-- A stage `IsIsolating` that changes the document, but not which cursors it names, and leaves
answers alone. -/
theorem isIsolating_of_mapDocument {stage : Stage σ} {f : Request → Document → Document}
    (henter : ∀ s, stage.enter s = .pass (s.mapDocument (f s.request)) fun a s => (.answered a, s))
    (hf : ∀ r d, (f r d).get? "getMore" = d.get? "getMore" ∧
      (f r d).get? "cursors" = d.get? "cursors") : stage.IsIsolating where
  keeps s := by
    obtain ⟨hid, hids⟩ := hf s.request s.request.command.document
    rw [henter]
    refine .pass ⟨rfl, ?_, ?_⟩ fun _ u => .refl u
    -- the cursors of a command are read from the two fields that stay
    · simp only [Scene.mapDocument, Command.mapDocument, Command.cursorId?, hid]
    · simp only [Scene.mapDocument, Command.mapDocument, Command.cursorIds,
        Command.listedCursors, hids]
  alike h := by
    rw [henter, henter]
    refine .pass ⟨?_, h.client⟩ id
    simp only [Scene.mapDocument, h.request]

/-- A `BuiltIn` stage `IsIsolating`. -/
theorem BuiltIn.isIsolating {stage : Stage σ} (h : BuiltIn stage) : stage.IsIsolating := by
  cases h with
  | defaults name c =>
    exact isIsolating_of_mapDocument (f := fun r => ReadDefaults.apply c r.commandName)
      (fun _ => rfl) fun r d =>
      ⟨ReadDefaults.get?_apply c _ d (by decide), ReadDefaults.get?_apply c _ d (by decide)⟩
  | noHint name =>
    exact isIsolating_of_mapDocument (f := fun r => HintRemoval.apply r.commandName)
      (fun _ => rfl) fun r d =>
      ⟨HintRemoval.get?_apply _ d (by decide), HintRemoval.get?_apply _ d (by decide)⟩
  | writeConcern name c =>
    exact isIsolating_of_mapDocument (f := fun r => WriteConcern.apply c r.commandName)
      (fun _ => rfl) fun r d =>
      ⟨WriteConcern.get?_apply c _ d (by decide), WriteConcern.get?_apply c _ d (by decide)⟩
  | commandFilter name c =>
    refine ⟨fun s => ?_, fun {s s'} hs => ?_⟩
    · simp only [CommandFilter.stage]
      split
      · exact .stop (.refl s)
      · exact .pass (.refl s) fun _ u => .refl u
    · simp only [CommandFilter.stage, hs.request]
      split
      · exact .stop ⟨.response (.refl _), hs⟩
      · exact .pass hs id
  | @inLimit name limit hlimit =>
    refine ⟨fun s => ?_, fun {s s'} hs => ?_⟩
    · simp only [InLimit.stage]
      split
      · exact .pass (.refl s) fun _ u => .refl u
      · exact .stop (.refl s)
    · simp only [InLimit.stage, Scene.document, hs.request]
      split
      · exact .pass hs id
      · exact .stop ⟨.response (.refl _), hs⟩
  | slowLog name c =>
    refine ⟨fun s => .pass (.refl s) fun a u => ?_, fun {s s'} hs => .pass hs fun {a a' u u'} h =>
      ?_⟩
    · dsimp only
      split <;> exact ⟨rfl, rfl, rfl⟩
    · -- what is logged is the only difference
      refine ⟨h.1, ?_⟩
      dsimp only
      split <;> split <;> exact ⟨h.2.request, h.2.client⟩

/-- `handshake` at different times is alike. -/
theorem ServerInfo.alike_handshake (i : ServerInfo) (now now' : Nat) (requested : List String) :
    (i.handshake now requested).Alike (i.handshake now' requested) := by
  rw [Document.Alike, Document.atEpoch, Document.atEpoch, handshake, handshake, List.map_append,
    List.map_append]
  rfl

/-- `terminal` is isolating, as the time is told in handshakes alone. -/
theorem ServerInfo.isIsolating_terminal (i : ServerInfo) :
    Terminal.IsIsolating (i.terminal : Terminal σ) where
  keeps s := by
    rw [terminal]
    split <;> exact ⟨rfl, rfl, rfl⟩
  alike {s s'} h := by
    simp only [terminal, h.request, h.client]
    split
    · exact ⟨.response (.refl _), h⟩
    · rename_i requested _
      -- a handshake tells the time, and a client does not count that
      exact ⟨.response (i.alike_handshake s.now s'.now requested), h⟩
    · exact ⟨.response (.refl _), h⟩
    · exact ⟨.response (.refl _), h⟩
    · exact ⟨.response (.refl _), h⟩
    · exact ⟨.response (.refl _), h⟩
    · exact ⟨.response (.refl _), h⟩
    · exact ⟨.response (.refl _), rfl, rfl⟩
    · exact ⟨.response (.refl _), h⟩
    · exact ⟨.failure _, h⟩

/-- `terminal` responds with no cursor. -/
theorem ServerInfo.respondedCursor?_of_terminal {i : ServerInfo} {s : Scene σ} {response : Document}
    (h : (i.terminal s).1 = .response response) :
    respondedCursor? response = none := by
  have hnone : response.get? "cursor" = none := by
    rw [terminal] at h
    split at h <;> cases h <;> try rfl
    rw [handshake]
    split <;> rfl
  simp [respondedCursor?, Document.getDocument?, hnone]

end DocGateway
