import DocGateway.Proofs.Pipeline.Onion
import DocGateway.Proofs.Stages.Edits
import Mathlib.Data.List.TakeDrop
/-!
# The order of stages

A request comes to the innermost layer if every stage passes it on, each in the scene that the
stages outside have made of it. For stages that the gateway brings with it, and no two of one kind,
neither depends on their order. So what is behind a pipeline of such stages cannot tell in which
order they are configured.

## Key results

- `Pipeline.calls_iff`, `Pipeline.receives_iff`: what the innermost layer is handed, as a fold over
  the stages
- `passAll_perm`: the fold does not depend on the order
- `receives_iff_of_perm`: the same for runs, and how the document may differ from that of the client
-/

namespace DocGateway

open Bson (Document)

variable {σ : Type}

/-- The scene in which a request is handed on by some stages, if all of them pass it on. -/
def passAll (stages : List (Stage σ)) (s? : Option (Scene σ)) : Option (Scene σ) :=
  stages.foldl (fun s? stage => s?.bind fun s => stage.onward s.tick) s?

/-- `passAll` hands on no request that was stopped. -/
theorem passAll_none (stages : List (Stage σ)) : passAll stages none = none := by
  induction stages with
  | nil => rfl
  | cons stage stages ih => exact ih

/-- `passAll` begins with the outermost stage. -/
theorem passAll_cons (stage : Stage σ) (stages : List (Stage σ)) (s : Scene σ) :
    passAll (stage :: stages) (some s) = passAll stages (stage.onward s.tick) := rfl

/-- `passAll` goes on with the stages further in. -/
theorem passAll_append (stages more : List (Stage σ)) (s? : Option (Scene σ)) :
    passAll (stages ++ more) s? = passAll more (passAll stages s?) := List.foldl_append

/-- `onward` is the scene in which a stage passes the request on. -/
theorem Stage.onward_eq_some_iff {stage : Stage σ} {s s' : Scene σ} :
    stage.onward s = some s' ↔ ∃ leave, stage.enter s = .pass s' leave := by
  unfold onward
  split <;> simp_all

/-! ### What the innermost layer is handed -/

namespace Pipeline

variable (p : Pipeline σ) (cancelled : Cancellation) (scene : Scene σ)

/-- The innermost layer works on a request in this scene: it was handed the request by the stages,
and the request is not cancelled by then. -/
def Receives (s : Scene σ) : Prop :=
  cancelled p.stages.length = false ∧ ∃ outside, p.Calls cancelled scene p.stages.length outside ∧
    s = outside.tick

variable {p cancelled scene}

/-- `Calls` hands a request to a layer if it is not cancelled at any layer outside, and `passAll`
hands it on. -/
theorem calls_iff {k : Nat} (hk : k ≤ p.stages.length) {s : Scene σ} :
    p.Calls cancelled scene k s ↔ (∀ j < k, cancelled j = false) ∧
      passAll (p.stages.take k) (some scene) = some s := by
  induction k generalizing s with
  | zero =>
    constructor
    · rintro ⟨⟩
      exact ⟨nofun, rfl⟩
    · rintro ⟨-, hs⟩
      cases hs
      exact .outermost
  | succ k ih =>
    -- what the stage at `k` was handed, and what it has passed on
    have hlt : k < p.stages.length := hk
    have htake : p.stages.take (k + 1) = p.stages.take k ++ [p.stages[k]] :=
      (List.take_concat_get' p.stages k hlt).symm
    rw [htake, passAll_append]
    constructor
    · intro h
      obtain ⟨outside, stage, leave, called, alive, found, passes⟩ := h.outside
      obtain ⟨halive, hall⟩ := (ih (Nat.le_of_lt hlt)).mp called
      obtain rfl : p.stages[k] = stage :=
        Option.some.inj ((List.getElem?_eq_getElem hlt).symm.trans found)
      refine ⟨fun j hj => ?_, ?_⟩
      · obtain hj | rfl := Nat.lt_or_eq_of_le (Nat.le_of_lt_succ hj)
        · exact halive j hj
        · exact alive
      · rw [hall]
        exact Stage.onward_eq_some_iff.mpr ⟨leave, passes⟩
    · rintro ⟨halive, hall⟩
      cases houtside : passAll (p.stages.take k) (some scene) with
      | none =>
        rw [houtside, passAll_none] at hall
        cases hall
      | some outside =>
        rw [houtside] at hall
        obtain ⟨leave, passes⟩ := Stage.onward_eq_some_iff.mp hall
        have called :=
          (ih (Nat.le_of_lt hlt)).mpr ⟨fun j hj => halive j (Nat.lt_succ_of_lt hj), houtside⟩
        exact .next called (halive k (Nat.lt_succ_self k)) (List.getElem?_eq_getElem hlt) passes

/-- `Receives` holds of the scene that `passAll` hands on, if the request is not cancelled. -/
theorem receives_iff {s : Scene σ} :
    p.Receives cancelled scene s ↔
      (∀ j ≤ p.stages.length, cancelled j = false) ∧ ∃ outside,
        passAll p.stages (some scene) = some outside ∧ s = outside.tick := by
  simp only [Receives, calls_iff (Nat.le_refl _), List.take_length]
  constructor
  · rintro ⟨alive, outside, ⟨halive, hall⟩, hs⟩
    -- the innermost layer is not cancelled either
    refine ⟨fun j hj => ?_, outside, hall, hs⟩
    obtain hj | rfl := Nat.lt_or_eq_of_le hj
    · exact halive j hj
    · exact alive
  · rintro ⟨halive, outside, hall, hs⟩
    exact ⟨halive _ (Nat.le_refl _), outside, ⟨fun j hj => halive j (Nat.le_of_lt hj), hall⟩, hs⟩

/-- `run` comes to the innermost layer if that `Receives` the request. -/
theorem terminal_mem_run_iff :
    .terminal ∈ (p.run cancelled scene).events ↔ ∃ s, p.Receives cancelled scene s := by
  rw [(isOnion_run p cancelled scene).terminal_iff, Comes]
  constructor
  · rintro ⟨alive, outside, called⟩
    exact ⟨outside.tick, alive, outside, called, rfl⟩
  · rintro ⟨s, alive, outside, called, -⟩
    exact ⟨alive, outside, called⟩

end Pipeline

/-! ### The order does not matter -/

/-- `mapDocument` depends on what is made of the document alone. -/
theorem Scene.mapDocument_congr {s : Scene σ} {f g : Document → Document}
    (h : f s.document = g s.document) :
    s.mapDocument f = s.mapDocument g := by
  have hcommand : s.request.command.mapDocument f = s.request.command.mapDocument g :=
    congrArg (Command.mk _) h
  rw [mapDocument, hcommand, ← mapDocument]

/-- `onward` by two stages is decided by both as the client sent the command, and edits the document
twice. -/
theorem StageChoice.onward_onward (x y : StageChoice) (s : Scene σ) :
    ((x.stage.onward s).bind fun s => y.stage.onward s.tick) =
      if x.allows s.request.commandName s.document && y.allows s.request.commandName s.document then
        some (s.mapDocument (y.edit s.request.commandName ∘ x.edit s.request.commandName)).tick
      else none := by
  -- what the first stage changes makes no difference to whether the second refuses
  have hy := y.allows_edit s.request.commandName x s.document
  rw [onward_stage]
  cases x.allows s.request.commandName s.document with
  | false => simp
  | true =>
    simp only [if_true, Option.bind_some, Bool.true_and]
    rw [onward_stage]
    change (if y.allows s.request.commandName (x.edit s.request.commandName s.document) then _
      else _) = _
    rw [hy]
    rfl

/-- `onward` by two stages of different kinds does not depend on which comes first. -/
theorem StageChoice.onward_comm {x y : StageChoice} (hname : x.name ≠ y.name) (s : Scene σ) :
    ((x.stage.onward s).bind fun s => y.stage.onward s.tick) = (y.stage.onward s).bind fun s =>
      x.stage.onward s.tick := by
  have hedit : s.mapDocument (y.edit s.request.commandName ∘ x.edit s.request.commandName) =
      s.mapDocument (x.edit s.request.commandName ∘ y.edit s.request.commandName) :=
    Scene.mapDocument_congr (StageChoice.edit_comm s.request.commandName hname s.document).symm
  rw [onward_onward, onward_onward, Bool.and_comm, hedit]

/-- `passAll` of stages of which no two are of one kind does not depend on their order. -/
theorem passAll_perm {stages stages' : List (Stage σ)} (hperm : stages'.Perm stages)
    (hchoice : ∀ stage ∈ stages, ∃ x : StageChoice, stage = x.stage)
    (honce : (stages.map (·.name)).Nodup) (s? : Option (Scene σ)) :
    passAll stages' s? = passAll stages s? := by
  refine (hperm.symm.foldl_eq' (fun stage hstage stage' hstage' s? => ?_) s?).symm
  by_cases hname : stage.name = stage'.name
  · -- the same kind, so the same stage
    rw [List.inj_on_of_nodup_map honce hstage hstage' hname]
  · obtain ⟨x, rfl⟩ := hchoice stage hstage
    obtain ⟨y, rfl⟩ := hchoice stage' hstage'
    rw [StageChoice.name_stage, StageChoice.name_stage] at hname
    cases s? with
    | none => rfl
    | some s => exact StageChoice.onward_comm hname s.tick

/-- `passAll` of a stage and those inside is decided by `allows`, and goes on with what `edit` makes
of the document. -/
theorem passAll_map_cons {x : StageChoice} {xs : List StageChoice} {s s' : Scene σ} :
    passAll ((x :: xs).map StageChoice.stage) (some s) = some s' ↔
      x.allows s.request.commandName s.document = true ∧
        passAll (xs.map StageChoice.stage)
          (some (s.mapDocument (x.edit s.request.commandName)).tick) = some s' := by
  rw [List.map_cons, passAll_cons, StageChoice.onward_stage]
  change passAll _ (if x.allows s.request.commandName s.document then _ else _) = _ ↔ _
  cases x.allows s.request.commandName s.document with
  | false => simp [passAll_none]
  | true =>
    simp only [if_true, true_and]
    rfl

/-- `passAll` leaves a document `Rewritten`, whatever the stages are. -/
theorem rewritten_passAll {xs : List StageChoice} {s s' : Scene σ}
    (h : passAll (xs.map StageChoice.stage) (some s) = some s') :
    Rewritten s.document s'.document := by
  induction xs generalizing s with
  | nil =>
    cases h
    exact .refl _
  | cons x xs ih =>
    exact (x.rewritten_edit s.request.commandName s.document).trans (ih (passAll_map_cons.mp h).2)

/-- Stages that `StageRegistry.build` makes of settings, no two of one kind, can be put in any order
around any layer: whether a request comes to that layer is the same, and so is the scene that it
`Receives`. The document of its command is that of the client, `Rewritten`: hints are removed, and
there are defaults where the client has set nothing and the value of a named write concern. All else
is as it was, and where it was. -/
theorem receives_iff_of_perm {specs : List (String × Document)} {stages stages' : List (Stage σ)}
    (hbuild : StageRegistry.standard.build specs = .ok stages) (honce : (specs.map (·.1)).Nodup)
    (hperm : stages'.Perm stages) (terminal : Terminal σ) (cancelled : Cancellation)
    (scene : Scene σ) :
    let p : Pipeline σ := ⟨stages, terminal⟩
    let p' : Pipeline σ := ⟨stages', terminal⟩
    (.terminal ∈ (p'.run cancelled scene).events ↔ .terminal ∈ (p.run cancelled scene).events) ∧
      (.terminal ∈ (p.run cancelled scene).events ↔ ∃ s, p.Receives cancelled scene s) ∧
      ∀ s, (p'.Receives cancelled scene s ↔ p.Receives cancelled scene s) ∧
        (p.Receives cancelled scene s → Rewritten scene.document s.document) := by
  intro p p'
  obtain ⟨xs, hnames, rfl⟩ := StageChoice.exists_of_build hbuild
  have hchoice : ∀ stage ∈ xs.map (StageChoice.stage (σ := σ)), ∃ x : StageChoice,
      stage = x.stage := by
    intro stage hstage
    obtain ⟨x, -, rfl⟩ := List.mem_map.mp hstage
    exact ⟨x, rfl⟩
  have hnodup : ((xs.map (StageChoice.stage (σ := σ))).map (·.name)).Nodup := by
    have hname : (fun stage : Stage σ => stage.name) ∘ StageChoice.stage = StageChoice.name :=
      funext StageChoice.name_stage
    rwa [List.map_map, hname, hnames]
  -- what the innermost layer receives is what all stages pass, and that does not depend on their
  -- order
  have hsame (s : Scene σ) : p'.Receives cancelled scene s ↔ p.Receives cancelled scene s := by
    rw [Pipeline.receives_iff, Pipeline.receives_iff, passAll_perm hperm hchoice hnodup,
      hperm.length_eq]
  refine ⟨?_, Pipeline.terminal_mem_run_iff, fun s => ⟨hsame s, fun hreceives => ?_⟩⟩
  · rw [Pipeline.terminal_mem_run_iff, Pipeline.terminal_mem_run_iff]
    simp only [hsame]
  · obtain ⟨-, outside, hall, rfl⟩ := Pipeline.receives_iff.mp hreceives
    have hrewritten : Rewritten scene.document outside.document := rewritten_passAll hall
    exact hrewritten

/-- A `find` command with a hint comes through the removal of hints and the defaults, as it does
through the defaults and the removal of hints. -/
theorem receives_iff_of_perm_reversed :
    let specs : List (String × Document) :=
      [("nohint", []), ("defaults", [("default_max_time_ms", .int64 5000)])]
    let stages : List (Stage Unit) :=
      [StageChoice.noHint.stage, (StageChoice.defaults ⟨none, some 5000⟩).stage]
    let terminal : Terminal Unit := fun s => (.response s.document, s)
    let hinted : Document := [("find", .string "c"), ("hint", .int32 1), ("$db", .string "db")]
    let scene := { Pipeline.firstScene with request := Request.ofCommand ⟨.find, hinted⟩ }
    StageRegistry.standard.build specs = .ok stages ∧ (specs.map (·.1)).Nodup ∧
      stages.reverse.Perm stages ∧
      .terminal ∈
        ((⟨stages.reverse, terminal⟩ : Pipeline Unit).run (fun _ => false) scene).events := by
  intro specs stages terminal hinted scene
  have hbuild : StageRegistry.standard.build specs = .ok stages := rfl
  have honce : (specs.map (·.1)).Nodup := by decide
  have hperm : stages.reverse.Perm stages := List.reverse_perm stages
  obtain ⟨hsame, -, -⟩ := receives_iff_of_perm hbuild honce hperm terminal (fun _ => false) scene
  exact ⟨hbuild, honce, hperm, hsame.mpr (by decide +kernel)⟩

end DocGateway
