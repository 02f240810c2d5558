import DocGateway.Pipeline.SelfAnswering
import DocGateway.Proofs.Bson.Fields
import DocGateway.Stages.Registry
import Mathlib.Algebra.Group.Nat.Defs
/-!
# What the gateway's own stages do

A stage that the gateway brings with it either answers a command by itself, or passes it on and
leaves the answer of the layers inside alone. On the way it may change the document, but neither
what the command is nor what there is to refuse about its filters. So the answer to a command can be
told from the command as the client sent it, whatever stages there are, and in whatever order.

## Key results

- `builtIn_of_build`: what the stages are that the gateway makes of settings
- `InLimit.check_noHint`, `InLimit.check_defaults`, `InLimit.check_writeConcern`: no stage changes
  what there is to refuse
- `BuiltIn.enter_cases`: one stage
- `isOwnAnswer_run`: a whole pipeline
-/

namespace DocGateway

open Bson (Document Value)

/-! ### First keys and filters -/

namespace HintRemoval

/-- `ofStatements` leaves the first key. -/
theorem firstKey?_ofStatements {d : Document} {name : String} (h : d.firstKey? = some name)
    (key : String) :
    (ofStatements d key).firstKey? = some name := by
  rw [ofStatements]
  split
  · exact Document.firstKey?_insert_of_some _ _ h
  · exact h

/-- `HintRemoval.apply` leaves the first key, as the hint is not it. -/
theorem firstKey?_apply {name : String} {d : Document} (h : d.firstKey? = some name) :
    (apply name d).firstKey? = some name := by
  unfold apply
  split
  · exact Document.firstKey?_erase_of_some _ h (by decide)
  · exact Document.firstKey?_erase_of_some _ h (by decide)
  · exact Document.firstKey?_erase_of_some _ h (by decide)
  · exact firstKey?_ofStatements (Document.firstKey?_erase_of_some _ h (by decide)) _
  · exact firstKey?_ofStatements (Document.firstKey?_erase_of_some _ h (by decide)) _
  · exact h

end HintRemoval

namespace ReadDefaults

/-- `setDefault` leaves the first key. -/
theorem firstKey?_setDefault {d : Document} {name : String} (h : d.firstKey? = some name)
    (key : String) (v? : Option Value) :
    (setDefault d key v?).firstKey? = some name := by
  cases v? with
  | none => exact h
  | some v =>
    rw [setDefault, setIfUnset]
    split
    · exact Document.firstKey?_insert_of_some _ _ h
    · exact Document.firstKey?_insert_of_some _ _ h
    · exact h

/-- `ReadDefaults.apply` leaves the first key. -/
theorem firstKey?_apply (c : Config) (commandName : String) {d : Document} {name : String}
    (h : d.firstKey? = some name) :
    (apply c commandName d).firstKey? = some name := by
  simp only [apply]
  split
  · exact h
  · split
    · exact firstKey?_setDefault (firstKey?_setDefault h _ _) _ _
    · exact firstKey?_setDefault h _ _

end ReadDefaults

namespace WriteConcern

/-- `WriteConcern.apply` leaves the first key. -/
theorem firstKey?_apply (c : Config) (commandName : String) {d : Document} {name : String}
    (h : d.firstKey? = some name) :
    (apply c commandName d).firstKey? = some name := by
  unfold apply
  split
  · exact h
  · split
    · exact Document.firstKey?_insert_of_some _ _ h
    · exact h

end WriteConcern

namespace InLimit

variable (limit : Nat) (commandName : String) (d : Document)

/-- `check` looks at four keys only. -/
theorem check_congr {d d' : Document} (hfilter : d'.get? "filter" = d.get? "filter")
    (hquery : d'.get? "query" = d.get? "query") (hupdates : d'.get? "updates" = d.get? "updates")
    (hdeletes : d'.get? "deletes" = d.get? "deletes") :
    check limit commandName d' = check limit commandName d := by
  simp only [check, checkField, checkStatements, Document.getDocument?, Document.getArray?, hfilter,
    hquery, hupdates, hdeletes]

/-- `check` does not see a field under another key. -/
theorem check_insert {key : String} (hkey : key ∉ ["filter", "query", "updates", "deletes"])
    (v : Value) :
    check limit commandName (d.insert key v) = check limit commandName d := by
  simp only [List.mem_cons, List.not_mem_nil, or_false, not_or] at hkey
  obtain ⟨hfilter, hquery, hupdates, hdeletes⟩ := hkey
  exact check_congr limit commandName (Document.get?_insert_of_ne _ _ _ (Ne.symm hfilter))
    (Document.get?_insert_of_ne _ _ _ (Ne.symm hquery))
    (Document.get?_insert_of_ne _ _ _ (Ne.symm hupdates))
    (Document.get?_insert_of_ne _ _ _ (Ne.symm hdeletes))

/-- `check` does not see whether there is a hint. -/
theorem check_eraseHint : check limit commandName (d.erase "hint") = check limit commandName d :=
  check_congr limit commandName (Document.get?_erase_of_ne _ _ (by decide))
    (Document.get?_erase_of_ne _ _ (by decide)) (Document.get?_erase_of_ne _ _ (by decide))
    (Document.get?_erase_of_ne _ _ (by decide))

/-- `checkStatements` does not see the hints of statements. -/
theorem checkStatements_ofStatements (key : String) :
    checkStatements limit (HintRemoval.ofStatements d key) key = checkStatements limit d key := by
  rw [HintRemoval.ofStatements]
  split
  · rename_i items hitems
    -- statement by statement, as both lists are gone through together
    simp only [checkStatements, Document.getArray?, Document.get?_insert, ↓reduceIte, hitems,
      Option.getD_some]
    clear hitems
    induction items with
    | nil => rfl
    | cons v items ih =>
      have hfilter (e : Document) : checkField limit (e.erase "hint") "q" =
          checkField limit e "q" := by
        rw [checkField, Document.getDocument?, Document.get?_erase_of_ne e "hint" (by decide)]
        rfl
      rw [List.map_cons, List.forM, List.forM, ih]
      cases v with
      | document e => simp only [HintRemoval.ofStatement, hfilter]
      | _ => rfl
  · rfl

/-- `check` finds the same without hints. -/
theorem check_noHint : check limit commandName (HintRemoval.apply commandName d) =
      check limit commandName d := by
  unfold HintRemoval.apply
  split
  · exact check_eraseHint limit _ d
  · exact check_eraseHint limit _ d
  · exact check_eraseHint limit _ d
  · rw [← check_eraseHint limit _ d]
    simp only [check, checkStatements_ofStatements]
  · rw [← check_eraseHint limit _ d]
    simp only [check, checkStatements_ofStatements]
  · rfl

/-- `check` finds the same with defaults. -/
theorem check_defaults (c : ReadDefaults.Config) :
    check limit commandName (ReadDefaults.apply c commandName d) = check limit commandName d := by
  -- what is checked stands under other keys
  have hdefault {key : String} (hkey : key ∉ ["filter", "query", "updates", "deletes"])
      (d : Document) (v? : Option Value) :
      check limit commandName (ReadDefaults.setDefault d key v?) = check limit commandName d := by
    cases v? with
    | none => rfl
    | some v =>
      rw [ReadDefaults.setDefault, ReadDefaults.setIfUnset]
      split
      · exact check_insert limit commandName d hkey v
      · exact check_insert limit commandName d hkey v
      · rfl
  simp only [ReadDefaults.apply]
  split
  · rfl
  · rw [hdefault (by decide)]
    split
    · exact hdefault (by decide) _ _
    · rfl

/-- `check` finds the same with another write concern. -/
theorem check_writeConcern (c : WriteConcern.Config) :
    check limit commandName (WriteConcern.apply c commandName d) = check limit commandName d := by
  unfold WriteConcern.apply
  split
  · rfl
  · split
    · exact check_insert limit commandName d (by decide) _
    · rfl

end InLimit

/-! ### Stages -/

variable {σ : Type}

/-- The stages that the gateway brings with it. A limit is read from an integer of 64 bits. -/
inductive BuiltIn : Stage σ → Prop
  | defaults (name : String) (c : ReadDefaults.Config) : BuiltIn (ReadDefaults.stage name c)
  | commandFilter (name : String) (c : CommandFilter.Config) : BuiltIn (CommandFilter.stage name c)
  | inLimit (name : String) {limit : Nat} (h : limit < 2 ^ 63) : BuiltIn (InLimit.stage name limit)
  | noHint (name : String) : BuiltIn (HintRemoval.stage name)
  | slowLog (name : String) (c : SlowLog.Config) : BuiltIn (SlowLog.stage name c)
  | writeConcern (name : String) (c : WriteConcern.Config) : BuiltIn (WriteConcern.stage name c)

/-- `kindOf` makes a stage of what it reads in its settings. -/
theorem exists_of_kindOf {α : Type} {name : String} {read : Document → Except ServerError α}
    {make : String → α → Stage σ} {settings : Document} {stage : Stage σ}
    (h : (StageRegistry.kindOf name read make).configure settings = .ok stage) :
    ∃ c, read settings = .ok c ∧ stage = make name c := by
  change (read settings).map (make name) = .ok stage at h
  cases hread : read settings with
  | error e => rw [hread] at h; cases h
  | ok c =>
    rw [hread] at h
    exact ⟨c, rfl, (Except.ok.inj h).symm⟩

/-- `limitOfDocument` is an integer of 64 bits. -/
theorem InLimit.lt_of_limitOfDocument {d : Document} {limit : Nat}
    (h : limitOfDocument d = .ok limit) : limit < 2 ^ 63 := by
  have hfield : Settings.field d "in_limit" 0 Settings.natural? = .ok limit := by
    rw [limitOfDocument] at h
    cases honly : Settings.onlyKeys d ["in_limit"] with
    | error e => rw [honly] at h; cases h
    | ok _ => rw [honly] at h; exact h
  rw [Settings.field] at hfield
  split at hfield
  · cases hfield
    decide
  · rename_i v _
    split at hfield
    · rename_i n hn
      cases hfield
      rw [Settings.natural?] at hn
      obtain ⟨i, -, hn⟩ := Option.bind_eq_some_iff.mp hn
      split at hn
      · cases hn
        -- the number was read from 64 bits with a sign
        have := i.toInt_lt
        omega
      · cases hn
    · cases hfield

/-- `buildOne` makes a stage by the kind of its name. -/
theorem exists_kind_of_buildOne {registry : StageRegistry σ} {name : String} {settings : Document}
    {stage : Stage σ} (h : registry.buildOne name settings = .ok stage) :
    ∃ kind ∈ registry.kinds, kind.name = name ∧ kind.configure settings = .ok stage := by
  rw [StageRegistry.buildOne] at h
  split at h
  · cases h
  · rename_i kind hkind
    rw [StageRegistry.find?] at hkind
    have hname := List.find?_some hkind
    refine ⟨kind, List.mem_of_find?_eq_some hkind, eq_of_beq hname, ?_⟩
    cases hc : kind.configure settings with
    | error e => rw [hc] at h; cases h
    | ok stage' => rw [hc] at h; exact h

/-- `buildOne` of the standard registry makes a stage that is `BuiltIn`. -/
theorem builtIn_of_buildOne {name : String} {settings : Document} {stage : Stage σ}
    (h : StageRegistry.standard.buildOne name settings = .ok stage) : BuiltIn stage := by
  obtain ⟨kind, hmem, -, hconfigure⟩ := exists_kind_of_buildOne h
  simp only [StageRegistry.standard, List.mem_cons, List.not_mem_nil, or_false] at hmem
  -- one case for each kind of stage that can be configured
  obtain rfl | rfl | rfl | rfl | rfl | rfl := hmem
  · obtain ⟨c, -, rfl⟩ := exists_of_kindOf hconfigure
    exact .defaults _ c
  · obtain ⟨c, -, rfl⟩ := exists_of_kindOf hconfigure
    exact .commandFilter _ c
  · obtain ⟨limit, hlimit, rfl⟩ := exists_of_kindOf hconfigure
    exact .inLimit _ (InLimit.lt_of_limitOfDocument hlimit)
  · cases hconfigure
    exact .noHint _
  · obtain ⟨c, -, rfl⟩ := exists_of_kindOf hconfigure
    exact .slowLog _ c
  · obtain ⟨c, -, rfl⟩ := exists_of_kindOf hconfigure
    exact .writeConcern _ c

/-- `build` makes the stages one by one. -/
theorem exists_of_build_cons {registry : StageRegistry σ} {spec : String × Document}
    {specs : List (String × Document)} {stages : List (Stage σ)}
    (h : registry.build (spec :: specs) = .ok stages) :
    ∃ stage rest, registry.buildOne spec.1 spec.2 = .ok stage ∧ registry.build specs = .ok rest ∧
      stages = stage :: rest := by
  simp only [StageRegistry.build, List.mapM_cons] at h ⊢
  -- the first stage is made, and then the others
  cases hone : registry.buildOne spec.1 spec.2 with
  | error e => simp only [hone] at h; cases h
  | ok stage =>
    simp only [hone] at h
    cases hrest : specs.mapM fun x => registry.buildOne x.1 x.2 with
    | error e => simp only [hrest] at h; cases h
    | ok rest =>
      simp only [hrest] at h
      cases h
      exact ⟨stage, rest, rfl, rfl, rfl⟩

/-- `build` of the standard registry makes stages that are `BuiltIn`. -/
theorem builtIn_of_build {specs : List (String × Document)} {stages : List (Stage σ)}
    (h : StageRegistry.standard.build specs = .ok stages) : ∀ stage ∈ stages, BuiltIn stage := by
  induction specs generalizing stages with
  | nil =>
    cases h
    exact fun _ => nofun
  | cons spec specs ih =>
    obtain ⟨stage, rest, hone, hrest, rfl⟩ := exists_of_build_cons h
    exact List.forall_mem_cons.mpr ⟨builtIn_of_buildOne hone, ih hrest⟩

/-! ### Pipelines -/

/-- `ofStage` ends with the outcome of the stage. -/
@[simp] theorem Passage.outcome_ofStage (position : Nat) (name : String) (outcome : Outcome)
    (s : Scene σ) (inside : List LayerEvent) :
    (ofStage position name outcome s inside).outcome = outcome := by
  cases outcome <;> rfl

/-- A scene with a command of a client. Its document may be another one by now, but with the same
first key, and with the same to refuse. -/
structure Scene.Carries (s : Scene σ) (command : Command) (client : Client) : Prop where
  commandName : s.request.commandName = command.name
  kind : s.request.command.kind = command.kind
  firstKey : s.document.firstKey? = some command.name
  check (limit : Nat) : InLimit.check limit command.name s.document =
    InLimit.check limit command.name command.document
  client : s.client = client

/-- What a gateway without a backend makes of a command, whatever stages of its own it has. -/
inductive IsOwnAnswer (σ : Type) (i : ServerInfo) (command : Command) (client : Client) :
    Outcome → Prop
  | cancelled : IsOwnAnswer σ i command client (.failure .cancelled)
  /-- The command is hidden. -/
  | hidden : IsOwnAnswer σ i command client (.response (CommandFilter.denial command.name))
  /-- A filter of the command has too long a list. -/
  | refused {limit : Nat} {e : ServerError} (hlimit : limit < 2 ^ 63)
      (h : InLimit.check limit command.name command.document = .error e) :
      IsOwnAnswer σ i command client (.response e.document)
  /-- The command comes to the innermost layer. -/
  | answered {s : Scene σ} (h : s.Carries command client) :
      IsOwnAnswer σ i command client (i.terminal s).1

variable {s : Scene σ} {command : Command} {client : Client} {i : ServerInfo}

namespace Scene.Carries

/-- `Carries` is kept by `tick`. -/
theorem tick (h : s.Carries command client) : s.tick.Carries command client :=
  ⟨h.commandName, h.kind, h.firstKey, h.check, h.client⟩

/-- `Carries` is kept by a change that leaves the first key and what there is to refuse. -/
theorem mapDocument (h : s.Carries command client) {f : Document → Document}
    (hkey : (f s.document).firstKey? = some command.name)
    (hcheck : ∀ limit, InLimit.check limit command.name (f s.document) =
      InLimit.check limit command.name s.document) :
    (s.mapDocument f).Carries command client :=
  ⟨h.commandName, h.kind, hkey, fun limit => (hcheck limit).trans (h.check limit), h.client⟩

/-- `commandName` is the first key that the document of the command has by now. -/
theorem name (h : s.Carries command client) : s.request.command.name = command.name := by
  have hkey : s.request.command.document.firstKey? = some command.name := h.firstKey
  rw [Command.name, hkey]
  rfl

end Scene.Carries

/-- A `BuiltIn` stage answers by itself, or passes the command on and leaves the answer alone. -/
theorem BuiltIn.enter_cases {stage : Stage σ} (h : BuiltIn stage) (hs : s.Carries command client) :
    (∃ outcome s', stage.enter s = .stop outcome s' ∧ IsOwnAnswer σ i command client outcome) ∨
      ∃ s' leave, stage.enter s = .pass s' leave ∧ s'.Carries command client ∧
      ∀ a t, (leave a t).1 = .answered a := by
  cases h with
  | defaults name c =>
    refine .inr ⟨_, _, rfl,
      hs.mapDocument (ReadDefaults.firstKey?_apply c _ hs.firstKey) fun limit => ?_, fun _ _ => rfl⟩
    rw [hs.commandName, InLimit.check_defaults]
  -- two of the stages may answer by themselves: this one, and the one that limits lists
  | commandFilter name c =>
    by_cases hhidden : c.hidden.contains s.request.commandName
    · refine .inl ⟨_, s, if_pos hhidden, ?_⟩
      rw [hs.commandName]
      exact .hidden
    · exact .inr ⟨s, _, if_neg hhidden, hs, fun _ _ => rfl⟩
  | @inLimit name limit hlimit =>
    cases hcheck : InLimit.check limit s.request.commandName s.document with
    | ok _ => exact .inr ⟨s, _, by simp [InLimit.stage, hcheck]; rfl, hs, fun _ _ => rfl⟩
    | error e =>
      refine .inl ⟨_, s, by simp [InLimit.stage, hcheck]; rfl, .refused hlimit ?_⟩
      rw [← hs.check, ← hs.commandName, hcheck]
  | noHint name =>
    refine .inr ⟨_, _, rfl, hs.mapDocument ?_ fun limit => ?_, fun _ _ => rfl⟩
    · rw [hs.commandName]
      exact HintRemoval.firstKey?_apply hs.firstKey
    · rw [hs.commandName, InLimit.check_noHint]
  | slowLog name c => exact .inr ⟨s, _, rfl, hs, fun _ _ => rfl⟩
  | writeConcern name c =>
    refine .inr ⟨_, _, rfl,
      hs.mapDocument (WriteConcern.firstKey?_apply c _ hs.firstKey) fun limit => ?_, fun _ _ => rfl⟩
    rw [hs.commandName, InLimit.check_writeConcern]

/-- `run` through `BuiltIn` stages ends with what `IsOwnAnswer` tells from the command. -/
theorem isOwnAnswer_run (cancelled : Cancellation) {stages : List (Stage σ)}
    (hstages : ∀ stage ∈ stages, BuiltIn stage) (position : Nat) (hs : s.Carries command client) :
    IsOwnAnswer σ i command client
      (Passage.run i.terminal cancelled position stages s).outcome := by
  -- by induction on the stages, each of which passes on a scene that carries the command
  induction stages generalizing position s with
  | nil =>
    rw [Passage.run]
    split
    · exact .cancelled
    · exact .answered hs.tick
  | cons stage rest ih =>
    rw [Passage.run]
    split
    · exact .cancelled
    · obtain ⟨outcome, s', henter, howned⟩ | ⟨s', leave, henter, hs', hleave⟩ :=
        (hstages stage List.mem_cons_self).enter_cases (i := i) hs.tick
      · simp only [henter, Passage.outcome_ofStage]
        exact howned
      · have hinside :=
          ih (fun stage hmem => hstages stage (List.mem_cons_of_mem _ hmem)) (position + 1) hs'
        simp only [henter]
        split
        · rename_i a hout
          rw [hout] at hinside
          simp only [Passage.outcome_ofStage, hleave]
          exact hinside
        · simp only [Passage.outcome_ofStage]
          exact hinside

end DocGateway
