import DocGateway.Command.Registry
import DocGateway.Proofs.Stages.Order
import Mathlib.Data.String.Basic
/-!
# The two spellings of `findAndModify`

Clients may write `findAndModify` or `findandmodify`: both are registered, and both are passed
through. The stages that limit, complete or correct commands know the first spelling only. So under
the second one a command gets by all of them as it is, whatever they have to say to the first.

## Key results

- `StageChoice.passesAsIs_lowercase`: no such stage refuses or changes a command in the second
  spelling
- `get?_of_passAll`: what such stages leave in the field that one of them is for
- `samePolicy_iff`: the spellings get the same policy if and only if no stage has anything to say
- `not_samePolicy_limited`: a command that is refused in one spelling and passed on in the other
-/

namespace DocGateway

open Bson (Document Value)

/-- The kinds of stages that set a policy for `findAndModify` commands, with any settings. -/
inductive StageChoice.SetsPolicy : StageChoice → Prop
  | inLimit (limit : Nat) : SetsPolicy (.inLimit limit)
  | defaults (c : ReadDefaults.Config) : SetsPolicy (.defaults c)
  | writeConcern (c : WriteConcern.Config) : SetsPolicy (.writeConcern c)

/-- The other spelling of a `findAndModify` command. -/
def lowercased : Document → Document
  | [] => []
  | (_, v) :: rest => ("findandmodify", v) :: rest

/-- A scene with another command. -/
def Scene.carrying {σ : Type} (s : Scene σ) (c : Command) : Scene σ :=
  { s with request := .ofCommand c }

/-- A pipeline does the same with two requests, where the second is in the other spelling: it
refuses both, in the same way, or passes both on, and then their documents are in the two spellings
again. -/
structure Pipeline.SamePolicy {σ : Type} (p : Pipeline σ) (scene twin : Scene σ) : Prop where
  refused : .terminal ∈ (p.run (fun _ => false) scene).events ↔
    .terminal ∈ (p.run (fun _ => false) twin).events
  outcome (h : .terminal ∉ (p.run (fun _ => false) scene).events) :
    (p.run (fun _ => false) scene).outcome = (p.run (fun _ => false) twin).outcome
  passed {s t : Scene σ} (hs : p.Receives (fun _ => false) scene s)
    (ht : p.Receives (fun _ => false) twin t) :
    t.document = lowercased s.document

/-! ### Spellings -/

/-- `lowercased` loses nothing but the first key. -/
theorem lowercased_injOn {d e : Document} (h : d.firstKey? = e.firstKey?)
    (heq : lowercased d = lowercased e) : d = e := by
  cases d with
  | nil =>
    cases e with
    | nil => rfl
    | cons g e => cases heq
  | cons f d =>
    cases e with
    | nil => cases heq
    | cons g e =>
      obtain ⟨k, v⟩ := f
      obtain ⟨k', v'⟩ := g
      -- the first keys are the same, and all that is left is their values and the other fields
      cases h
      simp only [lowercased, List.cons.injEq, Prod.mk.injEq, true_and] at heq
      rw [heq.1, heq.2]

/-- `lowercased` has the second spelling as its first key. -/
theorem firstKey?_lowercased {d : Document} {name : String} (h : d.firstKey? = some name) :
    (lowercased d).firstKey? = some "findandmodify" := by
  cases d with
  | nil => cases h
  | cons f rest => rfl

/-- `parse` passes both spellings through. -/
theorem parse_passthrough {d : Document} {name : String} (hkey : d.firstKey? = some name)
    (hname : name ∈ ["findAndModify", "findandmodify"]) :
    CommandRegistry.standard.parse d = .ok ⟨.passthrough name, d⟩ := by
  have hregistered : ∀ name ∈ ["findAndModify", "findandmodify"],
      CommandRegistry.standard.contains name = true := by decide
  have hkind : ∀ name ∈ ["findAndModify", "findandmodify"],
      Command.kindOf name d = .ok (.passthrough name) := by
    intro name hname
    simp only [List.mem_cons, List.not_mem_nil, or_false] at hname
    obtain rfl | rfl := hname <;> rfl
  simp only [CommandRegistry.parse, hkey, hregistered name hname, if_true, Command.parse,
    hkind name hname]
  rfl

/-! ### One stage -/

namespace StageChoice

/-- A stage passes a command of some name on as it is. -/
structure PassesAsIs (commandName : String) (d : Document) (x : StageChoice) : Prop where
  allows : x.allows commandName d = true
  edit : x.edit commandName d = d

/-- A stage that `SetsPolicy` passes a command in the second spelling on as it is. -/
theorem SetsPolicy.passesAsIs_lowercase {x : StageChoice} (hx : x.SetsPolicy) (d : Document) :
    x.PassesAsIs "findandmodify" d := by
  cases hx with
  | defaults c => exact ⟨rfl, rfl⟩
  | inLimit limit =>
    -- the limit knows the other spelling alone
    have hcheck : InLimit.check limit "findandmodify" d = .ok () := by
      unfold InLimit.check
      split <;> rfl
    exact ⟨by rw [StageChoice.allows, hcheck]; rfl, rfl⟩
  | writeConcern c =>
    have hnone : c.replaced? "findandmodify" (d.get? "writeConcern") = none := by
      unfold WriteConcern.Config.replaced?
      split
      · rename_i concern _
        cases Document.getString? concern "w" with
        | none => rfl
        | some w => rfl
      · rfl
    exact ⟨rfl, by rw [StageChoice.edit, WriteConcern.apply_eq, d.setBy_of_none hnone]⟩

/-- The field of a `findAndModify` command that a stage is for. -/
def field : StageChoice → String
  | defaults _ => "maxTimeMS"
  | writeConcern _ => "writeConcern"
  | _ => ""

/-- What a stage puts there. -/
def change : StageChoice → Option Value → Option Value
  | defaults c => ReadDefaults.filled? (c.maxTimeMs.map Value.int64)
  | writeConcern c => c.replaced? "findAndModify"
  | _ => fun _ => none

variable {x y : StageChoice} {d : Document}

/-- `edit` by a stage that `SetsPolicy` is `setBy` of its field. -/
theorem SetsPolicy.edit_eq (hx : x.SetsPolicy) (d : Document) :
    x.edit "findAndModify" d = d.setBy x.field x.change := by
  cases hx with
  | defaults c => exact ReadDefaults.setDefault_eq d "maxTimeMS" _
  | writeConcern c => exact WriteConcern.apply_eq c _ d
  | inLimit limit => rfl

/-- Stages that `SetsPolicy` and have the same field are of the same kind. -/
theorem SetsPolicy.name_eq (hx : x.SetsPolicy) (hy : y.SetsPolicy) (h : x.field = y.field) :
    x.name = y.name := by
  -- stages of two kinds set different fields
  cases hx with
  | inLimit limit =>
    cases hy with
    | inLimit limit' => rfl
    | defaults c | writeConcern c => simp [field] at h
  | defaults c =>
    cases hy with
    | defaults c' => rfl
    | inLimit limit | writeConcern c' => simp [field] at h
  | writeConcern c =>
    cases hy with
    | writeConcern c' => rfl
    | inLimit limit | defaults c' => simp [field] at h

/-- `edit` leaves the document if what it would put into its field is there already. -/
theorem SetsPolicy.edit_eq_self_iff (hx : x.SetsPolicy) :
    x.edit "findAndModify" d = d ↔ ∀ v, x.change (d.get? x.field) = some v →
      d.get? x.field = some v := by
  rw [hx.edit_eq]
  constructor
  · intro h v hv
    -- looking the field up in both documents gives the value that was there
    have hget : (d.setBy x.field x.change).get? x.field =
        (x.change (d.get? x.field)).or (d.get? x.field) := d.get?_setBy_self
    rw [h, hv] at hget
    exact hget
  · intro h
    cases hv : x.change (d.get? x.field) with
    | none => rw [d.setBy_of_none hv]
    | some v => rw [d.setBy_of_some hv, Document.insert_of_get? (h v hv)]

/-- `edit` leaves the first key. -/
theorem SetsPolicy.firstKey?_edit (hx : x.SetsPolicy) (commandName : String) {name : String}
    (h : d.firstKey? = some name) :
    (x.edit commandName d).firstKey? = some name := by
  cases hx with
  | defaults c => exact ReadDefaults.firstKey?_apply c commandName h
  | writeConcern c => exact WriteConcern.firstKey?_apply c commandName h
  | inLimit limit => exact h

/-- A stage has nothing to say to a `findAndModify` command: its filter is within the limit, its
time limit is set or there is none to set, and its write concern is not one that is named and
replaced. -/
def IsSilent (d : Document) : StageChoice → Prop
  | inLimit limit => InLimit.check limit "findAndModify" d = .ok ()
  | defaults c => c.maxTimeMs = none ∨ ∃ v, d.get? "maxTimeMS" = some v ∧ v ≠ .null
  | writeConcern c =>
    ∀ (concern : Document) (w : String) (v : Value),
      d.get? "writeConcern" = some (.document concern) → concern.get? "w" = some (.string w) →
        c.forWrites.get? w = some v → v = .string w
  | _ => True

/-- A limit `IsSilent` if it finds nothing to refuse. -/
theorem isSilent_inLimit_iff {limit : Nat} :
    (inLimit limit).IsSilent d ↔ (inLimit limit).PassesAsIs "findAndModify" d := by
  have hallows : (inLimit limit).allows "findAndModify" d =
      (InLimit.check limit "findAndModify" d).isOk := rfl
  constructor
  · intro h
    refine ⟨?_, rfl⟩
    rw [hallows, (h : InLimit.check limit "findAndModify" d = .ok ())]
    rfl
  · rintro ⟨h, -⟩
    rw [hallows] at h
    change InLimit.check limit "findAndModify" d = .ok ()
    -- a check that allows the command has succeeded
    cases hcheck : InLimit.check limit "findAndModify" d with
    | ok _ => rfl
    | error e =>
      rw [hcheck] at h
      cases h

/-- Defaults are silent if there is nothing to fill in, or something is set. -/
theorem isSilent_defaults_iff {c : ReadDefaults.Config} :
    (defaults c).IsSilent d ↔ (defaults c).PassesAsIs "findAndModify" d := by
  have hedit := (SetsPolicy.defaults c).edit_eq_self_iff (d := d)
  constructor
  · intro h
    refine ⟨rfl, hedit.mpr fun v hv => ?_⟩
    obtain hnone | ⟨w, hw, hne⟩ := h
    · simp only [field, change, hnone, Option.map_none] at hv
      unfold ReadDefaults.filled? at hv
      split at hv <;> cases hv
    · simp only [field, change, hw] at hv
      cases w with
      | null => exact absurd rfl hne
      | _ => cases hv
  · rintro ⟨-, h⟩
    have hset := hedit.mp h
    simp only [field, change] at hset
    cases htime : c.maxTimeMs with
    | none => exact .inl htime
    | some n =>
      rw [htime] at hset
      -- a default would be put in, so what it is put in for is set
      cases hget : d.get? "maxTimeMS" with
      | none =>
        have hsame := hset (.int64 n) (by rw [hget]; rfl)
        rw [hget] at hsame
        cases hsame
      | some old =>
        refine .inr ⟨old, hget, ?_⟩
        rintro rfl
        have hsame := hset (.int64 n) (by rw [hget]; rfl)
        rw [hget] at hsame
        cases hsame

/-- A write concern is left alone if it is not replaced, or by the same name. -/
theorem isSilent_writeConcern_iff {c : WriteConcern.Config} :
    (writeConcern c).IsSilent d ↔ (writeConcern c).PassesAsIs "findAndModify" d := by
  have hedit := (SetsPolicy.writeConcern c).edit_eq_self_iff (d := d)
  have hchange (concern : Document) : c.replaced? "findAndModify" (some (.document concern)) =
      ((concern.getString? "w").bind c.forWrites.get?).map fun v =>
        .document (concern.insert "w" v) := by
    simp only [WriteConcern.Config.replaced?]
    rfl
  constructor
  · intro h
    refine ⟨rfl, hedit.mpr fun v hv => ?_⟩
    simp only [field, change] at hv ⊢
    cases hget : d.get? "writeConcern" with
    | none =>
      rw [hget] at hv
      cases hv
    | some old =>
      rw [hget] at hv
      cases old with
      | document concern =>
        rw [hchange, Option.map_eq_some_iff] at hv
        obtain ⟨w', hv, rfl⟩ := hv
        obtain ⟨w, hw, hreplacement⟩ := Option.bind_eq_some_iff.mp hv
        rw [Document.getString?_eq_some_iff] at hw
        -- what takes the place of the name is the name
        rw [h concern w w' hget hw hreplacement, Document.insert_of_get? hw]
      | _ => cases hv
  · rintro ⟨-, h⟩ concern w v hget hw hv
    have hset := hedit.mp h (.document (concern.insert "w" v))
    simp only [field, change, hget, hchange] at hset
    have hsame :=
      hset (by rw [Document.getString?_eq_some_iff.mpr hw, Option.bind_some, hv, Option.map_some])
    have hconcern : concern = concern.insert "w" v := Value.document.inj (Option.some.inj hsame)
    rw [hconcern, Document.get?_insert, if_pos rfl] at hw
    exact Option.some.inj hw

/-- A stage that `SetsPolicy` is silent exactly if it passes the command on as it is. -/
theorem SetsPolicy.isSilent_iff (hx : x.SetsPolicy) :
    x.IsSilent d ↔ x.PassesAsIs "findAndModify" d := by
  cases hx with
  | inLimit limit => exact isSilent_inLimit_iff
  | defaults c => exact isSilent_defaults_iff
  | writeConcern c => exact isSilent_writeConcern_iff

end StageChoice

/-! ### All stages -/

variable {σ : Type} {xs : List StageChoice} {s s' : Scene σ}

/-- `passAll` hands on what all stages allow as the client sent it. -/
theorem allows_of_passAll (h : passAll (xs.map StageChoice.stage) (some s) = some s') :
    ∀ x ∈ xs, x.allows s.request.commandName s.document = true := by
  induction xs generalizing s with
  | nil => nofun
  | cons x xs ih =>
    obtain ⟨hallowed, hinside⟩ := passAll_map_cons.mp h
    refine List.forall_mem_cons.mpr ⟨hallowed, fun y hy => ?_⟩
    have hafter := ih hinside y hy
    rwa [← y.allows_edit s.request.commandName x s.document]

/-- `passAll` of stages that each pass the command on as it is hands it on as it is. -/
theorem passAll_of_passesAsIs (h : ∀ x ∈ xs, x.PassesAsIs s.request.commandName s.document) :
    ∃ s', passAll (xs.map StageChoice.stage) (some s) = some s' ∧ s'.document = s.document := by
  induction xs generalizing s with
  | nil => exact ⟨s, rfl, rfl⟩
  | cons x xs ih =>
    obtain ⟨hx, hrest⟩ := List.forall_mem_cons.mp h
    have hdocument : (s.mapDocument (x.edit s.request.commandName)).tick.document = s.document :=
      hx.edit
    obtain ⟨s', hall, hs'⟩ :=
      ih (s := (s.mapDocument (x.edit s.request.commandName)).tick) (hdocument ▸ hrest)
    exact ⟨s', passAll_map_cons.mpr ⟨hx.allows, hall⟩, hs'.trans hdocument⟩

/-- `passAll` of a stage that `SetsPolicy` and those inside: the stage sets its field, and the
others go on. -/
theorem exists_of_passAll_cons {x : StageChoice} (hx : x.SetsPolicy)
    (hname : s.request.commandName = "findAndModify")
    (h : passAll ((x :: xs).map StageChoice.stage) (some s) = some s') :
    ∃ t : Scene σ, passAll (xs.map StageChoice.stage) (some t) = some s' ∧
      t.request.commandName = "findAndModify" ∧
      t.document = s.document.setBy x.field x.change := by
  refine ⟨_, (passAll_map_cons.mp h).2, hname, ?_⟩
  rw [← hx.edit_eq, ← hname]
  rfl

/-- `passAll` leaves the fields that no stage is for. -/
theorem get?_of_passAll_of_ne (hpolicy : ∀ x ∈ xs, x.SetsPolicy)
    (hname : s.request.commandName = "findAndModify")
    (h : passAll (xs.map StageChoice.stage) (some s) = some s') {key : String}
    (hkey : ∀ x ∈ xs, key ≠ x.field) :
    s'.document.get? key = s.document.get? key := by
  -- by induction on the stages; none of them writes under the key
  induction xs generalizing s with
  | nil =>
    cases h
    rfl
  | cons x xs ih =>
    obtain ⟨hx, hpolicy⟩ := List.forall_mem_cons.mp hpolicy
    obtain ⟨hne, hkey⟩ := List.forall_mem_cons.mp hkey
    obtain ⟨t, hall, htname, htdocument⟩ := exists_of_passAll_cons hx hname h
    rw [ih hpolicy htname hall hkey, htdocument, Document.get?_setBy_of_ne _ hne]

/-- `passAll` leaves in the field of a stage what that stage has put there, whatever the others
do. -/
theorem get?_of_passAll (hpolicy : ∀ x ∈ xs, x.SetsPolicy) (honce : (xs.map (·.name)).Nodup)
    (hname : s.request.commandName = "findAndModify")
    (h : passAll (xs.map StageChoice.stage) (some s) = some s') :
    ∀ x ∈ xs, s'.document.get? x.field = (x.change (s.document.get? x.field)).or
      (s.document.get? x.field) := by
  -- by induction on the stages: those of other kinds leave the field
  induction xs generalizing s with
  | nil => nofun
  | cons y xs ih =>
    obtain ⟨hy, hpolicy⟩ := List.forall_mem_cons.mp hpolicy
    rw [List.map_cons, List.nodup_cons] at honce
    obtain ⟨hnew, honce⟩ := honce
    obtain ⟨t, hall, htname, htdocument⟩ := exists_of_passAll_cons hy hname h
    -- stages of other kinds have other fields
    have hfield : ∀ x ∈ xs, y.field ≠ x.field := by
      intro x hx heq
      exact hnew (hy.name_eq (hpolicy x hx) heq ▸ List.mem_map_of_mem hx)
    refine List.forall_mem_cons.mpr ⟨?_, fun x hx => ?_⟩
    · rw [get?_of_passAll_of_ne hpolicy htname hall hfield, htdocument, Document.get?_setBy_self]
    · rw [ih hpolicy honce htname hall x hx, htdocument,
        Document.get?_setBy_of_ne _ (hfield x hx).symm]

/-- `passAll` leaves the first key. -/
theorem firstKey?_of_passAll (hpolicy : ∀ x ∈ xs, x.SetsPolicy) {name : String}
    (hkey : s.document.firstKey? = some name)
    (h : passAll (xs.map StageChoice.stage) (some s) = some s') :
    s'.document.firstKey? = some name := by
  -- by induction on the stages; each keeps the first key
  induction xs generalizing s with
  | nil =>
    cases h
    exact hkey
  | cons x xs ih =>
    obtain ⟨hx, hpolicy⟩ := List.forall_mem_cons.mp hpolicy
    have hedited : (s.mapDocument (x.edit s.request.commandName)).tick.document.firstKey? =
        some name :=
      hx.firstKey?_edit s.request.commandName hkey
    exact ih hpolicy hedited (passAll_map_cons.mp h).2

/-- `passAll` that leaves a command as it is consists of stages that each pass it on as it is. -/
theorem passesAsIs_of_passAll (hpolicy : ∀ x ∈ xs, x.SetsPolicy) (honce : (xs.map (·.name)).Nodup)
    (hname : s.request.commandName = "findAndModify")
    (h : passAll (xs.map StageChoice.stage) (some s) = some s') (hsame : s'.document = s.document) :
    ∀ x ∈ xs, x.PassesAsIs "findAndModify" s.document := by
  intro x hx
  have hallows := allows_of_passAll h x hx
  have hget := get?_of_passAll hpolicy honce hname h x hx
  rw [hname] at hallows
  refine ⟨hallows, (hpolicy x hx).edit_eq_self_iff.mpr fun v hv => ?_⟩
  rw [hsame, hv] at hget
  exact hget

/-! ### Both spellings -/

/-- A pipeline of stages that set a policy (`SetsPolicy`) passes a command in the second spelling on
as it is, whatever it would do with it in the first. So the two spellings get the `SamePolicy` if
and only if all stages are `IsSilent`: the filter is within the limit, the time limit is set where
there is a default, and no named write concern is replaced by anything else. -/
theorem samePolicy_iff (hpolicy : ∀ x ∈ xs, x.SetsPolicy) (honce : (xs.map (·.name)).Nodup)
    {d : Document} (hkey : d.firstKey? = some "findAndModify") (terminal : Terminal σ)
    (scene : Scene σ) :
    let p : Pipeline σ := ⟨xs.map StageChoice.stage, terminal⟩
    let command : Command := ⟨.passthrough "findAndModify", d⟩
    let twin : Command := ⟨.passthrough "findandmodify", lowercased d⟩
    CommandRegistry.standard.parse d = .ok command ∧
      CommandRegistry.standard.parse (lowercased d) = .ok twin ∧
      (∃ t, p.Receives (fun _ => false) (scene.carrying twin) t ∧ t.document = lowercased d) ∧
      (p.SamePolicy (scene.carrying command) (scene.carrying twin) ↔ ∀ x ∈ xs, x.IsSilent d) := by
  intro p command twin
  have hkeyTwin := firstKey?_lowercased hkey
  have hname : (scene.carrying command).request.commandName = "findAndModify" := by
    change d.firstKey?.getD "" = _
    rw [hkey]
    rfl
  have hnameTwin : (scene.carrying twin).request.commandName = "findandmodify" := by
    change (lowercased d).firstKey?.getD "" = _
    rw [hkeyTwin]
    rfl
  -- what is passed on is handed to the innermost layer, as nothing is cancelled
  have hreceives {scene s : Scene σ} (h : passAll p.stages (some scene) = some s) :
      p.Receives (fun _ => false) scene s.tick :=
    Pipeline.receives_iff.mpr ⟨fun _ _ => rfl, s, h, rfl⟩
  -- nor is there anything that a stage would do with the second spelling
  obtain ⟨t, htwin, htdocument⟩ : ∃ t, passAll p.stages (some (scene.carrying twin)) = some t ∧
      t.document = lowercased d :=
    passAll_of_passesAsIs fun x hx => hnameTwin ▸ (hpolicy x hx).passesAsIs_lowercase _
  refine ⟨parse_passthrough hkey (by decide), parse_passthrough hkeyTwin (by decide),
    ⟨t.tick, hreceives htwin, htdocument⟩, ?_⟩
  constructor
  · intro h x hx
    -- the second spelling is passed on, so the first one is
    have hreached := h.refused.mpr (Pipeline.terminal_mem_run_iff.mpr ⟨_, hreceives htwin⟩)
    obtain ⟨s, hs⟩ := Pipeline.terminal_mem_run_iff.mp hreached
    have hpassed := h.passed hs (hreceives htwin)
    obtain ⟨-, outside, hall, rfl⟩ := Pipeline.receives_iff.mp hs
    have hkeySent : (scene.carrying command).document.firstKey? = some "findAndModify" := hkey
    have hkeyPassed := firstKey?_of_passAll hpolicy hkeySent hall
    have hsame : outside.document = d :=
      lowercased_injOn (hkeyPassed.trans hkey.symm) (hpassed.symm.trans htdocument)
    exact (hpolicy x hx).isSilent_iff.mpr
      (passesAsIs_of_passAll hpolicy honce hname hall hsame x hx)
  · intro h
    obtain ⟨s, hall, hdocument⟩ : ∃ s, passAll p.stages (some (scene.carrying command)) = some s ∧
        s.document = d :=
      passAll_of_passesAsIs fun x hx => hname ▸ (hpolicy x hx).isSilent_iff.mp (h x hx)
    have hreached := Pipeline.terminal_mem_run_iff.mpr ⟨_, hreceives hall⟩
    have hreachedTwin := Pipeline.terminal_mem_run_iff.mpr ⟨_, hreceives htwin⟩
    refine ⟨iff_of_true hreached hreachedTwin, fun hrefused => absurd hreached hrefused,
      fun {s' t'} hs' ht' => ?_⟩
    obtain ⟨-, outside, hall', rfl⟩ := Pipeline.receives_iff.mp hs'
    obtain ⟨-, outside', htwin', rfl⟩ := Pipeline.receives_iff.mp ht'
    obtain rfl := Option.some.inj (hall.symm.trans hall')
    obtain rfl := Option.some.inj (htwin.symm.trans htwin')
    change t.document = lowercased s.document
    rw [htdocument, hdocument]

/-- A layer that always answers. -/
def answering : Terminal Unit := fun s => (.response [("ok", .int32 1)], s)

/-- A `findAndModify` command with a list of members, and a time limit of its own. -/
def modifyIn (members : List Value) : Document :=
  [("findAndModify", .string "c"),
    ("query", .document [("a", .document [("$in", .array members)])]), ("maxTimeMS", .int32 10),
    ("$db", .string "db")]

/-- `check` of `modifyIn` with a limit of one. -/
theorem check_modifyIn (members : List Value) :
    InLimit.check 1 "findAndModify" (modifyIn members) =
      if 1 < members.length then .error (InLimit.tooLong "$in" members.length 1) else .ok () := by
  have hcheck : InLimit.check 1 "findAndModify" (modifyIn members) =
      InLimit.checkField 1 (modifyIn members) "query" := rfl
  have hquery : (modifyIn members).getDocument? "query" =
      some [("a", .document [("$in", .array members)])] := rfl
  rw [hcheck, InLimit.checkField, hquery]
  simp only [InLimit.checkFilter, InLimit.checkPredicate, InLimit.operators, List.contains_cons,
    beq_self_eq_true, Bool.true_or, if_true]
  split <;> rfl

/-- A command within the limit, with a time limit of its own, gets the `SamePolicy` in both
spellings. -/
theorem samePolicy_iff_nothingToDo :
    let xs : List StageChoice := [.inLimit 1, .defaults ⟨none, some 5000⟩]
    let d := modifyIn [.int32 1]
    (∀ x ∈ xs, x.SetsPolicy) ∧ (xs.map (·.name)).Nodup ∧ d.firstKey? = some "findAndModify" ∧
      (⟨xs.map StageChoice.stage, answering⟩ : Pipeline Unit).SamePolicy
        (Pipeline.firstScene.carrying ⟨.passthrough "findAndModify", d⟩)
        (Pipeline.firstScene.carrying ⟨.passthrough "findandmodify", lowercased d⟩) := by
  intro xs d
  have hpolicy : ∀ x ∈ xs, x.SetsPolicy :=
    List.forall_mem_cons.mpr ⟨.inLimit 1, List.forall_mem_singleton.mpr (.defaults _)⟩
  have honce : (xs.map (·.name)).Nodup := by decide
  -- one member is within the limit, and the time limit is set
  have hsilent : ∀ x ∈ xs, x.IsSilent d :=
    List.forall_mem_cons.mpr ⟨check_modifyIn [.int32 1],
      List.forall_mem_singleton.mpr (.inr ⟨.int32 10, rfl, nofun⟩)⟩
  obtain ⟨-, -, -, hsame⟩ := samePolicy_iff hpolicy honce (d := d) rfl answering Pipeline.firstScene
  exact ⟨hpolicy, honce, rfl, hsame.mpr hsilent⟩

/-- A list that is too long is refused in `findAndModify`, and passed on in `findandmodify`. -/
theorem not_samePolicy_limited :
    let p : Pipeline Unit := ⟨[(StageChoice.inLimit 1).stage], answering⟩
    let d := modifyIn [.int32 1, .int32 2]
    let scene := Pipeline.firstScene.carrying ⟨.passthrough "findAndModify", d⟩
    let twin := Pipeline.firstScene.carrying ⟨.passthrough "findandmodify", lowercased d⟩
    (p.run (fun _ => false) scene).outcome = .response (InLimit.tooLong "$in" 2 1).document ∧
      .terminal ∈ (p.run (fun _ => false) twin).events ∧ ¬p.SamePolicy scene twin := by
  intro p d scene twin
  have hcheck : InLimit.check 1 scene.tick.request.commandName scene.tick.document =
      .error (InLimit.tooLong "$in" 2 1) :=
    check_modifyIn [.int32 1, .int32 2]
  have hstops : ((StageChoice.inLimit 1).stage : Stage Unit).enter scene.tick =
      .stop (.response (InLimit.tooLong "$in" 2 1).document) scene.tick := by
    simp only [StageChoice.stage, InLimit.stage, hcheck]
  have hrun : p.run (fun _ => false) scene = p.layer (fun _ => false) 0 scene := rfl
  have hlayer : p.layer (fun _ => false) 0 scene =
      ⟨.response (InLimit.tooLong "$in" 2 1).document, scene.tick,
      .entered 0 :: LayerEvent.exits 0 "inlimit"
        (.response (InLimit.tooLong "$in" 2 1).document)⟩ :=
    Pipeline.layer_of_stop rfl rfl hstops
  have hrefused : .terminal ∉ (p.run (fun _ => false) scene).events := by
    rw [hrun, hlayer]
    decide
  -- in the other spelling the same list comes through
  have hpassed : .terminal ∈ (p.run (fun _ => false) twin).events := by decide +kernel
  exact ⟨by rw [hrun, hlayer], hpassed, fun hsame => hrefused (hsame.refused.mpr hpassed)⟩

end DocGateway
