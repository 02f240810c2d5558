import DocGateway.Proofs.Stages.BuiltIn
import Mathlib.Data.List.Forall2
import Mathlib.Data.List.Nodup
import Mathlib.Data.String.Basic
import Mathlib.Logic.Function.Conjugate
/-!
# What stages make of documents

On the way in, a stage that the gateway brings with it does two things: it may refuse a command, and
it may change the document. Both depend on nothing but the name of the command and its document.
Changes are made field by field. Each kind of stage has fields of its own, and only fields that no
other stage changes are ever added, so the changes of stages of different kinds can be made in
either order.

## Key results

- `Document.setBy_comm`, `Document.erase_setBy`: changes of different fields can change places
- `Rewritten`, `Rewritten.trans`: how a document may come to differ from that of the client, after
  any number of changes
- `StageChoice.onward_stage`: what a stage does, as a choice of its kind and settings
- `StageChoice.allows_edit`, `StageChoice.edit_comm`, `StageChoice.rewritten_edit`: what stages are
  to each other, and to the document
-/

namespace DocGateway

open Bson (Document Value)

/-! ### Changes of one field -/

namespace Bson.Document

/-- Puts a value under a key if what stands there calls for one. -/
def setBy (d : Document) (key : String) (f : Option Value → Option Value) : Document :=
  match f (d.get? key) with
  | some v => d.insert key v
  | none => d

variable (d : Document) {key other : String} {f : Option Value → Option Value}

/-- `setBy` leaves the document if nothing is called for. -/
theorem setBy_of_none (h : f (d.get? key) = none) : d.setBy key f = d := by
  simp only [setBy, h]

/-- `setBy` inserts the value that is called for. -/
theorem setBy_of_some {v : Value} (h : f (d.get? key) = some v) :
    d.setBy key f = d.insert key v := by
  simp only [setBy, h]

/-- Under its own key `setBy` has the value that is called for, or else what was there. -/
theorem get?_setBy_self : (d.setBy key f).get? key = (f (d.get? key)).or (d.get? key) := by
  cases h : f (d.get? key) with
  | none =>
    rw [d.setBy_of_none h]
    rfl
  | some v =>
    rw [d.setBy_of_some h, get?_insert, if_pos rfl]
    rfl

/-- Under any other key `setBy` has what was there. -/
theorem get?_setBy_of_ne (h : other ≠ key) : (d.setBy key f).get? other = d.get? other := by
  cases hf : f (d.get? key) with
  | none => rw [d.setBy_of_none hf]
  | some v => rw [d.setBy_of_some hf, get?_insert_of_ne _ _ _ h]

variable {d} in
/-- A key is there if `get?` finds a value. -/
theorem mem_keys_of_get? {v : Value} (h : d.get? key = some v) : key ∈ d.map (·.1) :=
  List.mem_map_of_mem (mem_of_get? h)

variable {d} in
/-- A key is not there if `get?` finds none. -/
theorem not_mem_keys_of_get? (h : d.get? key = none) : key ∉ d.map (·.1) := by
  intro hmem
  obtain ⟨f, hf, rfl⟩ := List.mem_map.mp hmem
  simpa using List.lookup_eq_none_iff.mp h f hf

/-- `setBy` of two keys can be done in either order, if one of the two adds nothing. -/
theorem setBy_comm (hne : key ≠ other) (hf : f none = none) (g : Option Value → Option Value) :
    (d.setBy key f).setBy other g = (d.setBy other g).setBy key f := by
  have hkey : (d.setBy other g).get? key = d.get? key := d.get?_setBy_of_ne hne
  have hother : (d.setBy key f).get? other = d.get? other := d.get?_setBy_of_ne hne.symm
  cases hv : f (d.get? key) with
  | none => rw [d.setBy_of_none hv, setBy_of_none (d.setBy other g) (by rw [hkey, hv])]
  | some v =>
    rw [setBy_of_some (d.setBy other g) (by rw [hkey, hv])]
    cases hw : g (d.get? other) with
    | none => rw [setBy_of_none _ (by rw [hother, hw]), d.setBy_of_some hv, d.setBy_of_none hw]
    | some w =>
      -- the first field is there, so it does not matter for the place of the other one
      have hpresent : key ∈ d.map (·.1) := by
        cases hget : d.get? key with
        | none =>
          rw [hget, hf] at hv
          cases hv
        | some old => exact mem_keys_of_get? hget
      rw [setBy_of_some _ (by rw [hother, hw]), d.setBy_of_some hv, d.setBy_of_some hw,
        insert_comm v hne hpresent]

/-- `erase` can be done before or after `setBy` of another key. -/
theorem erase_setBy (hne : key ≠ other) :
    (d.setBy key f).erase other = (d.erase other).setBy key f := by
  have hkey : (d.erase other).get? key = d.get? key := get?_erase_of_ne d other hne
  cases hv : f (d.get? key) with
  | none => rw [d.setBy_of_none hv, setBy_of_none _ (by rw [hkey, hv])]
  | some v => rw [d.setBy_of_some hv, setBy_of_some _ (by rw [hkey, hv]), erase_insert _ _ _ hne]

variable {d} in
/-- `insert` of what is there changes nothing. -/
theorem insert_of_get? {v : Value} (h : d.get? key = some v) : d.insert key v = d := by
  induction d with
  | nil => cases h
  | cons f rest ih =>
    obtain ⟨k, w⟩ := f
    rw [get?_cons] at h
    -- the field is the first one, or further in
    by_cases hk : key = k
    · subst hk
      rw [if_pos rfl, Option.some.injEq] at h
      obtain rfl : w = v := h
      simp [insert]
    · rw [if_neg hk] at h
      simp [insert, Ne.symm hk, ih h]

/-- `insert` of two values under one key leaves the last one. -/
theorem insert_insert_self (v w : Value) : (d.insert key v).insert key w = d.insert key w := by
  induction d with
  | nil => simp [insert]
  | cons f rest ih =>
    by_cases hk : f.1 = key
    · simp [insert, hk]
    · simp [insert, hk, ih]

end Bson.Document

/-! ### Changes by stages -/

/-- Statements lose their hints. -/
def HintRemoval.stripped? : Option Value → Option Value
  | some (.array items) => some (.array (items.map ofStatement))
  | _ => none

/-- `ofStatements` is `setBy` with `stripped?`. -/
theorem HintRemoval.ofStatements_eq (d : Document) (key : String) :
    ofStatements d key = d.setBy key stripped? := by
  rw [ofStatements, Document.setBy]
  -- only an array of statements has hints to remove
  split
  · rename_i items hitems
    rw [hitems]
    rfl
  · rename_i hnone
    have hstripped : stripped? (d.get? key) = none := by
      unfold stripped?
      split
      · exact absurd ‹_› (hnone _)
      · rfl
    rw [hstripped]

/-- What is absent or null is filled in. -/
def ReadDefaults.filled? (v? : Option Value) : Option Value → Option Value
  | none | some .null => v?
  | some _ => none

/-- `setDefault` is `setBy` with `filled?`. -/
theorem ReadDefaults.setDefault_eq (d : Document) (key : String) (v? : Option Value) :
    setDefault d key v? = d.setBy key (filled? v?) := by
  rw [Document.setBy]
  cases v? with
  | none =>
    rw [setDefault]
    cases hget : d.get? key with
    | none => rfl
    | some old => cases old <;> rfl
  | some v =>
    rw [setDefault, setIfUnset]
    cases hget : d.get? key with
    | none => rfl
    | some old => cases old <;> rfl

/-- A named write concern is replaced. -/
def WriteConcern.Config.replaced? (c : Config) (commandName : String) : Option Value → Option Value
  | some (.document concern) =>
    ((Document.getString? concern "w").bind (c.replacement? commandName)).map fun v =>
      .document (Document.insert concern "w" v)
  | _ => none

/-- `apply` is `setBy` with `replaced?`. -/
theorem WriteConcern.apply_eq (c : Config) (commandName : String) (d : Document) :
    apply c commandName d = d.setBy "writeConcern" (c.replaced? commandName) := by
  rw [apply, Document.setBy, Document.getDocument?]
  cases hget : d.get? "writeConcern" with
  | none => rfl
  | some old =>
    cases old with
    | document concern =>
      simp only [Config.replaced?]
      cases (Document.getString? concern "w").bind (c.replacement? commandName) with
      | none => rfl
      | some v => rfl
    | _ => rfl

/-! ### How documents differ -/

/-- The keys that defaults are for. -/
def defaultedKeys : List String := ["readConcern", "maxTimeMS"]

/-- A document without its hint. -/
def withoutHint (d : Document) : Document := d.filter (·.1 != "hint")

/-- What becomes of a statement: documents may lose their hints. -/
inductive StatementChange : Value → Value → Prop
  | kept (v : Value) : StatementChange v v
  | stripped (d : Document) : StatementChange (.document d) (.document (withoutHint d))

/-- What becomes of a field. -/
inductive FieldChange : String × Value → String × Value → Prop
  | kept (f : String × Value) : FieldChange f f
  /-- A default takes the place of null. -/
  | filled {key : String} (hkey : key ∈ defaultedKeys) (v : Value) :
      FieldChange (key, .null) (key, v)
  /-- A named write concern has another value. -/
  | replaced {concern : Document} {w : String} (hw : concern.get? "w" = some (.string w))
      (v : Value) :
      FieldChange ("writeConcern", .document concern)
        ("writeConcern", .document (concern.insert "w" v))
  /-- Statements lose their hints. -/
  | stripped {key : String} {items items' : List Value} (hkey : key ∈ ["deletes", "updates"])
      (h : items.Forall₂ StatementChange items') :
      FieldChange (key, .array items) (key, .array items')

/-- How a document may differ from that of the client: its hint may be removed, fields may be
changed where they stand, and defaults may come last that the client has not set. -/
def Rewritten (d d' : Document) : Prop :=
  ∃ base kept added, (base = d ∨ base = withoutHint d) ∧ base.Forall₂ FieldChange kept ∧
    (added.map (·.1)).Nodup ∧
    (∀ f ∈ added, f.1 ∈ defaultedKeys ∧ f.1 ∉ d.map (·.1)) ∧ d' = kept ++ added

/-- `withoutHint` a second time changes nothing. -/
theorem withoutHint_withoutHint (d : Document) : withoutHint (withoutHint d) = withoutHint d := by
  rw [withoutHint, withoutHint, List.filter_filter]
  simp

/-- `StatementChange` is transitive: two changes of a statement are one. -/
theorem StatementChange.trans {a b c : Value} (h : StatementChange a b) (h' : StatementChange b c) :
    StatementChange a c := by
  cases h with
  | kept => exact h'
  | stripped d =>
    cases h' with
    | kept => exact .stripped d
    | stripped =>
      rw [withoutHint_withoutHint]
      exact .stripped d

/-- Two changes of statements are one. -/
theorem forall₂_statementChange_trans {as bs cs : List Value} (h : as.Forall₂ StatementChange bs)
    (h' : bs.Forall₂ StatementChange cs) :
    as.Forall₂ StatementChange cs := by
  induction h generalizing cs with
  | nil => exact h'
  | cons hab hrest ih =>
    cases h' with
    | cons hbc hrest' => exact .cons (hab.trans hbc) (ih hrest')

namespace FieldChange

variable {f g h : String × Value}

/-- `FieldChange` keeps the key of the field. -/
theorem key_eq (hfg : FieldChange f g) : g.1 = f.1 := by
  cases hfg <;> rfl

/-- `FieldChange` is transitive: two changes of a field are one. -/
theorem trans (hfg : FieldChange f g) (hgh : FieldChange g h) : FieldChange f h := by
  cases hfg with
  | kept => exact hgh
  | filled hkey v =>
    -- what was filled in is under a key of its own, where nothing else is done
    cases hgh with
    | kept => exact .filled hkey v
    | filled _ v' => exact .filled hkey v'
    | replaced => exact absurd hkey (by decide)
    | stripped hkey' => exact .filled hkey _
  | replaced hw v =>
    cases hgh with
    | kept => exact .replaced hw v
    | replaced _ v' =>
      rw [Document.insert_insert_self]
      exact .replaced hw v'
  | stripped hkey hitems =>
    cases hgh with
    | kept => exact .stripped hkey hitems
    | stripped _ hitems' => exact .stripped hkey (forall₂_statementChange_trans hitems hitems')

end FieldChange

/-- `FieldChange` of all fields keeps them in their places. -/
theorem keys_of_forall₂ {d e : Document} (h : d.Forall₂ FieldChange e) :
    e.map (·.1) = d.map (·.1) := by
  induction h with
  | nil => rfl
  | cons hf _ ih => rw [List.map_cons, List.map_cons, hf.key_eq, ih]

/-- Fields may all be kept. -/
theorem forall₂_fieldChange_refl (d : Document) : d.Forall₂ FieldChange d :=
  List.forall₂_same.mpr fun f _ => .kept f

/-- Two changes of fields are one. -/
theorem forall₂_fieldChange_trans {d e e' : Document} (h : d.Forall₂ FieldChange e)
    (h' : e.Forall₂ FieldChange e') :
    d.Forall₂ FieldChange e' := by
  induction h generalizing e' with
  | nil => exact h'
  | cons hf hrest ih =>
    cases h' with
    | cons hf' hrest' => exact .cons (hf.trans hf') (ih hrest')

/-- Fields that are changed stay so without the hint. -/
theorem forall₂_withoutHint {d e : Document} (h : d.Forall₂ FieldChange e) :
    (withoutHint d).Forall₂ FieldChange (withoutHint e) :=
  List.rel_filter (fun f g hfg => by simp only [hfg.key_eq]) h

/-- `insert` changes a field where it stands. -/
theorem forall₂_insert {d : Document} {key : String} {old v : Value} (hget : d.get? key = some old)
    (hchange : FieldChange (key, old) (key, v)) : d.Forall₂ FieldChange (d.insert key v) := by
  induction d with
  | nil => cases hget
  | cons f rest ih =>
    obtain ⟨k, w⟩ := f
    rw [Document.get?_cons] at hget
    rw [Document.insert]
    -- the changed field is the first one, or further in
    by_cases hk : key = k
    · subst hk
      rw [if_pos rfl, Option.some.injEq] at hget
      subst hget
      rw [if_pos (beq_self_eq_true key)]
      exact .cons hchange (forall₂_fieldChange_refl rest)
    · rw [if_neg hk] at hget
      rw [if_neg (by simpa using Ne.symm hk)]
      exact .cons (.kept _) (ih hget)

namespace Rewritten

/-- A document is `Rewritten` if nothing is done. -/
theorem refl (d : Document) : Rewritten d d :=
  ⟨d, d, [], .inl rfl, forall₂_fieldChange_refl d, List.nodup_nil, nofun, (List.append_nil d).symm⟩

/-- A document is `Rewritten` without its hint. -/
theorem erase (d : Document) : Rewritten d (d.erase "hint") :=
  ⟨withoutHint d, withoutHint d, [], .inr rfl, forall₂_fieldChange_refl _, List.nodup_nil, nofun,
    (List.append_nil _).symm⟩

/-- A document is `Rewritten` by `setBy` as far as its value allows it, or if a default is added. -/
theorem setBy (d : Document) {key : String} {f : Option Value → Option Value}
    (hpresent : ∀ old v, f (some old) = some v → FieldChange (key, old) (key, v))
    (habsent : ∀ v, f none = some v → key ∈ defaultedKeys) : Rewritten d (d.setBy key f) := by
  cases hv : f (d.get? key) with
  | none =>
    rw [d.setBy_of_none hv]
    exact refl d
  | some v =>
    rw [d.setBy_of_some hv]
    cases hget : d.get? key with
    | none =>
      -- the key is new, so the field is a default behind all others
      rw [hget] at hv
      have hnew : key ∉ d.map (·.1) := Document.not_mem_keys_of_get? hget
      refine ⟨d, d, [(key, v)], .inl rfl, forall₂_fieldChange_refl d, List.nodup_singleton _, ?_,
        Document.insert_of_not_mem v hnew⟩
      intro f hf
      rw [List.mem_singleton] at hf
      subst hf
      exact ⟨habsent v hv, hnew⟩
    | some old =>
      rw [hget] at hv
      exact ⟨d, _, [], .inl rfl, forall₂_insert hget (hpresent old v hv), List.nodup_nil, nofun,
        (List.append_nil _).symm⟩

/-- `Rewritten` is transitive: a document that is rewritten twice is rewritten. -/
theorem trans {d d' d'' : Document} (h : Rewritten d d') (h' : Rewritten d' d'') :
    Rewritten d d'' := by
  obtain ⟨base, kept, added, hbase, hkept, hnodup, hadded, rfl⟩ := h
  obtain ⟨base', kept', added', hbase', hkept', hnodup', hadded', rfl⟩ := h'
  -- no hint is among what was added, so the second base is what is left of the first, and what was
  -- added
  have hsame : withoutHint added = added := by
    refine List.filter_eq_self.mpr fun f hf => bne_iff_ne.mpr fun hhint => ?_
    exact absurd (hhint ▸ (hadded f hf).1) (by decide)
  obtain ⟨base₁, kept₁, hbase₁, hkept₁, rfl⟩ :
      ∃ base₁ kept₁, (base₁ = d ∨ base₁ = withoutHint d) ∧ base₁.Forall₂ FieldChange kept₁ ∧
      base' = kept₁ ++ added := by
    obtain rfl | rfl := hbase'
    · exact ⟨base, kept, hbase, hkept, rfl⟩
    · refine ⟨withoutHint base, withoutHint kept, ?_, forall₂_withoutHint hkept, ?_⟩
      · obtain rfl | rfl := hbase
        · exact .inr rfl
        · exact .inr (withoutHint_withoutHint d)
      · rw [withoutHint, List.filter_append]
        exact congrArg _ hsame
  obtain ⟨kept₂, added₂, hkept₂, hadded₂, rfl⟩ :
      ∃ kept₂ added₂, kept₁.Forall₂ FieldChange kept₂ ∧ added.Forall₂ FieldChange added₂ ∧
      kept' = kept₂ ++ added₂ := by
    refine ⟨kept'.take kept₁.length, kept'.drop kept₁.length, ?_, ?_,
      (List.take_append_drop _ _).symm⟩
    · exact (List.forall₂_take_append _ _ _ hkept'.flip).flip
    · exact (List.forall₂_drop_append _ _ _ hkept'.flip).flip
  have hkeys : added₂.map (·.1) = added.map (·.1) := keys_of_forall₂ hadded₂
  -- a key of the client that defaults are for is still there after the first changes
  have hstays {key : String} (hkey : key ∈ defaultedKeys) (hmem : key ∈ d.map (·.1)) :
      key ∈ kept.map (·.1) := by
    rw [keys_of_forall₂ hkept]
    obtain rfl | rfl := hbase
    · exact hmem
    · obtain ⟨f, hf, rfl⟩ := List.mem_map.mp hmem
      refine List.mem_map_of_mem (List.mem_filter.mpr ⟨hf, bne_iff_ne.mpr fun hhint => ?_⟩)
      exact absurd (hhint ▸ hkey) (by decide)
  refine ⟨base₁, kept₂, added₂ ++ added', hbase₁, forall₂_fieldChange_trans hkept₁ hkept₂, ?_,
    fun f hf => ?_, List.append_assoc _ _ _⟩
  · rw [List.map_append, hkeys, List.nodup_append]
    refine ⟨hnodup, hnodup', fun key hkey key' hkey' heq => ?_⟩
    obtain ⟨f, hf, rfl⟩ := List.mem_map.mp hkey'
    refine (hadded' f hf).2 ?_
    rw [List.map_append]
    exact List.mem_append_right _ (heq ▸ hkey)
  · obtain hf | hf := List.mem_append.mp hf
    · have hkey : f.1 ∈ added.map (·.1) := hkeys ▸ List.mem_map_of_mem hf
      obtain ⟨g, hg, hgkey⟩ := List.mem_map.mp hkey
      exact hgkey ▸ hadded g hg
    · obtain ⟨hdefaulted, hnew⟩ := hadded' f hf
      refine ⟨hdefaulted, fun hmem => hnew ?_⟩
      rw [List.map_append]
      exact List.mem_append_left _ (hstays hdefaulted hmem)

end Rewritten

/-! ### Stages by kind and settings -/

/-- The scene in which a stage passes a request on to the layer inside, if it does. -/
def Stage.onward {σ : Type} (stage : Stage σ) (s : Scene σ) : Option (Scene σ) :=
  match stage.enter s with
  | .stop _ _ => none
  | .pass s _ => some s

/-- A kind of stage that the gateway brings with it, with its settings. -/
inductive StageChoice where
  | defaults (c : ReadDefaults.Config)
  | commandFilter (c : CommandFilter.Config)
  | inLimit (limit : Nat)
  | noHint
  | slowLog (c : SlowLog.Config)
  | writeConcern (c : WriteConcern.Config)

namespace StageChoice

/-- The name of the kind. -/
def name : StageChoice → String
  | defaults _ => "defaults"
  | commandFilter _ => "filtercommand"
  | inLimit _ => "inlimit"
  | noHint => "nohint"
  | slowLog _ => "slowlog"
  | writeConcern _ => "writeconcernoverride"

/-- The stage of this kind and with these settings. -/
def stage {σ : Type} : StageChoice → Stage σ
  | defaults c => ReadDefaults.stage "defaults" c
  | commandFilter c => CommandFilter.stage "filtercommand" c
  | inLimit limit => InLimit.stage "inlimit" limit
  | noHint => HintRemoval.stage "nohint"
  | slowLog c => SlowLog.stage "slowlog" c
  | writeConcern c => WriteConcern.stage "writeconcernoverride" c

/-- Whether a command is passed on. -/
def allows (commandName : String) (d : Document) : StageChoice → Bool
  | commandFilter c => !c.hidden.contains commandName
  | inLimit limit => (InLimit.check limit commandName d).isOk
  | _ => true

/-- What is made of the document of a command. -/
def edit (commandName : String) : StageChoice → Document → Document
  | defaults c => ReadDefaults.apply c commandName
  | noHint => HintRemoval.apply commandName
  | writeConcern c => WriteConcern.apply c commandName
  | _ => id

variable {σ : Type}

/-- The `stage` of a choice has the name of the choice. -/
@[simp] theorem name_stage (x : StageChoice) : (x.stage : Stage σ).name = x.name := by
  cases x <;> rfl

/-- `onward` is decided by `allows`, and passes on what `edit` makes of the document. -/
theorem onward_stage (x : StageChoice) (s : Scene σ) :
    x.stage.onward s =
      if x.allows s.request.commandName s.document then
        some (s.mapDocument (x.edit s.request.commandName)) else none := by
  -- only two stages refuse commands, and the four others let everything pass
  cases x with
  | commandFilter c =>
    simp only [stage, Stage.onward, CommandFilter.stage, allows, Bool.not_eq_true']
    cases c.hidden.contains s.request.commandName <;> rfl
  | inLimit limit =>
    cases hcheck : InLimit.check limit s.request.commandName s.document with
    | ok _ =>
      simp [stage, Stage.onward, InLimit.stage, allows, hcheck, Except.isOk, Except.toBool]; rfl
    | error e =>
      simp [stage, Stage.onward, InLimit.stage, allows, hcheck, Except.isOk, Except.toBool]
  | defaults c | noHint | slowLog c | writeConcern c => rfl

/-- `buildOne` makes the stage of a choice with its name. -/
theorem exists_of_buildOne {name : String} {settings : Document} {stage : Stage σ}
    (h : StageRegistry.standard.buildOne name settings = .ok stage) :
    ∃ x : StageChoice, x.name = name ∧ stage = x.stage := by
  obtain ⟨kind, hmem, rfl, hconfigure⟩ := exists_kind_of_buildOne h
  simp only [StageRegistry.standard, List.mem_cons, List.not_mem_nil, or_false] at hmem
  -- one case for each kind that is registered
  obtain rfl | rfl | rfl | rfl | rfl | rfl := hmem
  · obtain ⟨c, -, rfl⟩ := exists_of_kindOf hconfigure
    exact ⟨.defaults c, rfl, rfl⟩
  · obtain ⟨c, -, rfl⟩ := exists_of_kindOf hconfigure
    exact ⟨.commandFilter c, rfl, rfl⟩
  · obtain ⟨limit, -, rfl⟩ := exists_of_kindOf hconfigure
    exact ⟨.inLimit limit, rfl, rfl⟩
  · cases hconfigure
    exact ⟨.noHint, rfl, rfl⟩
  · obtain ⟨c, -, rfl⟩ := exists_of_kindOf hconfigure
    exact ⟨.slowLog c, rfl, rfl⟩
  · obtain ⟨c, -, rfl⟩ := exists_of_kindOf hconfigure
    exact ⟨.writeConcern c, rfl, rfl⟩

/-- `build` makes the stages of choices with their names. -/
theorem exists_of_build {specs : List (String × Document)} {stages : List (Stage σ)}
    (h : StageRegistry.standard.build specs = .ok stages) :
    ∃ xs : List StageChoice, xs.map name = specs.map (·.1) ∧ stages = xs.map stage := by
  induction specs generalizing stages with
  | nil =>
    cases h
    exact ⟨[], rfl, rfl⟩
  | cons spec specs ih =>
    obtain ⟨stage, rest, hone, hrest, rfl⟩ := exists_of_build_cons h
    obtain ⟨x, hname, rfl⟩ := exists_of_buildOne hone
    obtain ⟨xs, hnames, rfl⟩ := ih hrest
    exact ⟨x :: xs, by rw [List.map_cons, List.map_cons, hname, hnames], rfl⟩

/-! ### Two stages -/

variable (commandName : String)

/-- `allows` does not see what another stage makes of the document. -/
theorem allows_edit (x y : StageChoice) (d : Document) :
    x.allows commandName (y.edit commandName d) = x.allows commandName d := by
  cases x with
  | inLimit limit =>
    simp only [allows]
    cases y with
    | defaults c => rw [edit, InLimit.check_defaults]
    | noHint => rw [edit, InLimit.check_noHint]
    | writeConcern c => rw [edit, InLimit.check_writeConcern]
    | commandFilter c | inLimit limit' | slowLog c => rfl
  | defaults c | commandFilter c | noHint | slowLog c | writeConcern c => rfl

end StageChoice

/-- `HintRemoval.apply` can change places with what its steps can. -/
theorem HintRemoval.commute_apply (commandName : String) {f : Document → Document}
    (herase : Function.Commute (·.erase "hint") f)
    (hstatements : ∀ key ∈ ["deletes", "updates"], Function.Commute (ofStatements · key) f) :
    Function.Commute (apply commandName) f := by
  intro d
  unfold apply
  split
  · exact herase d
  · exact herase d
  · exact herase d
  · exact ((hstatements "deletes" (by decide)).comp_left herase) d
  · exact ((hstatements "updates" (by decide)).comp_left herase) d
  · rfl

/-- `ReadDefaults.apply` can change places with what its steps can. -/
theorem ReadDefaults.commute_apply (c : Config) (commandName : String) {f : Document → Document}
    (h : ∀ key ∈ defaultedKeys, ∀ v?, Function.Commute (setDefault · key v?) f) :
    Function.Commute (apply c commandName) f := by
  -- both steps, whichever of them the command takes
  have hconcern :=
    h "readConcern" (by decide) (c.readConcern.map fun level =>
      Value.document [("level", .string level)])
  have hmaxTime := h "maxTimeMS" (by decide) (c.maxTimeMs.map Value.int64)
  intro d
  simp only [apply]
  split
  · rfl
  · split
    · exact (hmaxTime.comp_left hconcern) d
    · exact hmaxTime d

namespace StageChoice

variable (commandName : String)

/-- No default is for a hint, or for statements. -/
theorem commute_noHint_defaults (c : ReadDefaults.Config) :
    Function.Commute (noHint.edit commandName) ((defaults c).edit commandName) := by
  refine (ReadDefaults.commute_apply c commandName fun key hkey v? =>
    (HintRemoval.commute_apply commandName ?_ ?_).symm).symm
  · intro d
    simp only [ReadDefaults.setDefault_eq]
    refine d.erase_setBy ?_
    rintro rfl
    exact absurd hkey (by decide)
  · intro other hother d
    -- the two stages write under different keys
    have hne : ∀ key ∈ ["deletes", "updates"], ∀ other ∈ defaultedKeys, key ≠ other := by decide
    simp only [ReadDefaults.setDefault_eq, HintRemoval.ofStatements_eq]
    exact (d.setBy_comm (hne other hother key hkey) rfl _).symm

/-- A write concern is no hint, and has no statements. -/
theorem commute_noHint_writeConcern (c : WriteConcern.Config) :
    Function.Commute (noHint.edit commandName) ((writeConcern c).edit commandName) := by
  refine HintRemoval.commute_apply commandName (fun d => ?_) fun other hother d => ?_
  · simp only [edit, WriteConcern.apply_eq]
    exact d.erase_setBy (by decide)
  · simp only [edit, WriteConcern.apply_eq, HintRemoval.ofStatements_eq]
    refine d.setBy_comm ?_ rfl _
    rintro rfl
    exact absurd hother (by decide)

/-- No default is for a write concern. -/
theorem commute_defaults_writeConcern (c : ReadDefaults.Config) (c' : WriteConcern.Config) :
    Function.Commute ((defaults c).edit commandName) ((writeConcern c').edit commandName) := by
  refine ReadDefaults.commute_apply c commandName fun key hkey v? d => ?_
  simp only [edit, WriteConcern.apply_eq, ReadDefaults.setDefault_eq]
  refine d.setBy_comm ?_ rfl _
  rintro rfl
  exact absurd hkey (by decide)

/-- `edit` by stages of different kinds can be done in either order. -/
theorem edit_comm {x y : StageChoice} (hname : x.name ≠ y.name) :
    Function.Commute (x.edit commandName) (y.edit commandName) := by
  -- only three stages change documents, and two of one name are not configured together
  cases x with
  | commandFilter c | inLimit limit | slowLog c => exact Function.Commute.id_left
  | noHint =>
    cases y with
    | commandFilter c | inLimit limit | slowLog c => exact Function.Commute.id_right
    | noHint => exact absurd rfl hname
    | defaults c => exact commute_noHint_defaults commandName c
    | writeConcern c => exact commute_noHint_writeConcern commandName c
  | defaults c =>
    cases y with
    | commandFilter c | inLimit limit | slowLog c => exact Function.Commute.id_right
    | noHint => exact (commute_noHint_defaults commandName c).symm
    | defaults c' => exact absurd rfl hname
    | writeConcern c' => exact commute_defaults_writeConcern commandName c c'
  | writeConcern c =>
    cases y with
    | commandFilter c | inLimit limit | slowLog c => exact Function.Commute.id_right
    | noHint => exact (commute_noHint_writeConcern commandName c).symm
    | defaults c' => exact (commute_defaults_writeConcern commandName c' c).symm
    | writeConcern c' => exact absurd rfl hname

end StageChoice

/-! ### One stage and the document -/

/-- A document is `Rewritten` by `ofStatements`. -/
theorem rewritten_ofStatements (d : Document) {key : String} (hkey : key ∈ ["deletes", "updates"]) :
    Rewritten d (HintRemoval.ofStatements d key) := by
  rw [HintRemoval.ofStatements_eq]
  refine .setBy d (fun old v hv => ?_) nofun
  unfold HintRemoval.stripped? at hv
  split at hv
  · rename_i items hitems
    cases hitems
    cases hv
    refine .stripped hkey (List.forall₂_map_right_iff.mpr (List.forall₂_same.mpr fun item _ => ?_))
    -- a statement that is no document is left as it is
    cases item with
    | document e => exact .stripped e
    | _ => exact .kept _
  · cases hv

/-- A document is `Rewritten` by `setDefault`. -/
theorem rewritten_setDefault (d : Document) {key : String} (hkey : key ∈ defaultedKeys)
    (v? : Option Value) :
    Rewritten d (ReadDefaults.setDefault d key v?) := by
  rw [ReadDefaults.setDefault_eq]
  refine .setBy d (fun old v hv => ?_) fun _ _ => hkey
  cases old with
  | null => exact .filled hkey v
  | _ => cases hv

/-- A document is `Rewritten` by a replaced write concern. -/
theorem rewritten_writeConcern (c : WriteConcern.Config) (commandName : String) (d : Document) :
    Rewritten d (WriteConcern.apply c commandName d) := by
  rw [WriteConcern.apply_eq]
  refine .setBy d (fun old v hv => ?_) nofun
  cases old with
  | document concern =>
    rw [WriteConcern.Config.replaced?, Option.map_eq_some_iff] at hv
    obtain ⟨v, hv, rfl⟩ := hv
    obtain ⟨w, hw, -⟩ := Option.bind_eq_some_iff.mp hv
    exact .replaced (Document.getString?_eq_some_iff.mp hw) v
  | _ => cases hv

/-- A document is `Rewritten` by whatever stage there is. -/
theorem StageChoice.rewritten_edit (x : StageChoice) (commandName : String) (d : Document) :
    Rewritten d (x.edit commandName d) := by
  cases x with
  | commandFilter c | inLimit limit | slowLog c => exact .refl d
  | writeConcern c => exact rewritten_writeConcern c commandName d
  -- the hint of the command goes first, and then those of its statements
  | noHint =>
    rw [edit]
    unfold HintRemoval.apply
    split
    · exact .erase d
    · exact .erase d
    · exact .erase d
    · exact (Rewritten.erase d).trans (rewritten_ofStatements _ (by decide))
    · exact (Rewritten.erase d).trans (rewritten_ofStatements _ (by decide))
    · exact .refl d
  | defaults c =>
    simp only [edit, ReadDefaults.apply]
    split
    · exact .refl d
    · split
      · exact (rewritten_setDefault d (by decide) _).trans (rewritten_setDefault _ (by decide) _)
      · exact rewritten_setDefault d (by decide) _

end DocGateway
