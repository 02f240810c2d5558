import DocGateway.Stages.CommandFilter
import DocGateway.Stages.HintRemoval
import DocGateway.Stages.InLimit
import DocGateway.Stages.ReadDefaults
import DocGateway.Stages.SlowLog
import DocGateway.Stages.WriteConcern
/-!
# Kinds of stages

A pipeline is put together from names and settings. Each name stands for a kind of stage, which
makes a stage of the settings.
-/

namespace DocGateway

open Bson (Document)

/-- A kind of stage: its name, and what it makes of settings. -/
structure StageKind (σ : Type) where
  name : String
  configure : Document → Except ServerError (Stage σ)

/-- The kinds of stages that are known, no two of one name. -/
structure StageRegistry (σ : Type) where
  kinds : List (StageKind σ)

namespace StageRegistry

variable {σ : Type}

/-- No kinds. -/
def empty : StageRegistry σ := ⟨[]⟩

/-- A kind that makes a stage of settings that it reads first. -/
def kindOf {α : Type} (name : String) (read : Document → Except ServerError α)
    (make : String → α → Stage σ) :
    StageKind σ :=
  ⟨name, fun d => (read d).map (make name)⟩

/-- The kinds that the gateway brings with it. -/
def standard : StageRegistry σ where
  kinds :=
    [kindOf "defaults" ReadDefaults.Config.ofDocument ReadDefaults.stage,
      kindOf "filtercommand" CommandFilter.Config.ofDocument CommandFilter.stage,
      kindOf "inlimit" InLimit.limitOfDocument InLimit.stage,
      ⟨"nohint", fun _ => .ok (HintRemoval.stage "nohint")⟩,
      kindOf "slowlog" SlowLog.Config.ofDocument SlowLog.stage,
      kindOf "writeconcernoverride" WriteConcern.Config.ofDocument WriteConcern.stage]

/-- The kind of a name. -/
def find? (r : StageRegistry σ) (name : String) : Option (StageKind σ) :=
  r.kinds.find? (·.name == name)

/-- Adds a kind, unless its name is taken. -/
def register (r : StageRegistry σ) (kind : StageKind σ) : Except ServerError (StageRegistry σ) :=
  if (r.find? kind.name).isSome then
    .error (.config s!"plugin named {kind.name} already registered")
  else .ok ⟨r.kinds ++ [kind]⟩

/-- The names of all kinds, in order. -/
def names (r : StageRegistry σ) : List String := (r.kinds.map (·.name)).mergeSort (· ≤ ·)

/-- Makes a stage of a name and settings. -/
def buildOne (r : StageRegistry σ) (name : String) (settings : Document) :
    Except ServerError (Stage σ) :=
  match r.find? name with
  | none => .error (.config s!"unknown plugin: {name}")
  | some kind =>
    (kind.configure settings).mapError fun e =>
      .config s!"failed to configure plugin {name}: {e.message}"

/-- Makes stages of names and settings, in order. -/
def build (r : StageRegistry σ) (specs : List (String × Document)) :
    Except ServerError (List (Stage σ)) :=
  specs.mapM fun (name, settings) => r.buildOne name settings

end StageRegistry

end DocGateway
