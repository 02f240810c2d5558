import DocGateway.Metrics.Registry
import DocGateway.Pipeline.Scene
/-!
# Running a pipeline

A pipeline is a list of stages around a terminal layer. A stage answers a request, or passes it on
to the layers inside and has the last word on their answer. Before each layer it is checked whether
the request was cancelled. A layer that breaks down, or that never answers, takes the layers outside
with it.
-/

namespace DocGateway

open Bson (Document)

/-- The answer of a layer. -/
abbrev Answer := Except ServerError Document

/-- How a layer ends. -/
inductive Outcome where
  | answered (a : Answer)
  /-- The layer broke down. -/
  | crashed
  /-- The layer never answers. -/
  | stalled
deriving Inhabited

namespace Outcome

/-- A response. -/
def response (d : Document) : Outcome := .answered (.ok d)

/-- A failure. -/
def failure (e : ServerError) : Outcome := .answered (.error e)

end Outcome

/-- What a stage does with a request on its way in. -/
inductive Entry (σ : Type) where
  /-- The stage ends without the layers inside. -/
  | stop (outcome : Outcome) (scene : Scene σ)
  /-- The request is passed on; `leave` makes the stage's answer from that of the layers inside. -/
  | pass (scene : Scene σ) (leave : Answer → Scene σ → Outcome × Scene σ)

structure Stage (σ : Type) where
  name : String
  enter : Scene σ → Entry σ

/-- The innermost layer. -/
abbrev Terminal (σ : Type) := Scene σ → Outcome × Scene σ

/-- Whether a request is cancelled by the time that it comes to the layer at a place. -/
abbrev Cancellation := Nat → Bool

/-- What happens to the layers of a pipeline. -/
inductive LayerEvent where
  | entered (position : Nat)
  | left (position : Nat) (stage : String) (succeeded : Bool)
  | terminal
deriving DecidableEq, Repr, Inhabited

/-- How a run ended, what it left behind, and what happened on the way. -/
structure Passage (σ : Type) where
  outcome : Outcome
  scene : Scene σ
  events : List LayerEvent

namespace Passage

variable {σ : Type}

/-- The end of the stage at a place. One that did not answer never leaves. -/
def ofStage (position : Nat) (name : String) (outcome : Outcome) (scene : Scene σ)
    (inside : List LayerEvent) : Passage σ :=
  match outcome with
  | .answered a => ⟨outcome, scene, .entered position :: inside ++ [.left position name a.isOk]⟩
  | _ => ⟨outcome, scene, .entered position :: inside⟩

/-- Runs the layers from a place on. -/
def run (terminal : Terminal σ) (cancelled : Cancellation) :
    Nat → List (Stage σ) → Scene σ → Passage σ
  | position, stages, scene =>
    if cancelled position then ⟨.failure .cancelled, scene.tick, []⟩
    else
      match stages with
      | [] =>
        let (outcome, scene) := terminal scene.tick
        ⟨outcome, scene, [.terminal]⟩
      | stage :: rest =>
        match stage.enter scene.tick with
        | .stop outcome scene => ofStage position stage.name outcome scene []
        | .pass scene leave =>
          let inside := run terminal cancelled (position + 1) rest scene
          match inside.outcome with
          | .answered a =>
            let (outcome, scene) := leave a inside.scene
            ofStage position stage.name outcome scene inside.events
          | broken => ofStage position stage.name broken inside.scene inside.events

end Passage

structure Pipeline (σ : Type) where
  stages : List (Stage σ)
  terminal : Terminal σ

namespace Pipeline

variable {σ : Type}

/-- Runs all layers. -/
def run (p : Pipeline σ) (cancelled : Cancellation) (scene : Scene σ) : Passage σ :=
  Passage.run p.terminal cancelled 0 p.stages scene

end Pipeline

namespace LayerEvent

/-- Counts the time of a stage that was left. -/
def record (m : Metrics) : LayerEvent → Metrics
  | .left position stage succeeded =>
    m.stage ⟨toString position, stage, if succeeded then "success" else "error"⟩ (.zero false)
  | _ => m

/-- Counts the times of all stages that were left. -/
def recordAll (m : Metrics) (events : List LayerEvent) : Metrics := events.foldl record m

end LayerEvent

end DocGateway
