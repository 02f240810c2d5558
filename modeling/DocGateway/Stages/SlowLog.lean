import DocGateway.Logging.Excerpt
import DocGateway.Pipeline.Run
import DocGateway.Stages.Settings
/-!
# The slow log

Commands that take the layers inside longer than a threshold are logged, as they are when they come
back.
-/

namespace DocGateway.SlowLog

open Bson (Document)

structure Config where
  thresholdMs : Nat
  /-- The most bytes of the command that are logged. -/
  requestLimit : Nat
deriving DecidableEq, Repr, Inhabited

/-- What holds unless something else is configured. -/
def Config.standard : Config := ⟨100, Excerpt.defaultLimit⟩

/-- Whether a time in nanoseconds is over the threshold. -/
def Config.isSlow (c : Config) (took : Nat) : Bool := c.thresholdMs * 1000000 < took

/-- The line of a request. -/
def line (c : Config) (r : Request) : SlowCommand where
  message := "Slowlog: request=" ++ Excerpt.ofDocument r.command.document c.requestLimit
  database := r.command.database
  collection := r.command.collection?.getD ""
  command := r.commandName
  readPreference := r.command.readPreference?.getD ""

/-- The stage. -/
def stage {σ : Type} (name : String) (c : Config) : Stage σ where
  name
  enter outside :=
    .pass outside fun a s =>
      let slow := c.isSlow (s.spent - outside.spent)
      (.answered a, if slow then { s with slowLog := s.slowLog ++ [line c s.request] } else s)

/-- Reads the settings of the stage. -/
def Config.ofDocument (d : Document) : Except ServerError Config := do
  Settings.onlyKeys d ["threshold_ms", "request_length_limit"]
  return {
    thresholdMs := ← Settings.field d "threshold_ms" Config.standard.thresholdMs Settings.natural?
    requestLimit :=
      ← Settings.field d "request_length_limit" Config.standard.requestLimit Settings.natural? }

end DocGateway.SlowLog
