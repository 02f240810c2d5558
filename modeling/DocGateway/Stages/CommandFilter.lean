import DocGateway.Pipeline.Run
import DocGateway.Stages.Settings
/-!
# Hidden commands

Some commands are answered as if they did not exist.
-/

namespace DocGateway.CommandFilter

open Bson (Document)

structure Config where
  hidden : List String
deriving DecidableEq, Repr, Inhabited

/-- The answer to a hidden command. -/
def denial (commandName : String) : Document :=
  ErrorCode.commandNotFound.document s!"no such command: '{commandName}'"

/-- The stage. -/
def stage {σ : Type} (name : String) (c : Config) : Stage σ where
  name
  enter s :=
    if c.hidden.contains s.request.commandName then
      .stop (.response (denial s.request.commandName)) s
    else .pass s fun a s => (.answered a, s)

/-- Reads the settings of the stage. -/
def Config.ofDocument (d : Document) : Except ServerError Config := do
  Settings.onlyKeys d ["filter_commands"]
  return ⟨← Settings.field d "filter_commands" [] Settings.texts?⟩

end DocGateway.CommandFilter
