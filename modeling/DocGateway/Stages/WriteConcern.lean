import DocGateway.Pipeline.Run
import DocGateway.Stages.Settings
/-!
# Replacement of write concerns

Named write concerns of writes are replaced by values that are configured. Numbers are left alone.
-/

namespace DocGateway.WriteConcern

open Bson (Document Value)

structure Config where
  /-- The replacements that hold for updates before all others. -/
  forUpdates : Document
  forWrites : Document
deriving Repr, Inhabited

/-- The commands whose write concern is replaced. -/
def writes : List String := ["delete", "findAndModify", "insert", "update"]

/-- The replacement of a named write concern. -/
def Config.replacement? (c : Config) (commandName concern : String) : Option Value :=
  if ¬ writes.contains commandName then none
  else if commandName = "update" then
    (c.forUpdates.get? concern).orElse fun _ => c.forWrites.get? concern
  else c.forWrites.get? concern

/-- Replaces the write concern of a command. -/
def apply (c : Config) (commandName : String) (d : Document) : Document :=
  match d.getDocument? "writeConcern" with
  | none => d
  | some concern =>
    match (concern.getString? "w").bind (c.replacement? commandName) with
    | some v => d.insert "writeConcern" (.document (concern.insert "w" v))
    | none => d

/-- The stage. -/
def stage {σ : Type} (name : String) (c : Config) : Stage σ where
  name
  enter s := .pass (s.mapDocument (apply c s.request.commandName)) fun a s => (.answered a, s)

/-- Reads the settings of the stage. -/
def Config.ofDocument (d : Document) : Except ServerError Config := do
  Settings.onlyKeys d ["update_override", "write_override"]
  return {
    forUpdates := ← Settings.field d "update_override" [] Settings.values?
    forWrites := ← Settings.field d "write_override" [] Settings.values? }

end DocGateway.WriteConcern
