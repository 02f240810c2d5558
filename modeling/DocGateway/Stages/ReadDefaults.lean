import DocGateway.Pipeline.Run
import DocGateway.Stages.Settings
/-!
# Defaults of reads

Reads that leave their read concern or their time limit unset get those that are configured.
-/

namespace DocGateway.ReadDefaults

open Bson (Document Value)

structure Config where
  readConcern : Option String
  maxTimeMs : Option Int64
deriving DecidableEq, Repr, Inhabited

/-- The commands that take both defaults. -/
def reads : List String := ["aggregate", "count", "distinct", "find"]

/-- The command that takes a time limit only, as it has a read concern only within transactions. -/
def limitedWrite : String := "findAndModify"

/-- Sets a key that is absent or null. -/
def setIfUnset (d : Document) (key : String) (v : Value) : Document :=
  match d.get? key with
  | none | some .null => d.insert key v
  | some _ => d

/-- Sets a key to a default, if there is one. -/
def setDefault (d : Document) (key : String) : Option Value → Document
  | some v => setIfUnset d key v
  | none => d

/-- Fills in what a command leaves unset. -/
def apply (c : Config) (commandName : String) (d : Document) : Document :=
  let isRead := reads.contains commandName
  if ¬ isRead ∧ commandName ≠ limitedWrite then d
  else
    let concern := c.readConcern.map fun level => Value.document [("level", .string level)]
    let d := if isRead then setDefault d "readConcern" concern else d
    setDefault d "maxTimeMS" (c.maxTimeMs.map Value.int64)

/-- The stage. -/
def stage {σ : Type} (name : String) (c : Config) : Stage σ where
  name
  enter s := .pass (s.mapDocument (apply c s.request.commandName)) fun a s => (.answered a, s)

/-- A read concern: its level, named or first in a list. -/
def concern? (v : Value) : Option String := do
  let parts ← (Bson.Content.ofValue v).parts? ["level"]
  (← parts[0]?).text?

/-- Reads the settings of the stage. -/
def Config.ofDocument (d : Document) : Except ServerError Config := do
  Settings.onlyKeys d ["default_read_concern", "default_max_time_ms"]
  return {
    readConcern := ← Settings.field d "default_read_concern" none (Settings.nullable? concern?)
    maxTimeMs :=
      ← Settings.field d "default_max_time_ms" none (Settings.nullable? Settings.integer?) }

end DocGateway.ReadDefaults
