import DocGateway.Pipeline.Run
/-!
# Removal of hints

Index hints are taken out of reads and writes, so that the backend decides which index to use.
-/

namespace DocGateway.HintRemoval

open Bson (Document Value)

/-- A statement without its hint. -/
def ofStatement : Value → Value
  | .document d => .document (Document.erase d "hint")
  | v => v

/-- Removes the hint of each statement under a key. -/
def ofStatements (d : Document) (key : String) : Document :=
  match d.get? key with
  | some (.array items) => d.insert key (.array (items.map ofStatement))
  | _ => d

/-- Removes the hints of a command. -/
def apply (commandName : String) (d : Document) : Document :=
  match commandName with
  | "find" | "aggregate" | "count" => d.erase "hint"
  | "delete" => ofStatements (d.erase "hint") "deletes"
  | "update" => ofStatements (d.erase "hint") "updates"
  | _ => d

/-- The stage. -/
def stage {σ : Type} (name : String) : Stage σ where
  name
  enter s := .pass (s.mapDocument (apply s.request.commandName)) fun a s => (.answered a, s)

end DocGateway.HintRemoval
