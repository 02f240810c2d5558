import DocGateway.Bson.Reread
import DocGateway.Command.Error
/-!
# Settings of stages

A stage is configured with a document whose keys it knows. An unknown key, or a value of another
type than expected, is an error.
-/

namespace DocGateway.Settings

open Bson (Content Document Value)

/-- Settings that cannot be read. -/
def invalid : ServerError := .bson none

/-- Refuses settings with other keys than some. -/
def onlyKeys (d : Document) (keys : List String) : Except ServerError Unit :=
  if d.all fun f => keys.contains f.1 then .ok () else .error invalid

/-- The setting under a key, or what holds without it. -/
def field {α : Type} (d : Document) (key : String) (default : α) (read : Value → Option α) :
    Except ServerError α :=
  match d.get? key with
  | none => .ok default
  | some v =>
    match read v with
    | some a => .ok a
    | none => .error invalid

/-- A 64-bit integer of either integer type. -/
def integer? : Value → Option Int64
  | .int32 n => some n.toInt64
  | .int64 n => some n
  | _ => none

/-- An integer that is not negative. -/
def natural? (v : Value) : Option Nat := do
  let n ← integer? v
  if 0 ≤ n.toInt then some n.toInt.toNat else none

/-- A text, or plain bytes that spell one. -/
def text? (v : Value) : Option String := (Content.ofValue v).text?

/-- A list of texts. -/
def texts? : Value → Option (List String)
  | .array items => items.mapM text?
  | _ => none

/-- A value that may be null for none. -/
def nullable? {α : Type} (read : Value → Option α) : Value → Option (Option α)
  | .null => some none
  | v => (read v).map some

/-- Values of any types by name. -/
def values? (v : Value) : Option Document := do
  (← v.spelling?).mapM fun (key, w) => w.reread?.map (key, ·)

end DocGateway.Settings
