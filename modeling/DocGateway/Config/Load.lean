import DocGateway.Config.Environment
import DocGateway.Config.FromYaml
/-!
# Loading a configuration

Standard values come first, then those of a file, then those of the environment. What comes out is
checked before it is used.
-/

namespace DocGateway

open Bson (Document)

/-- Why there is no configuration. -/
inductive ConfigError where
  | unreadable (path : String)
  | malformed
  | invalid (reason : String)
deriving DecidableEq, Repr

/-- What is wrong, in words. -/
def ConfigError.message : ConfigError → String
  | unreadable path => s!"failed to read config file '{path}'"
  | malformed => "failed to parse config file"
  | invalid reason => s!"configuration validation failed: {reason}"

/-- The file of a configuration. -/
inductive ConfigFile where
  | absent
  | unreadable (path : String)
  | text (content : String)
deriving DecidableEq, Repr, Inhabited

namespace Configuration

/-- The document of a stage's settings. -/
def stageDocument (spec : StageSpec) : Except ConfigError Document :=
  match spec.document? with
  | some d => .ok d
  | none => .error (.invalid s!"plugin {spec.name}: config must be a map")

/-- The stages with the documents of their settings. -/
def stageSpecs (c : Configuration) : Except ConfigError (List (String × Document)) :=
  c.stages.mapM fun spec => do return (spec.name, ← stageDocument spec)

/-- Refuses values under which a gateway could not run. -/
def check (c : Configuration) : Except ConfigError Unit := do
  let positive (name : String) (n : Nat) : Except ConfigError Unit :=
    if n = 0 then .error (.invalid s!"{name} must be positive") else .ok ()
  positive "gateway.idle_cursor_timeout_secs" c.gateway.idleCursorTimeout
  positive "gateway.cursor_reap_interval_ms" c.gateway.cursorReapInterval
  positive "shutdown.poll_interval_ms" c.shutdown.pollInterval
  let _ ← c.stageSpecs

/-- The configuration of a file. -/
def ofFile : ConfigFile → Except ConfigError Configuration
  | .absent => .ok standard
  | .unreadable path => .error (.unreadable path)
  | .text content => (ofYaml? content).elim (.error .malformed) .ok

/-- Loads a configuration. -/
def load (file : ConfigFile) (env : Environment) : Except ConfigError Configuration := do
  let c := (← ofFile file).overridden env
  c.check
  return c

end Configuration

end DocGateway
