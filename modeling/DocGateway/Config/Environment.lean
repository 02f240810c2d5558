import DocGateway.Config.Configuration
import DocGateway.Text.Blank
/-!
# Settings from the environment

Variables of the environment override single settings. One whose text does not say what is wanted
counts for nothing.
-/

namespace DocGateway

/-- Variables with their texts. -/
abbrev Environment := List (String × String)

namespace Environment

/-- The variables that settings are taken from. -/
def names : List String :=
  ["MONGATE_BIND", "MONGATE_MAX_CONNECTIONS", "MONGATE_CURSOR_TIMEOUT",
    "MONGATE_REQUEST_LENGTH_LIMIT", "MONGATE_COMPRESSORS", "MONGATE_IDLE_GRACE_MS",
    "MONGATE_TERM_SLEEP", "MONGATE_SHUTDOWN_DEADLINE", "MONGATE_METRICS_ENABLED",
    "MONGATE_METRICS_BIND"]

/-- What a variable says, or the present value if it says nothing. -/
def override {α : Type} (env : Environment) (name : String) (present : α)
    (read : String → Option α) : α :=
  ((env.lookup name).bind read).getD present

/-- A number of 64 bits. -/
def word? : String → Option Nat := Integer.word? 64

/-- Names of compressors between commas. -/
def compressors? (text : String) : Option (List Compressor) :=
  let names := ((Blank.splitAt ',' text.toList).map Blank.trim).filter (¬ ·.isEmpty)
  names.mapM fun name => Compressor.ofName? (String.ofList name)

/-- A switch is on if its text is `1` or, in any case, `true`. -/
def isOn (text : String) : Bool :=
  text = "1" || String.ofList (text.toList.map Char.toLower) = "true"

end Environment

open Environment (word?)

namespace Configuration

/-- The configuration with what the environment overrides. -/
def overridden (c : Configuration) (env : Environment) : Configuration where
  network := {
    bindAddr := env.override "MONGATE_BIND" c.network.bindAddr SocketAddress.parse?
    maxConnections := env.override "MONGATE_MAX_CONNECTIONS" c.network.maxConnections word? }
  gateway := { c.gateway with
    idleCursorTimeout := env.override "MONGATE_CURSOR_TIMEOUT" c.gateway.idleCursorTimeout word?
    requestLengthLimit :=
      env.override "MONGATE_REQUEST_LENGTH_LIMIT" c.gateway.requestLengthLimit word?
    compressors :=
      env.override "MONGATE_COMPRESSORS" c.gateway.compressors Environment.compressors? }
  shutdown := { c.shutdown with
    idleGrace := env.override "MONGATE_IDLE_GRACE_MS" c.shutdown.idleGrace word?
    termSleep := env.override "MONGATE_TERM_SLEEP" c.shutdown.termSleep word?
    deadline := env.override "MONGATE_SHUTDOWN_DEADLINE" c.shutdown.deadline word? }
  metrics := {
    enabled :=
      env.override "MONGATE_METRICS_ENABLED" c.metrics.enabled fun text =>
        some (Environment.isOn text)
    bindAddr := env.override "MONGATE_METRICS_BIND" c.metrics.bindAddr SocketAddress.parse? }
  stages := c.stages

end Configuration

end DocGateway
