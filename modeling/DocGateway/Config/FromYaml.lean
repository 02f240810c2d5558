import DocGateway.Config.Configuration
/-!
# Configurations in YAML

A configuration is a mapping of mappings. What it does not mention keeps its standard value, and
what it mentions besides counts for nothing.
-/

namespace DocGateway

open Yaml (Decoder)
open Yaml.Decoder (record field fieldOr require text word flag list)

/-- An address from its text. -/
def SocketAddress.decode : Decoder SocketAddress := do require (SocketAddress.parse? (← text))

/-- A compressor from its name. A local type may stand for a name without a text. -/
def Compressor.decode : Decoder Compressor := Yaml.Decoder.node fun e =>
  match e with
  | .scalar style tag written =>
    match tag.bind Yaml.Tag.localName? with
    | some name =>
      if style = .plain ∧ (written = "" ∨ Yaml.saysNull written) then
        require (Compressor.ofName? name) else failure
    | none => require (Compressor.ofName? written)
  | _ => failure

/-- An identity, which needs a user. -/
def Identity.decode : Decoder Identity := do
  let known ← record ["kind", "user", "roles"]
  return ⟨← fieldOr known "kind" "static" text, ← field known "user" text,
    ← fieldOr known "roles" [] (list text)⟩

/-- A stage, which needs a name. Its settings stand some levels deep in the whole. -/
def StageSpec.decode : Decoder StageSpec := do
  let known ← record ["name", "config"]
  return ⟨← field known "name" text,
    ← fieldOr known "config" .null (Yaml.Datum.decode (Yaml.Datum.maxDepth - 3))⟩

/-- Settings of the network. -/
def NetworkSettings.decode : Decoder NetworkSettings := do
  let known ← record ["bind_addr", "max_connections"]
  return ⟨← fieldOr known "bind_addr" Configuration.standard.network.bindAddr SocketAddress.decode,
    ← fieldOr known "max_connections" Configuration.standard.network.maxConnections word⟩

/-- Settings of the gateway. -/
def HandlingSettings.decode : Decoder HandlingSettings := do
  let known ← record
    ["idle_cursor_timeout_secs", "cursor_reap_interval_ms", "request_length_limit", "compressors",
      "internal_identity"]
  let given := Configuration.standard.gateway
  return ⟨← fieldOr known "idle_cursor_timeout_secs" given.idleCursorTimeout word,
    ← fieldOr known "cursor_reap_interval_ms" given.cursorReapInterval word,
    ← fieldOr known "request_length_limit" given.requestLengthLimit word,
    ← fieldOr known "compressors" given.compressors (list Compressor.decode),
    ← fieldOr known "internal_identity" given.internalIdentity Identity.decode⟩

/-- Settings of the shutdown. -/
def ShutdownSettings.decode : Decoder ShutdownSettings := do
  let known ← record ["poll_interval_ms", "idle_grace_ms", "term_sleep_secs", "deadline_secs"]
  let given := Configuration.standard.shutdown
  return ⟨← fieldOr known "poll_interval_ms" given.pollInterval word,
    ← fieldOr known "idle_grace_ms" given.idleGrace word,
    ← fieldOr known "term_sleep_secs" given.termSleep word,
    ← fieldOr known "deadline_secs" given.deadline word⟩

/-- Settings of the metrics. -/
def MetricsSettings.decode : Decoder MetricsSettings := do
  let known ← record ["enabled", "bind_addr"]
  return ⟨← fieldOr known "enabled" Configuration.standard.metrics.enabled flag,
    ← fieldOr known "bind_addr" Configuration.standard.metrics.bindAddr SocketAddress.decode⟩

namespace Configuration

/-- The configuration that the root of a document gives. -/
def decode : Decoder Configuration := do
  let known ← record ["network", "gateway", "shutdown", "metrics", "plugins"]
  return ⟨← fieldOr known "network" standard.network NetworkSettings.decode,
    ← fieldOr known "gateway" standard.gateway HandlingSettings.decode,
    ← fieldOr known "shutdown" standard.shutdown ShutdownSettings.decode,
    ← fieldOr known "metrics" standard.metrics MetricsSettings.decode,
    ← fieldOr known "plugins" [] (list StageSpec.decode)⟩

/-- The configuration that a text gives. A text without a document gives the standard one. -/
def ofYaml? (text : String) : Option Configuration :=
  match Yaml.Outline.ofText? text with
  | none => none
  | some none => some standard
  | some (some outline) => outline.decode? decode

end Configuration

end DocGateway
