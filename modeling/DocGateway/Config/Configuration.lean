import DocGateway.Bson.SpelledValue
import DocGateway.Compression.Compressor
import DocGateway.Logging.Excerpt
import DocGateway.Pipeline.Scene
import DocGateway.Yaml.Datum
/-!
# The configuration of a gateway

Every setting has a standard value. The stages of the pipeline are given by name, in the order in
which they run, each with settings of its own.
-/

namespace DocGateway

open Bson (Document Value)

/-! ### Stages -/

namespace Yaml

mutual

/-- The value of a datum. Integers have 64 bits with a sign. -/
def Datum.toValue? : Datum → Option Value
  | .null => some .null
  | .boolean b => some (.boolean b)
  | .integer n => if n ≤ Int64.maxValue.toInt then some (.int64 (Int64.ofInt n)) else none
  | .double x => some (.double x)
  | .text s => some (.string s)
  | .list items => (Datum.listValues? items).map .array
  | .record fields => (Datum.fieldValues? fields).map Value.ofFields

/-- The values of items. -/
def Datum.listValues? : List Datum → Option (List Value)
  | [] => some []
  | x :: xs => do return (← x.toValue?) :: (← Datum.listValues? xs)

/-- The values of fields. -/
def Datum.fieldValues? : List (String × Datum) → Option Document
  | [] => some []
  | (key, x) :: xs => do return (key, ← x.toValue?) :: (← Datum.fieldValues? xs)

end

end Yaml

/-- A stage by its name, with its settings. -/
structure StageSpec where
  name : String
  settings : Yaml.Datum
deriving Repr, Inhabited

/-- The document of a stage's settings, which have to be a mapping. None at all are an empty
document. -/
def StageSpec.document? (spec : StageSpec) : Option Document :=
  match spec.settings with
  | .null => some []
  | settings => settings.toValue?.bind Value.asDocument?

/-! ### Settings -/

structure NetworkSettings where
  bindAddr : SocketAddress
  /-- How many clients may be connected at once. -/
  maxConnections : Nat
deriving DecidableEq, Repr, Inhabited

structure HandlingSettings where
  /-- How long a cursor may be left alone, in seconds. -/
  idleCursorTimeout : Nat
  /-- The time between two scans for idle cursors, in milliseconds. -/
  cursorReapInterval : Nat
  /-- The number of bytes of a request that may be logged. -/
  requestLengthLimit : Nat
  /-- The compressors that clients are offered. -/
  compressors : List Compressor
  /-- Whom commands of the gateway itself come from. -/
  internalIdentity : Identity
deriving DecidableEq, Repr, Inhabited

structure ShutdownSettings where
  /-- The time between two looks at the connections, in milliseconds. -/
  pollInterval : Nat
  /-- How long a connection must have been idle to be closed, in milliseconds. -/
  idleGrace : Nat
  /-- The time from the signal to the start of the shutdown, in seconds. -/
  termSleep : Nat
  /-- The longest time that a shutdown takes, in seconds, or zero for one that waits for every
  connection. -/
  deadline : Nat
deriving DecidableEq, Repr, Inhabited

namespace ShutdownSettings

/-- The time before the start of the shutdown, in milliseconds. -/
def termSleepMs (s : ShutdownSettings) : Nat := 1000 * s.termSleep

/-- The longest time of a shutdown in milliseconds, if there is one. -/
def deadlineMs? (s : ShutdownSettings) : Option Nat :=
  if s.deadline = 0 then none else some (1000 * s.deadline)

end ShutdownSettings

structure MetricsSettings where
  enabled : Bool
  bindAddr : SocketAddress
deriving DecidableEq, Repr, Inhabited

structure Configuration where
  network : NetworkSettings
  gateway : HandlingSettings
  shutdown : ShutdownSettings
  metrics : MetricsSettings
  stages : List StageSpec
deriving Repr, Inhabited

namespace Configuration

/-- Where a gateway listens if nothing else is said. -/
def defaultAddress : SocketAddress := .loopback 27016

/-- The identity of the gateway itself if nothing else is said. -/
def defaultIdentity : Identity := ⟨"internal", "mongate-internal", ["root"]⟩

/-- The configuration if nothing is said at all. -/
def standard : Configuration where
  network := ⟨defaultAddress, 10000⟩
  gateway := ⟨1800, 1000, Excerpt.defaultLimit, [.snappy, .zlib, .zstd], defaultIdentity⟩
  shutdown := ⟨200, 5000, 5, 60⟩
  metrics := ⟨false, .loopback 9090⟩
  stages := []

end Configuration

end DocGateway
