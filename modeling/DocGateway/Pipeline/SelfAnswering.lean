import DocGateway.Compression.Compressor
import DocGateway.Pipeline.Run
import DocGateway.Wire.Header
/-!
# Commands that the gateway answers itself

The innermost layer of a gateway answers handshakes and questions about the gateway. Any other
command should have been answered by a stage.
-/

namespace DocGateway

open Bson (Document Value)

/-- What the gateway tells of itself. -/
structure ServerInfo where
  version : String
  hostname : String
  sessionTimeoutMinutes : Int32
  /-- The compressors that are offered in handshakes. -/
  compressors : List Compressor
deriving DecidableEq, Repr, Inhabited

namespace ServerInfo

/-- The most bytes of a document. -/
def maxDocumentSize : Int32 := 16777216

/-- The most items of a write batch. -/
def maxWriteBatchSize : Int32 := 100000

/-- The newest version of the wire protocol that the gateway speaks. -/
def maxWireVersion : Int32 := 8

/-- Those of the requested compressors that are offered, in the order of the request. -/
def negotiate (i : ServerInfo) (requested : List String) : List String :=
  requested.filter fun name =>
    match Compressor.ofName? name with
    | some c => i.compressors.contains c
    | none => false

/-- A response of success and nothing else. -/
def plainOk : Document := [("ok", .int32 1)]

/-- The answer to a handshake. -/
def handshake (i : ServerInfo) (now : Nat) (requested : List String) : Document :=
  [("ismaster", .boolean true), ("localTime", .dateTime (Int64.ofNat now)),
    ("logicalSessionTimeoutMinutes", .int32 i.sessionTimeoutMinutes),
    ("maxBsonObjectSize", .int32 maxDocumentSize),
    ("maxMessageSizeBytes", .int32 (Int32.ofNat Wire.maxMessageSize)),
    ("maxWireVersion", .int32 maxWireVersion), ("maxWriteBatchSize", .int32 maxWriteBatchSize),
    ("minWireVersion", .int32 0), ("msg", .string "isdbgrid"), ("ok", .int32 1)] ++
    if i.compressors.isEmpty ∨ requested.isEmpty then []
    else [("compression", .array ((i.negotiate requested).map Value.string))]

/-- The distinct items of a list, in the order in which they first come up. -/
def distinct : List String → List String
  | [] => []
  | x :: xs => x :: (distinct xs).filter (· != x)

/-- Names of principals or roles, each once, with the database that they belong to. -/
def named (key : String) (names : List String) : Value :=
  .array ((distinct names).map fun name => .document [(key, .string name),
    ("db", .string defaultDatabase)])

/-- The answer to a question about who is logged in. -/
def connectionStatus (c : Client) : Document :=
  [("ok", .int32 1), ("authenticatedUsers", named "user" (c.identities.map (·.user))),
    ("authenticatedUserRoles", named "role" (c.identities.flatMap (·.roles)))]

/-- The answer to a question about the build. -/
def buildInfo (i : ServerInfo) : Document :=
  [("bits", .int32 64), ("debug", .boolean false), ("version", .string i.version),
    ("maxBsonObjectSize", .int32 maxDocumentSize), ("ok", .int32 1)]

/-- The answer to a question about the host. -/
def hostInfo (i : ServerInfo) : Document :=
  [("system", .document [("hostname", .string i.hostname), ("cpuAddrSize", .int32 64)]),
    ("os", .document []), ("extra", .document []), ("ok", .int32 1)]

/-- The failure of a command that no stage answered. -/
def unanswered (name : String) : ServerError :=
  .ofCode .commandNotSupported s!"no backend stage handled command '{name}'"

/-- The innermost layer. -/
def terminal {σ : Type} (i : ServerInfo) : Terminal σ := fun s =>
  match s.request.command.kind with
  | .ping => (.response plainOk, s)
  | .isMaster requested => (.response (i.handshake s.now requested), s)
  | .buildInfo => (.response i.buildInfo, s)
  | .hostInfo => (.response i.hostInfo, s)
  | .serverStatus => (.response [("version", .string i.version), ("ok", .int32 1)], s)
  | .isDbGrid =>
    (.response [("isdbgrid", .int32 1), ("hostname", .string i.hostname), ("ok", .int32 1)], s)
  | .connectionStatus => (.response (connectionStatus s.client), s)
  | .logout => (.response plainOk, { s with client := s.client.logout })
  | .whatsMyUri => (.response [("you", .string s.client.addrText), ("ok", .int32 1)], s)
  | _ => (.failure (unanswered s.request.command.name), s)

end ServerInfo

end DocGateway
