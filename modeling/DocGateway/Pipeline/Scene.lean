import DocGateway.Cursor.Cache
import DocGateway.Command.Parse
import DocGateway.Net.SocketAddress
/-!
# What a command meets in the pipeline

A command travels through the pipeline as a request of a client. All that a layer can see and change
stands in one scene: the request, the client, the cursor cache, the slow log, and what stages of
other kinds bring with them.
-/

namespace DocGateway

open Bson (Document)

/-- An authenticated principal. -/
structure Identity where
  /-- Where the identity comes from. -/
  kind : String
  user : String
  roles : List String
deriving DecidableEq, Repr, Inhabited

/-- The state of one client connection, shared by all requests on it. -/
structure Client where
  /-- The client's address; the gateway itself has none. -/
  addr : Option SocketAddress
  identities : List Identity
  sidecar : Sidecar
deriving DecidableEq, Repr, Inhabited

namespace Client

/-- A client that has just connected. -/
def connected (addr : Option SocketAddress) : Client := ⟨addr, [], .empty⟩

/-- The client that commands of the gateway itself come from. -/
def internal (identity : Identity) : Client := ⟨none, [identity], .empty⟩

/-- The text of the client's address. -/
def addrText (c : Client) : String := (c.addr.map (·.toText)).getD ""

/-- Adds an identity. -/
def login (c : Client) (identity : Identity) : Client :=
  { c with identities := c.identities ++ [identity] }

/-- Removes all identities. -/
def logout (c : Client) : Client := { c with identities := [] }

end Client

/-- One command on its way. -/
structure Request where
  /-- The name of the command as it was parsed. -/
  commandName : String
  command : Command
  /-- What stages keep for this request alone. -/
  sidecar : Sidecar
deriving Repr, Inhabited

/-- The request of a command. -/
def Request.ofCommand (c : Command) : Request := ⟨c.name, c, .empty⟩

/-- A line of the slow log. -/
structure SlowCommand where
  message : String
  database : String
  collection : String
  command : String
  readPreference : String
deriving DecidableEq, Repr, Inhabited

/-- All that a layer can see and change. The type `σ` is of what stages of other kinds bring with
them. -/
structure Scene (σ : Type) where
  request : Request
  client : Client
  cursors : CursorCache
  /-- The time in milliseconds. -/
  now : Nat
  /-- The time that the request has taken, in nanoseconds. -/
  spent : Nat
  slowLog : List SlowCommand
  own : σ

namespace Scene

variable {σ : Type}

/-- Changes the document of the command. -/
def mapDocument (s : Scene σ) (f : Document → Document) : Scene σ :=
  { s with request := { s.request with command := s.request.command.mapDocument f } }

/-- The document of the command. -/
def document (s : Scene σ) : Document := s.request.command.document

/-- Lets the shortest time pass that a layer can take. -/
def tick (s : Scene σ) : Scene σ := { s with spent := s.spent + 1 }

end Scene

end DocGateway
