import DocGateway.Command.Error
/-!
# Commands

A command is a document whose first key names it. The commands that the gateway itself has to
understand have a kind of their own; all others are passed through. Whatever is read from a command
is read from its document, as stages may change that. Only the compressors that a handshake asks for
are kept from the time of parsing.
-/

namespace DocGateway

open Bson (Document Value)

/-- The database of a command that names none. -/
def defaultDatabase : String := "admin"

inductive CommandKind where
  | find
  | aggregate
  | getMore
  | killCursors
  | explain
  | ping
  | isMaster (compression : List String)
  | buildInfo
  | hostInfo
  | serverStatus
  | isDbGrid
  | connectionStatus
  | logout
  | whatsMyUri
  | passthrough (name : String)
deriving DecidableEq, Repr, Inhabited

/-- A command. -/
structure Command where
  kind : CommandKind
  document : Document
deriving Repr, Inhabited

namespace Command

/-- The failure of a field that has not the expected type. -/
def wrongType (field expected : String) : ServerError :=
  .ofCode .failedToParse s!"field '{field}' must be of type {expected}"

/-- The cursors that a `killCursors` command lists. -/
def listedCursors (d : Document) : Except ServerError (List Int64) :=
  match d.get? "cursors" with
  | some (.array ids) =>
    match ids.mapM Value.toInt64? with
    | some ids => .ok ids
    | none => .error (wrongType "cursors" "integer array")
  | _ => .error (wrongType "cursors" "array")

/-- The compressors that a handshake asks for. -/
def requestedCompressors (d : Document) : Except ServerError (List String) :=
  match d.get? "compression" with
  | none => .ok []
  | some (.array items) =>
    match items.mapM Value.asString? with
    | some names => .ok names
    | none => .error (wrongType "compression" "string array")
  | some _ => .error (wrongType "compression" "array")

/-- The kind of the command with this name and document. -/
def kindOf (name : String) (d : Document) : Except ServerError CommandKind :=
  match name with
  | "find" => .ok .find
  | "aggregate" => .ok .aggregate
  | "getMore" =>
    match (d.get? "getMore").bind Value.toInt64? with
    | some _ => .ok .getMore
    | none => .error (wrongType "getMore" "integer")
  | "killCursors" => (listedCursors d).map fun _ => .killCursors
  | "explain" =>
    match d.getDocument? "explain" with
    | some _ => .ok .explain
    | none => .error (wrongType "explain" "document")
  | "ping" => .ok .ping
  | "isMaster" | "ismaster" | "hello" => (requestedCompressors d).map .isMaster
  | "buildInfo" | "buildinfo" => .ok .buildInfo
  | "hostInfo" => .ok .hostInfo
  | "serverStatus" => .ok .serverStatus
  | "isdbgrid" => .ok .isDbGrid
  | "connectionStatus" => .ok .connectionStatus
  | "logout" => .ok .logout
  | "whatsmyuri" => .ok .whatsMyUri
  | _ => .ok (.passthrough name)

/-- The command in a document. -/
def parse (d : Document) : Except ServerError Command :=
  match d.firstKey? with
  | some name => (kindOf name d).map (⟨·, d⟩)
  | none => .error (.ofCode .failedToParse "empty command document")

/-- The name of a command: the first key of its document. -/
def name (c : Command) : String := c.document.firstKey?.getD ""

/-- The command with its document changed. -/
def mapDocument (f : Document → Document) (c : Command) : Command := ⟨c.kind, f c.document⟩

/-- The first value of a document, if it is a string. -/
def firstString? (d : Document) : Option String := d.head?.bind fun f => f.2.asString?

/-- The database of a command. -/
def database (c : Command) : String := (c.document.getString? "$db").getD defaultDatabase

/-- The collection of a command, if it names one. -/
def collection? (c : Command) : Option String :=
  match c.kind with
  | .getMore => c.document.getString? "collection"
  | .explain => (c.document.getDocument? "explain").bind firstString?
  | _ => firstString? c.document

/-- The cursor that a `getMore` command continues. -/
def cursorId? (c : Command) : Option Int64 :=
  match c.kind with
  | .getMore => (c.document.get? "getMore").bind Value.toInt64?
  | _ => none

/-- The cursors that a `killCursors` command closes. -/
def cursorIds (c : Command) : List Int64 :=
  match c.kind with
  | .killCursors => ((listedCursors c.document).toOption).getD []
  | _ => []

/-- The mode of the read preference that a command asks for. -/
def readPreference? (c : Command) : Option String := do
  let preference ← (c.document.getDocument? "$readPreference").orElse fun _ =>
    c.document.getDocument? "readPreference"
  preference.getString? "mode"

end Command

/-- Whether a response reports success. -/
def isOk (response : Document) : Bool :=
  match response.get? "ok" with
  | some v => v.isTruthy
  | none => false

end DocGateway
