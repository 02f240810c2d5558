import DocGateway.Command.Parse
/-!
# Registered commands

A command whose name is not registered does not exist for clients.
-/

namespace DocGateway

open Bson (Document)

/-- The names of the registered commands. -/
structure CommandRegistry where
  names : List String
deriving DecidableEq, Repr, Inhabited

namespace CommandRegistry

/-- The commands that are registered unless said otherwise. -/
def standard : CommandRegistry where
  names :=
    ["aggregate", "buildInfo", "buildinfo", "collStats", "connectionStatus", "count", "create",
      "createIndexes", "currentOp", "dbStats", "dbstats", "delete", "deleteIndexes", "distinct",
      "drop", "dropDatabase", "dropIndexes", "endSessions", "explain", "find", "findAndModify",
      "findandmodify", "getMore", "getnonce", "hello", "hostInfo", "insert", "isMaster", "ismaster",
      "isdbgrid", "killAllSessions", "killCursors", "killOp", "listCollections", "listDatabases",
      "listIndexes", "logout", "mapReduce", "mapreduce", "ping", "saslStart", "serverStatus",
      "shardCollection", "update", "validate", "whatsmyuri"]

/-- Whether a name is registered. -/
def contains (r : CommandRegistry) (name : String) : Bool := r.names.contains name

/-- The failure of a command that does not exist. -/
def notFound (name : String) : ServerError := .ofCode .commandNotFound s!"no such command: '{name}'"

/-- The command in a document, if it is registered. -/
def parse (r : CommandRegistry) (d : Document) : Except ServerError Command :=
  match d.firstKey? with
  | some name => if r.contains name then Command.parse d else .error (notFound name)
  | none => Command.parse d

end CommandRegistry

end DocGateway
