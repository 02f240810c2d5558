import DocGateway.Bson.Value
import DocGateway.Compression.Compressor
import DocGateway.Wire.Flags
import DocGateway.Wire.Opcode
/-!
# Messages

The bodies of the six kinds of messages. Lengths, counts and checksums are no part of them: they
follow from the rest when a message is written.
-/

namespace DocGateway.Wire

open Bson (Document)

/-- A legacy query, or a command on the pseudo-collection `$cmd`. -/
structure Query where
  flags : QueryFlags
  /-- The database, a dot and the collection. -/
  collection : String
  skip : Int32
  limit : Int32
  query : Document
  selector : Option Document
deriving Repr, Inhabited

/-- A legacy request for the next batch of a cursor. -/
structure GetMore where
  flags : Int32
  collection : String
  limit : Int32
  cursorId : Int64
deriving DecidableEq, Repr, Inhabited

/-- A legacy request to close cursors. -/
structure KillCursors where
  cursorIds : List Int64
deriving DecidableEq, Repr, Inhabited

/-- A legacy reply. -/
structure Reply where
  flags : Int32
  cursorId : Int64
  startingFrom : Int32
  documents : List Document
deriving Repr, Inhabited

/-- A part of a command message. -/
inductive MsgSection where
  | body (document : Document)
  | sequence (identifier : String) (documents : List Document)
deriving Repr, Inhabited

/-- A command message, or its reply. -/
structure Msg where
  flags : MsgFlags
  sections : List MsgSection
deriving Repr, Inhabited

/-- The body of a message. -/
inductive Body where
  | query (q : Query)
  | getMore (g : GetMore)
  | killCursors (k : KillCursors)
  | reply (r : Reply)
  | msg (m : Msg)
  | compressed (compressor : Compressor) (inner : Body)
deriving Repr, Inhabited

/-- A body with the numbers that tie replies to requests. -/
structure Message where
  requestId : Int32
  responseTo : Int32
  body : Body
deriving Repr, Inhabited

/-- The opcode of a body. -/
def Body.opcode : Body → Opcode
  | query _ => .query
  | getMore _ => .getMore
  | killCursors _ => .killCursors
  | reply _ => .reply
  | msg _ => .msg
  | compressed _ _ => .compressed

/-- The body without the envelopes around it, and the compressors of those, outermost first. -/
def Body.unwrap : Body → List Compressor × Body
  | compressed c inner => let (cs, b) := inner.unwrap; (c :: cs, b)
  | b => ([], b)

/-- A body in envelopes, the first compressor being outermost. -/
def Body.wrap (cs : List Compressor) (b : Body) : Body := cs.foldr Body.compressed b

/-- A command reply of one body section. -/
def Msg.reply (d : Document) : Msg := ⟨.empty, [.body d]⟩

/-- The parts of a full collection name before and after its first dot. Without a dot all is
database. -/
def splitNamespace (full : String) : String × String :=
  let cs := full.toList
  (String.ofList (cs.takeWhile (· ≠ '.')), String.ofList ((cs.dropWhile (· ≠ '.')).drop 1))

/-- The database and the collection of a query. -/
def Query.ns (q : Query) : String × String := splitNamespace q.collection

/-- The database and the collection of a request for more. -/
def GetMore.ns (g : GetMore) : String × String := splitNamespace g.collection

end DocGateway.Wire
