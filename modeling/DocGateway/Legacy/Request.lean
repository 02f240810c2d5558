import DocGateway.Command.Parse
import DocGateway.Wire.Message
/-!
# Legacy requests as commands

Legacy queries, requests for more and requests to close cursors become commands, so that there is
one way for all requests. The parts of a command message are put together here too.
-/

namespace DocGateway.Legacy

open Bson (Document Value)
open Wire (Query GetMore KillCursors Msg MsgSection)

/-- The collection that marks a legacy query as a command. -/
def commandCollection : String := "$cmd"

/-- The keys that make a query document, which starts with one of them, a list of options. -/
def modifiers : List String :=
  ["$query", "$orderby", "$maxTimeMS", "$hint", "$snapshot", "$comment", "$collation",
    "$readPreference", "$explain"]

/-- How the response to a legacy query is given to the client. -/
inductive ReplyShape where
  /-- As one document. The first batch of an aggregation without a cursor is taken out of it. -/
  | command (unwrapAggregate : Bool)
  /-- The first batch becomes the documents of the reply. -/
  | find
  /-- As one document that tells how the query is carried out. -/
  | explain
deriving DecidableEq, Repr, Inhabited

/-- A legacy query as a command. -/
structure QueryCommand where
  command : Document
  shape : ReplyShape
deriving Repr

/-- The database and the collection of a full collection name, neither of which may be empty. -/
def namespaceOf (full : String) : Except ServerError (String × String) :=
  let (db, coll) := Wire.splitNamespace full
  if db.isEmpty ∨ coll.isEmpty then
    .error (.ofCode .invalidNamespace s!"invalid namespace '{full}'")
  else .ok (db, coll)

/-- A field that is there under a condition. -/
def fieldIf (condition : Bool) (key : String) (v : Value) : Document :=
  if condition then [(key, v)] else []

/-- The read preference that the flag for secondaries stands for. -/
def secondaryPreferred : Value := .document [("mode", .string "secondaryPreferred")]

/-- The selector of a query, if it has fields, as a projection. -/
def projection (q : Query) : Document :=
  match q.selector with
  | some d => fieldIf (!d.isEmpty) "projection" (.document d)
  | none => []

/-! ### Commands in queries -/

/-- The command in a query document. A first key with a dollar wraps it, and the other fields are
added to it. -/
def unwrapCommand (query : Document) : Except ServerError Document :=
  match query with
  | [] => .error (.ofCode .failedToParse "empty command document")
  | (key, value) :: rest =>
    if key.startsWith "$" then
      match value with
      | .document inner => .ok (Document.insertAll inner rest)
      | _ => .error (Command.wrongType key "document")
    else .ok query

/-- A query on the command collection. -/
def commandQuery (q : Query) (db : String) : Except ServerError QueryCommand := do
  let command ← unwrapCommand q.query
  let command := command.insert "$db" (.string db)
  let command :=
    command.insertAll (fieldIf (0 < q.skip.toInt) "skip" (.int32 q.skip) ++ projection q)
  let name := command.firstKey?.getD ""
  let command :=
    -- of the commands that legacy clients send these two take a read preference
    if q.flags.slaveOk ∧ (name = "count" ∨ name = "distinct") then
      command.insert "readPreference" secondaryPreferred
    else command
  -- a client that asks for no cursor gets the documents themselves
  let unwrap := name == "aggregate" && !command.contains "cursor" && !command.contains "useCursor"
  return ⟨command, .command unwrap⟩

/-! ### Queries -/

/-- Whether a value asks for an explanation. -/
def asksExplain : Value → Bool
  | .boolean b => b
  | v => match v.toInt64? with
    | some n => n != 0
    | none => false

/-- The options of a query document: the filter, the fields that go with it, and whether an
explanation is asked for. -/
structure Options where
  filter : Document
  extra : Document
  explain : Bool

namespace Options

/-- No options. -/
def empty : Options := ⟨[], [], false⟩

/-- Takes in one option. Some have a name without a dollar besides. -/
def take (o : Options) (key : String) (v : Value) : Except ServerError Options :=
  match key with
  | "$query" | "query" =>
    match v with
    | .document d => .ok { o with filter := d }
    | _ => .error (Command.wrongType "$query" "document")
  -- all others go beside the filter, under the name that they have in the command
  | "$orderby" | "orderby" => .ok { o with extra := o.extra.insert "sort" v }
  | "$maxTimeMS" | "$hint" | "$snapshot" | "$comment" | "$collation" =>
    .ok { o with extra := o.extra.insert (key.drop 1).toString v }
  | "hint" | "snapshot" | "$readPreference" | "readPreference" | "comment" | "collation" =>
    .ok { o with extra := o.extra.insert key v }
  | "$explain" => .ok { o with explain := asksExplain v }
  | _ => .error (.ofCode .failedToParse s!"unsupported query modifier '{key}'")

/-- Takes the request for an explanation out of the filter. -/
def settle (o : Options) : Options :=
  let asked := match o.filter.get? "$explain" with
    | some (.boolean true) => true
    | _ => false
  { o with filter := o.filter.erase "$explain", explain := o.explain || asked }

/-- The options of a query document: one that does not start with an option is all filter. -/
def ofDocument (query : Document) : Except ServerError Options := do
  if modifiers.contains (query.firstKey?.getD "") then
    return (← query.foldlM (fun o f => o.take f.1 f.2) empty).settle
  else return (Options.mk query [] false).settle

end Options

/-- The fields that the counts of a query stand for. A negative number to return asks for a single
batch. -/
def countFields (q : Query) : Document :=
  fieldIf (0 < q.skip.toInt) "skip" (.int32 q.skip) ++
    (if 0 < q.limit.toInt then [("batchSize", .int32 q.limit)]
      else if q.limit.toInt < 0 then
        [("batchSize", .int32 (Int32.ofInt (min (-q.limit.toInt) Int32.maxValue.toInt))),
          ("singleBatch", .boolean true)]
      else [])

/-- The fields that the flags of a query stand for. -/
def flagFields (q : Query) : Document :=
  fieldIf q.flags.tailable "tailable" (.boolean true) ++
    fieldIf q.flags.slaveOk "readPreference" secondaryPreferred ++
    fieldIf q.flags.oplogReplay "oplogReplay" (.boolean true) ++
    fieldIf q.flags.noCursorTimeout "noCursorTimeout" (.boolean true) ++
    fieldIf q.flags.awaitData "awaitData" (.boolean true) ++
    fieldIf q.flags.allowPartial "allowPartialResults" (.boolean true)

/-- A query on any other collection. -/
def findQuery (q : Query) (db coll : String) : Except ServerError QueryCommand := do
  if q.flags.exhaust then
    .error (.ofCode .commandNotSupported "exhaust queries are not supported")
  let o ← Options.ofDocument q.query
  let command : Document :=
    [("find", .string coll), ("$db", .string db), ("filter", .document o.filter)]
  -- a later field takes the place of an earlier one with the same key
  let command := command.insertAll (o.extra ++ countFields q ++ projection q ++ flagFields q)
  if o.explain then return ⟨[("explain", .document command), ("$db", .string db)], .explain⟩
  else return ⟨command, .find⟩

/-- A legacy query as a command. -/
def queryCommand (q : Query) : Except ServerError QueryCommand := do
  let (db, coll) ← namespaceOf q.collection
  if coll = commandCollection then commandQuery q db
  else if coll.startsWith commandCollection then .error (.ofCode .commandNotFound "no such command")
  else findQuery q db coll

/-! ### Other requests -/

/-- A legacy request for more as a command. -/
def getMoreCommand (g : GetMore) : Except ServerError Document := do
  let (db, coll) ← namespaceOf g.collection
  return [("getMore", .int64 g.cursorId), ("batchSize", .int32 g.limit), ("$db", .string db),
    ("collection", .string coll)]

/-- A request to close cursors as a command. It names no database of its own. -/
def killCursorsCommand (ids : List Int64) : Document :=
  [("killCursors", .string defaultDatabase), ("cursors", .array (ids.map Value.int64))]

/-- Adds a part of a message to a command: a sequence is an array under its identifier. -/
def addSection (command : Document) : MsgSection → Except ServerError Document
  | .body _ => .ok command
  | .sequence identifier ds =>
    if identifier.contains '.' then
      .error (.ofCode .commandNotSupported s!"nested document sequence identifier '{identifier}'")
    -- what stands under the identifier already is overwritten
    else .ok (command.insert identifier (.array (ds.map Value.document)))

/-- The first body of a message. -/
def bodyOf (sections : List MsgSection) : Option Document :=
  sections.findSome? fun s =>
    match s with
    | .body d => some d
    | .sequence _ _ => none

/-- The command that the parts of a message make up: the body first, then the sequences. -/
def mergeSections (m : Msg) : Except ServerError Document := do
  let command ← m.sections.foldlM addSection ((bodyOf m.sections).getD [])
  if command.isEmpty then .error (.ofCode .failedToParse "OP_MSG carries no command document")
  else return command

end DocGateway.Legacy
