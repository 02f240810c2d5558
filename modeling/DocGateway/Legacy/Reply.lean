import DocGateway.Cursor.Track
import DocGateway.Legacy.Request
/-!
# Legacy replies

The response to a request that became a command is given in the shape that a legacy client expects.
What a first batch holds is added to the count of documents sent from its cursor, and each later
batch starts where the count stands.
-/

namespace DocGateway.Legacy

open Bson (Document Value)
open Wire (Reply)

/-- A reply of no documents. -/
def emptyReply : Reply := { flags := 0, cursorId := 0, startingFrom := 0, documents := [] }

/-- A reply of one document. -/
def singleReply (d : Document) : Reply := { emptyReply with documents := [d] }

/-! ### Cursors and batches of responses -/

/-- The cursor of a response. -/
def cursorOf (response : Document) : Except ServerError (Option Document) :=
  match response.get? "cursor" with
  | none => .ok none
  | some (.document cursor) => .ok (some cursor)
  | some _ => .error (.internal "wrong type for cursor")

/-- The identifier of a cursor. A cursor without one is exhausted. -/
def idOf (cursor : Document) : Int64 :=
  ((cursor.get? "id").bind Value.toInt64?).getD exhaustedCursor

/-- The items of a batch of a cursor. -/
def itemsOf (cursor : Document) (key : String) : Except ServerError (Option (List Value)) :=
  match cursor.get? key with
  | none => .ok none
  | some (.array items) => .ok (some items)
  | some _ => .error (.internal s!"wrong type for cursor.{key}")

/-- The documents of a batch. -/
def documentsOf (items : List Value) : Except ServerError (List Document) :=
  match items.mapM Value.asDocument? with
  | some ds => .ok ds
  | none => .error (.internal "cursor batch holds a non-document")

/-- The cursor that a response continues, and its batch under a key if there is one. -/
def batchOf (response : Document) (key : String) :
    Except ServerError (Int64 × Option (List Document)) := do
  match ← cursorOf response with
  | none => return (exhaustedCursor, none)
  | some cursor =>
    match ← itemsOf cursor key with
    | none => return (idOf cursor, none)
    | some items => return (idOf cursor, some (← documentsOf items))

/-! ### Replies to queries -/

/-- A reply, and the number of documents that it takes from a cursor. -/
structure FirstReply where
  reply : Reply
  taken : Option (Int64 × Nat)
deriving Repr

/-- The reply to a command in a query. -/
def commandReply (unwrap : Bool) (response : Document) : Except ServerError FirstReply := do
  match ← cursorOf response with
  | none => return ⟨singleReply response, none⟩
  | some cursor =>
    let items ← itemsOf cursor "firstBatch"
    let taken := items.map fun xs => (idOf cursor, xs.length)
    if unwrap then
      match items with
      | some xs => return ⟨singleReply [("ok", .int32 1), ("result", .array xs)], taken⟩
      | none => .error (.internal "missing firstBatch in cursor response")
    else return ⟨singleReply response, taken⟩

/-- The reply to a find query. -/
def findReply (response : Document) : Except ServerError FirstReply := do
  let (id, batch) ← batchOf response "firstBatch"
  return ⟨{ emptyReply with cursorId := id, documents := batch.getD [] },
    batch.map fun ds => (id, ds.length)⟩

/-- The reply to a query. A failure is given as one document whatever the shape. -/
def firstReply (shape : ReplyShape) (response : Document) : Except ServerError FirstReply :=
  if ¬ isOk response then .ok ⟨singleReply response, none⟩
  else
    match shape with
    | .explain => .ok ⟨singleReply response, none⟩
    | .command unwrap => commandReply unwrap response
    | .find => findReply response

/-- Adds what a reply takes to the count of its cursor. -/
def recordTaken (cursors : CursorCache) (now : Nat) : Option (Int64 × Nat) → CursorCache
  | none => cursors
  | some (id, n) =>
    if id = exhaustedCursor then cursors
    else
      let (h, cursors) := cursors.get now id
      cursors.consume h n

/-- The reply to a query, with the cache after it. -/
def queryReply (cursors : CursorCache) (now : Nat) (shape : ReplyShape) (response : Document) :
    Except ServerError Reply × CursorCache :=
  match firstReply shape response with
  | .ok first => (.ok first.reply, recordTaken cursors now first.taken)
  | .error e => (.error e, cursors)

/-! ### Replies to requests for more -/

/-- The place of a document in its result set, as the reply can tell it. -/
def startingFrom (consumed : Nat) : Int32 := Int32.ofInt (min consumed Int32.maxValue.toInt)

/-- The reply to a request for more, with the cache after it. The handle was looked up before the
command ran, so that the count outlives a cursor that the response exhausts. -/
def getMoreReply (cursors : CursorCache) (h : CursorHandle) (response : Document) :
    Except ServerError Reply × CursorCache :=
  if ¬ isOk response then (.ok (singleReply response), cursors)
  else
    match batchOf response "nextBatch" with
    | .error e => (.error e, cursors)
    | .ok (id, batch) =>
      let documents := batch.getD []
      let consumed := ((cursors.entry? h).map (·.consumed)).getD 0
      (.ok { emptyReply with cursorId := id, startingFrom := startingFrom consumed, documents },
        cursors.consume h documents.length)

end DocGateway.Legacy
