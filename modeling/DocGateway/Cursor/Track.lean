import DocGateway.Command.Parse
import DocGateway.Cursor.Cache
/-!
# Cursors in responses

The cache follows the responses to commands: a cursor that a response names is cached, one that a
response exhausts or that was killed is removed. Failed commands change nothing.
-/

namespace DocGateway

open Bson (Document Value)

/-- The cursor that a response names. -/
def respondedCursor? (response : Document) : Option Int64 := do
  let cursor ← response.getDocument? "cursor"
  let id ← cursor.get? "id"
  id.toInt64?

namespace CursorCache

/-- Removes some cursors. -/
def closeAll (c : CursorCache) (ids : List Int64) : CursorCache := ids.foldl close c

/-- Brings the cache up to date with the response to a command. The cursor is reported if it was not
cached before. -/
def track (c : CursorCache) (now : Nat) (command : Command) (response : Document) :
    Option Int64 × CursorCache :=
  if ¬ isOk response then (none, c)
  else
    match command.kind with
    | .killCursors => (none, c.closeAll command.cursorIds)
    | _ =>
      match respondedCursor? response with
      | none => (none, c)
      | some id =>
        if id = exhaustedCursor then (none, c.closeAll command.cursorId?.toList)
        else (if c.contains id then none else some id, (c.get now id).2)

end CursorCache

end DocGateway
