/-!
# Opcodes

The kind of a message is a number in its header.
-/

namespace DocGateway.Wire

/-- The kinds of messages. -/
inductive Opcode where
  | reply | query | getMore | killCursors | compressed | msg
deriving DecidableEq, Repr, Inhabited

namespace Opcode

/-- The number in the header. -/
def code : Opcode → Int32
  | reply => 1
  | query => 2004
  | getMore => 2005
  | killCursors => 2007
  | compressed => 2012
  | msg => 2013

/-- The name in logs and metrics. -/
def name : Opcode → String
  | reply => "OP_REPLY"
  | query => "OP_QUERY"
  | getMore => "OP_GET_MORE"
  | killCursors => "OP_KILL_CURSORS"
  | compressed => "OP_COMPRESSED"
  | msg => "OP_MSG"

/-- All opcodes, by ascending number. -/
def all : List Opcode := [reply, query, getMore, killCursors, compressed, msg]

/-- The opcode with a number. -/
def ofCode? (n : Int32) : Option Opcode := all.find? (·.code == n)

/-- `ofCode?` finds an operation by its `code`. -/
@[simp] theorem ofCode?_code (op : Opcode) : ofCode? op.code = some op := by cases op <;> decide

/-- `ofCode?` finds an operation by no other number. -/
theorem ofCode?_eq_some_iff {n : Int32} {op : Opcode} : ofCode? n = some op ↔ n = op.code := by
  constructor
  · intro h
    have := List.find?_some h
    exact (eq_of_beq this).symm
  · rintro rfl
    exact ofCode?_code op

end Opcode

end DocGateway.Wire
