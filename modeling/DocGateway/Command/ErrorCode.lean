import DocGateway.Bson.Value
/-!
# Error codes

The codes that the gateway itself answers with. A code has a number and a name, and both are found
in error documents.
-/

namespace DocGateway

open Bson (Document)

inductive ErrorCode where
  | internalError
  | badValue
  | failedToParse
  | unauthorized
  | illegalOperation
  | cursorNotFound
  | maxTimeExpired
  | commandNotFound
  | invalidNamespace
  | commandNotSupported
  | interrupted
deriving DecidableEq, Repr, Inhabited

namespace ErrorCode

/-- The number of a code. -/
def number : ErrorCode → Int32
  | internalError => 1
  | badValue => 2
  | failedToParse => 9
  | unauthorized => 13
  | illegalOperation => 20
  | cursorNotFound => 43
  | maxTimeExpired => 50
  | commandNotFound => 59
  | invalidNamespace => 73
  | commandNotSupported => 115
  | interrupted => 11601

/-- The name of a code. -/
def name : ErrorCode → String
  | internalError => "InternalError"
  | badValue => "BadValue"
  | failedToParse => "FailedToParse"
  | unauthorized => "Unauthorized"
  | illegalOperation => "IllegalOperation"
  | cursorNotFound => "CursorNotFound"
  | maxTimeExpired => "MaxTimeMSExpired"
  | commandNotFound => "CommandNotFound"
  | invalidNamespace => "InvalidNamespace"
  | commandNotSupported => "CommandNotSupported"
  | interrupted => "Interrupted"

/-- All codes, by ascending number. -/
def all : List ErrorCode :=
  [internalError, badValue, failedToParse, unauthorized, illegalOperation, cursorNotFound,
    maxTimeExpired, commandNotFound, invalidNamespace, commandNotSupported, interrupted]

/-- The code with a number. -/
def ofNumber? (n : Int32) : Option ErrorCode := all.find? (·.number == n)

/-- Whether a client may reasonably try again after this error. -/
def isRetryable (c : ErrorCode) : Bool := c = interrupted ∨ c = maxTimeExpired ∨ c = internalError

/-- The name with the number in parentheses. -/
def display (c : ErrorCode) : String := s!"{c.name}({c.number})"

/-- The document that answers a request with this error. -/
def document (c : ErrorCode) (message : String) : Document :=
  [("ok", .int32 0), ("errmsg", .string message), ("code", .int32 c.number),
    ("codeName", .string c.name)]

/-- `ofNumber?` finds a code by its `number`. -/
@[simp] theorem ofNumber?_number (c : ErrorCode) : ofNumber? c.number = some c := by
  cases c <;> decide

end ErrorCode

end DocGateway
