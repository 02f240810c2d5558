import DocGateway.Command.ErrorCode
import DocGateway.Wire.Error
/-!
# Errors of the gateway

What can go wrong while a command is handled. Errors of the byte stream are fatal: they close the
connection. All others are answered with a document.
-/

namespace DocGateway

open Bson (Document Value)

/-- The failure of one command, as a stage or a backend reports it. -/
structure CommandError where
  code : Int32
  codeName : String
  message : String
  labels : List String
deriving DecidableEq, Repr, Inhabited

/-- One failed item of a write batch. -/
structure WriteError where
  index : Int32
  code : Int32
  message : String
deriving DecidableEq, Repr, Inhabited

/-- A write concern that was not satisfied. -/
structure WriteConcernError where
  code : Int32
  codeName : String
  message : String
deriving DecidableEq, Repr, Inhabited

/-- The failed items of a write batch, and perhaps a write concern that was not satisfied. -/
structure WriteFailure where
  errors : List WriteError
  concern : Option WriteConcernError
  labels : List String
deriving DecidableEq, Repr, Inhabited

/-- The failure of a command with one of the gateway's own codes. -/
def CommandError.ofCode (c : ErrorCode) (message : String) : CommandError :=
  ⟨c.number, c.name, message, []⟩

/-- The document of a write concern that was not satisfied. -/
def WriteConcernError.document (e : WriteConcernError) : Document :=
  [("code", .int32 e.code), ("codeName", .string e.codeName), ("errmsg", .string e.message)]

/-- The document of a failed item. -/
def WriteError.document (e : WriteError) : Document :=
  [("code", .int32 e.code), ("errmsg", .string e.message), ("index", .int32 e.index)]

/-- The field of error labels, which is left out when there are none. -/
def labelFields (labels : List String) : Document :=
  if labels.isEmpty then [] else [("errorLabels", .array (labels.map Value.string))]

/-- The fields that tell of failed writes. -/
def WriteFailure.fields (f : WriteFailure) : Document :=
  ("writeErrors", .array (f.errors.map fun e => .document e.document)) ::
    (match f.concern with
      | some e => [("writeConcernError", .document e.document)]
      | none => [])
    ++ labelFields f.labels

inductive ServerError where
  | io (detail : String)
  | wire (e : Wire.WireError)
  | command (e : CommandError)
  | writeException (f : WriteFailure)
  | writeConcern (e : WriteConcernError)
  | bulkWrite (f : WriteFailure)
  | cancelled
  | bson (detail : Option String)
  | config (detail : String)
  | internal (detail : String)
deriving DecidableEq, Repr, Inhabited

namespace ServerError

/-- The failure of a command with one of the gateway's own codes. -/
def ofCode (c : ErrorCode) (message : String) : ServerError := .command (.ofCode c message)

/-- The name of the cause. -/
def kind : ServerError → String
  | io _ => "Io"
  | wire _ => "Wire"
  | command _ => "Command"
  | writeException _ => "WriteException"
  | writeConcern _ => "WriteConcern"
  | bulkWrite _ => "BulkWrite"
  | cancelled => "Cancelled"
  | bson _ => "Bson"
  | config _ => "Config"
  | internal _ => "Internal"

/-- The text of the cause. -/
def message : ServerError → String
  | io detail => s!"I/O error: {detail}"
  | wire e => "wire error: " ++ e.message
  | command e => s!"command error {e.codeName}({e.code}): {e.message}"
  | writeException f => s!"write exception: {f.errors.length} write errors"
  | writeConcern e => s!"write concern error: {e.message}"
  | bulkWrite f => s!"bulk write exception: {f.errors.length} write errors"
  | cancelled => "operation was interrupted"
  | bson detail => Wire.WireError.withDetail "BSON error" detail
  | config detail => s!"configuration error: {detail}"
  | internal detail => s!"internal error: {detail}"

/-- The closest of the gateway's own codes. -/
def code : ServerError → ErrorCode
  | command e => (ErrorCode.ofNumber? e.code).getD .internalError
  | cancelled => .interrupted
  | bson _ => .failedToParse
  | _ => .internalError

/-- Whether the error is one of the byte stream. -/
def isFatal : ServerError → Bool
  | io _ | wire _ => true
  | _ => false

/-- The document that answers a request with this error. A write batch that failed in part has
succeeded as a command. -/
def document : ServerError → Document
  | command e =>
    [("ok", .int32 0), ("errmsg", .string e.message), ("code", .int32 e.code),
      ("codeName", .string e.codeName)]
      ++ labelFields e.labels
  | writeException f => [("ok", .int32 0), ("n", .int32 0)] ++ f.fields
  | writeConcern e => [("ok", .int32 0), ("writeConcernError", .document e.document)]
  | bulkWrite f => [("ok", .int32 1), ("n", .int32 0)] ++ f.fields
  | cancelled => ErrorCode.interrupted.document cancelled.message
  | bson detail => ErrorCode.failedToParse.document (detail.getD "")
  | e => ErrorCode.internalError.document e.message

end ServerError

end DocGateway
