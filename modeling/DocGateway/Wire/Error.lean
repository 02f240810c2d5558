import DocGateway.Text.Hex
/-!
# Wire errors

What can go wrong while a message is read or written. Each cause has a kind, the name under which it
is known, and a message. What a compressor, the document format or a socket has to say itself is the
`detail` of its cause.
-/

namespace DocGateway.Wire

/-- A message has at most this many bytes. -/
def maxMessageSize : Nat := 48000000

/-- The header has this many bytes. -/
def headerSize : Nat := 16

inductive WireError where
  | invalidMessageLength (length : Int32)
  | messageTooLarge (size max : Nat)
  | unknownOpCode (code : Int32)
  | truncated (what : String) (needed : Nat)
  | trailingBytes (what : String) (remaining : Nat)
  | invalidDocumentLength (length : Int32)
  | unterminatedCString
  | invalidUtf8
  | unknownSectionKind (kind : UInt8)
  | invalidSectionSize (size : Int32)
  | invalidCursorCount (count : Int32)
  | checksumMismatch (expected actual : UInt32)
  | unknownCompressor (id : UInt8)
  | unknownCompressorName (name : String)
  | compression (compressor : String) (detail : Option String)
  | uncompressedSizeMismatch (declared : Int32) (actual : Nat)
  | bsonDecode (detail : Option String)
  | bsonEncode (detail : Option String)
  | io (detail : String)
  /-- A frame stands in an envelope of its own. The error stands for a call that does not return. -/
  | endlessEnvelopes
deriving DecidableEq, Repr, Inhabited

namespace WireError

/-- The name of the cause. -/
def kind : WireError → String
  | invalidMessageLength _ => "InvalidMessageLength"
  | messageTooLarge _ _ => "MessageTooLarge"
  | unknownOpCode _ => "UnknownOpCode"
  | truncated _ _ => "Truncated"
  | trailingBytes _ _ => "TrailingBytes"
  | invalidDocumentLength _ => "InvalidDocumentLength"
  | unterminatedCString => "UnterminatedCString"
  | invalidUtf8 => "InvalidUtf8"
  | unknownSectionKind _ => "UnknownSectionKind"
  | invalidSectionSize _ => "InvalidSectionSize"
  | invalidCursorCount _ => "InvalidCursorCount"
  | checksumMismatch _ _ => "ChecksumMismatch"
  | unknownCompressor _ => "UnknownCompressor"
  | unknownCompressorName _ => "UnknownCompressorName"
  | compression _ _ => "Compression"
  | uncompressedSizeMismatch _ _ => "UncompressedSizeMismatch"
  | bsonDecode _ => "BsonDecode"
  | bsonEncode _ => "BsonEncode"
  | io _ => "Io"
  | endlessEnvelopes => "EndlessEnvelopes"

/-- A word as eight hexadecimal digits behind `0x`. -/
def word (n : UInt32) : String :=
  "0x" ++ Hex.encode [(n >>> 24).toUInt8, (n >>> 16).toUInt8, (n >>> 8).toUInt8, n.toUInt8]

/-- A text, with the detail behind a colon if there is one. -/
def withDetail (text : String) (detail : Option String) : String :=
  match detail with
  | some d => text ++ ": " ++ d
  | none => text

/-- The text of the cause. -/
def message : WireError → String
  | invalidMessageLength n =>
    s!"invalid message length: {n} (must be between 16 and {maxMessageSize})"
  | messageTooLarge size max => s!"message too large: {size} bytes (max {max})"
  | unknownOpCode n => s!"unknown opcode: {n}"
  | truncated what needed => s!"truncated message: needed {needed} more bytes while reading {what}"
  | trailingBytes what remaining => s!"{remaining} unexpected trailing bytes after {what}"
  | invalidDocumentLength n => s!"invalid document length: {n}"
  | unterminatedCString => "unterminated C string"
  | invalidUtf8 => "invalid UTF-8 in C string"
  | unknownSectionKind n => s!"unknown section kind: {n}"
  | invalidSectionSize n => s!"invalid section size: {n}"
  | invalidCursorCount n => s!"invalid cursor count: {n}"
  | checksumMismatch expected actual =>
    "checksum mismatch: expected " ++ word expected ++ ", computed " ++ word actual
  | unknownCompressor n => s!"unknown compressor id: {n}"
  | unknownCompressorName s => s!"unknown compressor name: {s}"
  | compression compressor detail => withDetail (compressor ++ " compression failed") detail
  | uncompressedSizeMismatch declared actual =>
    s!"uncompressed size mismatch: header says {declared}, payload is {actual}"
  | bsonDecode detail => withDetail "BSON decode error" detail
  | bsonEncode detail => withDetail "BSON encode error" detail
  | io detail => s!"I/O error: {detail}"
  | endlessEnvelopes => "envelopes without end"

end WireError

end DocGateway.Wire
