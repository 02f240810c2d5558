import DocGateway.Bson.Encode
import DocGateway.Compression.Codec
import DocGateway.Number.Sum
import DocGateway.Wire.Crc32c
import DocGateway.Wire.Header
import DocGateway.Wire.Message
/-!
# Encoding messages

`Message.encode` writes a message. Its length, the sizes of its sections, its counts and its
checksum are worked out from what is written. The size of a body is known before any byte of it is
written, so that one that is too large is refused at once:

* `length_plainBytes`   `b.plainBytes.length = b.plainSize`
-/

namespace DocGateway.Wire

open Bson (Document)

/-! ### Documents and cursor ids -/

/-- The bytes of documents, one after another. -/
def documentsBytes (ds : List Document) : List UInt8 := ds.flatMap Document.bytes

/-- The number of bytes of documents. -/
def documentsSize (ds : List Document) : Nat := sum (ds.map Document.size)

/-- The bytes of cursor ids, one after another. -/
def cursorIdsBytes (ids : List Int64) : List UInt8 := ids.flatMap LittleEndian.int64

/-- `documentsBytes` are as many as `documentsSize` says. -/
@[simp] theorem length_documentsBytes (ds : List Document) :
    (documentsBytes ds).length = documentsSize ds := by
  induction ds with
  | nil => rfl
  | cons d ds ih =>
    simp only [documentsBytes, documentsSize] at ih
    simp [documentsBytes, documentsSize, Document.length_bytes, ih]

/-- `cursorIdsBytes` take eight bytes for each number. -/
@[simp] theorem length_cursorIdsBytes (ids : List Int64) :
    (cursorIdsBytes ids).length = 8 * ids.length := by
  induction ids with
  | nil => rfl
  | cons id ids ih =>
    simp only [cursorIdsBytes] at ih
    simp [cursorIdsBytes, ih]; omega

/-! ### Sections -/

namespace MsgSection

/-- The number of bytes of a section. -/
def size : MsgSection → Nat
  | body d => d.size + 1
  | sequence identifier ds => identifier.utf8ByteSize + documentsSize ds + 6

/-- The bytes of a section: its kind, then one document, or a size that counts itself, an identifier
and documents. -/
def bytes : MsgSection → List UInt8
  | body d => 0 :: d.bytes
  | sequence identifier ds =>
    let content := Bson.cstring identifier ++ documentsBytes ds
    1 :: LittleEndian.encode 4 (content.length + 4) ++ content

/-- The documents of a section. -/
def documents : MsgSection → List Document
  | body d => [d]
  | sequence _ ds => ds

/-- `bytes` of a section are as many as its `size` says. -/
theorem length_bytes (s : MsgSection) : s.bytes.length = s.size := by
  cases s with
  | body d => simp [bytes, size, Document.length_bytes]
  | sequence identifier ds => simp [bytes, size]; omega

end MsgSection

/-- The bytes of sections, one after another. -/
def sectionsBytes (ss : List MsgSection) : List UInt8 := ss.flatMap MsgSection.bytes

/-- The number of bytes of sections. -/
def sectionsSize (ss : List MsgSection) : Nat := sum (ss.map MsgSection.size)

/-- `sectionsBytes` are as many as `sectionsSize` says. -/
@[simp] theorem length_sectionsBytes (ss : List MsgSection) :
    (sectionsBytes ss).length = sectionsSize ss := by
  induction ss with
  | nil => rfl
  | cons s ss ih =>
    simp only [sectionsBytes, sectionsSize] at ih
    simp [sectionsBytes, sectionsSize, MsgSection.length_bytes, ih]

/-! ### Bodies without envelope -/

namespace Body

/-- The documents of a body without envelope. -/
def documents : Body → List Document
  | query q => q.query :: q.selector.toList
  | reply r => r.documents
  | msg m => m.sections.flatMap MsgSection.documents
  | getMore _ | killCursors _ | compressed _ _ => []

/-- The number of bytes of a body without envelope, its checksum apart. -/
def plainSize : Body → Nat
  | query q =>
    q.collection.utf8ByteSize + 13 + q.query.size + documentsSize q.selector.toList
  | getMore g => g.collection.utf8ByteSize + 17
  | killCursors k => 8 * k.cursorIds.length + 8
  | reply r => documentsSize r.documents + 20
  | msg m => sectionsSize m.sections + 4
  | compressed _ _ => 0

/-- The bytes of a body without envelope, its checksum apart. -/
def plainBytes : Body → List UInt8
  | query q =>
    LittleEndian.int32 q.flags.bits ++ Bson.cstring q.collection ++ LittleEndian.int32 q.skip
      ++ LittleEndian.int32 q.limit ++ q.query.bytes ++ documentsBytes q.selector.toList
  | getMore g =>
    LittleEndian.int32 g.flags ++ Bson.cstring g.collection ++ LittleEndian.int32 g.limit
      ++ LittleEndian.int64 g.cursorId
  | killCursors k =>
    LittleEndian.int32 0 ++ LittleEndian.encode 4 k.cursorIds.length
      ++ cursorIdsBytes k.cursorIds
  | reply r =>
    LittleEndian.int32 r.flags ++ LittleEndian.int64 r.cursorId
      ++ LittleEndian.int32 r.startingFrom ++ LittleEndian.encode 4 r.documents.length
      ++ documentsBytes r.documents
  | msg m => LittleEndian.uint32 m.flags.bits ++ sectionsBytes m.sections
  | compressed _ _ => []

/-- `plainBytes` are as many as `plainSize` says. -/
theorem length_plainBytes (b : Body) : b.plainBytes.length = b.plainSize := by
  cases b with
  | query q => simp [plainBytes, plainSize, Document.length_bytes]; omega
  | getMore g => simp [plainBytes, plainSize]; omega
  | killCursors k => simp [plainBytes, plainSize]; omega
  | reply r => simp [plainBytes, plainSize]; omega
  | msg m => simp [plainBytes, plainSize]; omega
  | compressed c inner => rfl

/-- Whether the bytes of a body are followed by their checksum. -/
def hasChecksum : Body → Bool
  | msg m => m.flags.checksumPresent
  | _ => false

end Body

/-! ### Messages -/

/-- Puts a header in front of the bytes of a body, and a checksum of both behind if asked for. -/
def close (requestId responseTo : Int32) (opcode : Opcode) (checksum : Bool) (body : List UInt8) :
    List UInt8 :=
  let total := body.length + headerSize + (if checksum then 4 else 0)
  let framed := Header.bytes ⟨Int32.ofNat total, requestId, responseTo, opcode.code⟩ ++ body
  if checksum then framed ++ LittleEndian.uint32 (Crc32c.checksum framed) else framed

/-- The error of a message with this many bytes, if it is too large. -/
def checkSize (total : Nat) : Except WireError Unit :=
  if maxMessageSize < total then .error (.messageTooLarge total maxMessageSize) else .ok ()

/-- The bytes of an envelope: the opcode and the size of what is inside, the compressor, and the
payload. -/
def envelopeBytes (c : Compressor) (inner : Opcode) (plain : List UInt8) : List UInt8 :=
  LittleEndian.int32 inner.code ++ LittleEndian.encode 4 plain.length ++ c.id :: c.compress plain

/-- Writes a body under a header with these numbers. -/
def Body.encode (requestId responseTo : Int32) : Body → Except WireError (List UInt8)
  | compressed c inner => do
    let framed ← inner.encode requestId responseTo
    let body := envelopeBytes c inner.opcode (framed.drop headerSize)
    checkSize (body.length + headerSize)
    return close requestId responseTo .compressed false body
  | b => do
    if ¬ b.documents.all Document.isWritable then .error (.bsonEncode none)
    checkSize (b.plainSize + headerSize + (if b.hasChecksum then 4 else 0))
    return close requestId responseTo b.opcode b.hasChecksum b.plainBytes

/-- Writes a message. -/
def Message.encode (m : Message) : Except WireError (List UInt8) :=
  m.body.encode m.requestId m.responseTo

end DocGateway.Wire
