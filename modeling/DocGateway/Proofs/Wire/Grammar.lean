import DocGateway.Wire.Decode
import DocGateway.Wire.Encode
/-!
# The grammar of messages

Which byte strings are messages, and which messages they spell, said without a reader: every part is
a piece of the byte string, and the pieces in their order are the whole of it. `Spells` is the
grammar of whole messages. An envelope spells what its payload spells, under a header with the same
numbers, once it is expanded; the grammar sets no bound on how often envelopes are nested.
-/

namespace DocGateway.Wire

open Bson (Document)

/-- Items one after another, from the first byte to the last. -/
inductive Tiles {α : Type} (item : List UInt8 → α → Prop) : List UInt8 → List α → Prop where
  | nil : Tiles item [] []
  | cons {piece rest : List UInt8} {a : α} {as : List α} :
      item piece a → Tiles item rest as → Tiles item (piece ++ rest) (a :: as)

/-- A document. -/
def IsDocument (bs : List UInt8) (d : Document) : Prop := Document.decode? bs = some d

/-- Whether no zero byte stands in a text, so that one can end it. -/
def IsTerminated (s : String) : Prop := 0 ∉ Utf8.encode s

/-- A section: a document, or a size that counts itself, an identifier and documents. -/
inductive IsSection : List UInt8 → MsgSection → Prop where
  | body {doc : List UInt8} {d : Document} : IsDocument doc d → IsSection (0 :: doc) (.body d)
  | sequence {size : Int32} {identifier : String} {docs : List UInt8} {ds : List Document} :
      IsTerminated identifier → Tiles IsDocument docs ds →
      size.toInt = 4 + ((Bson.cstring identifier).length + docs.length : Nat) →
      IsSection (1 :: (LittleEndian.int32 size ++ (Bson.cstring identifier ++ docs)))
        (.sequence identifier ds)

/-- What stands behind the sections: the checksum of all bytes before it, if there is to be one. -/
def checksumBytes (flags : MsgFlags) (covered : List UInt8) : List UInt8 :=
  if flags.checksumPresent then LittleEndian.uint32 (Crc32c.checksum covered) else []

/-- A body without envelope behind a header. -/
inductive IsPlainBody (header : List UInt8) : List UInt8 → Body → Prop where
  | query {q : Query} {query selector : List UInt8} :
      IsTerminated q.collection → IsDocument query q.query →
      Tiles IsDocument selector q.selector.toList →
      IsPlainBody header
        (LittleEndian.int32 q.flags.bits ++ (Bson.cstring q.collection ++
          (LittleEndian.int32 q.skip ++ (LittleEndian.int32 q.limit ++ (query ++ selector)))))
        (.query q)
  | getMore {g : GetMore} :
      IsTerminated g.collection →
      IsPlainBody header
        (LittleEndian.int32 g.flags ++ (Bson.cstring g.collection ++
          (LittleEndian.int32 g.limit ++ LittleEndian.int64 g.cursorId)))
        (.getMore g)
  | killCursors {k : KillCursors} {reserved count : Int32} :
      count.toInt = k.cursorIds.length →
      IsPlainBody header
        (LittleEndian.int32 reserved ++ (LittleEndian.int32 count ++ cursorIdsBytes k.cursorIds))
        (.killCursors k)
  | reply {r : Reply} {count : Int32} {docs : List UInt8} :
      Tiles IsDocument docs r.documents →
      IsPlainBody header
        (LittleEndian.int32 r.flags ++ (LittleEndian.int64 r.cursorId ++
          (LittleEndian.int32 r.startingFrom ++ (LittleEndian.int32 count ++ docs))))
        (.reply r)
  | msg {m : Msg} {sections : List UInt8} :
      Tiles IsSection sections m.sections →
      IsPlainBody header
        (LittleEndian.uint32 m.flags.bits ++ (sections ++
          checksumBytes m.flags (header ++ (LittleEndian.uint32 m.flags.bits ++ sections))))
        (.msg m)

/-- A header and a body. The header tells how many bytes they are together, which is not too
many. -/
structure IsFrame (bs : List UInt8) (h : Header) (body : List UInt8) : Prop where
  eq_append : bs = h.bytes ++ body
  length_eq : h.messageLength.toInt = bs.length
  length_le : bs.length ≤ maxMessageSize

/-- A message: a frame around a body, or around an envelope whose payload expands to the body of a
frame with the same numbers. -/
inductive Spells : List UInt8 → Message → Prop where
  | plain {bs body : List UInt8} {h : Header} {b : Body} :
      IsFrame bs h body → h.opcode = b.opcode.code → IsPlainBody h.bytes body b →
      Spells bs ⟨h.requestId, h.responseTo, b⟩
  | envelope {bs payload plain framed : List UInt8} {h : Header} {opcode size length : Int32}
      {c : Compressor} {m : Message} :
      IsFrame bs h (LittleEndian.int32 opcode ++ (LittleEndian.int32 size ++ (c.id :: payload))) →
      h.opcode = Opcode.compressed.code →
      c.decompress? plain.length payload = some plain → size.toInt = plain.length →
      IsFrame framed ⟨length, h.requestId, h.responseTo, opcode⟩ plain → Spells framed m →
      Spells bs ⟨h.requestId, h.responseTo, .compressed c m.body⟩

end DocGateway.Wire
