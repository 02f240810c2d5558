import DocGateway.Wire.Stream
/-!
# Decoding with every step checked

Lengths, counts, sizes and offsets of all kinds are taken from the bytes of a message. The decoder
is written down here once more, step by step, with all that can go wrong in a step on such numbers:
a range that reaches out of its buffer, a difference below zero, a cast that changes a number, a
loop that does not get on. A step that goes wrong faults, which is no error that a client is told
of.

How often envelopes are nested is not bounded, so a decoder is given the number of frames that it
may open one inside another, and gives nothing if there are more.

## Key results

- `Checked.openFrame`: one frame
- `Checked.decode`: a frame and those in its envelopes
- `Checked.next`: the next message of a stream
-/

namespace DocGateway.Wire

open Bson (Document)

/-- Why a step is not carried out. -/
inductive Fault where
  /-- A range reaches out of its buffer. -/
  | outOfBounds
  /-- A difference is not a number of its type. -/
  | overflow
  /-- A number is not one of the type that it is cast to. -/
  | lossyCast
  /-- A loop goes round without taking a byte. -/
  | idleLoop
deriving DecidableEq, Repr, Inhabited

/-- What faults, fails with a wire error, or gives a result. -/
abbrev Checked (α : Type) := ExceptT WireError (Except Fault) α

/-- A reader of bodies whose steps are checked. -/
abbrev CheckedReader (α : Type) := StateT (List UInt8) Checked α

namespace Checked

/-! ### Steps that may fault -/

/-- What is left of a count. -/
def difference (a b : Nat) : Except Fault Nat := if b ≤ a then .ok (a - b) else .error .overflow

/-- What is left of a signed word. -/
def difference32 (a b : Int32) : Except Fault Int32 :=
  if (a - b).toInt = a.toInt - b.toInt then .ok (a - b) else .error .overflow

/-- A signed word as a count. -/
def toCount (n : Int32) : Except Fault Nat :=
  if 0 ≤ n.toInt then .ok n.toInt.toNat else .error .lossyCast

/-- A count as a signed word. -/
def toWord (n : Nat) : Except Fault Int32 :=
  if (Int32.ofNat n).toInt = n then .ok (Int32.ofNat n) else .error .lossyCast

/-- The bytes from one place up to another. -/
def slice (bs : List UInt8) (start stop : Nat) : Except Fault (List UInt8) :=
  if start ≤ stop ∧ stop ≤ bs.length then .ok ((bs.take stop).drop start) else .error .outOfBounds

/-- The bytes before a place and those from there on. -/
def splitAt (n : Nat) (bs : List UInt8) : Except Fault (List UInt8 × List UInt8) :=
  if n ≤ bs.length then .ok (bs.take n, bs.drop n) else .error .outOfBounds

/-- The word that starts at a place. -/
def wordAt (bs : List UInt8) (place : Nat) : Except Fault UInt32 := do
  let (word, _) ← splitAt 4 (← slice bs place bs.length)
  .ok (LittleEndian.toUInt32 word)

/-- Carries out a step. -/
def step {α : Type} (x : Except Fault α) : Checked α := ExceptT.lift x

/-- Fails with a cause. -/
def refuse {α : Type} (e : WireError) : Checked α := ExceptT.mk (.ok (.error e))

end Checked

/-! ### Readers of bodies -/

namespace CheckedReader

open Checked (difference difference32 toCount slice splitAt)

variable {α : Type}

/-- Carries out a step on what is left of the body. -/
def step (x : Except Fault α) : CheckedReader α := StateT.lift (Checked.step x)

/-- Fails with a cause. -/
def fail (e : WireError) : CheckedReader α := StateT.lift (Checked.refuse e)

/-- Fails if fewer than `n` bytes of what is named are left. -/
def ensure (n : Nat) (what : String) : CheckedReader Unit := do
  let bs ← get
  if bs.length < n then
    let missing ← step (difference n bs.length)
    fail (.truncated what missing)
  else pure ()

/-- Takes `n` bytes off the front, which must be there. -/
def advance (n : Nat) : CheckedReader (List UInt8) := do
  let (head, tail) ← step (splitAt n (← get))
  set tail
  pure head

/-- Exactly `n` bytes of what is named. -/
def bytes (n : Nat) (what : String) : CheckedReader (List UInt8) := do
  ensure n what
  advance n

/-- One byte. -/
def byte (what : String) : CheckedReader UInt8 := do
  match ← bytes 1 what with
  | b :: _ => pure b
  | [] => step (.error .outOfBounds)

def int32 (what : String) : CheckedReader Int32 := LittleEndian.toInt32 <$> bytes 4 what

def uint32 (what : String) : CheckedReader UInt32 := LittleEndian.toUInt32 <$> bytes 4 what

def int64 (what : String) : CheckedReader Int64 := LittleEndian.toInt64 <$> bytes 8 what

/-- The text before the next zero byte, which is looked for first. -/
def cstring : CheckedReader String := do
  let bs ← get
  match bs.findIdx? (· = 0) with
  | none => fail .unterminatedCString
  | some nul =>
    let text ← step (slice bs 0 nul)
    match Utf8.decode? text with
    | none => fail .invalidUtf8
    | some s =>
      set (← step (slice bs (nul + 1) bs.length))
      pure s

/-- A document with its own length in front. -/
def document : CheckedReader Document := do
  ensure 4 "document length"
  let length := LittleEndian.toInt32 (← step (slice (← get) 0 4))
  if length.toInt < 5 then fail (.invalidDocumentLength length)
  else
    ensure (← step (toCount length)) "document"
    let raw ← advance (← step (toCount length))
    match Document.decode? raw with
    | some d => pure d
    | none => fail (.bsonDecode none)

/-- Whether no byte is left. -/
def isEmpty : CheckedReader Bool := do
  return (← get).isEmpty

/-- Succeeds if no byte is left after what is named. -/
def finish (what : String) : CheckedReader Unit := do
  let bs ← get
  if bs.isEmpty then pure () else fail (.trailingBytes what bs.length)

/-- Reads items until no byte is left, `fuel` at most behind those already read. -/
def manySome (item : CheckedReader α) : (fuel : Nat) → (soFar : List α) → CheckedReader (List α)
  | 0, soFar => do
    if ← isEmpty then pure soFar.reverse else step (.error .idleLoop)
  | fuel + 1, soFar => do
    if ← isEmpty then pure soFar.reverse
    else
      let a ← item
      manySome item fuel (a :: soFar)

/-- Reads items until no byte is left. If each takes a byte at least, there are no more of them than
bytes. -/
def many (item : CheckedReader α) : CheckedReader (List α) := do
  manySome item (← get).length []

/-- Runs a reader on all of some bytes. -/
def runOn (r : CheckedReader α) (bs : List UInt8) : Checked α := Prod.fst <$> r bs

/-- Runs a reader on all of some bytes taken off before. -/
def within (r : CheckedReader α) (content : List UInt8) : CheckedReader α :=
  StateT.lift (r.runOn content)

/-! ### The bodies without envelope -/

def readQuery : CheckedReader Query := do
  let flags ← int32 "query flags"
  let collection ← cstring
  let skip ← int32 "numberToSkip"
  let limit ← int32 "numberToReturn"
  let query ← document
  let selector ← if ← isEmpty then pure none else some <$> document
  finish "OP_QUERY"
  pure { flags := ⟨flags⟩, collection, skip, limit, query, selector }

def readGetMore : CheckedReader GetMore := do
  let flags ← int32 "getMore flags"
  let collection ← cstring
  let limit ← int32 "numberToReturn"
  let cursorId ← int64 "cursorID"
  finish "OP_GET_MORE"
  pure { flags, collection, limit, cursorId }

/-- Exactly `n` cursor ids. -/
def cursorIds : Nat → CheckedReader (List Int64)
  | 0 => pure []
  | n + 1 => do
    let id ← int64 "cursorIDs"
    let ids ← cursorIds n
    pure (id :: ids)

/-- A list of cursors, of which so many are announced as there are bytes for. -/
def readKillCursors : CheckedReader KillCursors := do
  let _ ← int32 "reserved zero"
  let count ← int32 "numberOfCursorIDs"
  if count.toInt < 0 then fail (.invalidCursorCount count)
  else if (← get).length / 8 < (← step (toCount count)) then fail (.invalidCursorCount count)
  else
    let ids ← cursorIds (← step (toCount count))
    finish "OP_KILL_CURSORS"
    pure ⟨ids⟩

/-- A reply. The number of documents that it announces only says how much room is made for them. -/
def readReply : CheckedReader Reply := do
  let flags ← int32 "reply flags"
  let cursorId ← int64 "cursorID"
  let startingFrom ← int32 "startingFrom"
  let number ← int32 "numberReturned"
  -- room is made for as many documents, within reason
  let _ ← step (toCount (max 0 (min number 1024)))
  let documents ← many document
  pure { flags, cursorId, startingFrom, documents }

/-- What a section of several documents holds: an identifier and the documents. -/
def readSequence : CheckedReader MsgSection := do
  let identifier ← cstring
  .sequence identifier <$> many document

/-- A section of a command message. The size of one with several documents counts itself. -/
def readSection : CheckedReader MsgSection := do
  let kind ← byte "section kind"
  if kind = 0 then .body <$> document
  else if kind = 1 then
    let size ← int32 "section size"
    if size.toInt < 4 then fail (.invalidSectionSize size)
    else if (← get).length < (← step (toCount (← step (difference32 size 4)))) then
      fail (.invalidSectionSize size)
    else
      let content ← bytes (← step (toCount (← step (difference32 size 4)))) "section"
      readSequence.within content
  else fail (.unknownSectionKind kind)

/-! ### Headers -/

/-- The four words of a header. -/
def readHeader : CheckedReader Header := do
  let messageLength := LittleEndian.toInt32 (← advance 4)
  let requestId := LittleEndian.toInt32 (← advance 4)
  let responseTo := LittleEndian.toInt32 (← advance 4)
  let opcode := LittleEndian.toInt32 (← advance 4)
  pure { messageLength, requestId, responseTo, opcode }

/-- What stands in an envelope before the payload: the opcode and the size of what is inside, and
the compressor. -/
def readEnvelopeHead : CheckedReader (Int32 × Int32 × UInt8) := do
  let opcode ← int32 "originalOpcode"
  let size ← int32 "uncompressedSize"
  let id ← byte "compressorId"
  pure (opcode, size, id)

end CheckedReader

namespace Checked

/-! ### Command messages -/

/-- Where the sections of a body end, once the checksum behind them was found to be right. It stands
in the last four bytes of the message and covers all bytes before it. -/
def sectionsEnd (message body : List UInt8) (flags : MsgFlags) : Checked Nat := do
  if flags.checksumPresent then
    if body.length < 8 then refuse (.truncated "checksum" (← step (difference 8 body.length)))
    else
      let split ← step (difference message.length 4)
      let expected ← step (wordAt message split)
      let actual := Crc32c.checksum (← step (slice message 0 split))
      if expected ≠ actual then refuse (.checksumMismatch expected actual)
      else step (difference body.length 4)
  else pure body.length

/-- A command message, given with its header. -/
def readMsg (message : List UInt8) : Checked Msg := do
  let body ← step (slice message headerSize message.length)
  let flags ← (CheckedReader.uint32 "message flags").runOn body
  let stop ← sectionsEnd message body ⟨flags⟩
  return ⟨⟨flags⟩, ← (CheckedReader.many CheckedReader.readSection).runOn
    (← step (slice body 4 stop))⟩

/-! ### Headers -/

/-- Fails unless a length can frame a message. -/
def validate (length : Int32) : Checked Unit := do
  if length.toInt < headerSize then refuse (.invalidMessageLength length)
  else if maxMessageSize < (← step (toCount length)) then refuse (.invalidMessageLength length)
  else pure ()

/-- The header at the start of some bytes, if there are enough of them for one. -/
def peek (bs : List UInt8) : Checked (Option Header) := do
  if bs.length < headerSize then pure none
  else
    let h ← CheckedReader.readHeader.runOn (← step (slice bs 0 headerSize))
    validate h.messageLength
    pure (some h)

/-! ### Envelopes -/

/-- Fails if a payload announces that it expands to another number of bytes than expected. -/
def checkAnnounced (c : Compressor) (payload : List UInt8) (declared : Int32) (expected : Nat) :
    Checked Unit :=
  match c with
  | .snappy =>
    match Snappy.announced? payload with
    | none => refuse (malformed c)
    | some n => if n ≠ expected then refuse (.uncompressedSizeMismatch declared n) else pure ()
  | _ => pure ()

/-- The bytes that a payload expands to, if they are as many as declared. -/
def expand (c : Compressor) (payload : List UInt8) (declared : Int32) : Checked (List UInt8) := do
  if declared.toInt < 0 then refuse (.invalidMessageLength declared)
  else if maxMessageSize < (← step (toCount declared)) then refuse (.invalidMessageLength declared)
  else
    let expected ← step (toCount declared)
    checkAnnounced c payload declared expected
    match c.decompress? expected payload with
    | none => refuse (malformed c)
    | some plain =>
      if plain.length ≠ expected then refuse (.uncompressedSizeMismatch declared plain.length)
      else pure plain

/-- An envelope with its payload expanded and framed again. -/
def readEnvelope (h : Header) (body : List UInt8) : Checked Opened := do
  let ((opcode, size, id), payload) ← CheckedReader.readEnvelopeHead body
  match Compressor.ofId? id with
  | none => refuse (.unknownCompressor id)
  | some c =>
    let plain ← expand c payload size
    let messageLength ← step (toWord (plain.length + headerSize))
    validate messageLength
    pure (.envelope c (Header.bytes { h with messageLength, opcode } ++ plain))

/-! ### Frames -/

/-- What a body of a kind holds. The whole message is given too. -/
def openBody (h : Header) (message body : List UInt8) : Opcode → Checked Opened
  | .query => (.plain <| .query ·) <$> CheckedReader.readQuery.runOn body
  | .getMore => (.plain <| .getMore ·) <$> CheckedReader.readGetMore.runOn body
  | .killCursors => (.plain <| .killCursors ·) <$> CheckedReader.readKillCursors.runOn body
  | .reply => (.plain <| .reply ·) <$> CheckedReader.readReply.runOn body
  | .msg => (.plain <| .msg ·) <$> readMsg message
  | .compressed => readEnvelope h body

/-- Opens one frame, neither longer nor shorter than announced. -/
def openFrame (bs : List UInt8) : Checked (Header × Opened) := do
  match ← peek bs with
  | none => refuse (.truncated "header" (← step (difference headerSize bs.length)))
  | some h =>
    let length ← step (toCount h.messageLength)
    if bs.length < length then
      refuse (.truncated "message body" (← step (difference length bs.length)))
    else if length < bs.length then
      refuse (.trailingBytes "message" (← step (difference bs.length length)))
    else
      match Opcode.ofCode? h.opcode with
      | none => refuse (.unknownOpCode h.opcode)
      | some op => return (h, ← openBody h bs (← step (slice bs headerSize length)) op)

/-! ### Messages -/

/-- Reads a message from exactly its bytes, and those in its envelopes. Nothing is given if there
are more than `depth` frames inside one another. -/
def decode : (depth : Nat) → List UInt8 → Except Fault (Option (Except WireError Message))
  | 0, _ => .ok none
  | depth + 1, bs => do
    match ← (openFrame bs).run with
    | .error e => .ok (some (.error e))
    | .ok (h, .plain body) => .ok (some (.ok ⟨h.requestId, h.responseTo, body⟩))
    | .ok (h, .envelope c inner) =>
      let result? ← decode depth inner
      .ok (result?.map fun result => result.map fun m =>
        ⟨h.requestId, h.responseTo, .compressed c m.body⟩)

/-- Takes off the next message, if all of it has arrived. -/
def next (depth : Nat) (s : Stream) :
    Except Fault (Option (Except WireError (Option Message)) × Stream) := do
  match ← (peek s.buffer).run with
  | .error e => .ok (some (.error e), s)
  | .ok none => .ok (some (.ok none), s)
  | .ok (some h) =>
    let length ← toCount h.messageLength
    if s.buffer.length < length then
      -- room is made for what is missing
      let _ ← difference length s.buffer.length
      .ok (some (.ok none), s)
    else
      let (frame, rest) ← splitAt length s.buffer
      let result? ← decode depth frame
      .ok (result?.map (some <$> ·), ⟨rest⟩)

end Checked

end DocGateway.Wire
