import DocGateway.Compression.Codec
import DocGateway.Wire.Crc32c
import DocGateway.Wire.Envelope
import DocGateway.Wire.Header
import DocGateway.Wire.Message
import DocGateway.Wire.Reader
/-!
# Decoding messages

`Message.decode` reads one message from exactly its bytes. Each body is read to its last byte; a
command message with the checksum flag is checked before its sections are looked at. The payload of
an envelope is read as a message of its own, under a header with the same numbers, as often as
envelopes are nested.

A payload may expand to another envelope that is no shorter than the one around it, so the bytes do
not bound the nesting. There are finitely many frames, however: envelopes that go on for ever come
to a frame for the second time. `Message.readInside` knows the frames that it is inside of, and
fails there.
-/

namespace DocGateway.Wire

open Reader

/-! ### The bodies without envelope -/

def readQuery : Reader Query := do
  let flags ← int32 "query flags"
  let collection ← cstring
  let skip ← int32 "numberToSkip"
  let limit ← int32 "numberToReturn"
  let query ← document
  let selector ← if ← isEmpty then pure none else some <$> document
  finish "OP_QUERY"
  pure { flags := ⟨flags⟩, collection, skip, limit, query, selector }

def readGetMore : Reader GetMore := do
  let flags ← int32 "getMore flags"
  let collection ← cstring
  let limit ← int32 "numberToReturn"
  let cursorId ← int64 "cursorID"
  finish "OP_GET_MORE"
  pure { flags, collection, limit, cursorId }

/-- Exactly `n` cursor ids. -/
def cursorIds : Nat → Reader (List Int64)
  | 0 => pure []
  | n + 1 => do
    let id ← int64 "cursorIDs"
    let ids ← cursorIds n
    pure (id :: ids)

def readKillCursors : Reader KillCursors := do
  let _ ← int32 "reserved zero"
  let count ← int32 "numberOfCursorIDs"
  let bs ← get
  if count.toInt < 0 ∨ (bs.length / 8 : Nat) < count.toInt then fail (.invalidCursorCount count)
  let ids ← cursorIds count.toInt.toNat
  finish "OP_KILL_CURSORS"
  pure ⟨ids⟩

def readReply : Reader Reply := do
  let flags ← int32 "reply flags"
  let cursorId ← int64 "cursorID"
  let startingFrom ← int32 "startingFrom"
  let _ ← int32 "numberReturned"
  let documents ← many document
  pure { flags, cursorId, startingFrom, documents }

/-- What a section of several documents holds: an identifier and the documents. -/
def readSequence : Reader MsgSection := do
  let identifier ← cstring
  .sequence identifier <$> many document

/-- A section of a command message: its kind, then one document, or a size that counts itself, an
identifier and documents. -/
def readSection : Reader MsgSection := do
  let kind ← byte "section kind"
  if kind = 0 then .body <$> document
  else if kind = 1 then
    let size ← int32 "section size"
    let bs ← get
    if size.toInt < 4 ∨ (bs.length : Int) < size.toInt - 4 then fail (.invalidSectionSize size)
    let content ← bytes (size.toInt - 4).toNat "section"
    readSequence.within content
  else fail (.unknownSectionKind kind)

/-- The sections of a command message without its checksum, if the checksum is right or absent. -/
def sectionBytes (header body : List UInt8) (flags : MsgFlags) : Except WireError (List UInt8) :=
  if flags.checksumPresent then
    if body.length < 8 then .error (.truncated "checksum" (8 - body.length))
    else
      let covered := body.take (body.length - 4)
      let expected := LittleEndian.toUInt32 (body.drop (body.length - 4))
      let actual := Crc32c.checksum (header ++ covered)
      if expected ≠ actual then .error (.checksumMismatch expected actual)
      else .ok (covered.drop 4)
  else .ok (body.drop 4)

/-- A command message. The checksum covers the header too. -/
def readMsg (header body : List UInt8) : Except WireError Msg := do
  let flags ← (uint32 "message flags").runOn body
  let sections ← sectionBytes header body ⟨flags⟩
  return ⟨⟨flags⟩, ← (many readSection).runOn sections⟩

/-! ### Frames -/

/-- A message cut into header and body, neither longer nor shorter than announced. -/
def splitFrame (bs : List UInt8) : Except WireError (Header × List UInt8 × List UInt8) := do
  match ← Header.peek bs with
  | none => .error (.truncated "header" (headerSize - bs.length))
  | some h =>
    let length := bs.length
    if length < h.size then .error (.truncated "message body" (h.size - length))
    else if h.size < length then .error (.trailingBytes "message" (length - h.size))
    else .ok (h, bs.take headerSize, bs.drop headerSize)

/-- What a frame holds: a body that is read, or an envelope with the frame inside. -/
inductive Opened where
  | plain (body : Body)
  | envelope (compressor : Compressor) (inner : List UInt8)

/-- The frame around the payload of an envelope: the payload under a header with the same
numbers. -/
def reframe (h : Header) (opcode : Int32) (payload : List UInt8) : List UInt8 :=
  (Header.bytes { h with messageLength := Int32.ofNat (payload.length + headerSize), opcode }) ++
    payload

/-- What stands in an envelope before the payload: the opcode and the size of what is inside, and
the compressor. -/
def readEnvelopeHead : Reader (Int32 × Int32 × UInt8) := do
  let opcode ← int32 "originalOpcode"
  let size ← int32 "uncompressedSize"
  let id ← byte "compressorId"
  pure (opcode, size, id)

/-- An envelope with its payload expanded. -/
def readEnvelope (h : Header) (body : List UInt8) : Except WireError Opened := do
  let ((opcode, size, id), payload) ← readEnvelopeHead body
  match Compressor.ofId? id with
  | none => .error (.unknownCompressor id)
  | some c =>
    let plain ← expand c payload size
    let length := Int32.ofNat (plain.length + headerSize)
    if Header.validLength length then .ok (.envelope c (reframe h opcode plain))
    else .error (.invalidMessageLength length)

/-- What a body of a kind holds. -/
def openBody (h : Header) (header body : List UInt8) : Opcode → Except WireError Opened
  | .query => (.plain <| .query ·) <$> readQuery.runOn body
  | .getMore => (.plain <| .getMore ·) <$> readGetMore.runOn body
  | .killCursors => (.plain <| .killCursors ·) <$> readKillCursors.runOn body
  | .reply => (.plain <| .reply ·) <$> readReply.runOn body
  | .msg => (.plain <| .msg ·) <$> readMsg header body
  | .compressed => readEnvelope h body

/-- Opens one frame. -/
def openFrame (bs : List UInt8) : Except WireError (Header × Opened) := do
  let (h, header, body) ← splitFrame bs
  match Opcode.ofCode? h.opcode with
  | none => .error (.unknownOpCode h.opcode)
  | some op => return (h, ← openBody h header body op)

/-! ### Nesting -/

/-- The byte strings of a length. -/
def byteStrings : Nat → List (List UInt8)
  | 0 => [[]]
  | n + 1 => (byteStrings n).flatMap fun bs => (List.range 256).map fun b => UInt8.ofNat b :: bs

/-- `byteStrings` lists all strings of its length. -/
theorem mem_byteStrings (bs : List UInt8) : bs ∈ byteStrings bs.length := by
  induction bs with
  | nil => exact List.mem_singleton_self []
  | cons b bs ih =>
    rw [List.length_cons, byteStrings, List.mem_flatMap]
    exact ⟨bs, ih, List.mem_map.mpr ⟨b.toNat, List.mem_range.mpr b.toNat_lt,
      by rw [UInt8.ofNat_toNat]⟩⟩

/-- There are so few byte strings up to a length that a count falls with each new one. -/
theorem exists_spare (limit : Nat) : ∃ spare : List (List UInt8) → Nat,
    ∀ seen bs, bs.length ≤ limit → bs ∉ seen → spare (bs :: seen) < spare seen := by
  let all := (List.range (limit + 1)).flatMap byteStrings
  refine ⟨fun seen => (all.filter (· ∉ seen)).length, fun seen bs hle hnew => ?_⟩
  have hall : bs ∈ all :=
    List.mem_flatMap.mpr ⟨bs.length, List.mem_range.mpr (by omega), mem_byteStrings bs⟩
  have hspare : bs ∈ all.filter (· ∉ seen) := List.mem_filter.mpr ⟨hall, decide_eq_true hnew⟩
  -- one string less is spare, as it is among all of them and was not seen
  have hcons : all.filter (· ∉ bs :: seen) = (all.filter (· ∉ seen)).filter (· ≠ bs) := by
    rw [List.filter_filter]
    congr 1
    funext x
    simp
  simp only [hcons, List.length_filter_lt_length_iff_exists]
  exact ⟨bs, hspare, by simp⟩

/-- A number that falls as long as new byte strings up to a length are seen. -/
noncomputable def spare (limit : Nat) : List (List UInt8) → Nat := (exists_spare limit).choose

/-- `spare` goes down with a string that was not seen before. -/
theorem spare_cons_lt {limit : Nat} {seen : List (List UInt8)} {bs : List UInt8}
    (hle : bs.length ≤ limit) (hnew : bs ∉ seen) : spare limit (bs :: seen) < spare limit seen :=
  (exists_spare limit).choose_spec seen bs hle hnew

/-- `splitFrame` gives the header of the frame, its bytes and those behind them. -/
theorem splitFrame_eq_ok {bs header body : List UInt8} {h : Header}
    (hsplit : splitFrame bs = .ok (h, header, body)) :
    Header.peek bs = .ok (some h) ∧ h.size = bs.length ∧ header = bs.take headerSize ∧
      body = bs.drop headerSize := by
  simp only [splitFrame, bind, Except.bind] at hsplit
  split at hsplit
  · cases hsplit  -- the length cannot frame a message
  · rename_i found hfound
    split at hsplit
    · cases hsplit  -- too short for a header
    · rename_i h'
      split at hsplit
      · cases hsplit  -- bytes are missing
      · split at hsplit
        · cases hsplit  -- bytes are left over
        · cases hsplit
          exact ⟨hfound, by omega, rfl, rfl⟩

/-- `splitFrame` accepts no frame that is too large. -/
theorem length_le_of_splitFrame {bs header body : List UInt8} {h : Header}
    (hsplit : splitFrame bs = .ok (h, header, body)) : bs.length ≤ maxMessageSize := by
  obtain ⟨hpeek, hsize, -, -⟩ := splitFrame_eq_ok hsplit
  obtain ⟨-, -, hv⟩ := Header.peek_eq_some_iff.mp hpeek
  have hmax := (Header.validLength_iff.mp hv).2
  rw [← hsize, Header.size]
  omega

/-- `openFrame` accepts no frame that is too large. -/
theorem length_le_of_openFrame {bs : List UInt8} {opened : Header × Opened}
    (hopen : openFrame bs = .ok opened) : bs.length ≤ maxMessageSize := by
  simp only [openFrame, bind, Except.bind] at hopen
  split at hopen
  · cases hopen
  · rename_i hsplit
    exact length_le_of_splitFrame hsplit

/-! ### Messages -/

/-- Reads a message from exactly its bytes, and the messages in its envelopes from theirs. The
frames around it, if it stands in an envelope, are given too. -/
def Message.readInside (outer : List (List UInt8)) (bs : List UInt8) : Except WireError Message :=
  if _ : bs ∈ outer then .error .endlessEnvelopes
  else
    match _ : openFrame bs with
    | .error e => .error e
    | .ok (h, .plain body) => .ok ⟨h.requestId, h.responseTo, body⟩
    | .ok (h, .envelope c inner) => do
      let m ← readInside (bs :: outer) inner
      return ⟨h.requestId, h.responseTo, .compressed c m.body⟩
termination_by spare maxMessageSize outer
decreasing_by exact spare_cons_lt (length_le_of_openFrame ‹_›) ‹_›

/-- `readInside` of a frame without envelope is its body. -/
theorem Message.readInside_of_plain {outer : List (List UInt8)} {bs : List UInt8} {h : Header}
    {body : Body} (hnew : bs ∉ outer) (hopen : openFrame bs = .ok (h, .plain body)) :
    readInside outer bs = .ok ⟨h.requestId, h.responseTo, body⟩ := by
  rw [readInside, dif_neg hnew]
  split
  -- the frame opens to one thing only
  · rename_i e hopen'
    cases hopen.symm.trans hopen'
  · rename_i h' body' hopen'
    cases hopen.symm.trans hopen'
    rfl
  · rename_i h' c inner hopen'
    cases hopen.symm.trans hopen'

/-- `readInside` of an envelope reads the frame in it. -/
theorem Message.readInside_of_envelope {outer : List (List UInt8)} {bs inner : List UInt8}
    {h : Header} {c : Compressor} (hnew : bs ∉ outer)
    (hopen : openFrame bs = .ok (h, .envelope c inner)) :
    readInside outer bs =
      (do let m ← readInside (bs :: outer) inner
          return ⟨h.requestId, h.responseTo, .compressed c m.body⟩) := by
  rw [readInside, dif_neg hnew]
  -- the frame is opened once, so the other cases contradict `hopen`
  split
  · rename_i e hopen'
    cases hopen.symm.trans hopen'
  · rename_i h' body hopen'
    cases hopen.symm.trans hopen'
  · rename_i h' c' inner' hopen'
    cases hopen.symm.trans hopen'
    rfl

/-- Reads a message from exactly its bytes. -/
def Message.decode (bs : List UInt8) : Except WireError Message := Message.readInside [] bs

end DocGateway.Wire
