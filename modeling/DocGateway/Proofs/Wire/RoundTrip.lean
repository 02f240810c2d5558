import DocGateway.Proofs.Bson.RoundTrip
import DocGateway.Proofs.Compression.Snappy
import DocGateway.Proofs.Compression.Zlib
import DocGateway.Proofs.Compression.Zstd
import DocGateway.Proofs.Wire.Acceptance
/-!
# Messages are read back

What `Message.encode` writes of a message spells it by the grammar, and so it is decoded to the same
message. That holds of messages whose texts can end in a zero byte and whose documents are settled,
in envelopes as well: the induction is on the envelopes, and carries along that what is written is a
frame, so that the payload of an envelope can be framed again.

## Key results

- `Compressor.decompress?_compress`: payloads of envelopes
- `isPlainBody_plainBytes`: bodies without envelope
- `isFrame_close`: headers and checksums
- `spells_of_encode`: messages spell what they were
- `decode_of_encode`: and are decoded to it
-/

namespace DocGateway

/-- `decompress?` undoes `compress`, given the length of what was compressed. -/
theorem Compressor.decompress?_compress (c : Compressor) {plain : List UInt8}
    (h : plain.length < 1 <<< 32) :
    c.decompress? plain.length (c.compress plain) = some plain := by
  cases c with
  | noop => rfl
  | snappy => exact Snappy.decode?_encode h
  | zlib => exact Zlib.decode?_encode plain
  | zstd => exact Zstd.decode?_encode h

namespace Wire

open Bson (Document)

/-! ### Settled bodies -/

/-- The texts of a section that end in a zero byte. -/
def MsgSection.texts : MsgSection → List String
  | body _ => []
  | sequence identifier _ => [identifier]

/-- The texts of a body without envelope that end in a zero byte. -/
def Body.texts : Body → List String
  | query q => [q.collection]
  | getMore g => [g.collection]
  | msg m => m.sections.flatMap MsgSection.texts
  | killCursors _ | reply _ | compressed _ _ => []

/-- Whether a body is read as it stands, inside its envelopes: no text holds a NUL character, and
the documents are settled. -/
def Body.isSettled : Body → Bool
  | compressed _ inner => inner.isSettled
  | b => b.texts.all Bson.isTerminable && b.documents.all Document.isSettled

/-! ### Documents and sections -/

/-- A document is no larger than all documents together. -/
theorem size_le_documentsSize {d : Document} {ds : List Document} (h : d ∈ ds) :
    d.size ≤ documentsSize ds :=
  le_sum_of_mem (List.mem_map_of_mem h)

/-- No document of a body is larger than its `plainSize`. -/
theorem size_le_plainSize {b : Body} {d : Document} (h : d ∈ b.documents) :
    d.size ≤ b.plainSize := by
  cases b with
  | query q =>
    simp only [Body.plainSize]
    cases h with
    | head => omega
    | tail _ h =>
      have := size_le_documentsSize h
      omega
  | reply r => exact Nat.le_trans (size_le_documentsSize h) (Nat.le_add_right _ _)
  | msg m =>
    -- the document is in a section, which is one of the body
    obtain ⟨s, hs, hd⟩ := List.mem_flatMap.mp h
    have hsection : s.size ≤ sectionsSize m.sections := le_sum_of_mem (List.mem_map_of_mem hs)
    have hdoc : d.size ≤ s.size := by
      cases s with
      | body e =>
        obtain rfl := List.mem_singleton.mp hd
        exact Nat.le_add_right _ _
      | sequence identifier ds =>
        have hle : d.size ≤ documentsSize ds := size_le_documentsSize hd
        simp only [MsgSection.size]
        omega
    simp only [Body.plainSize]
    omega
  | getMore g | killCursors k | compressed c inner => cases h

/-- `Tiles` holds of pieces written one after another for what was written. -/
theorem tiles_flatMap {α : Type} {item : List UInt8 → α → Prop} {bytes : α → List UInt8}
    {as : List α} (h : ∀ a ∈ as, item (bytes a) a) : Tiles item (as.flatMap bytes) as := by
  induction as with
  | nil => exact .nil
  | cons a as ih =>
    exact .cons (h a (List.mem_cons_self ..)) (ih fun x hx => h x (List.mem_cons_of_mem _ hx))

/-- `MsgSection.bytes` writes a piece that `IsSection` describes, if its size fits in a word. -/
theorem isSection_bytes {s : MsgSection} (htexts : ∀ t ∈ s.texts, IsTerminated t)
    (hdocs : ∀ d ∈ s.documents, IsDocument d.bytes d) (hsize : s.size < 1 <<< 31) :
    IsSection s.bytes s := by
  cases s with
  | body d => exact .body (hdocs d (List.mem_singleton_self d))
  | sequence identifier ds =>
    have hn : (Bson.cstring identifier ++ documentsBytes ds).length + 4 < 1 <<< 31 := by
      simp only [MsgSection.size] at hsize
      simp only [List.length_append, Bson.length_cstring, length_documentsBytes]
      omega
    -- the size that is written is that of the content and of itself
    have hdecl := Int32.toInt_ofNat_of_lt hn
    have hname := htexts identifier (List.mem_singleton_self _)
    have htiles : Tiles IsDocument (documentsBytes ds) ds := tiles_flatMap hdocs
    have h := IsSection.sequence hname htiles (hdecl.trans (by rw [List.length_append]; omega))
    rw [LittleEndian.int32_ofNat hn] at h
    exact h

/-! ### Bodies -/

/-- What stands behind the bytes of a body. -/
def Body.trailer (b : Body) (covered : List UInt8) : List UInt8 :=
  if b.hasChecksum then LittleEndian.uint32 (Crc32c.checksum covered) else []

/-- `trailer` of a body without checksum is empty. -/
theorem Body.trailer_eq_nil {b : Body} (h : b.hasChecksum = false) (covered : List UInt8) :
    b.trailer covered = [] := by
  rw [Body.trailer, h, if_neg Bool.false_ne_true]

/-- `plainBytes`, with the checksum behind, is a body as `IsPlainBody` describes it, if its
documents are read back. -/
theorem isPlainBody_plainBytes {b : Body} (header : List UInt8) (hplain : b.opcode ≠ .compressed)
    (htexts : ∀ t ∈ b.texts, IsTerminated t) (hdocs : ∀ d ∈ b.documents, IsDocument d.bytes d)
    (hsize : b.plainSize < 1 <<< 31) :
    IsPlainBody header (b.plainBytes ++ b.trailer (header ++ b.plainBytes)) b := by
  cases b with
  -- one case for each kind of body; only the last kinds write a number of what is in them
  | query q =>
    have hname := htexts q.collection (List.mem_singleton_self _)
    have hquery := hdocs q.query (List.mem_cons_self ..)
    have hselector : Tiles IsDocument (documentsBytes q.selector.toList) q.selector.toList :=
      tiles_flatMap fun d hd => hdocs d (List.mem_cons_of_mem _ hd)
    have h := @IsPlainBody.query header q _ _ hname hquery hselector
    rw [Body.trailer_eq_nil rfl, List.append_nil]
    simpa only [Body.plainBytes, List.append_assoc] using h
  | getMore g =>
    have h := @IsPlainBody.getMore header g (htexts g.collection (List.mem_singleton_self _))
    rw [Body.trailer_eq_nil rfl, List.append_nil]
    simpa only [Body.plainBytes, List.append_assoc] using h
  | killCursors k =>
    -- the count of the ids fits in its word, as the body is not too large
    have hn : k.cursorIds.length < 1 <<< 31 := by
      simp only [Body.plainSize] at hsize
      omega
    have h := @IsPlainBody.killCursors header k 0 _ (Int32.toInt_ofNat_of_lt hn)
    rw [LittleEndian.int32_ofNat hn] at h
    rw [Body.trailer_eq_nil rfl, List.append_nil]
    simpa only [Body.plainBytes, List.append_assoc] using h
  | reply r =>
    have hdocuments : Tiles IsDocument (documentsBytes r.documents) r.documents :=
      tiles_flatMap hdocs
    -- the count of documents is written, but the grammar takes any word in its place
    have h := @IsPlainBody.reply header r
      (LittleEndian.toInt32 (LittleEndian.encode 4 r.documents.length)) _ hdocuments
    rw [LittleEndian.int32_toInt32 (LittleEndian.length_encode 4 _)] at h
    rw [Body.trailer_eq_nil rfl, List.append_nil]
    simpa only [Body.plainBytes, List.append_assoc] using h
  | msg m =>
    -- the sections are not larger than the body, so their sizes fit in a word
    have hsections : ∀ s ∈ m.sections, IsSection s.bytes s := by
      intro s hs
      have hle : s.size ≤ sectionsSize m.sections := le_sum_of_mem (List.mem_map_of_mem hs)
      refine isSection_bytes (fun t ht => htexts t (List.mem_flatMap.mpr ⟨s, hs, ht⟩))
        (fun d hd => hdocs d (List.mem_flatMap.mpr ⟨s, hs, hd⟩)) ?_
      simp only [Body.plainSize] at hsize
      omega
    have h := @IsPlainBody.msg header m (sectionsBytes m.sections) (tiles_flatMap hsections)
    rw [← List.append_assoc] at h
    exact h
  | compressed c inner => exact absurd rfl hplain

/-! ### Messages -/

/-- `close` puts a header in front, and four bytes of a checksum behind if asked for. -/
theorem length_close (requestId responseTo : Int32) (opcode : Opcode) (checksum : Bool)
    (body : List UInt8) :
    (close requestId responseTo opcode checksum body).length =
      body.length + headerSize + (if checksum then 4 else 0) := by
  cases checksum with
  | false =>
    simp only [close, Bool.false_eq_true, ↓reduceIte, List.length_append,
      Header.length_bytes, headerSize]
    omega
  | true =>
    simp only [close, ↓reduceIte, List.length_append, Header.length_bytes,
      LittleEndian.length_uint32, headerSize]
    omega

/-- `close` gives a frame, whose header tells its length. -/
theorem isFrame_close (requestId responseTo : Int32) (opcode : Opcode) (checksum : Bool)
    {body : List UInt8}
    (hsize : body.length + headerSize + (if checksum then 4 else 0) ≤ maxMessageSize) :
    let bs := close requestId responseTo opcode checksum body
    let h : Header := ⟨Int32.ofNat bs.length, requestId, responseTo, opcode.code⟩
    IsFrame bs h
      (body ++
        if checksum then LittleEndian.uint32 (Crc32c.checksum (h.bytes ++ body)) else []) := by
  intro bs h
  have hlen := length_close requestId responseTo opcode checksum body
  refine ⟨?_, ?_, ?_⟩
  · simp only [bs, h, hlen]
    cases checksum with
    | false => simp only [close, Bool.false_eq_true, ↓reduceIte, List.append_nil]
    | true => simp only [close, ↓reduceIte, List.append_assoc]
  -- the length fits in its word, as the frame is not too large
  · exact Int32.toInt_ofNat_of_lt (by simp only [bs, hlen, maxMessageSize] at hsize ⊢; omega)
  · rw [hlen]
    exact hsize

/-- `checkSize` refuses what is above `maxMessageSize`. -/
theorem checkSize_eq_ok_iff {total : Nat} {u : Unit} :
    checkSize total = .ok u ↔ total ≤ maxMessageSize := by
  simp only [checkSize]
  split <;> simp <;> omega

/-- All bodies without envelope are written in the same way: two checks, and then `close`. -/
theorem encode_plain {b : Body} (hplain : b.opcode ≠ .compressed) (requestId responseTo : Int32) :
    b.encode requestId responseTo = (do
      if ¬ b.documents.all Document.isWritable then .error (.bsonEncode none)
      checkSize (b.plainSize + headerSize + (if b.hasChecksum then 4 else 0))
      return close requestId responseTo b.opcode b.hasChecksum b.plainBytes) := by
  cases b with
  | compressed c inner => exact absurd rfl hplain
  | _ => rfl

/-- A body without envelope is written exactly if its documents can be and it is not too large, and
then `close` gives its bytes. -/
theorem encode_plain_eq_ok_iff {requestId responseTo : Int32} {b : Body} {bs : List UInt8}
    (hplain : b.opcode ≠ .compressed) :
    b.encode requestId responseTo = .ok bs ↔
      (∀ d ∈ b.documents, d.isWritable = true) ∧
        b.plainSize + headerSize + (if b.hasChecksum then 4 else 0) ≤ maxMessageSize ∧
        bs = close requestId responseTo b.opcode b.hasChecksum b.plainBytes := by
  rw [encode_plain hplain]
  constructor
  · -- the two checks are passed, as bytes come of it
    intro h
    simp only [bind, Except.bind, pure, Except.pure] at h
    split at h
    · cases h
    · rename_i hw
      split at h
      · cases h
      · rename_i hsize
        exact ⟨List.all_eq_true.mp (Decidable.not_not.mp hw), checkSize_eq_ok_iff.mp hsize,
          (Except.ok.inj h).symm⟩
  · rintro ⟨hw, hsize, rfl⟩
    have hcheck : checkSize (b.plainSize + headerSize + (if b.hasChecksum then 4 else 0)) =
        .ok () :=
      checkSize_eq_ok_iff.mpr hsize
    rw [if_neg (not_not_intro (List.all_eq_true.mpr hw)), hcheck]
    rfl

/-- An envelope is written exactly if what it holds is and it is not too large itself, and then
`close` gives its bytes. -/
theorem encode_envelope_eq_ok_iff {requestId responseTo : Int32} {c : Compressor} {inner : Body}
    {bs : List UInt8} :
    (Body.compressed c inner).encode requestId responseTo = .ok bs ↔
      ∃ framed, inner.encode requestId responseTo = .ok framed ∧
        (envelopeBytes c inner.opcode (framed.drop headerSize)).length + headerSize ≤
          maxMessageSize ∧
        bs = close requestId responseTo .compressed false
          (envelopeBytes c inner.opcode (framed.drop headerSize)) := by
  rw [Body.encode]
  constructor
  -- what is inside was written first, and then its size was checked
  · intro h
    simp only [bind, Except.bind, pure, Except.pure] at h
    split at h
    · cases h
    · rename_i framed hframed
      split at h
      · cases h
      · rename_i hsize
        exact ⟨framed, hframed, checkSize_eq_ok_iff.mp hsize, (Except.ok.inj h).symm⟩
  · rintro ⟨framed, hframed, hsize, rfl⟩
    have hcheck : checkSize ((envelopeBytes c inner.opcode (framed.drop headerSize)).length +
        headerSize) = .ok () := checkSize_eq_ok_iff.mpr hsize
    rw [hframed]
    simp only [bind, Except.bind, hcheck]
    rfl

/-- What `Body.encode` writes of a body without envelope is a frame around what spells it. -/
theorem spells_of_encode_plain {requestId responseTo : Int32} {b : Body} {bs : List UInt8}
    (hplain : b.opcode ≠ .compressed) (hset : b.isSettled = true)
    (h : b.encode requestId responseTo = .ok bs) :
    ∃ body, IsFrame bs ⟨Int32.ofNat bs.length, requestId, responseTo, b.opcode.code⟩ body ∧
      Spells bs ⟨requestId, responseTo, b⟩ := by
  obtain ⟨hw, hsize, rfl⟩ := (encode_plain_eq_ok_iff hplain).mp h
  have hparts : b.texts.all Bson.isTerminable = true ∧
      b.documents.all Document.isSettled = true := by
    cases b with
    | compressed c inner => exact absurd rfl hplain
    | _ => exact Bool.and_eq_true_iff.mp hset
  -- what is settled is what the bytes of a body can be read back from
  have htexts : ∀ t ∈ b.texts, IsTerminated t :=
    fun t ht => (Bson.isTerminable_iff t).mp (List.all_eq_true.mp hparts.1 t ht)
  -- a message is not too large, so neither are its documents
  have hplainSize : b.plainSize < 1 <<< 31 := by
    simp only [maxMessageSize] at hsize
    omega
  have hdocs : ∀ d ∈ b.documents, IsDocument d.bytes d := fun d hd =>
    Document.decode?_bytes (List.all_eq_true.mp hparts.2 d hd) (hw d hd)
      (Nat.lt_of_le_of_lt (size_le_plainSize hd) hplainSize)
  rw [← Body.length_plainBytes] at hsize
  have hframe := isFrame_close requestId responseTo b.opcode b.hasChecksum hsize
  exact ⟨_, hframe, .plain hframe rfl (isPlainBody_plainBytes _ hplain htexts hdocs hplainSize)⟩

/-- `envelopeBytes` writes the two words and the byte that `Spells.envelope` asks for, and then the
payload. -/
theorem envelopeBytes_eq {c : Compressor} {inner : Opcode} {plain : List UInt8}
    (h : plain.length < 1 <<< 31) :
    envelopeBytes c inner plain = LittleEndian.int32 inner.code ++
      (LittleEndian.int32 (Int32.ofNat plain.length) ++ (c.id :: c.compress plain)) := by
  rw [envelopeBytes, LittleEndian.int32_ofNat h, List.append_assoc]

/-- What `Body.encode` writes of a settled body is a frame around what spells it, in envelopes as
well. -/
theorem spells_of_encode {requestId responseTo : Int32} {b : Body} {bs : List UInt8}
    (hset : b.isSettled = true) (h : b.encode requestId responseTo = .ok bs) :
    ∃ body, IsFrame bs ⟨Int32.ofNat bs.length, requestId, responseTo, b.opcode.code⟩ body ∧
      Spells bs ⟨requestId, responseTo, b⟩ := by
  -- by induction on the envelopes: what is inside is framed and spells the inner body
  induction b generalizing bs with
  | compressed c inner ih =>
    obtain ⟨framed, hframed, hsize, rfl⟩ := encode_envelope_eq_ok_iff.mp h
    obtain ⟨plain, hinner, hspells⟩ := ih hset hframed
    -- the payload is the frame inside without its header
    have hdrop : framed.drop headerSize = plain := by
      rw [hinner.eq_append, headerSize, ← Header.length_bytes, List.drop_left]
    have hlen := hinner.length_le
    rw [hinner.eq_append, List.length_append, maxMessageSize] at hlen
    have hn : plain.length < 1 <<< 31 := by omega
    rw [hdrop, envelopeBytes_eq hn] at hsize ⊢
    have hframe := isFrame_close requestId responseTo .compressed false hsize
    refine ⟨_, hframe, ?_⟩
    simp only [Bool.false_eq_true, ↓reduceIte, List.append_nil] at hframe
    exact .envelope hframe rfl (c.decompress?_compress (by omega)) (Int32.toInt_ofNat_of_lt hn)
      hinner hspells
  | _ => exact spells_of_encode_plain (by simp [Body.opcode]) hset h

/-- `Message.decode` undoes `Message.encode` on messages with settled bodies. -/
theorem decode_of_encode {m : Message} {bs : List UInt8} (hset : m.body.isSettled = true)
    (h : m.encode = .ok bs) : Message.decode bs = .ok m := by
  obtain ⟨body, -, hspells⟩ := spells_of_encode hset h
  exact decode_of_spells hspells

/-- The first four bytes of a frame are its length. -/
theorem take_of_isFrame {bs body : List UInt8} {h : Header} (hframe : IsFrame bs h body) :
    bs.take 4 = LittleEndian.encode 4 bs.length := by
  have hlt : bs.length < 1 <<< 31 := by
    have := hframe.length_le
    simp only [maxMessageSize] at this
    omega
  have hlen : h.messageLength = Int32.ofNat bs.length := by
    rw [← Int32.toInt_inj, hframe.length_eq, Int32.toInt_ofNat_of_lt hlt]
  have hhead : h.bytes.take 4 = LittleEndian.encode 4 bs.length := by
    simp only [Header.bytes, List.append_assoc, hlen, LittleEndian.int32_ofNat hlt]
    exact List.take_left' (LittleEndian.length_encode 4 _)
  rw [← hhead, hframe.eq_append, List.take_append_of_le_length (by simp)]

/-- What `Message.encode` writes for a message of settled texts and documents, `Message.decode`
reads back as it was. The first four bytes tell how many bytes there are, which is at least
`headerSize` and at most `maxMessageSize`. -/
theorem frame_and_decode_of_encode (m : Message) (bs : List UInt8) (hset : m.body.isSettled = true)
    (h : m.encode = .ok bs) :
    bs.take 4 = LittleEndian.encode 4 bs.length ∧ headerSize ≤ bs.length ∧
      bs.length ≤ maxMessageSize ∧ Message.decode bs = .ok m := by
  obtain ⟨body, hframe, hspells⟩ := spells_of_encode hset h
  refine ⟨take_of_isFrame hframe, ?_, hframe.length_le, decode_of_spells hspells⟩
  rw [hframe.eq_append, List.length_append, Header.length_bytes, headerSize]
  omega

/-- A checksummed message in an envelope, with a document and an empty sequence, is framed and read
back. -/
theorem frame_and_decode_of_encode_checksummed :
    let m : Message :=
      ⟨7, -1, .compressed .noop (.msg ⟨⟨1⟩, [.body [("a", .int32 5)], .sequence "b" []]⟩)⟩
    let bs : List UInt8 := [53, 0, 0, 0, 7, 0, 0, 0, 255, 255, 255, 255, 220, 7, 0, 0,
      221, 7, 0, 0, 28, 0, 0, 0, 0, 1, 0, 0, 0, 0, 12, 0, 0, 0, 16, 97, 0, 5, 0, 0, 0, 0,
      1, 6, 0, 0, 0, 98, 0, 160, 245, 162, 127]
    (m.body.isSettled = true ∧ m.encode = .ok bs) ∧
      bs.take 4 = LittleEndian.encode 4 bs.length ∧ headerSize ≤ bs.length ∧
        bs.length ≤ maxMessageSize ∧ Message.decode bs = .ok m := by
  intro m bs
  have hkey : Bson.TypedKey.ofName? "a" = none := by decide
  have hset : m.body.isSettled = true := by
    simp [m, Body.isSettled, Body.texts, MsgSection.texts, Bson.isTerminable, Body.documents,
      MsgSection.documents, Document.isSettled, Bson.fieldsSettled, Bson.Value.isSettled, hkey,
      Document.contains]
  have hwritable : Document.isWritable [("a", .int32 5)] = true := by
    simp [Document.isWritable, Bson.fieldsWritable, Bson.Value.isWritable, Bson.isTerminable]
  -- the body inside the envelope is framed first
  let inner : Body := .msg ⟨⟨1⟩, [.body [("a", .int32 5)], .sequence "b" []]⟩
  have hinner : inner.encode 7 (-1) =
      .ok (close 7 (-1) inner.opcode inner.hasChecksum inner.plainBytes) :=
    (encode_plain_eq_ok_iff (by decide)).mpr
      ⟨by simpa [inner, Body.documents, MsgSection.documents] using hwritable, by decide, rfl⟩
  have henc : m.encode = .ok bs :=
    encode_envelope_eq_ok_iff.mpr ⟨_, hinner, by decide +kernel, by decide +kernel⟩
  exact ⟨⟨hset, henc⟩, frame_and_decode_of_encode m bs hset henc⟩

end Wire

end DocGateway
