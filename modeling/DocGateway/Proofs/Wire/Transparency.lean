import DocGateway.Proofs.Bson.Canonical
import DocGateway.Proofs.Wire.FixedPoint
/-!
# Documents on their way through

A document in canonical form comes in a command message, as a section or among the documents of one,
and the rest of the message is valid. It goes out as it came in, byte for byte. It comes in as it is
exactly if no key of it spells a typed value: of such a document the decoder makes another one, or
none at all.

## Key results

- `isSection_of_holds`: a section is valid if the document in it is read
- `encode_of_canonical`: a message of canonical documents is what is written for it
- `decode_iff_isUntyped`: which canonical documents get through
-/

namespace DocGateway.Wire

open Bson (Document IsCanonical)

/-! ### Sections -/

/-- A section with a document in the form given, alone or among other documents. -/
inductive Holds (doc : List UInt8) (d : Document) : List UInt8 → MsgSection → Prop where
  | body : Holds doc d (0 :: doc) (.body d)
  | sequence {size : Int32} {identifier : String} {before after : List UInt8}
      {ds es : List Document} :
      IsTerminated identifier → Tiles IsDocument before ds → Tiles IsDocument after es →
      size.toInt =
        4 + ((Bson.cstring identifier).length + (before ++ (doc ++ after)).length : Nat) →
      Holds doc d
        (1 :: (LittleEndian.int32 size ++ (Bson.cstring identifier ++ (before ++ (doc ++ after)))))
        (.sequence identifier (ds ++ d :: es))

/-- A section whose documents are in canonical form. -/
inductive IsCanonicalSection : List UInt8 → MsgSection → Prop where
  | body {doc : List UInt8} {d : Document} : IsCanonical doc d →
      IsCanonicalSection (0 :: doc) (.body d)
  | sequence {size : Int32} {identifier : String} {docs : List UInt8} {ds : List Document} :
      Tiles IsCanonical docs ds →
      size.toInt = 4 + ((Bson.cstring identifier).length + docs.length : Nat) →
      IsCanonicalSection (1 :: (LittleEndian.int32 size ++ (Bson.cstring identifier ++ docs)))
        (.sequence identifier ds)

section

variable {α : Type} {item : List UInt8 → α → Prop}

/-- `Tiles` holds of items behind items. -/
theorem Tiles.append {bs bs' : List UInt8} {as as' : List α} (h : Tiles item bs as)
    (h' : Tiles item bs' as') :
    Tiles item (bs ++ bs') (as ++ as') := by
  induction h with
  | nil => exact h'
  | cons hitem _ ih =>
    rw [List.append_assoc]
    exact .cons hitem ih

/-- Items that are each written as they stand are written one after another as they stand. -/
theorem Tiles.flatMap_eq {bs : List UInt8} {as : List α} {bytes : α → List UInt8}
    (h : Tiles item bs as)
    (hitem : ∀ piece a, item piece a → bytes a = piece) : as.flatMap bytes = bs := by
  induction h with
  | nil => rfl
  | cons ha _ ih => rw [List.flatMap_cons, hitem _ _ ha, ih]

end

/-- `Holds` describes a section, if the document in it is one. -/
theorem isSection_of_holds {doc piece : List UInt8} {d : Document} {s : MsgSection}
    (h : Holds doc d piece s)
    (hdoc : IsDocument doc d) : IsSection piece s := by
  cases h with
  | body => exact .body hdoc
  | sequence hidentifier hbefore hafter hsize =>
    exact .sequence hidentifier (hbefore.append (.cons hdoc hafter)) hsize

/-- The document that `Holds` tells of is one of the section's. -/
theorem mem_documents_of_holds {doc piece : List UInt8} {d : Document} {s : MsgSection}
    (h : Holds doc d piece s) :
    d ∈ s.documents := by
  cases h with
  | body => exact List.mem_singleton_self d
  | sequence => exact List.mem_append_right _ (List.mem_cons_self ..)

/-! ### Writing -/

/-- `MsgSection.bytes` writes a section of canonical documents as it stands. -/
theorem bytes_of_isCanonicalSection {piece : List UInt8} {s : MsgSection}
    (h : IsCanonicalSection piece s) : s.bytes = piece := by
  cases h with
  | body hdoc => rw [MsgSection.bytes, hdoc.written.1]
  | @sequence size identifier docs ds hdocs hsize =>
    have hdocs : documentsBytes ds = docs := hdocs.flatMap_eq fun _ _ hdoc => hdoc.written.1
    -- the size that is written is the one that was told
    have hlt := size.toInt_lt
    have hsize : size = Int32.ofNat ((Bson.cstring identifier ++ docs).length + 4) := by
      rw [List.length_append, ← Int32.toInt_inj, Int32.toInt_ofNat_of_lt (by omega)]
      omega
    have hn : (Bson.cstring identifier ++ docs).length + 4 < 1 <<< 31 := by
      rw [List.length_append]
      omega
    rw [MsgSection.bytes, hdocs, hsize, LittleEndian.int32_ofNat hn]
    rfl

/-- The documents of a canonical section can be written. -/
theorem isWritable_of_isCanonicalSection {piece : List UInt8} {s : MsgSection}
    (h : IsCanonicalSection piece s) {d : Document}
    (hd : d ∈ s.documents) : d.isWritable = true := by
  cases h with
  | body hdoc =>
    obtain rfl := List.mem_singleton.mp hd
    exact hdoc.written.2.1
  | sequence hdocs =>
    obtain ⟨doc, hdoc⟩ := exists_of_tiles hdocs hd
    exact hdoc.written.2.1

/-- `Message.encode` writes a message of canonical documents as it stands. -/
theorem encode_of_canonical {bs sections : List UInt8} {h : Header} {flags : MsgFlags}
    {ss : List MsgSection} (hsections : Tiles IsCanonicalSection sections ss)
    (hopcode : h.opcode = Opcode.msg.code)
    (hframe : IsFrame bs h (LittleEndian.uint32 flags.bits ++ (sections ++
      checksumBytes flags (h.bytes ++ (LittleEndian.uint32 flags.bits ++ sections))))) :
    Message.encode ⟨h.requestId, h.responseTo, .msg ⟨flags, ss⟩⟩ = .ok bs := by
  have hwritable : (Body.msg ⟨flags, ss⟩).documents.all Document.isWritable = true := by
    rw [List.all_eq_true]
    intro d hd
    obtain ⟨s, hs, hd⟩ := List.mem_flatMap.mp hd
    obtain ⟨piece, hpiece⟩ := exists_of_tiles hsections hs
    exact isWritable_of_isCanonicalSection hpiece hd
  have hbytes : (Body.msg ⟨flags, ss⟩).plainBytes = LittleEndian.uint32 flags.bits ++ sections := by
    rw [Body.plainBytes, sectionsBytes, hsections.flatMap_eq fun _ _ => bytes_of_isCanonicalSection]
  -- a checksum is four bytes, so the frame is as long as what is closed
  have htotal : bs.length = (Body.msg ⟨flags, ss⟩).plainSize + headerSize +
      (if flags.checksumPresent then 4 else 0) := by
    rw [hframe.eq_append, ← Body.length_plainBytes, hbytes, checksumBytes]
    split <;>
      simp only [List.length_append, Header.length_bytes, LittleEndian.length_uint32, headerSize,
        List.length_nil] <;> omega
  have hle := hframe.length_le
  have hlength : h.messageLength = Int32.ofNat bs.length := by
    rw [← Int32.toInt_inj, hframe.length_eq,
      Int32.toInt_ofNat_of_lt (by rw [maxMessageSize] at hle; omega)]
  -- what is closed is the frame again: the header has the same words, and the checksum covers the
  -- same bytes
  have hclose : close h.requestId h.responseTo .msg flags.checksumPresent
      (Body.msg ⟨flags, ss⟩).plainBytes = bs := by
    rw [close, Body.length_plainBytes, ← htotal, ← hlength, ← hopcode, hbytes, hframe.eq_append,
      checksumBytes]
    split <;> simp only [List.append_assoc, List.append_nil]
  have hsize : checkSize bs.length = .ok () := checkSize_eq_ok_iff.mpr hle
  rw [Message.encode, encode_plain (by simp [Body.opcode]), if_neg (not_not_intro hwritable),
    Body.hasChecksum, ← htotal, hsize]
  exact congrArg Except.ok hclose

/-! ### Reading -/

/-- A document in canonical form, in a command message that is valid but for the document:
`Message.decode` reads the message with the document as it is exactly if `isUntyped`, which is that
no key of it, at any depth, spells a typed value. What is written for the document is its form, and
`Message.encode` writes a message of documents in canonical form as the bytes it came from. -/
theorem decode_iff_isUntyped {doc piece before after bs : List UInt8} {d : Document}
    {s : MsgSection} {ss ts : List MsgSection} {h : Header} {flags : MsgFlags}
    (hdoc : IsCanonical doc d) (hholds : Holds doc d piece s) (hbefore : Tiles IsSection before ss)
    (hafter : Tiles IsSection after ts) (hopcode : h.opcode = Opcode.msg.code)
    (hframe : IsFrame bs h (LittleEndian.uint32 flags.bits ++ (before ++ (piece ++ after) ++
      checksumBytes flags
      (h.bytes ++ (LittleEndian.uint32 flags.bits ++ (before ++ (piece ++ after))))))) :
    (Message.decode bs = .ok ⟨h.requestId, h.responseTo, .msg ⟨flags, ss ++ s :: ts⟩⟩ ↔
      d.isUntyped = true) ∧
      (d.bytes = doc ∧ d.isWritable = true) ∧
      (Tiles IsCanonicalSection (before ++ (piece ++ after)) (ss ++ s :: ts) →
        Message.encode ⟨h.requestId, h.responseTo, .msg ⟨flags, ss ++ s :: ts⟩⟩ = .ok bs) := by
  obtain ⟨hbytes, hwritable, hsettled⟩ := hdoc.written
  refine ⟨⟨fun hdecode => ?_, fun huntyped => ?_⟩, ⟨hbytes, hwritable⟩, fun hsections => ?_⟩
  · -- what was read is settled, so no typed keys are left in it
    have hset := (Bool.and_eq_true_iff.mp (isSettled_of_spells (spells_of_decode hdecode))).2
    have hd : d ∈ (ss ++ s :: ts).flatMap MsgSection.documents :=
      List.mem_flatMap.mpr ⟨s, List.mem_append_right _ (List.mem_cons_self ..),
        mem_documents_of_holds hholds⟩
    rw [← hsettled]
    exact List.all_eq_true.mp hset d hd
  · have hsection := isSection_of_holds hholds ((Document.decode?_iff_isUntyped hdoc).mpr huntyped)
    have hbody :=
      @IsPlainBody.msg h.bytes ⟨flags, ss ++ s :: ts⟩ _ (hbefore.append (.cons hsection hafter))
    exact decode_of_spells (.plain hframe hopcode hbody)
  · exact encode_of_canonical hsections hopcode hframe

/-- `Message.decode` reads a key that starts with a dollar sign and spells no typed value as it
is. -/
theorem decode_iff_isUntyped_dollarKey :
    let d : Document := [("$db", .int32 1)]
    let doc : List UInt8 := [14, 0, 0, 0, 16, 36, 100, 98, 0, 1, 0, 0, 0, 0]
    let bs : List UInt8 := [35, 0, 0, 0, 1, 0, 0, 0, 0, 0, 0, 0, 221, 7, 0, 0, 0, 0, 0, 0, 0] ++ doc
    IsCanonical doc d ∧ Message.decode bs = .ok ⟨1, 0, .msg ⟨⟨0⟩, [.body d]⟩⟩ ∧ d.bytes = doc ∧
      Message.encode ⟨1, 0, .msg ⟨⟨0⟩, [.body d]⟩⟩ = .ok bs := by
  intro d doc bs
  have hkey : Bson.IsCString [36, 100, 98, 0] "$db" := ⟨by decide, by decide⟩
  have hvalue : Bson.Spells .int32 [1, 0, 0, 0] (.int32 1) := .int32 rfl
  have hframed : Bson.IsFramed doc [16, 36, 100, 98, 0, 1, 0, 0, 0] :=
    ⟨[14, 0, 0, 0], ⟨rfl, by decide⟩, rfl⟩
  have hdoc : IsCanonical doc d := .document hframed (.cons hkey hvalue List.not_mem_nil .nil)
  have hframe : IsFrame bs ⟨35, 1, 0, 2013⟩ ([0, 0, 0, 0] ++ ([] ++ ((0 :: doc) ++ []) ++ [])) :=
    ⟨by decide, by decide, by decide⟩
  -- the key starts with a dollar, but spells no value
  obtain ⟨hdecode, ⟨hbytes, -⟩, hencode⟩ :=
    @decode_iff_isUntyped doc (0 :: doc) [] [] bs d (.body d) [] [] ⟨35, 1, 0, 2013⟩
      ⟨0⟩ hdoc .body .nil .nil rfl hframe
  have hsections : Tiles IsCanonicalSection ((0 :: doc) ++ []) [.body d] := .cons (.body hdoc) .nil
  exact ⟨hdoc, hdecode.mpr (by decide), hbytes, hencode hsections⟩

/-- `IsDocument` reads a document whose one key is a typed key as the value that this spells. -/
private theorem isDocument_typedKey :
    IsDocument [26, 0, 0, 0, 3, 97, 0, 18, 0, 0, 0, 16, 36, 109, 105, 110, 75, 101, 121, 0, 1, 0, 0,
      0, 0, 0] [("a", .minKey)] := by
  have hinner : Bson.Step.next [16, 36, 109, 105, 110, 75, 101, 121, 0, 1, 0, 0, 0, 0] =
      .element ⟨.int32, "$minKey", [1, 0, 0, 0]⟩ [0] := by rfl
  have htyped : Bson.TypedKey.ofName? "$minKey" = some .minKey := by decide
  have hvalue : Bson.readValue .document [18, 0, 0, 0, 16, 36, 109, 105, 110, 75, 101, 121, 0, 1, 0,
      0, 0, 0] = some .minKey := by
    have hdoc : Bson.document? [18, 0, 0, 0, 16, 36, 109, 105, 110, 75, 101, 121, 0, 1,
        0, 0, 0, 0] =
        some [16, 36, 109, 105, 110, 75, 101, 121, 0, 1, 0, 0, 0, 0] := by rfl
    rw [Bson.readValue_document, hdoc, Option.bind_some,
      Bson.readFields_typedKey hinner htyped (by decide) (by decide)]
    with_unfolding_all rfl
  -- the document around it has one key, which is none of the typed ones
  have houter : Bson.Step.next [3, 97, 0, 18, 0, 0, 0, 16, 36, 109, 105, 110, 75, 101, 121, 0, 1, 0,
      0, 0, 0, 0] =
      .element ⟨.document, "a", [18, 0, 0, 0, 16, 36, 109, 105, 110, 75, 101, 121, 0, 1, 0, 0, 0,
        0]⟩ [0] := by rfl
  have hdoc : Bson.document? [26, 0, 0, 0, 3, 97, 0, 18, 0, 0, 0, 16, 36, 109, 105, 110, 75, 101,
      121, 0, 1, 0, 0, 0, 0, 0] =
      some [3, 97, 0, 18, 0, 0, 0, 16, 36, 109, 105, 110, 75, 101, 121, 0, 1, 0, 0, 0, 0, 0] := by
    rfl
  have hkey : Bson.TypedKey.ofName? "a" = none := by decide
  rw [IsDocument, Document.decode?_eq_some_iff, Bson.readValue_document, hdoc, Option.bind_some,
    Bson.readFields_element houter hkey, hvalue, Option.bind_some, Bson.readFields_done rfl]
  rfl

/-- A document with a typed key in it is in canonical form and is written, but `Message.decode`
reads another document. -/
theorem decode_of_typedKey :
    let d : Document := [("a", .document [("$minKey", .int32 1)])]
    let doc : List UInt8 :=
      [26, 0, 0, 0, 3, 97, 0, 18, 0, 0, 0, 16, 36, 109, 105, 110, 75, 101, 121, 0, 1, 0, 0, 0, 0, 0]
    let bs : List UInt8 := [47, 0, 0, 0, 1, 0, 0, 0, 0, 0, 0, 0, 221, 7, 0, 0, 0, 0, 0, 0, 0] ++ doc
    IsCanonical doc d ∧ Message.encode ⟨1, 0, .msg ⟨⟨0⟩, [.body d]⟩⟩ = .ok bs ∧
      Message.decode bs = .ok ⟨1, 0, .msg ⟨⟨0⟩, [.body [("a", .minKey)]]⟩⟩ := by
  intro d doc bs
  have hkey : Bson.IsCString [97, 0] "a" := ⟨by decide, by decide⟩
  have htyped : Bson.IsCString [36, 109, 105, 110, 75, 101, 121, 0] "$minKey" :=
    ⟨by decide, by decide⟩
  -- the bytes spell the inner document as it was written
  have hone : Bson.Spells .int32 [1, 0, 0, 0] (.int32 1) := .int32 rfl
  have hframedInner : Bson.IsFramed [18, 0, 0, 0, 16, 36, 109, 105, 110, 75, 101, 121, 0,
      1, 0, 0, 0, 0]
      [16, 36, 109, 105, 110, 75, 101, 121, 0, 1, 0, 0, 0] := ⟨[18, 0, 0, 0], ⟨rfl, by decide⟩, rfl⟩
  have hinner : Bson.Spells .document _ (.document [("$minKey", .int32 1)]) :=
    .document hframedInner (.cons htyped hone List.not_mem_nil .nil)
  have hframed : Bson.IsFramed doc [3, 97, 0, 18, 0, 0, 0, 16, 36, 109, 105, 110, 75, 101, 121, 0,
      1, 0, 0, 0, 0] :=
    ⟨[26, 0, 0, 0], ⟨rfl, by decide⟩, rfl⟩
  have hdoc : IsCanonical doc d := .document hframed (.cons hkey hinner List.not_mem_nil .nil)
  have hframe : IsFrame bs ⟨47, 1, 0, 2013⟩ ([0, 0, 0, 0] ++ ((0 :: doc) ++ [] ++ [])) :=
    ⟨by decide, by decide, by decide⟩
  have hsections : Tiles IsCanonicalSection ((0 :: doc) ++ []) [.body d] := .cons (.body hdoc) .nil
  have hbody : IsPlainBody (Header.bytes ⟨47, 1, 0, 2013⟩)
      ([0, 0, 0, 0] ++ ((0 :: doc) ++ [] ++ []))
      (.msg ⟨⟨0⟩, [.body [("a", .minKey)]]⟩) :=
    .msg (m := ⟨⟨0⟩, [.body [("a", .minKey)]]⟩) (.cons (.body isDocument_typedKey) .nil)
  have hencode :=
    @encode_of_canonical bs ((0 :: doc) ++ []) ⟨47, 1, 0, 2013⟩ ⟨0⟩ [.body d] hsections rfl hframe
  exact ⟨hdoc, hencode, decode_of_spells (.plain hframe rfl hbody)⟩

end DocGateway.Wire
