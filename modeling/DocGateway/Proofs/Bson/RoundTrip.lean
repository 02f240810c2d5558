import DocGateway.Bson.Decode
import DocGateway.Proofs.Bson.Settled
/-!
# Reading back what was written

A settled document that has a written form is read back from its bytes as it was. The tag and the
length in front of a payload tell where an element ends whatever follows it, so that elements are
read one after another; values, fields and items are taken together in one induction.

## Key results

- `payloadLength?_bytes`: the tag and the first bytes of a payload tell its length
- `leaf?_bytes`: values without others in them
- `next_element`: one element
- `readValue_bytes`, `readFields_fieldsBytes`, `readItems_itemsBytes`: values at any depth
- `Document.decode?_bytes`: documents
-/

namespace DocGateway.Bson

/-! ### Texts, frames and code with scope -/

/-- `announced?` undoes the encoding of a length that fits in a word. -/
theorem announced?_encode {n : Nat} (h : n < 1 <<< 31) (rest : List UInt8) :
    announced? (LittleEndian.encode 4 n ++ rest) = some n := by
  have hlen := LittleEndian.length_encode 4 n
  rw [announced?_eq_some_iff, List.take_left' hlen, LittleEndian.toInt_toInt32_encode h]
  exact ⟨by rw [List.length_append]; omega, rfl⟩

/-- `textBytes` announces its length, with the zero byte. -/
theorem announced?_textBytes {s : String} (h : s.utf8ByteSize + 1 < 1 <<< 31) (rest : List UInt8) :
    announced? (textBytes s ++ rest) = some (s.utf8ByteSize + 1) := by
  rw [textBytes, List.append_assoc, announced?_encode h]

/-- `frame` announces its own length. -/
theorem announced?_frame {elements : List UInt8} (h : elements.length + 5 < 1 <<< 31)
    (rest : List UInt8) : announced? (frame elements ++ rest) = some (elements.length + 5) := by
  rw [frame, List.append_assoc, List.append_assoc, announced?_encode h]

/-- `textOf?` undoes `textBytes`. -/
theorem textOf?_textBytes (s : String) : textOf? (textBytes s) = some s := by
  simp only [textOf?, textBytes, Slice.split?_append_of_length (LittleEndian.length_encode 4 _)]
  simp [cstring, Utf8.decode?_encode]

/-- `document?` finds the elements in a frame, and the zero byte behind them. -/
theorem document?_frame {elements : List UInt8} (h : elements.length + 5 < 1 <<< 31) :
    document? (frame elements) = some (elements ++ [0]) := by
  rw [document?_eq_some_iff]
  refine ⟨LittleEndian.encode 4 (elements.length + 5), ?_, LittleEndian.length_encode 4 _, ?_, ?_⟩
  · rw [frame, List.append_assoc]
  · rw [LittleEndian.toInt_toInt32_encode h, length_frame]
  · simp

/-- `codeAndScope?` parts the source text from the bytes of the scope. -/
theorem codeAndScope?_bytes {source : String} {scope : List UInt8}
    (h : source.utf8ByteSize + 1 < 1 <<< 31) (n : Nat) :
    codeAndScope? (LittleEndian.encode 4 n ++ (textBytes source ++ scope)) =
      some (source, scope) := by
  have hann : announced? (textBytes source ++ scope) = some (source.utf8ByteSize + 1) := by
    rw [textBytes, List.append_assoc, announced?_encode h]
  have hlen : (textBytes source).length = 4 + (source.utf8ByteSize + 1) := by
    rw [length_textBytes]; omega
  simp only [codeAndScope?, Slice.split?_append_of_length (LittleEndian.length_encode 4 _),
    Option.bind_eq_bind, Option.bind_some, hann, Slice.split?_append_of_length hlen,
    textOf?_textBytes]

/-! ### Payloads -/

/-- `payloadLength?` tells how long a payload is by its tag and its first bytes. -/
theorem payloadLength?_bytes {v : Value} (hw : v.isWritable = true) (hsize : v.size < 1 <<< 31)
    (rest : List UInt8) :
    v.tag.payloadLength? (v.bytes ++ rest) = some v.size := by
  cases v with
  | string s | code s | symbol s =>
    simp only [Value.size] at hsize
    simp only [Value.tag, Tag.payloadLength?, Value.bytes, Value.size,
      announced?_textBytes (show s.utf8ByteSize + 1 < 1 <<< 31 by omega), Option.map_some]
    congr 1; omega
  | document fields =>
    rw [Value.size, ← length_fieldsBytes] at hsize
    simp only [Value.tag, Tag.payloadLength?, Value.bytes, Value.size, announced?_frame hsize,
      length_fieldsBytes]
  | array items =>
    rw [Value.size, ← length_itemsBytes] at hsize
    simp only [Value.tag, Tag.payloadLength?, Value.bytes, Value.size, announced?_frame hsize,
      length_itemsBytes]
  | codeWithScope source scope =>
    have hlen : (textBytes source ++ frame (fieldsBytes scope)).length + 4 =
        (Value.codeWithScope source scope).size := by
      simp only [Value.size, List.length_append, length_textBytes, length_frame, length_fieldsBytes]
      omega
    simp only [Value.tag, Tag.payloadLength?, Value.bytes, hlen, List.append_assoc,
      announced?_encode hsize]
  -- the second subtype has its length twice
  | binary subtype bytes =>
    by_cases h2 : subtype = 2
    · simp only [Value.size, h2, ↓reduceIte] at hsize
      simp only [Value.tag, Tag.payloadLength?, Value.bytes, Value.size, h2, ↓reduceIte,
        List.append_assoc, announced?_encode (show bytes.length + 4 < 1 <<< 31 by omega),
        Option.map_some]
      congr 1; omega
    · simp only [Value.size, h2, ↓reduceIte] at hsize
      simp only [Value.tag, Tag.payloadLength?, Value.bytes, Value.size, h2, ↓reduceIte,
        List.append_assoc, announced?_encode (show bytes.length < 1 <<< 31 by omega),
        Option.map_some]
      congr 1; omega
  | dbPointer ns id =>
    simp only [Value.size] at hsize
    simp only [Value.tag, Tag.payloadLength?, Value.bytes, Value.size, List.append_assoc,
      announced?_textBytes (show ns.utf8ByteSize + 1 < 1 <<< 31 by omega), Option.map_some]
    congr 1; omega
  | regex pattern options =>
    simp only [Value.isWritable, Bool.and_eq_true] at hw
    -- the options are written in order, which are the same characters
    have ho : isTerminable (sortOptions options) = true := by
      rw [isTerminable_sortOptions, hw.2]
    simp only [Value.tag, Tag.payloadLength?, Value.bytes, Value.size, List.append_assoc,
      cstring?_cstring hw.1, cstring?_cstring ho, Option.bind_eq_bind, Option.bind_some,
      Utf8.length_encode]
  | _ => rfl

/-- `leaf?` reads a value without others in it back from its own bytes. -/
theorem leaf?_bytes {v : Value} (hset : v.isSettled = true) (hw : v.isWritable = true)
    (hsize : v.size < 1 <<< 31) (hdoc : v.tag ≠ .document) (harr : v.tag ≠ .array)
    (hcode : v.tag ≠ .codeWithScope) : leaf? v.tag v.bytes = some v := by
  -- a payload is cut where its value was written
  cases v with
  | document fields => exact absurd rfl hdoc
  | array items => exact absurd rfl harr
  | codeWithScope source scope => exact absurd rfl hcode
  | string s | code s | symbol s =>
    simp only [Value.tag, leaf?, Value.bytes, textOf?_textBytes, Option.map_some]
  | binary subtype bytes =>
    by_cases h2 : subtype = 2
    · simp only [Value.size, h2, ↓reduceIte] at hsize
      simp only [Value.tag, leaf?, Value.bytes, h2, ↓reduceIte, List.append_assoc, List.cons_append,
        Slice.split?_append_of_length (LittleEndian.length_encode 4 _),
        announced?_encode (show bytes.length < 1 <<< 31 by omega), Option.bind_eq_bind,
        Option.bind_some]
    · simp only [Value.tag, leaf?, Value.bytes, h2, ↓reduceIte,
        Slice.split?_append_of_length (LittleEndian.length_encode 4 _), Option.bind_eq_bind,
        Option.bind_some]
  | objectId id =>
    have h : LittleEndian.decode (LittleEndian.encode 12 id.word.toNat) = id.word.toNat :=
      LittleEndian.decode_encode_of_lt id.word.isLt
    simp only [Value.tag, leaf?, Value.bytes, h, BitVec.ofNat_toNat, BitVec.setWidth_eq]
  | boolean b => cases b <;> rfl
  | regex pattern options =>
    simp only [Value.isWritable, Bool.and_eq_true] at hw
    -- settled options are in order already
    obtain ho : sortOptions options = options := eq_of_beq hset
    have hend := cstring?_cstring hw.2 []
    rw [List.append_nil] at hend
    simp only [Value.tag, leaf?, Value.bytes, ho, cstring?_cstring hw.1, hend, Option.bind_eq_bind,
      Option.bind_some, Utf8.decode?_encode]
  | dbPointer ns id =>
    have h : LittleEndian.decode (LittleEndian.encode 12 id.word.toNat) = id.word.toNat :=
      LittleEndian.decode_encode_of_lt id.word.isLt
    have hlen : (textBytes ns).length =
        (textBytes ns ++ LittleEndian.encode 12 id.word.toNat).length - 12 := by
      rw [List.length_append, LittleEndian.length_encode]; omega
    simp only [Value.tag, leaf?, Value.bytes, Slice.split?_append_of_length hlen, textOf?_textBytes,
      h, BitVec.ofNat_toNat, BitVec.setWidth_eq, Option.bind_eq_bind, Option.bind_some]
  | timestamp time increment =>
    have hlen := LittleEndian.length_uint32 increment
    simp only [Value.tag, leaf?, Value.bytes, List.take_left' hlen, List.drop_left' hlen,
      LittleEndian.toUInt32_uint32]
  | decimal128 x =>
    have h : LittleEndian.decode (LittleEndian.encode 16 x.bits.toNat) = x.bits.toNat :=
      LittleEndian.decode_encode_of_lt x.bits.isLt
    simp only [Value.tag, leaf?, Value.bytes, h, BitVec.ofNat_toNat, BitVec.setWidth_eq]
  | _ => simp [Value.tag, leaf?, Value.bytes]

/-! ### Elements -/

/-- `Step.next` finds the element that is written for a key and a value. -/
theorem next_element {key : String} {v : Value} (hkey : isTerminable key = true)
    (hw : v.isWritable = true) (hsize : v.size < 1 <<< 31) (rest : List UInt8) :
    Step.next (v.tag.byte :: (cstring key ++ (v.bytes ++ rest))) =
      .element ⟨v.tag, key, v.bytes⟩ rest := by
  -- no tag is the byte that ends a document
  have hne : v.tag.byte :: (cstring key ++ (v.bytes ++ rest)) ≠ [0] := by
    intro h
    have h0 : v.tag.byte = 0 := (List.cons.inj h).1
    revert h0
    cases v.tag <;> decide
  have hsplit : Element.split? (v.tag.byte :: (cstring key ++ (v.bytes ++ rest))) =
      some (⟨v.tag, key, v.bytes⟩, rest) := by
    simp only [Element.split?, Tag.ofByte?_byte, cstring?_cstring hkey, Utf8.decode?_encode,
      payloadLength?_bytes hw hsize, Slice.split?_append_of_length v.length_bytes,
      Option.bind_eq_bind, Option.bind_some]
  rw [Step.next, if_neg hne, hsplit]

/-- `Step.next` finds the end at a zero byte. -/
theorem next_end : Step.next [0] = .done := if_pos rfl

/-! ### Values -/

/-- Digits are no NUL characters, so an index can be a key. -/
theorem isTerminable_indexKey (i : Nat) : isTerminable (indexKey i) = true := by
  have hdigits : '\x00' ∉ (Nat.repr i).toList := by
    rw [Nat.toList_repr]
    intro h
    have := Nat.isDigit_of_mem_toDigits (by decide) (by decide) h
    exact absurd this (by decide)
  simpa [isTerminable, String.contains_char_eq, indexKey] using hdigits

mutual

/-- `readValue` reads a settled value back from its own bytes. -/
theorem readValue_bytes (v : Value) (hset : v.isSettled = true) (hw : v.isWritable = true)
    (hsize : v.size < 1 <<< 31) : readValue v.tag v.bytes = some v := by
  by_cases hleaf : v.tag ≠ .document ∧ v.tag ≠ .array ∧ v.tag ≠ .codeWithScope
  · obtain ⟨hdoc, harr, hcode⟩ := hleaf
    rw [readValue_of_leaf hdoc harr hcode, leaf?_bytes hset hw hsize hdoc harr hcode]
  -- only these three hold other values; what they hold is smaller
  · cases v with
    | document fields =>
      simp only [Value.size, ← length_fieldsBytes] at hsize
      have hread := readFields_fieldsBytes fields [] hset hw (by omega)
      simp only [Value.tag, Value.bytes, readValue_document, document?_frame hsize,
        Option.bind_some, hread, List.nil_append]
    | array items =>
      simp only [Value.size, ← length_itemsBytes] at hsize
      have hread := readItems_itemsBytes items [] 0 hset hw (by omega)
      simp only [Value.tag, Value.bytes, readValue_array, document?_frame hsize, Option.bind_some,
        hread, List.reverse_nil, List.nil_append]
    | codeWithScope source scope =>
      simp only [Value.size, ← length_fieldsBytes] at hsize
      have hread := readFields_fieldsBytes scope [] hset hw (by omega)
      have hscope : Document.decode? (frame (fieldsBytes scope)) = some scope := by
        rw [Document.decode?_eq_some_iff, readValue_document, document?_frame (by omega),
          Option.bind_some, hread, List.nil_append]
      simp only [Value.tag, Value.bytes, readValue_codeWithScope,
        codeAndScope?_bytes (show source.utf8ByteSize + 1 < 1 <<< 31 by omega), Option.bind_some,
        hscope, Option.map_some]
    | _ => simp [Value.tag] at hleaf

/-- `readFields` reads settled fields back from their own bytes, behind those that were read
before. -/
theorem readFields_fieldsBytes (fields soFar : List (String × Value))
    (hset : fieldsSettled (soFar ++ fields) = true) (hw : fieldsWritable fields = true)
    (hsize : (fieldsBytes fields).length < 1 <<< 31) :
    readFields (fieldsBytes fields ++ [0]) soFar = some (.document (soFar ++ fields)) := by
  match fields with
  | [] =>
    rw [fieldsBytes, List.nil_append, readFields_done next_end, List.append_nil]
  | (key, v) :: rest =>
    simp only [fieldsWritable, Bool.and_eq_true] at hw
    obtain ⟨⟨hkey, hwv⟩, hwrest⟩ := hw
    simp only [length_fieldsBytes, fieldsSize] at hsize
    obtain ⟨hname, -, hsv, -⟩ := fieldsSettled_cons.mp (fieldsSettled_of_append hset)
    -- the key is new, so that inserting puts it at the end
    have habsent := contains_eq_false_of_fieldsSettled_append hset
    have hnext := next_element hkey hwv (by omega) (fieldsBytes rest ++ [0])
    have hv := readValue_bytes v hsv hwv (by omega)
    have hrest := readFields_fieldsBytes rest (soFar ++ [(key, v)]) (by simpa using hset) hwrest
      (by rw [length_fieldsBytes]; omega)
    simp only [fieldsBytes, List.cons_append, List.append_assoc]
    rw [readFields_element hnext hname, hv, Option.bind_some, insert_of_contains_eq_false v habsent,
      hrest, List.append_assoc, List.singleton_append]

/-- `readItems` reads settled items back from their own bytes, behind those that were read
before. -/
theorem readItems_itemsBytes (items soFar : List Value) (i : Nat)
    (hset : itemsSettled items = true) (hw : itemsWritable items = true)
    (hsize : (itemsBytes i items).length < 1 <<< 31) :
    readItems (itemsBytes i items ++ [0]) soFar = some (.array (soFar.reverse ++ items)) := by
  match items with
  | [] =>
    rw [itemsBytes, List.nil_append, readItems_done next_end, List.append_nil]
  | v :: rest =>
    simp only [itemsWritable, Bool.and_eq_true] at hw
    obtain ⟨hwv, hwrest⟩ := hw
    simp only [length_itemsBytes, itemsSize] at hsize
    obtain ⟨hsv, hsrest⟩ := itemsSettled_cons.mp hset
    -- the key of an item is its index, which is not looked at
    have hnext := next_element (isTerminable_indexKey i) hwv (by omega)
      (itemsBytes (i + 1) rest ++ [0])
    have hv := readValue_bytes v hsv hwv (by omega)
    have hrest := readItems_itemsBytes rest (v :: soFar) (i + 1) hsrest hwrest
      (by rw [length_itemsBytes]; omega)
    simp only [itemsBytes, List.cons_append, List.append_assoc]
    rw [readItems_element hnext, hv, Option.bind_some, hrest, List.reverse_cons, List.append_assoc,
      List.singleton_append]

end

/-- `decode?` reads a settled document back from its own bytes. -/
theorem Document.decode?_bytes {d : Document} (hset : d.isSettled = true) (hw : d.isWritable = true)
    (hsize : d.size < 1 <<< 31) : Document.decode? d.bytes = some d := by
  rw [Document.decode?_eq_some_iff]
  exact readValue_bytes (.document d) hset hw hsize

end DocGateway.Bson
