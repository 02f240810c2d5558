import DocGateway.Proofs.Bson.NormalForm
import DocGateway.Proofs.Bson.RoundTrip
/-!
# Documents in canonical form

Which bytes are the canonical form of a document, said without a reader or a writer: lengths are
those of what they stand in front of, texts are UTF-8, keys are distinct, the items of an array are
numbered, options are in order. Any text without a NUL character may be a key.

The canonical form of a document is what is written for it. It is read as that document exactly if
no key at any depth spells a typed value: a reader that gives such keys a meaning of their own does
not hand on all documents as they are.

## Key results

- `Value.of_spells`, `fields_of_spells`, `items_of_spells`: what is canonical is written, and
  settled but for typed keys
- `IsCanonical.written`: documents
- `Document.decode?_iff_isUntyped`: which canonical documents are read as they are
-/

namespace DocGateway.Bson

/-! ### The form of values -/

/-- Four bytes that announce a length. -/
def Announces (head : List UInt8) (n : Nat) : Prop :=
  head.length = 4 ∧ (LittleEndian.toInt32 head).toInt = n

/-- A text without zero bytes, and a zero byte behind. -/
def IsCString (bs : List UInt8) (s : String) : Prop := bs = Utf8.encode s ++ [0] ∧ 0 ∉ Utf8.encode s

/-- A text with a zero byte behind, and the length of both in front. -/
def IsText (bs : List UInt8) (s : String) : Prop :=
  ∃ head, Announces head ((Utf8.encode s).length + 1) ∧ bs = head ++ (Utf8.encode s ++ [0])

/-- Elements with a zero byte behind, and the length of all in front. -/
def IsFramed (bs elements : List UInt8) : Prop :=
  ∃ head, Announces head (elements.length + 5) ∧ bs = head ++ (elements ++ [0])

mutual

/-- The canonical form of a value under its tag. -/
inductive Spells : Tag → List UInt8 → Value → Prop
  | double {bs : List UInt8} (h : bs.length = 8) :
      Spells .double bs (.double ⟨LittleEndian.toUInt64 bs⟩)
  | string {bs : List UInt8} {s : String} (h : IsText bs s) : Spells .string bs (.string s)
  | document {bs elements : List UInt8} {fields : List (String × Value)} (h : IsFramed bs elements)
      (hfields : SpellsFields elements fields) : Spells .document bs (.document fields)
  | array {bs elements : List UInt8} {items : List Value} (h : IsFramed bs elements)
      (hitems : SpellsItems 0 elements items) :
      Spells .array bs (.array items)
  | binary {head bytes : List UInt8} {subtype : UInt8} (h : Announces head bytes.length)
      (hsubtype : subtype ≠ 2) :
      Spells .binary (head ++ subtype :: bytes) (.binary subtype bytes)
  /-- The second subtype has its length twice. -/
  | oldBinary {outer inner bytes : List UInt8} (houter : Announces outer (bytes.length + 4))
      (hinner : Announces inner bytes.length) :
      Spells .binary (outer ++ 2 :: (inner ++ bytes)) (.binary 2 bytes)
  | undefined : Spells .undefined [] .undefined
  | objectId {bs : List UInt8} (h : bs.length = 12) :
      Spells .objectId bs (.objectId ⟨BitVec.ofNat 96 (LittleEndian.decode bs)⟩)
  | false : Spells .boolean [0] (.boolean false)
  | true : Spells .boolean [1] (.boolean true)
  | dateTime {bs : List UInt8} (h : bs.length = 8) :
      Spells .dateTime bs (.dateTime (LittleEndian.toInt64 bs))
  | null : Spells .null [] .null
  | regex {p o : List UInt8} {pattern options : String} (hp : IsCString p pattern)
      (ho : IsCString o options)
      (hsorted : options.toList.Pairwise (· ≤ ·)) : Spells .regex (p ++ o) (.regex pattern options)
  | dbPointer {text id : List UInt8} {ns : String} (h : IsText text ns) (hid : id.length = 12) :
      Spells .dbPointer (text ++ id) (.dbPointer ns ⟨BitVec.ofNat 96 (LittleEndian.decode id)⟩)
  | code {bs : List UInt8} {source : String} (h : IsText bs source) : Spells .code bs (.code source)
  | symbol {bs : List UInt8} {name : String} (h : IsText bs name) : Spells .symbol bs (.symbol name)
  | codeWithScope {head text bs elements : List UInt8} {source : String}
      {scope : List (String × Value)}
      (h : Announces head (text.length + bs.length + 4)) (htext : IsText text source)
      (hframed : IsFramed bs elements) (hscope : SpellsFields elements scope) :
      Spells .codeWithScope (head ++ (text ++ bs)) (.codeWithScope source scope)
  | int32 {bs : List UInt8} (h : bs.length = 4) :
      Spells .int32 bs (.int32 (LittleEndian.toInt32 bs))
  | timestamp {increment time : List UInt8} (hi : increment.length = 4) (ht : time.length = 4) :
      Spells .timestamp (increment ++ time)
      (.timestamp (LittleEndian.toUInt32 time) (LittleEndian.toUInt32 increment))
  | int64 {bs : List UInt8} (h : bs.length = 8) :
      Spells .int64 bs (.int64 (LittleEndian.toInt64 bs))
  | decimal128 {bs : List UInt8} (h : bs.length = 16) :
      Spells .decimal128 bs (.decimal128 ⟨BitVec.ofNat 128 (LittleEndian.decode bs)⟩)
  | minKey : Spells .minKey [] .minKey
  | maxKey : Spells .maxKey [] .maxKey

/-- The canonical form of fields, whose keys are distinct. -/
inductive SpellsFields : List UInt8 → List (String × Value) → Prop
  | nil : SpellsFields [] []
  | cons {tag : Tag} {k payload rest : List UInt8} {key : String} {v : Value}
      {fields : List (String × Value)} (hkey : IsCString k key)
      (hv : Spells tag payload v) (hnew : key ∉ fields.map Prod.fst)
      (hrest : SpellsFields rest fields) :
      SpellsFields (tag.byte :: (k ++ (payload ++ rest))) ((key, v) :: fields)

/-- The canonical form of items, whose keys are their places from a place on. -/
inductive SpellsItems : Nat → List UInt8 → List Value → Prop
  | nil {i : Nat} : SpellsItems i [] []
  | cons {tag : Tag} {i : Nat} {k payload rest : List UInt8} {v : Value} {items : List Value}
      (hkey : IsCString k (toString i))
      (hv : Spells tag payload v) (hrest : SpellsItems (i + 1) rest items) :
      SpellsItems i (tag.byte :: (k ++ (payload ++ rest))) (v :: items)

end

/-- The canonical form of a document. -/
def IsCanonical (bs : List UInt8) (d : Document) : Prop := Spells .document bs (.document d)

/-! ### Keys that spell typed values -/

mutual

/-- Whether no key within a value spells a typed value. -/
def Value.isUntyped : Value → Bool
  | .document fields => fieldsUntyped fields
  | .array items => itemsUntyped items
  | .codeWithScope _ scope => fieldsUntyped scope
  | _ => true

/-- Whether no key of fields, or within their values, spells a typed value. -/
def fieldsUntyped : List (String × Value) → Bool
  | [] => true
  | (key, v) :: rest => (TypedKey.ofName? key).isNone && v.isUntyped && fieldsUntyped rest

/-- Whether no key within items spells a typed value. -/
def itemsUntyped : List Value → Bool
  | [] => true
  | v :: rest => v.isUntyped && itemsUntyped rest

end

/-- Whether no key of a document, at any depth, spells a typed value. -/
def Document.isUntyped (d : Document) : Bool := fieldsUntyped d

/-! ### Lengths and texts -/

/-- `Announces` holds only of lengths that fit in a word. -/
theorem Announces.lt {head : List UInt8} {n : Nat} (h : Announces head n) : n < 1 <<< 31 := by
  have hlt := (LittleEndian.toInt32 head).toInt_lt
  have hn := h.2
  omega

/-- `Announces` holds of a length only for the four bytes that are written for it. -/
theorem Announces.eq_encode {head : List UInt8} {n : Nat} (h : Announces head n) :
    head = LittleEndian.encode 4 n := by
  have hword : LittleEndian.toInt32 head = Int32.ofNat n :=
    Int32.toInt_inj.mp (h.2.trans (Int32.toInt_ofNat_of_lt h.lt).symm)
  rw [← LittleEndian.int32_ofNat h.lt, ← hword, LittleEndian.int32_toInt32 h.1]

/-- `cstring` writes a text as `IsCString` describes it. -/
theorem IsCString.eq_cstring {bs : List UInt8} {s : String} (h : IsCString bs s) : cstring s = bs :=
  h.1.symm

/-- A text that `IsCString` describes can end in a zero byte. -/
theorem IsCString.isTerminable {bs : List UInt8} {s : String} (h : IsCString bs s) :
    isTerminable s = true :=
  (isTerminable_iff s).mpr h.2

/-- `textBytes` writes a text as `IsText` describes it. -/
theorem IsText.eq_textBytes {bs : List UInt8} {s : String} (h : IsText bs s) :
    textBytes s = bs := by
  obtain ⟨head, hhead, rfl⟩ := h
  rw [textBytes, hhead.eq_encode, Utf8.length_encode]
  rfl

/-- `frame` writes elements as `IsFramed` describes them. -/
theorem IsFramed.eq_frame {bs elements : List UInt8} (h : IsFramed bs elements) :
    frame elements = bs := by
  obtain ⟨head, hhead, rfl⟩ := h
  rw [frame, hhead.eq_encode, List.append_assoc]

/-- Framed elements are no more bytes than a word can tell. -/
theorem IsFramed.length_lt {bs elements : List UInt8} (h : IsFramed bs elements) :
    bs.length < 1 <<< 31 := by
  obtain ⟨head, hhead, -⟩ := id h
  have := hhead.lt
  rw [← h.eq_frame, length_frame]
  omega

/-- `sortOptions` leaves options in order as they are. -/
theorem sortOptions_of_pairwise {options : String} (h : options.toList.Pairwise (· ≤ ·)) :
    sortOptions options = options := by
  rw [sortOptions, List.mergeSort_of_pairwise (h.imp fun h => decide_eq_true h),
    String.ofList_toList]

/-- A number is written in as many bytes as it was read from. -/
theorem encode_toNat_ofNat {bs : List UInt8} {w : Nat} (h : bs.length = w) :
    LittleEndian.encode w (BitVec.ofNat (8 * w) (LittleEndian.decode bs)).toNat = bs := by
  have hlt := LittleEndian.decode_lt bs
  rw [h, Nat.one_shiftLeft] at hlt
  rw [BitVec.toNat_ofNat, Nat.mod_eq_of_lt hlt, ← h, LittleEndian.encode_decode]

/-- `contains` looks for a key among the keys. -/
theorem contains_eq_false_of_notMem {key : String} {fields : List (String × Value)}
    (h : key ∉ fields.map Prod.fst) :
    Document.contains fields key = false := by
  simp only [Document.contains, List.any_eq_false, beq_iff_eq]
  exact fun f hf hkey => h (List.mem_map.mpr ⟨f, hf, hkey⟩)

/-! ### What is canonical is written -/

mutual

/-- The canonical form of a value is what `bytes` writes for it, and the value would be read as it
stands but for typed keys. -/
theorem Value.of_spells (v : Value) {tag : Tag} {bs : List UInt8} (h : Spells tag bs v) :
    v.tag = tag ∧ v.bytes = bs ∧ v.isWritable = true ∧ v.isSettled = v.isUntyped := by
  cases h with
  | double h => exact ⟨rfl, LittleEndian.uint64_toUInt64 h, rfl, rfl⟩
  -- one case for each form; only what holds other values needs the other two statements
  | string h | code h | symbol h => exact ⟨rfl, h.eq_textBytes, rfl, rfl⟩
  | @document _ _ fields h hfields =>
    obtain ⟨hbytes, hwritable, hsettled⟩ := fields_of_spells fields hfields
    exact ⟨rfl, by rw [Value.bytes, hbytes, h.eq_frame], hwritable, hsettled⟩
  | @array _ _ items h hitems =>
    obtain ⟨hbytes, hwritable, hsettled⟩ := items_of_spells items hitems
    exact ⟨rfl, by rw [Value.bytes, hbytes, h.eq_frame], hwritable, hsettled⟩
  | binary h hsubtype => exact ⟨rfl, by rw [Value.bytes, if_neg hsubtype, h.eq_encode], rfl, rfl⟩
  | oldBinary houter hinner =>
    exact ⟨rfl,
      by rw [Value.bytes, if_pos rfl, houter.eq_encode, hinner.eq_encode, List.append_assoc,
           List.cons_append], rfl, rfl⟩
  | objectId h => exact ⟨rfl, encode_toNat_ofNat h, rfl, rfl⟩
  | dateTime h | int64 h => exact ⟨rfl, LittleEndian.int64_toInt64 h, rfl, rfl⟩
  | regex hp ho hsorted =>
    -- options are sorted when they are written
    have hsort := sortOptions_of_pairwise hsorted
    refine ⟨rfl, by rw [Value.bytes, hsort, hp.eq_cstring, ho.eq_cstring], ?_, ?_⟩
    · rw [Value.isWritable, hp.isTerminable, ho.isTerminable, Bool.and_self]
    · exact beq_iff_eq.mpr hsort
  | dbPointer h hid =>
    exact ⟨rfl, by rw [Value.bytes, h.eq_textBytes, encode_toNat_ofNat hid], rfl, rfl⟩
  | @codeWithScope _ _ _ _ _ scope h htext hframed hscope =>
    obtain ⟨hbytes, hwritable, hsettled⟩ := fields_of_spells scope hscope
    refine ⟨rfl, ?_, hwritable, hsettled⟩
    rw [Value.bytes, hbytes, hframed.eq_frame, htext.eq_textBytes, h.eq_encode, List.length_append]
  | int32 h => exact ⟨rfl, LittleEndian.int32_toInt32 h, rfl, rfl⟩
  | timestamp hi ht =>
    refine ⟨rfl, ?_, rfl, rfl⟩
    rw [Value.bytes, LittleEndian.uint32_toUInt32 hi, LittleEndian.uint32_toUInt32 ht]
  | decimal128 h => exact ⟨rfl, encode_toNat_ofNat h, rfl, rfl⟩
  | _ => exact ⟨rfl, rfl, rfl, rfl⟩

/-- The same for fields: `fieldsBytes` writes their canonical form. -/
theorem fields_of_spells (fields : List (String × Value)) {bs : List UInt8}
    (h : SpellsFields bs fields) :
    fieldsBytes fields = bs ∧ fieldsWritable fields = true ∧
      fieldsSettled fields = fieldsUntyped fields := by
  match fields, h with
  | [], .nil => exact ⟨rfl, rfl, rfl⟩
  | (key, v) :: rest, .cons hkey hv hnew hrest =>
    -- the value and the rest are written back as they were, and the key is not among the others
    obtain ⟨rfl, rfl, hwritable, hsettled⟩ := Value.of_spells v hv
    obtain ⟨rfl, hwritableRest, hsettledRest⟩ := fields_of_spells rest hrest
    refine ⟨?_, ?_, ?_⟩
    · rw [fieldsBytes, hkey.eq_cstring, List.cons_append, List.cons_append, List.append_assoc]
    · rw [fieldsWritable, hkey.isTerminable, hwritable, hwritableRest, Bool.and_self, Bool.and_self]
    · rw [fieldsSettled, fieldsUntyped, contains_eq_false_of_notMem hnew, hsettled, hsettledRest,
        Bool.not_false, Bool.and_true]

/-- The same for items: `itemsBytes` writes their canonical form. -/
theorem items_of_spells (items : List Value) {i : Nat} {bs : List UInt8}
    (h : SpellsItems i bs items) :
    itemsBytes i items = bs ∧ itemsWritable items = true ∧
      itemsSettled items = itemsUntyped items := by
  -- with the item as it is spelled, and the items behind it
  match items, h with
  | [], .nil => exact ⟨rfl, rfl, rfl⟩
  | v :: rest, .cons hkey hv hrest =>
    obtain ⟨rfl, rfl, hwritable, hsettled⟩ := Value.of_spells v hv
    obtain ⟨rfl, hwritableRest, hsettledRest⟩ := items_of_spells rest hrest
    refine ⟨?_, ?_, ?_⟩
    · rw [itemsBytes, indexKey, hkey.eq_cstring, List.cons_append, List.cons_append,
        List.append_assoc]
    · rw [itemsWritable, hwritable, hwritableRest, Bool.and_self]
    · rw [itemsSettled, itemsUntyped, hsettled, hsettledRest]

end

/-- The canonical form of a document is what `bytes` writes for it, and the document would be read
as it stands but for typed keys. -/
theorem IsCanonical.written {bs : List UInt8} {d : Document} (h : IsCanonical bs d) :
    d.bytes = bs ∧ d.isWritable = true ∧ d.isSettled = d.isUntyped :=
  (Value.of_spells (.document d) h).2

/-! ### What is canonical is read -/

/-- `Document.decode?` reads the canonical form of a document as the document exactly if no key of
it spells a typed value. -/
theorem Document.decode?_iff_isUntyped {bs : List UInt8} {d : Document} (h : IsCanonical bs d) :
    Document.decode? bs = some d ↔ d.isUntyped = true := by
  obtain ⟨rfl, hwritable, hsettled⟩ := h.written
  rw [← hsettled]
  have hsize : d.size < 1 <<< 31 := by
    cases h with
    | document hframed _ =>
      rw [← Document.length_bytes]
      exact hframed.length_lt
  -- what was read is settled, and what is settled is read as it was written
  exact ⟨Document.isSettled_of_decode?, fun hset => Document.decode?_bytes hset hwritable hsize⟩

/-- What a typed key spells takes the place of the document around it, `$code` and `$scope`
apart. -/
theorem readFields_typedKey {bytes rest : List UInt8} {e : Element} {key : TypedKey}
    (h : Step.next bytes = .element e rest) (hkey : TypedKey.ofName? e.key = some key)
    (hcode : key ≠ .code) (hscope : key ≠ .scope) (soFar : Document) :
    readFields bytes soFar = key.value? (Content.ofElement e) := by
  rw [readFields]
  split
  · simp_all
  · simp_all
  · rename_i e' rest' h'
    obtain ⟨rfl, rfl⟩ := Step.element.inj (h'.symm.trans h)
    rw [hkey]
    cases key with
    -- these two say what is read next instead of giving a value
    | code => exact absurd rfl hcode
    | scope => exact absurd rfl hscope
    | _ => rfl

end DocGateway.Bson
