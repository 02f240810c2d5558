import DocGateway.Bson.TypedKey
/-!
# Writing documents

`Document.bytes` writes a document. Array items get their positions as keys, and regular expression
options are written in order. A key or a regular expression that holds a NUL character has no
written form: `Document.isWritable` says whether there is none. `Document.size` is the number of
bytes, known before any is written:

* `length_bytes`   `d.bytes.length = d.size`
-/

namespace DocGateway.Bson

/-- The decimal key of a position in an array. -/
def indexKey (i : Nat) : String := toString i

/-- Whether a string can be written with a zero byte as its end. -/
def isTerminable (s : String) : Bool := !s.contains '\x00'

/-- The bytes of a string and a zero byte. -/
def cstring (s : String) : List UInt8 := Utf8.encode s ++ [0]

/-- The bytes of a string with its length in front and a zero byte behind. -/
def textBytes (s : String) : List UInt8 :=
  LittleEndian.encode 4 (s.utf8ByteSize + 1) ++ cstring s

/-- The frame of a document around its elements. -/
def frame (elements : List UInt8) : List UInt8 :=
  LittleEndian.encode 4 (elements.length + 5) ++ elements ++ [0]

namespace Value

/-- The tag of a value. -/
def tag : Value → Tag
  | .double _ => .double
  | .string _ => .string
  | .document _ => .document
  | .array _ => .array
  | .binary _ _ => .binary
  | .undefined => .undefined
  | .objectId _ => .objectId
  | .boolean _ => .boolean
  | .dateTime _ => .dateTime
  | .null => .null
  | .regex _ _ => .regex
  | .dbPointer _ _ => .dbPointer
  | .code _ => .code
  | .symbol _ => .symbol
  | .codeWithScope _ _ => .codeWithScope
  | .int32 _ => .int32
  | .timestamp _ _ => .timestamp
  | .int64 _ => .int64
  | .decimal128 _ => .decimal128
  | .minKey => .minKey
  | .maxKey => .maxKey

end Value

/-! ### Sizes -/

mutual

/-- The number of bytes of a value. -/
def Value.size : Value → Nat
  | .double _ | .dateTime _ | .timestamp _ _ | .int64 _ => 8
  | .string s | .code s | .symbol s => s.utf8ByteSize + 5
  | .document fields => fieldsSize fields + 5
  | .array items => itemsSize 0 items + 5
  | .binary subtype bytes => bytes.length + (if subtype = 2 then 9 else 5)
  | .undefined | .null | .minKey | .maxKey => 0
  | .objectId _ => 12
  | .boolean _ => 1
  | .regex pattern options => pattern.utf8ByteSize + (sortOptions options).utf8ByteSize + 2
  | .dbPointer ns _ => ns.utf8ByteSize + 17
  | .codeWithScope source scope => source.utf8ByteSize + fieldsSize scope + 14
  | .int32 _ => 4
  | .decimal128 _ => 16

/-- The number of bytes of the elements of a document. -/
def fieldsSize : List (String × Value) → Nat
  | [] => 0
  | (key, v) :: rest => key.utf8ByteSize + v.size + 2 + fieldsSize rest

/-- The number of bytes of the elements of an array from this position on. -/
def itemsSize (i : Nat) : List Value → Nat
  | [] => 0
  | v :: rest => (indexKey i).utf8ByteSize + v.size + 2 + itemsSize (i + 1) rest

end

/-! ### Bytes -/

mutual

/-- The payload of a value. -/
def Value.bytes : Value → List UInt8
  | .double x => LittleEndian.uint64 x.bits
  | .string s | .code s | .symbol s => textBytes s
  | .document fields => frame (fieldsBytes fields)
  | .array items => frame (itemsBytes 0 items)
  | .binary subtype bytes =>
    if subtype = 2 then
      LittleEndian.encode 4 (bytes.length + 4) ++ subtype ::
        LittleEndian.encode 4 bytes.length ++ bytes
    else LittleEndian.encode 4 bytes.length ++ subtype :: bytes
  | .undefined | .null | .minKey | .maxKey => []
  | .objectId id => LittleEndian.encode 12 id.word.toNat
  | .boolean b => [if b then 1 else 0]
  | .dateTime ms => LittleEndian.int64 ms
  | .regex pattern options => cstring pattern ++ cstring (sortOptions options)
  | .dbPointer ns id => textBytes ns ++ LittleEndian.encode 12 id.word.toNat
  | .codeWithScope source scope =>
    let rest := textBytes source ++ frame (fieldsBytes scope)
    LittleEndian.encode 4 (rest.length + 4) ++ rest
  | .int32 n => LittleEndian.int32 n
  | .timestamp time increment => LittleEndian.uint32 increment ++ LittleEndian.uint32 time
  | .int64 n => LittleEndian.int64 n
  | .decimal128 x => LittleEndian.encode 16 x.bits.toNat

/-- The elements of a document. -/
def fieldsBytes : List (String × Value) → List UInt8
  | [] => []
  | (key, v) :: rest => v.tag.byte :: cstring key ++ v.bytes ++ fieldsBytes rest

/-- The elements of an array from this position on. -/
def itemsBytes (i : Nat) : List Value → List UInt8
  | [] => []
  | v :: rest => v.tag.byte :: cstring (indexKey i) ++ v.bytes ++ itemsBytes (i + 1) rest

end

/-! ### What can be written -/

mutual

/-- Whether no key and no regular expression within a value holds a NUL character. -/
def Value.isWritable : Value → Bool
  | .document fields => fieldsWritable fields
  | .array items => itemsWritable items
  | .regex pattern options => isTerminable pattern && isTerminable options
  | .codeWithScope _ scope => fieldsWritable scope
  | _ => true

/-- Whether all fields can be written. -/
def fieldsWritable : List (String × Value) → Bool
  | [] => true
  | (key, v) :: rest => isTerminable key && v.isWritable && fieldsWritable rest

/-- Whether all items can be written. -/
def itemsWritable : List Value → Bool
  | [] => true
  | v :: rest => v.isWritable && itemsWritable rest

end

namespace Document

/-- The number of bytes of a document. -/
def size (d : Document) : Nat := fieldsSize d + 5

/-- The bytes of a document. -/
def bytes (d : Document) : List UInt8 := frame (fieldsBytes d)

/-- Whether a document has a written form. -/
def isWritable (d : Document) : Bool := fieldsWritable d

end Document

/-! ### Lengths -/

/-- `cstring` takes a byte more than the text. -/
@[simp] theorem length_cstring (s : String) : (cstring s).length = s.utf8ByteSize + 1 := by
  simp [cstring, Utf8.length_encode]

/-- `textBytes` takes five bytes more than the text. -/
@[simp] theorem length_textBytes (s : String) : (textBytes s).length = s.utf8ByteSize + 5 := by
  simp [textBytes]; omega

/-- `frame` takes five bytes more than the elements. -/
@[simp] theorem length_frame (elements : List UInt8) :
    (frame elements).length = elements.length + 5 := by
  simp [frame]; omega

mutual

/-- `bytes` of a value are as many as its `size` says. -/
theorem Value.length_bytes (v : Value) : v.bytes.length = v.size := by
  cases v with
  | document fields => simp [Value.bytes, Value.size, length_fieldsBytes fields]
  | array items => simp [Value.bytes, Value.size, length_itemsBytes 0 items]
  | binary subtype bytes =>
    by_cases h : subtype = 2 <;> simp [Value.bytes, Value.size, h] <;> omega
  | codeWithScope source scope =>
    simp [Value.bytes, Value.size, length_fieldsBytes scope]; omega
  | _ => simp [Value.bytes, Value.size] <;> omega

/-- `fieldsBytes` are as many as `fieldsSize` says. -/
theorem length_fieldsBytes (fields : List (String × Value)) :
    (fieldsBytes fields).length = fieldsSize fields := by
  match fields with
  | [] => simp [fieldsBytes, fieldsSize]
  | (key, v) :: rest =>
    simp [fieldsBytes, fieldsSize, Value.length_bytes v, length_fieldsBytes rest]; omega

/-- `itemsBytes` are as many as `itemsSize` says. -/
theorem length_itemsBytes (i : Nat) (items : List Value) :
    (itemsBytes i items).length = itemsSize i items := by
  match items with
  | [] => simp [itemsBytes, itemsSize]
  | v :: rest =>
    simp [itemsBytes, itemsSize, Value.length_bytes v, length_itemsBytes (i + 1) rest]; omega

end

/-- `bytes` of a document are as many as its `size` says. -/
theorem Document.length_bytes (d : Document) : d.bytes.length = d.size := by
  simp [Document.bytes, Document.size, length_fieldsBytes]

end DocGateway.Bson
