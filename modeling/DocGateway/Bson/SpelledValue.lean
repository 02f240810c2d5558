import DocGateway.Bson.TypedKey
/-!
# Values that fields spell

Text formats know few types of values. The fields of a document from such a text spell a value of
another type if they are the fields of that type in extended JSON, and all of them; any others are a
document of their own.
-/

namespace DocGateway.Bson

/-- The bytes of a binary value of the generic kind under a key. -/
def Document.getBytes? (d : Document) (key : String) : Option (List UInt8) :=
  match d.get? key with
  | some (.binary 0 bytes) => some bytes
  | _ => none

namespace SpelledValue

/-- A binary value: its bytes in text, or as they are. -/
def binary? (body : Document) : Option Value :=
  match body.getString? "base64" with
  | some text => do
    let bytes ← Base64.decode? text
    match ← Hex.decode? (← body.getString? "subType") with
    | [subtype] => some (.binary subtype bytes)
    | _ => none
  | none => do
    let bytes ← body.getBytes? "bytes"
    match ← body.get? "subType" with
    | .int32 n => if 0 ≤ n ∧ n < 256 then some (.binary (UInt8.ofNat n.toInt.toNat) bytes) else none
    | _ => none

/-- A timestamp: both halves 32-bit words, or both wider integers that fit. -/
def timestamp? (body : Document) : Option Value := do
  match ← body.get? "t", ← body.get? "i" with
  | .int32 t, .int32 i => some (.timestamp t.toUInt32 i.toUInt32)
  | .int64 t, .int64 i =>
    let fits (n : Int64) : Bool := 0 ≤ n && n.toInt < UInt32.size
    if fits t && fits i then
      some (.timestamp (UInt32.ofNat t.toInt.toNat) (UInt32.ofNat i.toInt.toNat))
    else none
  | _, _ => none

/-- A moment: its milliseconds, or its text. -/
def date? : Value → Option Value
  | .int64 ms => some (.dateTime ms)
  | .string text => (Instant.parse? text).map fun ms => .dateTime (Int64.ofInt ms)
  | _ => none

/-- A reference to a document. -/
def dbPointer? (body : Document) : Option Value := do
  match ← body.get? "$id" with
  | .objectId id => some (.dbPointer (← body.getString? "$ref") id)
  | _ => none

/-- A regular expression. -/
def regex? (body : Document) : Option Value := do
  some (.regex (← body.getString? "pattern") (sortOptions (← body.getString? "options")))

/-- The number one, of either width. -/
def isOne : Value → Bool
  | .int32 n => n = 1
  | .int64 n => n = 1
  | _ => false

/-- The value that the only field of a document spells. -/
def ofField? (key : String) (v : Value) : Option Value :=
  match key, v with
  | "$oid", .string s => (ObjectId.parse? s).map .objectId
  | "$symbol", .string s => some (.symbol s)
  | "$numberInt", .string s => (Integer.signedWord? 32 s).map fun n => .int32 (Int32.ofInt n)
  | "$numberLong", .string s => (Integer.signedWord? 64 s).map fun n => .int64 (Int64.ofInt n)
  | "$numberDouble", .string s => (Binary64.parse? s).map .double
  | "$numberDecimal", .string s => (Decimal128.parse? s).map .decimal128
  | "$numberDecimalBytes", .binary 0 bytes =>
    if bytes.length = 16 then some (.decimal128 ⟨BitVec.ofNat 128 (LittleEndian.decode bytes)⟩)
    else none
  | "$binary", .document body => binary? body
  | "$code", .string s => some (.code s)
  | "$timestamp", .document body => timestamp? body
  | "$regularExpression", .document body => regex? body
  | "$dbPointer", .document body => dbPointer? body
  | "$date", v => date? v
  | "$minKey", v => if isOne v then some .minKey else none
  | "$maxKey", v => if isOne v then some .maxKey else none
  | "$undefined", .boolean true => some .undefined
  | _, _ => none

/-- Code with its scope, in any order. -/
def codeWithScope? (d : Document) : Option Value := do
  some (.codeWithScope (← d.getString? "$code") (← d.getDocument? "$scope"))

end SpelledValue

/-- The value that the fields of a document spell. -/
def Value.ofFields (d : Document) : Value :=
  let spelled := match d with
    | [(key, v)] => SpelledValue.ofField? key v
    | [_, _] => SpelledValue.codeWithScope? d
    | _ => none
  spelled.getD (.document d)

end DocGateway.Bson
