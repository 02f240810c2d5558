import DocGateway.Bson.Content
import DocGateway.Number.DoubleText
import DocGateway.Text.Base64
import DocGateway.Time.Instant
/-!
# Keys that spell a typed value

Extended JSON writes a typed value as a document with a key such as `$oid`. A document that is read
and holds such a key becomes that value. Most keys are settled by what stands under them;
`$code` and `$scope` take one more field.
-/

namespace DocGateway.Bson

/-! ### The keys -/

/-- Keys that turn the document around them into a value of another type. -/
inductive TypedKey where
  | oid | symbol | numberInt | numberLong | numberDouble | numberDecimal | decimalBytes | binary
  | uuid | code | scope | timestamp | regularExpression | dbPointer | date | minKey | maxKey
  | undefined
deriving DecidableEq, Repr

namespace TypedKey

/-- The key as it is written. -/
def name : TypedKey → String
  | oid => "$oid"
  | symbol => "$symbol"
  | numberInt => "$numberInt"
  | numberLong => "$numberLong"
  | numberDouble => "$numberDouble"
  | numberDecimal => "$numberDecimal"
  | decimalBytes => "$numberDecimalBytes"
  | binary => "$binary"
  | uuid => "$uuid"
  | code => "$code"
  | scope => "$scope"
  | timestamp => "$timestamp"
  | regularExpression => "$regularExpression"
  | dbPointer => "$dbPointer"
  | date => "$date"
  | minKey => "$minKey"
  | maxKey => "$maxKey"
  | undefined => "$undefined"

/-- All keys. -/
def all : List TypedKey :=
  [oid, symbol, numberInt, numberLong, numberDouble, numberDecimal, decimalBytes,
    binary, uuid, code, scope, timestamp, regularExpression, dbPointer, date, minKey, maxKey,
    undefined]

/-- The key with this name. -/
def ofName? (s : String) : Option TypedKey := all.find? (·.name == s)

end TypedKey

/-! ### The values -/

/-- The letters of regular expression options in code point order, as they are kept and written. -/
def sortOptions (options : String) : String := String.ofList (options.toList.mergeSort (· ≤ ·))

/-- The object identifier of twelve bytes. -/
def ObjectId.ofBytes? (bytes : List UInt8) : Option ObjectId :=
  if bytes.length = 12 then some ⟨BitVec.ofNat 96 (LittleEndian.decode bytes)⟩ else none

/-- The object identifier that 24 hexadecimal digits spell. -/
def ObjectId.parse? (s : String) : Option ObjectId := (Hex.decode? s).bind ObjectId.ofBytes?

/-- The digits of a UUID: 32 in a row, or grouped by hyphens and then optionally wrapped in braces
or led by `urn:uuid:`. -/
def uuidDigits? (s : String) : Option (List Char) :=
  let cs := s.toList
  let grouped (cs : List Char) : Option (List Char) :=
    let hyphens := [8, 13, 18, 23]
    if cs.length = 36 ∧ hyphens.all fun i => cs[i]? = some '-' then
      let digits := cs.filter (· ≠ '-')
      if digits.length = 32 then some digits else none
    else none
  if cs.length = 32 then some cs
  else if cs.length = 38 ∧ cs.head? = some '\x7b' ∧ cs.getLast? = some '\x7d' then
    grouped (cs.drop 1).dropLast
  else if cs.length = 45 ∧ cs.take 9 = "urn:uuid:".toList then grouped (cs.drop 9)
  else grouped cs

/-- The milliseconds of a date: a number, an RFC 3339 text, or a `$numberLong`. -/
def Content.instant? (b : Content) : Option Int :=
  match b with
  | .integer n => some n
  | .text _ | .bytes _ => b.text?.bind Instant.parse?
  | b => do
    let parts ← b.exactParts? ["$numberLong"]
    let s ← (← parts[0]?).text?
    Integer.signedWord? 64 s

/-- An object identifier: its digits in text, or its bytes. -/
def Content.objectId? : Content → Option ObjectId
  | .text s => ObjectId.parse? s
  | .bytes bs => ObjectId.ofBytes? bs
  | _ => none

/-- The value that a typed key and what stands under it spell, `$code` and `$scope` apart. -/
def TypedKey.value? (key : TypedKey) (b : Content) : Option Value :=
  match key with
  | .oid => b.objectId?.map .objectId
  | .symbol => b.text?.map .symbol
  | .numberInt => do some (.int32 (Int32.ofInt (← Integer.signedWord? 32 (← b.text?))))
  | .numberLong => do some (.int64 (Int64.ofInt (← Integer.signedWord? 64 (← b.text?))))
  | .numberDouble => do some (.double (← Binary64.parse? (← b.text?)))
  | .numberDecimal => do some (.decimal128 (← Decimal128.parse? (← b.text?)))
  | .decimalBytes => do
    let bytes ← b.bytes?
    if bytes.length = 16 then some (.decimal128 ⟨BitVec.ofNat 128 (LittleEndian.decode bytes)⟩)
    else none
  | .binary => do
    let parts ← b.parts? ["base64", "subType"]
    let bytes ← Base64.decode? (← (← parts[0]?).text?)
    match ← Hex.decode? (← (← parts[1]?).text?) with
    | [subtype] => some (.binary subtype bytes)
    | _ => none
  | .uuid => do
    let bytes ← Hex.decode? (String.ofList (← uuidDigits? (← b.text?)))
    some (.binary 4 bytes)
  | .timestamp => do
    let parts ← b.parts? ["t", "i"]
    some (.timestamp (← (← parts[0]?).word?) (← (← parts[1]?).word?))
  | .regularExpression => do
    let parts ← b.parts? ["pattern", "options"]
    some (.regex (← (← parts[0]?).text?) (sortOptions (← (← parts[1]?).text?)))
  | .dbPointer => do
    let parts ← b.parts? ["$ref", "$id"]
    let digits ← (← parts[1]?).parts? ["$oid"]
    let id ← ObjectId.parse? (← (← digits[0]?).text?)
    some (.dbPointer (← (← parts[0]?).text?) id)
  | .date => b.instant?.map fun ms => .dateTime (Int64.ofInt ms)
  | .minKey => if b.below? 2 = some 1 then some .minKey else none
  | .maxKey => if b.below? 2 = some 1 then some .maxKey else none
  | .undefined =>
    match b with
    | .boolean true => some .undefined
    | _ => none
  | .code | .scope => none

end DocGateway.Bson
