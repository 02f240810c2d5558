import DocGateway.Bson.ExtendedJson
/-!
# Values read again

A value that has not been read from bytes may hold documents with typed keys. `reread?` gives what
reading it would have made of them. A value of another type stands for the fields that spell it in
extended JSON (`spelling?`).
-/

namespace DocGateway.Bson

namespace Value

mutual

/-- The value in which typed keys have their meaning. -/
def reread? : Value → Option Value
  | .document d => rereadFields? d []
  | .array items => (rereadItems? items).map .array
  | .regex pattern options => some (.regex pattern (sortOptions options))
  | .codeWithScope source scope =>
    match rereadFields? scope [] with
    | some (.document d) => some (.codeWithScope source d)
    | _ => none
  | v => some v

/-- The document of the fields after those already read, or the value that a typed key makes of
it. -/
def rereadFields? : List (String × Value) → Document → Option Value
  | [], soFar => some (.document soFar)
  | (key, v) :: rest, soFar =>
    match TypedKey.ofName? key with
    | some .code =>
      match (Content.ofValue v).text?, rest with
      | some source, [] => some (.code source)
      | some source, (next, w) :: _ =>
        if next = TypedKey.scope.name then
          match w with
          | .document scope =>
            match rereadFields? scope [] with
            | some (.document d) => some (.codeWithScope source d)
            | _ => none
          | _ => none
        else none
      | none, _ => none
    | some .scope =>
      match v, rest with
      | .document scope, (next, w) :: _ =>
        if next = TypedKey.code.name then
          match rereadFields? scope [], (Content.ofValue w).text? with
          | some (.document d), some source => some (.codeWithScope source d)
          | _, _ => none
        else none
      | _, _ => none
    | some typed => typed.value? (Content.ofValue v)
    | none =>
      match reread? v with
      | some w => rereadFields? rest (soFar.insert key w)
      | none => none

/-- The items in which typed keys have their meaning. -/
def rereadItems? : List Value → Option (List Value)
  | [] => some []
  | v :: rest => do
    let w ← reread? v
    let others ← rereadItems? rest
    some (w :: others)

end

/-- A word without sign, in the narrower integer type if it fits. -/
def ofWord (n : UInt32) : Value :=
  if n.toNat < 1 <<< 31 then .int32 n.toInt32 else .int64 (Int64.ofNat n.toNat)

/-- The fields of a document, or those that spell a value of another type. Values that text writes
without a key have no fields. -/
def spelling? : Value → Option Document
  | .document d => some d
  | .binary subtype bytes =>
    if subtype = 0 then none
    else
      some [("$binary", .document [("base64", .string (Base64.encode bytes)),
        ("subType", .string (Hex.encode [subtype]))])]
  | .undefined => some [("$undefined", .boolean true)]
  | .objectId id => some [("$oid", .string id.toText)]
  | .dateTime ms =>
    let n := ms.toInt
    if 0 ≤ n ∧ n ≤ ExtendedJson.lastNamedInstant then some [("$date", .string (Instant.toText n))]
    else some [("$date", .document [("$numberLong", .string (toString n))])]
  | .regex pattern options =>
    some [("$regularExpression",
      .document [("pattern", .string pattern), ("options", .string (sortOptions options))])]
  | .dbPointer ns id =>
    some [("$dbPointer",
      .document [("$ref", .string ns), ("$id", .document [("$oid", .string id.toText)])])]
  | .code source => some [("$code", .string source)]
  | .symbol name => some [("$symbol", .string name)]
  | .codeWithScope source scope => some [("$code", .string source), ("$scope", .document scope)]
  | .timestamp time increment =>
    some [("$timestamp", .document [("t", ofWord time), ("i", ofWord increment)])]
  | .decimal128 x => some [("$numberDecimalBytes", .binary 0 (LittleEndian.encode 16 x.bits.toNat))]
  | .minKey => some [("$minKey", .int32 1)]
  | .maxKey => some [("$maxKey", .int32 1)]
  | .double _ | .string _ | .array _ | .boolean _ | .null | .int32 _ | .int64 _ => none

end Value

end DocGateway.Bson
