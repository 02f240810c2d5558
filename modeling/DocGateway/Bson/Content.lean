import DocGateway.Bson.Element
import DocGateway.Bson.Value
import DocGateway.Text.Hex
/-!
# What stands under the key of a typed value

The parts of a typed value are read from what stands under its key. A part may come in more than one
form: a text as a string or as plain bytes, fields by name or in their order in an array. `Content`
keeps as much of a value as tells these forms apart. It is made from an element
(`Content.ofElement`), which may turn out broken only after some of its parts, or from a value
(`Content.ofValue`).
-/

namespace DocGateway.Bson

/-- What stands under a key. The flags tell whether there is an orderly end after the parts. -/
inductive Content where
  | text (s : String)
  | bytes (bs : List UInt8)
  | integer (n : Int)
  | boolean (b : Bool)
  | fields (parts : List (String × Content)) (whole : Bool)
  | items (parts : List Content) (whole : Bool)
  | other
deriving Repr, Inhabited

/-- The text of a string payload: its length, its bytes and a zero byte. -/
def textOf? (payload : List UInt8) : Option String := do
  let (_, rest) ← Slice.split? 4 payload
  if rest.getLast? = some 0 then Utf8.decode? rest.dropLast else none

/-- The text of an object identifier. -/
def ObjectId.toText (id : ObjectId) : String := Hex.encode (LittleEndian.encode 12 id.word.toNat)

namespace Content

/-- An object identifier, which stands there as the field that spells it. -/
def ofObjectId (id : ObjectId) : Content := .fields [("$oid", .text id.toText)] true

/-! ### From bytes -/

mutual

/-- What the payload of an element holds. -/
def ofPayload (tag : Tag) (payload : List UInt8) : Content :=
  match tag with
  | .string => ((textOf? payload).map .text).getD .other
  | .binary =>
    match payload.drop 4 with
    | 0 :: bs => .bytes bs
    | _ => .other
  | .boolean =>
    match payload with
    | [0] => .boolean false
    | [1] => .boolean true
    | _ => .other
  | .int32 => .integer (LittleEndian.toInt32 payload).toInt
  | .int64 => .integer (LittleEndian.toInt64 payload).toInt
  | .objectId => ofObjectId ⟨BitVec.ofNat 96 (LittleEndian.decode payload)⟩
  | .document =>
    match _h : document? payload with
    | some elements => .fields (fieldsOf elements).1 (fieldsOf elements).2
    | none => .other
  | .array =>
    match _h : document? payload with
    | some elements => .items (itemsOf elements).1 (itemsOf elements).2
    | none => .other
  | _ => .other
termination_by payload.length
decreasing_by
  all_goals have := length_document? _h
  all_goals omega

/-- The fields of a document up to its end, and whether that is in order. -/
def fieldsOf (bs : List UInt8) : List (String × Content) × Bool :=
  match _h : Step.next bs with
  | .done => ([], true)
  | .broken => ([], false)
  | .element e rest =>
    let (parts, whole) := fieldsOf rest
    ((e.key, ofPayload e.tag e.payload) :: parts, whole)
termination_by bs.length
decreasing_by
  all_goals have := length_next _h
  all_goals omega

/-- The items of an array up to its end, and whether that is in order. -/
def itemsOf (bs : List UInt8) : List Content × Bool :=
  match _h : Step.next bs with
  | .done => ([], true)
  | .broken => ([], false)
  | .element e rest =>
    let (parts, whole) := itemsOf rest
    (ofPayload e.tag e.payload :: parts, whole)
termination_by bs.length
decreasing_by
  all_goals have := length_next _h
  all_goals omega

end

/-- What an element holds. -/
def ofElement (e : Element) : Content := ofPayload e.tag e.payload

/-! ### From values -/

mutual

/-- What a value holds. -/
def ofValue : Value → Content
  | .string s => .text s
  | .binary subtype bs => if subtype = 0 then .bytes bs else .other
  | .boolean b => .boolean b
  | .int32 n => .integer n.toInt
  | .int64 n => .integer n.toInt
  | .objectId id => ofObjectId id
  | .document d => .fields (ofFields d) true
  | .array vs => .items (ofItems vs) true
  | _ => .other

/-- What some fields hold. -/
def ofFields : List (String × Value) → List (String × Content)
  | [] => []
  | (key, v) :: rest => (key, ofValue v) :: ofFields rest

/-- What some items hold. -/
def ofItems : List Value → List Content
  | [] => []
  | v :: rest => ofValue v :: ofItems rest

end

/-! ### Parts -/

/-- A text, or plain bytes that spell one. -/
def text? : Content → Option String
  | .text s => some s
  | .bytes bs => Utf8.decode? bs
  | _ => none

/-- An integer below `limit` and not below zero. -/
def below? (limit : Nat) : Content → Option Nat
  | .integer n => if 0 ≤ n ∧ n < limit then some n.toNat else none
  | _ => none

/-- A number of 32 bits without sign. -/
def word? (b : Content) : Option UInt32 := (b.below? UInt32.size).map UInt32.ofNat

/-- Bytes: as they are, as the text that they spell, or as numbers one by one. -/
def bytes? : Content → Option (List UInt8)
  | .bytes bs => some bs
  | .text s => some (Utf8.encode s)
  | .items parts true => parts.mapM fun p => (p.below? UInt8.size).map UInt8.ofNat
  | _ => none

/-- The parts of these names: each there once and no other, or the first items of an array. -/
def parts? (names : List String) : Content → Option (List Content)
  | .fields parts true =>
    if parts.length ≠ names.length then none
    else names.mapM fun name => (parts.find? (·.1 = name)).map Prod.snd
  | .items parts _ => if names.length ≤ parts.length then some (parts.take names.length) else none
  | _ => none

/-- The parts of these names, where an array must have no more items. -/
def exactParts? (names : List String) (b : Content) : Option (List Content) :=
  match b with
  | .items parts whole => if whole ∧ parts.length = names.length then some parts else none
  | b => b.parts? names

end Content

end DocGateway.Bson
