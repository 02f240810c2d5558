import DocGateway.Number.Binary64
import DocGateway.Number.Decimal128
/-!
# Documents and values

A document is an ordered list of keys with values. Keys are distinct in every document that the
operations here build: inserting under a present key replaces the value and keeps the position.
-/

namespace DocGateway.Bson

/-- The twelve bytes of an object identifier, the first byte being the least significant. -/
structure ObjectId where
  word : BitVec 96
deriving DecidableEq, Repr, Inhabited

/-- A value of one of the types of the binary document format. -/
inductive Value where
  | double (x : Binary64)
  | string (s : String)
  | document (fields : List (String × Value))
  | array (items : List Value)
  | binary (subtype : UInt8) (bytes : List UInt8)
  | undefined
  | objectId (id : ObjectId)
  | boolean (b : Bool)
  | dateTime (ms : Int64)
  | null
  | regex (pattern options : String)
  | dbPointer (ns : String) (id : ObjectId)
  | code (source : String)
  | symbol (name : String)
  | codeWithScope (source : String) (scope : List (String × Value))
  | int32 (n : Int32)
  | timestamp (time increment : UInt32)
  | int64 (n : Int64)
  | decimal128 (x : Decimal128)
  | minKey
  | maxKey
deriving Repr, Inhabited

/-- An ordered list of keys with values. -/
abbrev Document := List (String × Value)

namespace Document

/-- The value under a key. -/
def get? (d : Document) (key : String) : Option Value := d.lookup key

/-- Whether a key is present. -/
def contains (d : Document) (key : String) : Bool := d.any (·.1 == key)

/-- Puts a value under a key: in place of the present one, else at the end. -/
def insert (d : Document) (key : String) (v : Value) : Document :=
  match d with
  | [] => [(key, v)]
  | (k, w) :: rest => if k == key then (k, v) :: rest else (k, w) :: insert rest key v

/-- Removes a key; the others keep their order. -/
def erase (d : Document) (key : String) : Document := d.filter (·.1 != key)

/-- The first key, by which a command is known. -/
def firstKey? (d : Document) : Option String := d.head?.map (·.1)

/-- Inserts all fields of `e`, in order. -/
def insertAll (d e : Document) : Document := e.foldl (fun d f => insert d f.1 f.2) d

/-- The document of some fields, a repeated key keeping its first position and last value. -/
def ofFields (fields : List (String × Value)) : Document := insertAll [] fields

/-- The string under a key. -/
def getString? (d : Document) (key : String) : Option String :=
  match d.get? key with
  | some (.string s) => some s
  | _ => none

/-- The document under a key. -/
def getDocument? (d : Document) (key : String) : Option Document :=
  match d.get? key with
  | some (.document e) => some e
  | _ => none

/-- The array under a key. -/
def getArray? (d : Document) (key : String) : Option (List Value) :=
  match d.get? key with
  | some (.array xs) => some xs
  | _ => none

end Document

namespace Value

/-- The 64-bit integer that a value stands for: an integer of either width, or a double without
fraction, held within the range of 64 bits. -/
def toInt64? : Value → Option Int64
  | .int64 n => some n
  | .int32 n => some n.toInt64
  | .double x =>
    x.toInt?.map fun n => Int64.ofInt (max Int64.minValue.toInt (min n Int64.maxValue.toInt))
  | _ => none

/-- The text of a string. -/
def asString? : Value → Option String
  | .string s => some s
  | _ => none

/-- The fields of a document. -/
def asDocument? : Value → Option Document
  | .document d => some d
  | _ => none

/-- Whether a value counts as true: the boolean, or a number other than zero. -/
def isTruthy : Value → Bool
  | .boolean b => b
  | .int32 n => n != 0
  | .int64 n => n != 0
  | .double x => !x.isZero
  | _ => false

end Value

end DocGateway.Bson
