import DocGateway.Bson.Decode
import DocGateway.Wire.Error
/-!
# Reading the body of a message

A reader takes bytes from the front of a body and leaves the others, or fails with a wire error. No
reader looks past the bytes it is given, so whatever length a message announces is checked against
what is there.
-/

namespace DocGateway.Wire

open Bson (Document)

/-- A reader of values of type `α`. -/
abbrev Reader (α : Type) := StateT (List UInt8) (Except WireError) α

namespace Reader

/-- Fails with a cause. -/
def fail {α : Type} (e : WireError) : Reader α := fun _ => .error e

/-- Exactly `n` bytes of what is named. -/
def bytes (n : Nat) (what : String) : Reader (List UInt8) := fun bs =>
  match Slice.split? n bs with
  | some cut => .ok cut
  | none => .error (.truncated what (n - bs.length))

/-- One byte. -/
def byte (what : String) : Reader UInt8 := fun bs =>
  match bs with
  | b :: rest => .ok (b, rest)
  | [] => .error (.truncated what 1)

def int32 (what : String) : Reader Int32 := LittleEndian.toInt32 <$> bytes 4 what

def uint32 (what : String) : Reader UInt32 := LittleEndian.toUInt32 <$> bytes 4 what

def int64 (what : String) : Reader Int64 := LittleEndian.toInt64 <$> bytes 8 what

/-- The text before the next zero byte. -/
def cstring : Reader String := fun bs =>
  match Slice.cstring? bs with
  | none => .error .unterminatedCString
  | some (text, rest) =>
    match Utf8.decode? text with
    | some s => .ok (s, rest)
    | none => .error .invalidUtf8

/-- A document with its own length in front. -/
def document : Reader Document := fun bs => do
  let (head, _) ← bytes 4 "document length" bs
  let length := LittleEndian.toInt32 head
  if length.toInt < 5 then .error (.invalidDocumentLength length)
  else
    let (doc, rest) ← bytes length.toInt.toNat "document" bs
    match Document.decode? doc with
    | some d => .ok (d, rest)
    | none => .error (.bsonDecode none)

/-- All bytes that are left. -/
def rest : Reader (List UInt8) := fun bs => .ok (bs, [])

/-- Whether no byte is left. -/
def isEmpty : Reader Bool := fun bs => .ok (bs.isEmpty, bs)

/-- Succeeds if no byte is left after what is named. -/
def finish (what : String) : Reader Unit := fun bs =>
  if bs.isEmpty then .ok ((), []) else .error (.trailingBytes what bs.length)

/-- Reads one item after another until no byte is left. The bound on the number of items is the
number of bytes, as each takes one at least. -/
def many {α : Type} (item : Reader α) : Reader (List α) := fun bs =>
  loop bs.length [] bs
where
  /-- Reads at most `n` more items after those already read. -/
  loop (n : Nat) (soFar : List α) (bs : List UInt8) : Except WireError (List α × List UInt8) :=
    if bs.isEmpty then .ok (soFar.reverse, [])
    else
      match n with
      | 0 => .ok (soFar.reverse, bs)
      | n + 1 =>
        match item bs with
        | .ok (a, rest) => loop n (a :: soFar) rest
        | .error e => .error e

/-- Runs a reader on all of some bytes. -/
def runOn {α : Type} (r : Reader α) (bs : List UInt8) : Except WireError α := Prod.fst <$> r bs

/-- Runs a reader on all of some bytes taken off before. -/
def within {α : Type} (r : Reader α) (content : List UInt8) : Reader α :=
  fun bs => (·, bs) <$> r.runOn content

end Reader

end DocGateway.Wire
