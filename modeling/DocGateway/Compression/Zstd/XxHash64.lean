import DocGateway.Bytes.LittleEndian
/-!
# The XXH64 hash

The checksum of a Zstandard frame is the low half of this hash with seed zero. Stripes of 32 bytes
feed four lanes; the lanes are merged, and the remaining bytes are taken in by eight, by four and
one by one.
-/

namespace DocGateway.XxHash64

def prime1 : UInt64 := 0x9E3779B185EBCA87
def prime2 : UInt64 := 0xC2B2AE3D27D4EB4F
def prime3 : UInt64 := 0x165667B19E3779F9
def prime4 : UInt64 := 0x85EBCA77C2B2AE63
def prime5 : UInt64 := 0x27D4EB2F165667C5

/-- Turns a word to the left. -/
def rotate (x n : UInt64) : UInt64 := (x <<< n) ||| (x >>> (64 - n))

/-- Takes a word into a lane. -/
def round (lane word : UInt64) : UInt64 := rotate (lane + word * prime2) 31 * prime1

/-- The four lanes. -/
structure Lanes where
  a : UInt64
  b : UInt64
  c : UInt64
  d : UInt64
deriving DecidableEq, Repr

namespace Lanes

/-- The lanes before the first stripe. -/
def start : Lanes := ⟨prime1 + prime2, prime2, 0, 0 - prime1⟩

/-- The word at a place. -/
def wordAt (bytes : Array UInt8) (width offset : Nat) : UInt64 :=
  UInt64.ofNat (LittleEndian.decode (bytes.extract offset (offset + width)).toList)

/-- Takes in the stripe with this number. -/
def stripe (bytes : Array UInt8) (lanes : Lanes) (i : Nat) : Lanes :=
  let word (k : Nat) : UInt64 := wordAt bytes 8 (32 * i + 8 * k)
  ⟨round lanes.a (word 0), round lanes.b (word 1), round lanes.c (word 2), round lanes.d (word 3)⟩

/-- The lanes in one word. -/
def merge (lanes : Lanes) : UInt64 :=
  let sum := rotate lanes.a 1 + rotate lanes.b 7 + rotate lanes.c 12 + rotate lanes.d 18
  [lanes.a, lanes.b, lanes.c, lanes.d].foldl
    (fun acc lane => (acc ^^^ round 0 lane) * prime1 + prime4) sum

end Lanes

/-- Takes in eight bytes after the stripes. -/
def takeEight (acc word : UInt64) : UInt64 := rotate (acc ^^^ round 0 word) 27 * prime1 + prime4

/-- Takes in four bytes after the stripes. -/
def takeFour (acc word : UInt64) : UInt64 := rotate (acc ^^^ (word * prime1)) 23 * prime2 + prime3

/-- Takes in one byte after the stripes. -/
def takeOne (acc word : UInt64) : UInt64 := rotate (acc ^^^ (word * prime5)) 11 * prime1

/-- Mixes the bits at last. -/
def avalanche (h : UInt64) : UInt64 :=
  let h := (h ^^^ (h >>> 33)) * prime2
  let h := (h ^^^ (h >>> 29)) * prime3
  h ^^^ (h >>> 32)

/-- The hash of some bytes. -/
def hash (bytes : Array UInt8) : UInt64 :=
  let n := bytes.size
  let stripes := n / 32
  let acc :=
    (if stripes = 0 then prime5
      else ((List.range stripes).foldl (Lanes.stripe bytes) Lanes.start).merge) + UInt64.ofNat n
  let eights := n % 32 / 8
  let acc := (List.range eights).foldl
    (fun acc i => takeEight acc (Lanes.wordAt bytes 8 (32 * stripes + 8 * i))) acc
  let offset := 32 * stripes + 8 * eights
  let fours := n % 8 / 4
  let acc := (List.range fours).foldl
    (fun acc i => takeFour acc (Lanes.wordAt bytes 4 (offset + 4 * i))) acc
  let acc := (List.range (n % 4)).foldl
    (fun acc i => takeOne acc (Lanes.wordAt bytes 1 (offset + 4 * fours + i))) acc
  avalanche acc

end DocGateway.XxHash64
