import DocGateway.Bytes.LittleEndian
import DocGateway.Bytes.Slice
import DocGateway.Compression.History
/-!
# The Snappy format

A block starts with the number of bytes it expands to, seven bits a byte. Then come elements:
literals, and copies of three widths.
-/

namespace DocGateway.Snappy

/-! ### The preamble -/

/-- Reads a number of seven bits a byte, least significant first, in at most five bytes. -/
def varint? (shift value : Nat) : List UInt8 → Option (Nat × List UInt8)
  | [] => none
  | b :: rest =>
    if 35 ≤ shift then none
    else
      let value := value + (b.toNat % 128) <<< shift
      if b < 128 then some (value, rest) else varint? (shift + 7) value rest

/-- The number of bytes that a block announces, and its elements. -/
def preamble? (block : List UInt8) : Option (Nat × List UInt8) :=
  (varint? 0 0 block).filter fun p => p.1 < UInt32.size

/-- The number of bytes that a block announces; an empty block announces none. -/
def announced? (block : List UInt8) : Option Nat :=
  if block.isEmpty then some 0 else (preamble? block).map Prod.fst

/-! ### Elements -/

/-- The length of a literal and what follows it: in the tag, or in up to four bytes behind it. A
literal with a length of its own is long enough for four bytes to stand behind the tag. -/
def literalLength? (tag : Nat) (rest : List UInt8) : Option (Nat × List UInt8) :=
  let code := tag / 4
  if code < 60 then some (code + 1, rest)
  else if (rest.take 4).length < 4 then none
  else
    let width := code - 59
    some (LittleEndian.decode (rest.take width) + 1, rest.drop width)

/-- The length and the distance of a copy, and what follows it. -/
def copyOf? (tag : Nat) (rest : List UInt8) : Option (Nat × Nat × List UInt8) := do
  if tag % 4 = 1 then
    let (low, rest) ← Slice.split? 1 rest
    some (tag / 4 % 8 + 4, tag / 32 * 256 + LittleEndian.decode low, rest)
  else
    let (distance, rest) ← Slice.split? (if tag % 4 = 2 then 2 else 4) rest
    some (tag / 4 + 1, LittleEndian.decode distance, rest)

/-- Carries out the element with this tag on the output, which grows to `limit` bytes at most. -/
def element? (limit : Nat) (tag : Nat) (rest : List UInt8) (out : Array UInt8) :
    Option (List UInt8 × Array UInt8) := do
  if tag % 4 = 0 then
    let (length, rest) ← literalLength? tag rest
    let (bytes, rest) ← Slice.split? length rest
    if limit < out.size + length then none else some (rest, out ++ bytes)
  else
    let (length, distance, rest) ← copyOf? tag rest
    if limit < out.size + length then none
    else (History.copy? out distance length).map (rest, ·)

/-- Carries out elements until none is left. Each takes at least its tag, so that there are no more
than bytes. -/
def elements? (limit : Nat) : Nat → List UInt8 → Array UInt8 → Option (Array UInt8)
  | _, [], out => some out
  | 0, _, _ => none
  | fuel + 1, tag :: rest, out => do
    let (rest, out) ← element? limit tag.toNat rest out
    elements? limit fuel rest out

/-- The bytes that a block expands to. -/
def decode? (block : List UInt8) : Option (List UInt8) := do
  let (length, rest) ← preamble? block
  let out ← elements? length rest.length rest #[]
  if out.size = length then some out.toList else none

/-! ### Encoding -/

/-- A number below `2 ^ 35`, seven bits a byte. -/
def varint (n : Nat) : Nat → List UInt8
  | 0 => [UInt8.ofNat n]
  | more + 1 =>
    if n < 128 then [UInt8.ofNat n] else UInt8.ofNat (128 + n % 128) :: varint (n / 128) more

/-- A literal, with its length in the tag or in as few bytes behind it as hold it. -/
def literal (bytes : List UInt8) : List UInt8 :=
  let n := bytes.length - 1
  let head :=
    if n < 60 then [UInt8.ofNat (4 * n)]
    else if n < 256 then [240, UInt8.ofNat n]
    else if n < 65536 then 244 :: LittleEndian.encode 2 n
    else 252 :: LittleEndian.encode 4 n
  head ++ bytes

/-- A block of one literal. -/
def encodeLiteral (plain : List UInt8) : List UInt8 :=
  varint plain.length 4 ++ (if plain.isEmpty then [] else literal plain)

/-- A copy of 1 to 64 bytes in three bytes. -/
def wideCopy (distance length : Nat) : List UInt8 :=
  UInt8.ofNat (4 * (length - 1) + 2) :: LittleEndian.encode 2 distance

/-- A copy of any length: pieces of 64 bytes, then what is left, which is split if it is one of 65
to 67 bytes, so that the last piece has at least four. That one takes two bytes if it is short and
near. There are `more` pieces at most before the last two. -/
def copy (distance length : Nat) : Nat → List UInt8
  | more + 1 =>
    if 68 ≤ length then wideCopy distance 64 ++ copy distance (length - 64) more
    else copy distance length 0
  | 0 =>
    let last (n : Nat) : List UInt8 :=
      if n ≤ 11 ∧ distance ≤ 2047 then
        [UInt8.ofNat (distance / 256 * 32 + 4 * (n - 4) + 1), UInt8.ofNat distance]
      else wideCopy distance n
    if 64 < length then wideCopy distance 60 ++ last (length - 60) else last length

/-! ### Finding copies

Each part of at most 64 KiB is written on its own. A table remembers where a hash of four bytes was
seen last; the search moves on the faster the longer it has found nothing. -/

/-- A part has at most this many bytes. -/
def partSize : Nat := 65536

/-- No copy starts this close to the end of a part. -/
def margin : Nat := 15

/-- A part to be written, with the size of its table. -/
structure Part where
  bytes : Array UInt8
  tableBits : Nat

namespace Part

/-- The part with these bytes; its table has 256 entries, or twice that as often as it takes to have
one for each byte, but no more than 16384. -/
def ofBytes (bytes : List UInt8) : Part :=
  let bytes := bytes.toArray
  let widen (bits : Nat) (_ : Nat) : Nat :=
    if bits < 14 ∧ 1 <<< bits < bytes.size then bits + 1 else bits
  ⟨bytes, (List.range 6).foldl widen 8⟩

/-- The byte at a place. -/
def byte (p : Part) (i : Nat) : UInt8 := p.bytes[i]?.getD 0

/-- The four bytes from a place on as one word. -/
def word (p : Part) (i : Nat) : UInt32 :=
  (p.byte i).toUInt32 ||| (p.byte (i + 1)).toUInt32 <<< 8 ||| (p.byte (i + 2)).toUInt32 <<< 16
    ||| (p.byte (i + 3)).toUInt32 <<< 24

/-- The entry of the table for the four bytes from a place on. -/
def hash (p : Part) (i : Nat) : Nat :=
  ((p.word i * 0x1E35A7BD) >>> UInt32.ofNat (32 - p.tableBits)).toNat

/-- The bytes from one place up to another. -/
def slice (p : Part) (start stop : Nat) : List UInt8 := (p.bytes.extract start stop).toList

/-- Where the bytes from `i` on cease to agree with those from `j` on, of which `left` are left. -/
def agreeTo (p : Part) (i j : Nat) : Nat → Nat
  | 0 => i
  | left + 1 => if p.byte i = p.byte j then agreeTo p (i + 1) (j + 1) left else i

/-- Looks for four bytes that were seen before, from `s` on. Gives where they are and where they
were. -/
def search (p : Part) : Nat → (s skip : Nat) → Array Nat → Option (Nat × Nat × Array Nat)
  | 0, _, _, _ => none
  | fuel + 1, s, skip, table =>
    let step := skip / 32
    if p.bytes.size - margin < s + step then none
    else
      let h := p.hash s
      let seen := table[h]?.getD 0
      let table := table.setIfInBounds h s
      if p.word s = p.word seen then some (s, seen, table)
      else search p fuel (s + step) (skip + step) table

/-- Writes copies from `s` on, where the bytes are those at `seen`, as long as one follows upon the
other. Gives where the last one ends, and whether there may be more. -/
def copies (p : Part) : Nat → (s seen : Nat) → Array Nat → Array UInt8 →
      Array UInt8 × Nat × Bool × Array Nat
  | 0, s, _, table, out => (out, s, false, table)
  | fuel + 1, s, seen, table, out =>
    let stop := p.agreeTo (s + 4) (seen + 4) (p.bytes.size - (s + 4))
    let out := out ++ copy (s - seen) (stop - s) (stop - s)
    let s := stop
    if p.bytes.size - margin ≤ s then (out, s, false, table)
    else
      let table := table.setIfInBounds (p.hash (s - 1)) (s - 1)
      let h := p.hash s
      let seen := table[h]?.getD 0
      let table := table.setIfInBounds h s
      if p.word s = p.word seen then copies p fuel s seen table out else (out, s, true, table)

/-- Writes what is left from `start` on as a literal. -/
def finish (p : Part) (start : Nat) (out : Array UInt8) : Array UInt8 :=
  if start < p.bytes.size then out ++ literal (p.slice start p.bytes.size) else out

/-- Writes what comes from `start` on, looking for copies from `s` on. -/
def elementsFrom (p : Part) : Nat → (start s : Nat) → Array Nat → Array UInt8 → Array UInt8
  | 0, start, _, _, out => p.finish start out
  | fuel + 1, start, s, table, out =>
    match p.search p.bytes.size s 32 table with
    | none => p.finish start out
    | some (s, seen, table) =>
      let out := out ++ literal (p.slice start s)
      let (out, stop, more, table) := p.copies p.bytes.size s seen table out
      if more then elementsFrom p fuel stop (stop + 1) table out else p.finish stop out

/-- The elements of a part. A short one is a single literal. -/
def elements (p : Part) : List UInt8 :=
  if p.bytes.size < margin + 2 then (p.finish 0 #[]).toList
  else (p.elementsFrom p.bytes.size 0 1 (Array.replicate (1 <<< p.tableBits) 0) #[]).toList

end Part

/-- The elements of all parts, of which there are `more` at most before the last one. -/
def parts : Nat → List UInt8 → List UInt8
  | 0, bytes => (Part.ofBytes bytes).elements
  | more + 1, bytes =>
    (Part.ofBytes (bytes.take partSize)).elements ++
      (if (bytes.drop partSize).isEmpty then [] else parts more (bytes.drop partSize))

/-- A block for an input. That `decode?` reads back what `parts` writes is checked and not proved:
the check stands for what is assumed of any compressor, that its output expands to what was written.
A block that does not pass it would be replaced by one of a single literal. -/
def encode (plain : List UInt8) : List UInt8 :=
  let block := varint plain.length 4 ++ parts (plain.length / partSize) plain
  if decode? block = some plain then block else encodeLiteral plain

end DocGateway.Snappy
