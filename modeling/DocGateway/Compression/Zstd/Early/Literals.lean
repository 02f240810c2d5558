import DocGateway.Compression.Zstd.Early.Edition
import DocGateway.Compression.Zstd.Literals
/-!
# Literals of early editions

The code itself and its streams are those of today. What differs is the header in front of the
literals, how the weights of a code may be written, and, in the first edition, that four streams
take turns.
-/

namespace DocGateway.Zstd.Early

/-- A table described at the start of some bytes, of which there must be four, and what follows
it. -/
def readTable? (symbols limit : Nat) (bytes : List UInt8) : Option (FseTable × List UInt8) :=
  if bytes.length < 4 then none else Bits.readWhole? (Fse.readTable symbols limit) bytes

/-! ### Codes -/

/-- Numbers of symbols that may all have weight one, by the byte that says so. -/
def equalCounts : Array Nat := #[1, 2, 3, 4, 7, 8, 15, 16, 31, 32, 63, 64, 127, 128]

/-- Whether each symbol of a table has less than half of its states. Then every state takes bits to
leave. -/
def isEven (t : FseTable) : Bool :=
  (List.range 256).all fun symbol => 2 * t.states.countP (·.symbol = symbol) < t.states.size

/-- Reads weights with two states in turn, until the stream is at its start. A table that is not
even goes on to state zero. In the end both states must be zero. There are at most 255 weights. -/
def settledWeights (t : FseTable) (even : Bool) :
    Nat → (now next : Nat) → BackwardBits → List Nat → Option (List Nat)
  | 0, _, _, _, _ => none
  | fuel + 1, now, next, bits, weights =>
    if bits.lent ≠ 0 ∨ weights.length = 255 ∨ (bits.finished ∧ (even ∨ now = 0)) then
      if bits.finished ∧ now = 0 ∧ next = 0 then some weights.reverse else none
    else
      let (after, bits) := (t.next now).run bits
      settledWeights t even fuel next after bits (t.symbol now :: weights)

/-- The weights in a stream behind its table. Up to the fifth edition the states return to zero. -/
def compressedWeights? (e : Edition) (bytes : List UInt8) : Option (List Nat) := do
  let (table, rest) ← readTable? 256 12 bytes
  let bits ← BackwardBits.ofBytes? rest
  let (first, bits) := table.start.run bits
  let (second, bits) := table.start.run bits
  if e.number ≤ 5 then settledWeights table (isEven table) 256 first second bits []
  else Huffman.weightsFrom table 255 first second bits []

/-- The weights at the start of some bytes, and what follows them. -/
def weights? (e : Edition) : List UInt8 → Option (List Nat × List UInt8)
  | [] => none
  | head :: rest =>
    let head := head.toNat
    if 242 ≤ head then some (List.replicate (equalCounts[head - 242]?.getD 0) 1, rest)
    else if 128 ≤ head then do
      let (bytes, rest) ← Slice.split? ((head - 126) / 2) rest
      some (Huffman.plainWeights (head - 127) bytes, rest)
    else do
      let (bytes, rest) ← Slice.split? head rest
      some (← compressedWeights? e bytes, rest)

/-- The same code, looked up with as many bits as the longest words of any code have. -/
def widened (c : HuffmanCode) : HuffmanCode :=
  let spare := Huffman.maxWidth - c.width
  { c with width := Huffman.maxWidth, entries := c.entries.flatMap (Array.replicate (1 <<< spare)) }

/-- The code described at the start of some bytes, and what follows it, which is not empty. -/
def code? (e : Edition) (paired : Bool) (bytes : List UInt8) :
    Option (HuffmanCode × List UInt8) := do
  let (weights, rest) ← weights? e bytes
  let code ← Huffman.ofWeights? weights
  if rest.isEmpty then none
  some ({ widened code with paired }, rest)

/-! ### Streams -/

/-- Estimated times, by sixteenths of the size that literals keep: to set up look-ups of one word
and to read 256 symbols with them, and the same for two words at a time. -/
def estimates : Array (Nat × Nat × Nat × Nat) :=
  #[(0, 0, 1, 1), (0, 0, 1, 1), (38, 130, 1313, 74), (448, 128, 1353, 74), (556, 128, 1353, 74),
    (714, 128, 1418, 74), (883, 128, 1437, 74), (897, 128, 1515, 75), (926, 128, 1613, 75),
    (947, 128, 1729, 77), (1107, 128, 2083, 81), (1177, 128, 2379, 87), (1242, 128, 2415, 93),
    (1349, 128, 2644, 106), (1455, 128, 2422, 124), (722, 128, 1891, 145)]

/-- Whether `n` literals that take `size` bytes, which are fewer, are sooner read two at a time. -/
def isPaired (e : Edition) (n size : Nat) : Bool :=
  let (setUp, read, setUpPairs, readPairs) := estimates[16 * size / n]?.getD (0, 0, 0, 0)
  let time := setUpPairs + readPairs * (n / 256)
  time + time / (if e = .seventh then 8 else 16) < setUp + read * (n / 256)

/-- Takes one byte of each of some strings in turn, `count` times. -/
def inTurn (streams : List (List UInt8)) (count : Nat) : List UInt8 :=
  let streams := streams.map List.toArray
  (List.range count).flatMap fun i => streams.map fun s => s[i]?.getD 0

/-- The `n` symbols of four streams that take turns, as far as sixteen symbols go into them; the
first stream has the others. -/
def takingTurns? (c : HuffmanCode) (n : Nat) (bytes : List UInt8) : Option (List UInt8) := do
  let streams ← HuffmanCode.streams? bytes
  let count := n / 16 * 4
  let read ← (streams.zip [count + n % 16, count, count, count]).mapM fun (bytes, n) =>
    c.stream? n bytes
  some (inTurn read count ++ (read.headD []).drop count)

/-- The `n` symbols in some bytes, behind a code, and the code unless there is none. Except in the
first and the last of the editions a single byte is repeated, and in most as many bytes as symbols
are taken as they are. -/
def symbols? (e : Edition) (n : Nat) (bytes : List UInt8) :
    Option (List UInt8 × Option HuffmanCode) := do
  if e = .first then
    let (code, rest) ← code? e false bytes
    some (← takingTurns? code n rest, none)
  else
    let size := bytes.length
    if n = 0 ∨ n < size then none
    else if n = size then if e.number ∈ [5, 7] then none else some (bytes, none)
    else if size = 1 then
      if e = .seventh then none else some (bytes.flatMap (List.replicate n), none)
    else
      let (code, rest) ← code? e (isPaired e n size) bytes
      some (← code.oneByOne? n (← HuffmanCode.streams? rest), some code)

/-- The `n` symbols of the one stream behind a code. -/
def singleStream? (e : Edition) (n : Nat) (bytes : List UInt8) :
    Option (List UInt8 × Option HuffmanCode) := do
  let (code, rest) ← code? e false bytes
  some (← code.wholeStream? n rest, some code)

namespace Literals

/-! ### Headers -/

/-- A block has at most this many literals. -/
def max : Nat := 131072

/-- How literals are written, by two bits. -/
def formOf (n : Nat) : LiteralsForm :=
  match n with
  | 0 => .coded
  | 1 => .codedAgain
  | 2 => .plain
  | _ => .repeated

/-- The number of literals that are plain or repeated, and what follows it. -/
def shortHeader? (layout : Nat) (block : List UInt8) : Option (Nat × List UInt8) := do
  let (width, bits) := if layout = 2 then (2, 12) else if layout = 3 then (3, 20) else (1, 5)
  let (head, rest) ← Slice.split? width block
  some (bigEndian head % 1 <<< bits, rest)

/-- The number of literals in a code, the bytes they take, and what follows. -/
def longHeader? (layout : Nat) (block : List UInt8) : Option (Nat × List UInt8 × List UInt8) := do
  let (width, bits) := if layout = 2 then (4, 14) else if layout = 3 then (5, 18) else (3, 10)
  let (head, rest) ← Slice.split? width block
  let word := bigEndian head
  let (bytes, rest) ← Slice.split? (word % (1 <<< bits)) rest
  some ((word >>> bits) % (1 <<< bits), bytes, rest)

/-- The literals of a block from the fifth edition on. Only the last of them uses a code again, one
for pairs, in a single short stream. -/
def late? (e : Edition) (known : Option HuffmanCode) (block : List UInt8) : Option Literals := do
  let head ← block.head?
  let layout := head.toNat / 16 % 4
  if block.length < 3 then none
  match formOf (head.toNat / 64) with
  | .plain =>
    let (n, rest) ← shortHeader? layout block
    let (literals, rest) ← Slice.split? n rest
    some ⟨literals, known, rest, true⟩
  | .repeated =>
    let (n, rest) ← shortHeader? layout block
    if max < n then none
    let (byte, rest) ← Slice.split? 1 rest
    some ⟨byte.flatMap (List.replicate n), known, rest, false⟩
  | .coded =>
    if block.length < 5 then none
    let (n, bytes, rest) ← longHeader? layout block
    if max < n then none
    let (literals, code) ← if layout = 1 then singleStream? e n bytes else symbols? e n bytes
    some ⟨literals, code <|> known, rest, false⟩
  | .codedAgain =>
    let code ← known
    if e ≠ .seventh ∨ layout ≠ 1 ∨ ¬ code.paired then none
    let (n, bytes, rest) ← longHeader? layout block
    some ⟨← code.wholeStream? n bytes, known, rest, false⟩

/-- The literals of a block of the second to fourth edition. A block has eleven bytes at least.
Plain literals that leave less than eight of them are taken from the start of the block, header and
all. -/
def middle? (e : Edition) (block : List UInt8) : Option Literals := do
  if block.length < 11 then none
  let (head, rest) ← Slice.split? 3 block
  let n := LittleEndian.decode head >>> 2
  match LittleEndian.decode head % 4 with
  | 0 =>
    let (more, rest) ← Slice.split? 2 rest
    let n := n % (1 <<< 19)
    let (bytes, rest) ← Slice.split? (LittleEndian.decode (head.drop 2 ++ more) >>> 5) rest
    if max < n then none
    some ⟨(← symbols? e n bytes).1, none, rest, false⟩
  | 1 =>
    let (literals, rest) ← Slice.split? n rest
    if rest.length < 8 then
      if max < n then none else some ⟨block.take n, none, rest, false⟩
    else some ⟨literals, none, rest, true⟩
  | 2 =>
    let (byte, rest) ← Slice.split? 1 rest
    if max < n then none else some ⟨byte.flatMap (List.replicate n), none, rest, false⟩
  | _ => none

/-- The literals of a block of the first edition, which are written like a block of their own. Those
in a code are counted by three bits of its head and two bytes behind it. All but plain ones need
`room`. -/
def early? (room : Nat) (block : List UInt8) : Option Literals := do
  let (head, rest) ← Slice.split? 3 block
  let head := bigEndian head
  let size := head % 1 <<< 19
  match head >>> 22 with
  | 0 =>
    let (bytes, rest) ← Slice.split? size rest
    let (count, bytes) ← Slice.split? 2 bytes
    let n := bigEndian count + (head >>> 19 % 8) <<< 16
    if bytes.length < 2 ∨ room < n then none
    some ⟨(← symbols? .first n bytes).1, none, rest, false⟩
  | 1 =>
    let (literals, rest) ← Slice.split? size rest
    some ⟨literals, none, rest, true⟩
  | 2 =>
    let (byte, rest) ← Slice.split? 1 rest
    if room < size then none else some ⟨byte.flatMap (List.replicate size), none, rest, false⟩
  | _ => none

/-- The literals at the start of a block, whose output has `room` bytes; `known` is the code used
last in the frame. -/
def decode? (e : Edition) (room : Nat) (known : Option HuffmanCode) (block : List UInt8) :
    Option Literals :=
  match e with
  | .first => early? room block
  | .second | .third | .fourth => middle? e block
  | _ => late? e known block

end Literals

end DocGateway.Zstd.Early
