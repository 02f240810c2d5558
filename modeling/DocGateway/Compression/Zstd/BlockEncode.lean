import DocGateway.Compression.Zstd.HuffmanEncode
import DocGateway.Compression.Zstd.Matches
import DocGateway.Compression.Zstd.Sequences
import DocGateway.Number.Sum
/-!
# Compressing a block

A block is written as literals and sequences, without any use of the blocks before it. There is no
such form of a block that would not gain enough by it.
-/

namespace DocGateway.Zstd.BlockEncode

/-- How many bytes compression must gain for `n` bytes. -/
def leastGain (n : Nat) : Nat := n / 64 + 2

/-! ### Literals -/

/-- The head of literals that are plain, with kind 0, or repeated, with kind 1. -/
def shortHead (kind n : Nat) : List UInt8 :=
  if n < 32 then [UInt8.ofNat (kind + 8 * n)]
  else if n < 4096 then LittleEndian.encode 2 (kind + 4 + 16 * n)
  else LittleEndian.encode 3 (kind + 12 + 16 * n)

/-- The head of `n` literals in a code that take `size` bytes. -/
def longHead (n size : Nat) : List UInt8 :=
  if n < 1024 then
    LittleEndian.encode 3 (2 + (if n < 256 then 0 else 4) + 16 * n + size <<< 14)
  else if n < 16384 then LittleEndian.encode 4 (10 + 16 * n + size <<< 18)
  else LittleEndian.encode 5 (14 + 16 * n + size <<< 22)

/-- Plain literals. -/
def plainLiterals (literals : List UInt8) : List UInt8 := shortHead 0 literals.length ++ literals

/-- How often each byte occurs, up to the last one that does. -/
def census (bytes : List UInt8) : List Nat :=
  let counts :=
    bytes.foldl (fun (a : Array Nat) b => a.modify b.toNat (· + 1)) (Array.replicate 256 0)
  (counts.toList.reverse.dropWhile (· = 0)).reverse

/-- How often the most frequent byte occurs in a sample. -/
def peak (bytes : List UInt8) : Nat := (census bytes).foldl max 0

/-- Literals in a code made for them and its description, unless there is not much to be gained.
When few sequences came out of many literals, two samples of them are looked at first. -/
def codedLiterals (suspect : Bool) (literals : List UInt8) : Option (List UInt8) := do
  let n := literals.length
  if suspect ∧ 40960 ≤ n ∧ peak (literals.take 4096) + peak (literals.drop (n - 4096)) ≤
    68 then none
  -- bytes that occur about equally often cannot be written any shorter
  let counts := census literals
  let largest := counts.foldl max 0
  if largest ≤ n / 128 + 4 then none
  let lengths := Huffman.lengthsFor (Fse.accuracyFor 11 n (counts.length - 1) 1) counts
  let head ← Huffman.description lengths
  if n ≤ head.length + 12 then none
  let words := Huffman.wordsOf lengths
  let bytes :=
    head ++ (if n < 256 then Huffman.stream words literals else Huffman.fourStreams words literals)
  -- the code may still not be worth its description
  if n ≤ bytes.length + 1 ∨ n ≤ bytes.length + leastGain n then none
  some (longHead n bytes.length ++ bytes)

/-- Literals in the form that suits them. -/
def literals (suspect : Bool) (bytes : List UInt8) : List UInt8 :=
  if bytes.length < 64 then plainLiterals bytes
  else
    match bytes with
    | [] => plainLiterals []
    | b :: rest =>
      if rest.all (· = b) then shortHead 1 bytes.length ++ [b]
      else (codedLiterals suspect bytes).getD (plainLiterals bytes)

/-! ### Sequences -/

/-- The number of sequences. -/
def putCount (n : Nat) : List UInt8 :=
  if n < 128 then [UInt8.ofNat n]
  else if n < 0x7F00 then [UInt8.ofNat (n / 256 + 128), UInt8.ofNat n]
  else 255 :: LittleEndian.encode 2 (n - 0x7F00)

/-- The code that a number falls to. -/
def codeOf (codes : Array (Nat × Nat)) (n : Nat) : Nat := codes.toList.countP (·.1 ≤ n) - 1

/-- The codes of a sequence. -/
def codesOf (s : Sequence) : PerField Nat where
  literals := codeOf Sequences.literalsCodes s.literals
  offset := s.value.log2
  length := codeOf Sequences.lengthCodes s.length

/-- A table with the number of its kind and its description. -/
structure Chosen where
  kind : Nat
  table : FseTable
  bytes : List UInt8

/-- How many bits it takes to name one of `n` in 256, in units of a 256th, rounded down. -/
def costTable : Array Nat :=
  (Array.range 257).map fun n => if n = 0 then 0 else (1 <<< 2048 / Nat.pow n 256).log2

/-- The bits that symbols take which occur so often and are given these shares of 256. -/
def cost (counts shares : List Nat) : Nat :=
  sum ((counts.zip shares).map fun p => p.1 * costTable[p.2]?.getD 0) / 256

/-- The least number of bits that symbols take which occur so often. -/
def leastCost (counts : List Nat) : Nat :=
  let total := sum counts
  cost counts (counts.map fun c => if c = 0 then 0 else max 1 (256 * c / total))

/-- The bits that symbols take in a table with these shares. -/
def costIn (accuracy : Nat) (shares : List FseShare) (counts : List Nat) : Nat :=
  cost counts (shares.map fun s => s.count <<< (8 - accuracy))

/-- The table for some codes, of which there is one at least: a table made for them with an accuracy
of at most `limit`, unless the predefined one does as well and has all codes. Equal codes need no
table if there are more than two. -/
def choose (accuracy : Nat) (predefined : List FseShare) (limit : Nat) (codes : List Nat) :
    Option Chosen := do
  let n := codes.length
  let top := codes.foldl max 0
  let counts := (List.range (top + 1)).map fun c => codes.count c
  let allowed := top < predefined.length
  let basic : Chosen := ⟨0, Fse.table accuracy predefined, []⟩
  -- all codes are the same one
  if counts.foldl max 0 = n then
    if allowed ∧ n ≤ 2 then some basic else some ⟨1, Fse.constant top, [UInt8.ofNat top]⟩
  else
    let fine := Fse.accuracyFor limit n top 2
    let estimate := Fse.description fine (← Fse.sharesFor fine (2048 ≤ n) counts)
    if allowed ∧ costIn accuracy predefined counts ≤ 8 * estimate.length + leastCost counts then
      some basic
    else
      let last := codes.getLast?.getD 0
      -- the last code needs no share of its own, as its state is where reading starts
      let counts := if 1 < (counts[last]?).getD 0 then counts.modify last (· - 1) else counts
      let shares ← Fse.sharesFor fine (2048 ≤ sum counts) counts
      some ⟨2, Fse.table fine shares, Fse.description fine shares⟩

/-- Writes what stands beside the codes of a sequence. -/
def putExtra (s : Sequence) (codes : PerField Nat) (w : BitWriter) : BitWriter :=
  let (base, bits) := Sequences.literalsCodes[codes.literals]?.getD (0, 0)
  let w := w.low (s.literals - base) bits
  let (base, bits) := Sequences.lengthCodes[codes.length]?.getD (0, 0)
  (w.low (s.length - base) bits).low (s.value - 1 <<< codes.offset) codes.offset

/-- Writes the sequences before one whose states are given, from the last to the first, and then the
first states. -/
def putSequences (t : PerField FseTable) :
    List (Sequence × PerField Nat) → PerField Nat → BitWriter → BitWriter
  | [], states, w =>
    t.literals.putState states.literals
      (t.offset.putState states.offset (t.length.putState states.length w))
  | (s, codes) :: rest, states, w =>
    let (offset, w) := t.offset.put codes.offset states.offset w
    let (length, w) := t.length.put codes.length states.length w
    let (literals, w) := t.literals.put codes.literals states.literals w
    putSequences t rest ⟨literals, offset, length⟩ (putExtra s codes w)

/-- The stream of some sequences. -/
def stream (t : PerField FseTable) (sequences : List (Sequence × PerField Nat)) : List UInt8 :=
  match sequences.reverse with
  | [] => []
  | (s, codes) :: rest =>
    let states : PerField Nat :=
      ⟨t.literals.firstOf codes.literals, t.offset.firstOf codes.offset,
        t.length.firstOf codes.length⟩
    (putSequences t rest states (putExtra s codes .empty)).closeBackward.bytes.toList

/-- The sequences of a block. A described table and a stream that together take less than four bytes
are avoided. -/
def sequences (ss : List Sequence) : Option (List UInt8) := do
  if ss.isEmpty then some [0]
  else
    let coded := ss.map fun s => (s, codesOf s)
    let l ← choose 6 Sequences.predefinedShares.literals 9 (coded.map (·.2.literals))
    let o ← choose 5 Sequences.predefinedShares.offset 8 (coded.map (·.2.offset))
    let m ← choose 6 Sequences.predefinedShares.length 9 (coded.map (·.2.length))
    let bytes := stream ⟨l.table, o.table, m.table⟩ coded
    -- early readers expect that much behind the last description
    let described := ((([l, o, m].filter (·.kind = 2)).getLast?).map (·.bytes.length)).getD 0
    if described ≠ 0 ∧ described + bytes.length < 4 then none
    some (putCount ss.length ++ UInt8.ofNat (64 * l.kind + 16 * o.kind + 4 * m.kind) ::
      (l.bytes ++ o.bytes ++ m.bytes)
      ++ bytes)

/-! ### Blocks -/

/-- The literals of a block with these sequences, of which the last ends at `stop`. -/
def literalsOf (source : Array UInt8) (ss : List Sequence) (stop : Nat) : List UInt8 :=
  let step (acc : Array UInt8 × Nat) (s : Sequence) : Array UInt8 × Nat :=
    (acc.1 ++ source.extract acc.2 (acc.2 + s.literals), acc.2 + s.literals + s.length)
  ((ss.foldl step (#[], 0)).1 ++ source.extract stop source.size).toList

/-- The offset that a frame starts with as the one used last. -/
def firstOffset : Nat := 1

/-- The body of a block, if it gains enough. The first block of a frame may use the offset that the
frame starts with; what others could use is not kept. -/
def encode (isFirst : Bool) (plain : List UInt8) : Option (List UInt8) := do
  let n := plain.length
  if n < 7 then none
  let source := plain.toArray
  let (ss, stop) := findSequences source (if isFirst then firstOffset else 0)
  let bytes := literalsOf source ss stop
  let suspect := ss.isEmpty ∨ 20 ≤ bytes.length / ss.length
  let body := literals suspect bytes ++ (← sequences ss)
  if n ≤ body.length + leastGain n then none else some body

end DocGateway.Zstd.BlockEncode
