import DocGateway.Bytes.Slice
import DocGateway.Compression.Zstd.Fse
import DocGateway.Number.Sum
/-!
# Huffman codes of literals

A code is described by a weight for each symbol: the share of the code space that it takes is
`2 ^ (weight - 1)`, and none for weight zero. The last weight is left out, being what fills the
space up to a power of two.
-/

namespace DocGateway.Zstd

/-- A code whose words have at most `width` bits: for each number of so many bits, the symbol whose
word it starts with, and the length of that word. Where `paired` holds, words are looked up two at a
time. -/
structure HuffmanCode where
  width : Nat
  entries : Array (UInt8 × Nat)
  paired : Bool
deriving DecidableEq, Repr, Inhabited

namespace Huffman

/-- Words have at most this many bits. -/
def maxWidth : Nat := 12

/-! ### Weights -/

/-- Reads weights with two states in turn, until a successor needs bits that the stream does not
have; then the other state gives the last weight. There are at most 255 weights. -/
def weightsFrom (t : FseTable) :
    Nat → (now next : Nat) → BackwardBits → List Nat → Option (List Nat)
  | 0, _, _, _, _ => none
  | fuel + 1, now, next, bits, weights =>
    if 253 < weights.length then none
    else
      let weights := t.symbol now :: weights
      let (after, bits) := (t.next now).run bits
      if bits.lent ≠ 0 then some (t.symbol next :: weights).reverse
      else weightsFrom t fuel next after bits weights

/-- The weights in a stream behind its table. -/
def compressedWeights? (bytes : List UInt8) : Option (List Nat) := do
  let (table, rest) ← Bits.readWhole? (Fse.readTable 256 6) bytes
  let bits ← BackwardBits.ofBytes? rest
  let (first, bits) := table.start.run bits
  let (second, bits) := table.start.run bits
  if bits.lent ≠ 0 then none
  weightsFrom table 255 first second bits []

/-- The first `n` weights in half bytes, the high half first. -/
def plainWeights (n : Nat) (bytes : List UInt8) : List Nat :=
  (bytes.flatMap fun b => [b.toNat / 16, b.toNat % 16]).take n

/-- The weights at the start of some bytes, and what follows them. -/
def weights? : List UInt8 → Option (List Nat × List UInt8)
  | [] => none
  | head :: rest =>
    let head := head.toNat
    if 128 ≤ head then do
      let n := head - 127
      let (bytes, rest) ← Slice.split? ((n + 1) / 2) rest
      some (plainWeights n bytes, rest)
    else do
      let (bytes, rest) ← Slice.split? head rest
      some (← compressedWeights? bytes, rest)

/-! ### Codes -/

/-- The share of the code space that a weight stands for. -/
def share (weight : Nat) : Nat := if weight = 0 then 0 else 1 <<< (weight - 1)

/-- The entries of the symbols with a weight: each has its share of them. -/
def entriesOf (width : Nat) (weights : List Nat) (weight : Nat) : List (UInt8 × Nat) :=
  (weights.zipIdx.filter (·.1 = weight)).flatMap fun p =>
    List.replicate (share weight) (UInt8.ofNat p.2, width + 1 - weight)

/-- The code with these weights and one more, which fills the code space. What is missing must be a
power of two, and at least two words must have the full length. -/
def ofWeights? (weights : List Nat) : Option HuffmanCode :=
  let total := sum (weights.map share)
  let width := total.log2 + 1
  let missing := 1 <<< width - total
  let last := missing.log2 + 1
  let all := weights ++ [last]
  let longest := all.count 1
  if weights.all (· ≤ maxWidth) ∧ total ≠ 0 ∧ width ≤ maxWidth ∧ share last = missing
      ∧ 2 ≤ longest ∧ longest % 2 = 0 then
    some ⟨width, ((List.range width).flatMap fun i => entriesOf width all (i + 1)).toArray, false⟩
  else none

/-- The code described at the start of some bytes, and what follows the description. -/
def code? (bytes : List UInt8) : Option (HuffmanCode × List UInt8) := do
  let (weights, rest) ← weights? bytes
  some (← ofWeights? weights, rest)

end Huffman

namespace HuffmanCode

/-- Reads one word and gives its symbol. -/
def symbol (c : HuffmanCode) : BackwardReader UInt8 := fun s =>
  let (symbol, length) := c.entries[s.peek c.width]?.getD (0, 0)
  (symbol, s.skip length)

/-- Reads `n` words after what is already there, the last first. -/
def symbolsFrom (c : HuffmanCode) : Nat → BackwardBits → List UInt8 → List UInt8 × BackwardBits
  | 0, s, read => (read.reverse, s)
  | n + 1, s, read =>
    let (symbol, s) := c.symbol.run s
    symbolsFrom c n s (symbol :: read)

/-- The `n` symbols of a stream, which must hold no more. -/
def stream? (c : HuffmanCode) (n : Nat) (bytes : List UInt8) : Option (List UInt8) := do
  let (symbols, rest) := c.symbolsFrom n (← BackwardBits.ofBytes? bytes) []
  if rest.finished then some symbols else none

end HuffmanCode

end DocGateway.Zstd
