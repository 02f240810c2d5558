import DocGateway.Compression.Zstd.Lanes
/-!
# Literals of a block

A block starts with its literals: as they are, one byte repeated, or in a Huffman code, which is
described there or was already used before in the frame. Literals in a code make up one stream or
four.
-/

namespace DocGateway.Zstd

/-- How literals are written. -/
inductive LiteralsForm where
  | plain | repeated | coded | codedAgain
deriving DecidableEq, Repr

/-- The literals of a block, the code for those of later blocks, and the rest of the block. Plain
literals with enough bytes behind them are used where they stand in the block. -/
structure Literals where
  bytes : List UInt8
  code : Option HuffmanCode
  rest : List UInt8
  standInBlock : Bool
deriving Repr

namespace Literals

/-- The form that two bits stand for. -/
def formOf (n : Nat) : LiteralsForm :=
  match n with
  | 0 => .plain
  | 1 => .repeated
  | 2 => .coded
  | _ => .codedAgain

/-- The number of literals that are plain or repeated, and what follows it. -/
def shortHeader? (layout : Nat) (block : List UInt8) : Option (Nat × List UInt8) := do
  let (width, shift) := if layout = 1 then (2, 4) else if layout = 3 then (3, 4) else (1, 3)
  let (head, rest) ← Slice.split? width block
  some (LittleEndian.decode head >>> shift, rest)

/-- The number of literals in a code, the number of bytes they take, and what follows. -/
def longHeader? (layout : Nat) (block : List UInt8) : Option (Nat × Nat × List UInt8) := do
  let (width, bits) := if layout = 2 then (4, 14) else if layout = 3 then (5, 18) else (3, 10)
  let (head, rest) ← Slice.split? width block
  let word := LittleEndian.decode head / 16
  some (word % (1 <<< bits), word >>> bits, rest)

/-- Estimated times, by sixteenths of the size that literals keep: to set up look-ups of one word
and to read 256 symbols with them, and the same for two words at a time. -/
def estimates : Array (Nat × Nat × Nat × Nat) :=
  #[(0, 0, 1, 1), (0, 0, 1, 1), (150, 216, 381, 119), (170, 205, 514, 112), (177, 199, 539, 110),
    (197, 194, 644, 107), (221, 192, 735, 107), (256, 189, 881, 106), (359, 188, 1167, 109),
    (582, 187, 1570, 114), (688, 187, 1712, 122), (825, 186, 1965, 136), (976, 185, 2131, 150),
    (1180, 186, 2070, 175), (1377, 185, 1731, 202), (1412, 185, 1695, 202)]

/-- Whether `n` literals that take `size` bytes are sooner read two at a time. -/
def isPaired (n size : Nat) : Bool :=
  let (setUp, read, setUpPairs, readPairs) :=
    estimates[if n ≤ size then 15 else 16 * size / n]?.getD (0, 0, 0, 0)
  let time := setUpPairs + readPairs * (n / 256)
  time + time / 32 < setUp + read * (n / 256)

/-- The code described at the start of literals in streams, and what follows it. -/
def code? (single : Bool) (n : Nat) (bytes : List UInt8) : Option (HuffmanCode × List UInt8) := do
  let (code, rest) ← Huffman.code? bytes
  some ({ code with paired := !single && isPaired n bytes.length }, rest)

/-- Plain literals are used where they stand if as many bytes follow them in the block. -/
def margin : Nat := 32

/-- The literals at the start of a block. There are at most `max` literals; `known` is the code used
last in the frame. -/
def decode? (max : Nat) (known : Option HuffmanCode) (block : List UInt8) : Option Literals := do
  let head ← block.head?
  let layout := head.toNat / 4 % 4
  match formOf (head.toNat % 4) with
  | .plain =>
    let (n, rest) ← shortHeader? layout block
    if max < n then none
    let (literals, rest) ← Slice.split? n rest
    some ⟨literals, known, rest, margin ≤ rest.length⟩
  | .repeated =>
    let (n, rest) ← shortHeader? layout block
    if max < n then none
    let (byte, rest) ← Slice.split? 1 rest
    some ⟨byte.flatMap (List.replicate n), known, rest, false⟩
  | form =>
    if block.length < 5 then none
    let (n, size, rest) ← longHeader? layout block
    if max < n then none
    let (bytes, rest) ← Slice.split? size rest
    let (code, bytes) ← if form = .coded then code? (layout = 0) n bytes else known.map (·, bytes)
    let literals ← if layout = 0 then code.wholeStream? n bytes else code.fourStreams? n bytes
    some ⟨literals, some code, rest, false⟩

end Literals

end DocGateway.Zstd
