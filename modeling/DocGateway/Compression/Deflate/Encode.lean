import DocGateway.Compression.Deflate.CodeLengths
import DocGateway.Compression.Deflate.Parse
import DocGateway.Compression.BitWriter
import DocGateway.Compression.Inflate
/-!
# Writing DEFLATE streams

Short blocks are written in the fixed codes and others in codes made for them, unless a block would
grow by that: then it is stored.
-/

namespace DocGateway.Deflate

/-! ### Codes -/

/-- The words of a code: for each symbol its number and its length. -/
structure Words where
  words : Array (Nat × Nat)

namespace Words

/-- The words of the code with these lengths. -/
def ofLengths (lengths : List Nat) : Words :=
  let firsts := (List.range 15).foldl
    (fun (acc : Nat × Array Nat) i => (2 * (acc.1 + lengths.count (i + 1)), acc.2.push acc.1)) (0,
      #[])
  let step (acc : Array (Nat × Nat) × Array Nat) (length : Nat) : Array (Nat × Nat) × Array Nat :=
    if length = 0 then (acc.1.push (0, 0), acc.2)
    else
      let next := acc.2[length - 1]?.getD 0
      (acc.1.push (next, length), acc.2.setIfInBounds (length - 1) (next + 1))
  ⟨(lengths.foldl step (#[], firsts.2)).1⟩

/-- Writes the word of a symbol. -/
def put (c : Words) (w : BitWriter) (symbol : Nat) : BitWriter :=
  let (number, length) := c.words[symbol]?.getD (0, 0)
  w.word number length

end Words

/-- The symbol that a number falls to, with what is left and its number of bits. -/
def symbolOf (table : Array (Nat × Nat)) (n : Nat) : Nat × Nat × Nat :=
  let symbol := (table.toList.countP (·.1 ≤ n)) - 1
  let (base, extra) := table[symbol]?.getD (0, 0)
  (symbol, n - base, extra)

/-! ### Blocks -/

/-- Counts one more of a symbol. -/
def countIn (counts : Array Nat) (symbol : Nat) : Array Nat := counts.modify symbol (· + 1)

/-- How often each symbol occurs: of bytes and lengths, with one end of block, and of distances. -/
def census (tokens : List Token) : List Nat × List Nat :=
  let step (acc : Array Nat × Array Nat) (t : Token) : Array Nat × Array Nat :=
    match t with
    | .byte b => (countIn acc.1 b.toNat, acc.2)
    | .copy c =>
      (countIn acc.1 (257 + (symbolOf Inflate.lengthTable c.length).1),
        countIn acc.2 (symbolOf Inflate.distanceTable c.distance).1)
  let (a, b) := tokens.foldl step ((Array.replicate 288 0).set! 256 1, Array.replicate 32 0)
  (a.toList, b.toList)

/-- Writes tokens and the end of the block. -/
def putTokens (literals distances : Words) (tokens : List Token) (w : BitWriter) : BitWriter :=
  let step (w : BitWriter) (t : Token) : BitWriter :=
    match t with
    | .byte b => literals.put w b.toNat
    | .copy c =>
      let (l, more, bits) := symbolOf Inflate.lengthTable c.length
      let w := (literals.put w (257 + l)).number more bits
      let (d, more, bits) := symbolOf Inflate.distanceTable c.distance
      (distances.put w d).number more bits
  literals.put (tokens.foldl step w) 256

/-- Tokens in the fixed codes. -/
def putFixed (tokens : List Token) (w : BitWriter) : BitWriter :=
  putTokens (.ofLengths Inflate.fixedLengths) (.ofLengths (List.replicate 32 5)) tokens
    (w.number 1 2)

/-! ### Describing codes -/

/-- A number `n` cut in pieces of `size` and a smaller one. -/
def pieces (n size : Nat) : List Nat :=
  List.replicate (n / size) size ++ (if n % size = 0 then [] else [n % size])

/-- The maximal runs of equal numbers, with their lengths. -/
def runs (ns : List Nat) : List (Nat × Nat) :=
  ns.foldr (fun n acc =>
    match acc with
    | (m, k) :: rest => if m = n then (m, k + 1) :: rest else (n, 1) :: acc
    | [] => [(n, 1)]) []

/-- A run of word lengths as symbols, each with a further number and its number of bits. -/
def describeRun : Nat × Nat → List (Nat × Nat × Nat)
  | (0, n) => (pieces n 138).flatMap fun k =>
      if k < 3 then List.replicate k (0, 0, 0)
      else if k ≤ 10 then [(17, k - 3, 3)] else [(18, k - 11, 7)]
  | (length, n) => (length, 0, 0) :: (pieces (n - 1) 6).flatMap fun k =>
      if k < 3 then List.replicate k (length, 0, 0) else [(16, k - 3, 2)]

/-- As many of some numbers as are needed up to the last one that is not zero, but at least
`least`. -/
def trim (least : Nat) (ns : List Nat) : List Nat :=
  let kept := (ns.reverse.dropWhile (· = 0)).length
  ns.take (max least kept)

/-- Writes the codes with these word lengths. -/
def putCodes (literals distances : List Nat) (w : BitWriter) : BitWriter :=
  let literals := trim 257 (literals.take 286)
  let distances := trim 1 (distances.take 30)
  let items := (runs (literals ++ distances)).flatMap describeRun
  let counts := (items.foldl (fun c i => countIn c i.1) (Array.replicate 19 0)).toList
  let lengths := CodeLengths.ofCounts counts 7
  let ordered := trim 4 (Inflate.lengthOrder.map fun s => lengths[s]?.getD 0)
  let w :=
    ((w.number (literals.length - 257) 5).number (distances.length - 1) 5).number
      (ordered.length - 4) 4
  let w := ordered.foldl (fun w n => w.number n 3) w
  let words := Words.ofLengths lengths
  items.foldl (fun w i => (words.put w i.1).number i.2.1 i.2.2) w

/-- Tokens in codes made for them. -/
def putDynamic (tokens : List Token) (w : BitWriter) : BitWriter :=
  let (l, d) := census tokens
  let literals := CodeLengths.ofCounts l 15
  let distances := CodeLengths.ofCounts d 15
  putTokens (.ofLengths literals) (.ofLengths distances) tokens
    (putCodes literals distances (w.number 2 2))

/-! ### Streams -/

/-- Writes bytes as they are. -/
def putStored (bytes : List UInt8) (w : BitWriter) : BitWriter :=
  let w := (w.number 0 2).align
  ((w.number (bytes.length % 65536) 16).number (65535 - bytes.length % 65536) 16).append bytes

/-- Writes a block. -/
def putBlock (source : Array UInt8) (last : Bool) (b : Block) (w : BitWriter) : BitWriter :=
  let w := w.number last.toNat 1
  let coded := if b.size < 48 then putFixed b.tokens w else putDynamic b.tokens w
  if 32 < b.size ∧ b.size ≤ coded.bytes.size - w.bytes.size + 1 ∧ b.inWindow then
    putStored (source.extract b.start (b.start + b.size)).toList w
  else coded

/-- Writes blocks, of which the last one is marked. -/
def putBlocks (source : Array UInt8) : List Block → BitWriter → BitWriter
  | [], w => w
  | [b], w => putBlock source true b w
  | b :: rest, w => putBlocks source rest (putBlock source false b w)

/-- A stream that expands to some bytes. -/
def encode (plain : List UInt8) : List UInt8 :=
  (putBlocks plain.toArray (blocks plain) .empty).align.bytes.toList

end DocGateway.Deflate
