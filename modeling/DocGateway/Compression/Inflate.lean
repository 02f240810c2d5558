import DocGateway.Bytes.LittleEndian
import DocGateway.Compression.History
import DocGateway.Compression.PrefixCode
/-!
# The DEFLATE format

A stream is a row of blocks, each stored as it is or written in two prefix codes: one for bytes and
the lengths of copies, one for their distances. The codes are fixed or described in the block. What
has been put out so far is kept when a stream ends too early or turns out wrong. Copies may reach
back behind the start of the output, where there are zeros.
-/

namespace DocGateway.Inflate

/-! ### Progress -/

/-- The output so far, and the bits that are left. -/
structure Progress where
  out : Array UInt8
  bits : Bits
deriving Repr, Inhabited

/-- Why a stream is not read on: its bits, or a byte too many for the output. -/
inductive Halt where
  | shortfall (s : Shortfall)
  | full
deriving DecidableEq, Repr

/-- A reader that puts out bytes. -/
abbrev Inflater (α : Type) := EStateM Halt Progress α

/-- Reads bits. -/
def read {α : Type} (reader : BitReader α) : Inflater α := fun p =>
  match reader.run p.bits with
  | .ok (x, bits) => .ok x ⟨p.out, bits⟩
  | .error s => .error (.shortfall s) p

/-- Puts out a byte, unless there are `limit` already. -/
def put (limit : Nat) (b : UInt8) : Inflater Unit := fun ⟨out, bits⟩ =>
  if out.size < limit then .ok () ⟨out.push b, bits⟩ else .error .full ⟨out, bits⟩

/-- Repeats `length` bytes of those `distance` bytes back, as many as there is room for. -/
def repeatBack (limit distance length : Nat) : Inflater Unit := fun ⟨out, bits⟩ =>
  let fitting := min length (limit - out.size)
  let zeros := min fitting (distance - out.size)
  let out := History.repeatFrom (out ++ Array.replicate zeros 0) distance (fitting - zeros)
  if fitting = length then .ok () ⟨out, bits⟩ else .error .full ⟨out, bits⟩

/-- Puts out `length` bytes of the input, as many as there are and as there is room for. -/
def copyInput (limit length : Nat) : Inflater Unit := fun ⟨out, bits⟩ =>
  let room := limit - out.size
  let bytes := bits.bytes.take (min length room)
  let p : Progress := ⟨out ++ bytes, ⟨bits.bytes.drop bytes.length, 0⟩⟩
  if bytes.length = length then .ok () p
  else if bytes.length = room then .error .full p
  else .error (.shortfall .starved) p

/-! ### Lengths and distances -/

/-- The smallest lengths that the symbols from 257 on stand for, each with its number of extra
bits. -/
def lengthTable : Array (Nat × Nat) :=
  #[(3, 0), (4, 0), (5, 0), (6, 0), (7, 0), (8, 0), (9, 0), (10, 0), (11, 1), (13, 1), (15, 1),
    (17, 1), (19, 2), (23, 2), (27, 2), (31, 2), (35, 3), (43, 3), (51, 3), (59, 3), (67, 4),
    (83, 4), (99, 4), (115, 4), (131, 5), (163, 5), (195, 5), (227, 5), (258, 0)]

/-- The smallest distances that the symbols stand for, each with its number of extra bits. -/
def distanceTable : Array (Nat × Nat) :=
  #[(1, 0), (2, 0), (3, 0), (4, 0), (5, 1), (7, 1), (9, 2), (13, 2), (17, 3), (25, 3), (33, 4),
    (49, 4), (65, 5), (97, 5), (129, 6), (193, 6), (257, 7), (385, 7), (513, 8), (769, 8),
    (1025, 9), (1537, 9), (2049, 10), (3073, 10), (4097, 11), (6145, 11), (8193, 12), (12289, 12),
    (16385, 13), (24577, 13)]

/-- The number that a symbol of a table stands for, with its extra bits. -/
def extended (table : Array (Nat × Nat)) (symbol : Nat) : BitReader Nat := do
  let (base, extra) ← Bits.require table[symbol]?
  (base + ·) <$> Bits.number extra

/-! ### Codes -/

/-- The two codes of a block. -/
structure Codes where
  literals : PrefixCode
  distances : PrefixCode

/-- The word lengths of the fixed code for bytes and lengths. -/
def fixedLengths : List Nat :=
  List.replicate 144 8 ++ List.replicate 112 9 ++ List.replicate 24 7 ++ List.replicate 8 8

/-- The codes of a block that describes none. -/
def fixedCodes : BitReader Codes := do
  let literals ← Bits.require (PrefixCode.ofLengths? false fixedLengths)
  let distances ← Bits.require (PrefixCode.ofLengths? false (List.replicate 32 5))
  pure ⟨literals, distances⟩

/-- The order in which the word lengths of the code for word lengths are written. -/
def lengthOrder : List Nat := [16, 17, 18, 0, 8, 7, 9, 6, 10, 5, 11, 4, 12, 3, 13, 2, 14, 1, 15]

/-- Reads word lengths, the last first, until there are `count`. A repetition must not run past
that. -/
def codeLengths (code : PrefixCode) (count : Nat) : Nat → List Nat → BitReader (List Nat)
  | 0, lengths => if lengths.length = count then pure lengths.reverse else Bits.corrupt
  | fuel + 1, lengths => do
    if count ≤ lengths.length then
      if lengths.length = count then pure lengths.reverse else Bits.corrupt
    else
      let s ← code.symbol
      if s < 16 then codeLengths code count fuel (s :: lengths)
      else if s = 16 then
        match lengths with
        | [] => Bits.corrupt
        | last :: _ =>
          let n ← Bits.number 2
          codeLengths code count fuel (List.replicate (n + 3) last ++ lengths)
      else
        let n ← if s = 17 then (· + 3) <$> Bits.number 3 else (· + 11) <$> Bits.number 7
        codeLengths code count fuel (List.replicate n 0 ++ lengths)

/-- `n` numbers of three bits. -/
def triples : Nat → BitReader (List Nat)
  | 0 => pure []
  | n + 1 => do
    let x ← Bits.number 3
    let xs ← triples n
    pure (x :: xs)

/-- Reads the description of a block's codes. -/
def dynamicCodes : BitReader Codes := do
  let literals := (← Bits.number 5) + 257
  let distances := (← Bits.number 5) + 1
  let described := (← Bits.number 4) + 4
  if 286 < literals ∨ 30 < distances then Bits.corrupt
  let written ← triples described
  let lengthOf (s : Nat) : Nat := (written[lengthOrder.idxOf s]?).getD 0
  let code ← Bits.require (PrefixCode.ofLengths? false ((List.range 19).map lengthOf))
  let total := literals + distances
  let lengths ← codeLengths code total total []
  let d ← Bits.require (PrefixCode.ofLengths? true (lengths.drop literals))
  let l ← Bits.require (PrefixCode.ofLengths? true (lengths.take literals))
  pure ⟨l, d⟩

/-! ### Blocks -/

/-- Carries out symbols until the end of the block. A symbol takes at least one bit. -/
def symbols (codes : Codes) (limit : Nat) : Nat → Inflater Unit
  | 0 => read Bits.corrupt
  | fuel + 1 => do
    let s ← read codes.literals.symbol
    if s < 256 then
      put limit (UInt8.ofNat s)
      symbols codes limit fuel
    else if s = 256 then pure ()
    else
      let length ← read (extended lengthTable (s - 257))
      let distance ← read (do extended distanceTable (← codes.distances.symbol))
      repeatBack limit distance length
      symbols codes limit fuel

/-- The length of a stored block, and the complement of that. -/
def storedLength : BitReader Nat := do
  let length ← Bits.word 2
  let complement ← Bits.word 2
  if length + complement = 65535 then pure length else Bits.corrupt

/-- A stored block: its length, and its bytes. -/
def stored (limit : Nat) : Inflater Unit := do
  read Bits.align
  copyInput limit (← read storedLength)

/-- Carries out the block that starts here, and tells whether it is the last one. -/
def block (limit : Nat) : Inflater Bool := do
  let last ← read Bits.bit
  let kind ← read (Bits.number 2)
  let bits := 8 * (← get).bits.bytes.length
  if kind = 0 then stored limit
  else if kind = 1 then symbols (← read fixedCodes) limit (bits + 1)
  else if kind = 2 then symbols (← read dynamicCodes) limit (bits + 1)
  else read Bits.corrupt
  pure (last = 1)

/-- Carries out blocks until the last one. A block takes at least three bits. -/
def blocks (limit : Nat) : Nat → Inflater Unit
  | 0 => read Bits.corrupt
  | fuel + 1 => do
    if ← block limit then pure () else blocks limit fuel

/-- Carries out a stream, of which at most `limit` bytes are put out. -/
def stream (limit : Nat) : Inflater Unit := do
  blocks limit (8 * (← get).bits.bytes.length + 1)

/-! ### Encoding -/

/-- A stored block. -/
def storedBlock (last : Bool) (bytes : List UInt8) : List UInt8 :=
  (if last then 1 else 0) :: LittleEndian.encode 2 bytes.length
    ++ LittleEndian.encode 2 (65535 - bytes.length) ++ bytes

/-- Stored blocks of at most 65535 bytes, `more` at most before the last one. -/
def storedBlocks : Nat → List UInt8 → List UInt8
  | 0, bytes => storedBlock true bytes
  | more + 1, bytes =>
    if (bytes.drop 65535).isEmpty then storedBlock true bytes
    else storedBlock false (bytes.take 65535) ++ storedBlocks more (bytes.drop 65535)

/-- A stream of stored blocks. -/
def encode (plain : List UInt8) : List UInt8 := storedBlocks (plain.length / 65535) plain

end DocGateway.Inflate
