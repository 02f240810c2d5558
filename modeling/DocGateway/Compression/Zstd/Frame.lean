import DocGateway.Compression.Zstd.Early.Frame
import DocGateway.Compression.Zstd.Literals
import DocGateway.Compression.Zstd.Sequences
import DocGateway.Compression.Zstd.XxHash64
/-!
# The Zstandard format

An input is a row of frames; frames of a certain kind are skipped, and those of early editions are
read as well. A frame has a header, blocks, each stored as it is, one byte repeated or compressed,
and perhaps a checksum. Codes and tables of compressed blocks are kept until the end of the frame.
-/

namespace DocGateway.Zstd

/-! ### Headers -/

/-- The bytes a frame starts with. -/
def magic : List UInt8 := [0x28, 0xB5, 0x2F, 0xFD]

/-- A compressed block and its output have at most this many bytes. -/
def maxBlockSize : Nat := 131072

/-- What a frame says about itself: how far copies may reach back, its number of bytes, and whether
a checksum follows its blocks. -/
structure FrameHeader where
  window : Nat
  size : Option Nat
  hasChecksum : Bool
deriving DecidableEq, Repr

namespace FrameHeader

/-- The window that a byte stands for. It has at most 31 bits and an eighth or more. -/
def window? (b : UInt8) : Option Nat :=
  let exponent := b.toNat / 8 + 10
  if 31 < exponent then none else some (1 <<< exponent + 1 <<< exponent / 8 * (b.toNat % 8))

/-- The number of bytes of the frame's size, if it is given. -/
def sizeWidth (code : Nat) (single : Bool) : Nat :=
  match code with
  | 0 => if single then 1 else 0
  | 1 => 2
  | 2 => 4
  | _ => 8

/-- The header behind the magic bytes, and what follows it. A single-segment frame has no window but
its size; a reserved bit and a dictionary are refused. The largest size of all says nothing. -/
def decode? (bytes : List UInt8) : Option (FrameHeader × List UInt8) := do
  let (descriptor, rest) ← Slice.split? 1 bytes
  let descriptor := LittleEndian.decode descriptor
  let single := descriptor / 32 % 2 = 1
  if descriptor / 8 % 2 ≠ 0 then none
  let (window, rest) ← Slice.split? (if single then 0 else 1) rest
  let (dictionary, rest) ← Slice.split? #[0, 1, 2, 4][descriptor % 4]! rest
  if LittleEndian.decode dictionary ≠ 0 then none
  let (size, rest) ← Slice.split? (sizeWidth (descriptor / 64) single) rest
  -- sizes of two bytes start where those of one end
  let given := LittleEndian.decode size + if size.length = 2 then 256 else 0
  let window ← match window with
    | [] => some given
    | b :: _ => window? b
  some (⟨window, if size.isEmpty ∨ given = UInt64.size - 1 then none else some given,
    descriptor / 4 % 2 = 1⟩, rest)

/-- The largest compressed block of the frame. -/
def blockSize (h : FrameHeader) : Nat := min h.window maxBlockSize

end FrameHeader

/-! ### Blocks -/

/-- What is carried from block to block: the output, the last offsets, and the code and the tables
used last. -/
structure FrameState where
  out : Array UInt8
  recent : Sequences.Recent
  code : Option HuffmanCode
  tables : Option (PerField FseTable)
deriving Repr

namespace Frame

/-- Literals kept in memory of their own are at most this many. -/
def maxLiteralsAside : Nat := 65536

/-- How far the output may grow in a compressed block, and the literals held in its way. Where there
is much room, the literals are put behind that of the largest block, and bound the output. Otherwise
they are kept aside, but of too many only the last ones, and the others are held at the end of the
room of the largest block. Either way some bytes are left free. -/
def layOut (max size limit : Nat) (literals : Literals) : Nat × Sequences.Held :=
  let n := literals.bytes.length
  let aside := (limit, ⟨0, 0⟩)
  if literals.standInBlock then aside
  else if size + max + n + 2 * Literals.margin < limit then (size + max + Literals.margin, ⟨0, 0⟩)
  -- there is not enough room behind the block
  else if n ≤ maxLiteralsAside then aside
  else
    let held := n - maxLiteralsAside
    (limit, ⟨min (size + max) limit - Literals.margin - held, held⟩)

/-- Carries out a compressed block. -/
def compressed? (header : FrameHeader) (start limit : Nat) (body : List UInt8) :
    FrameState → Option FrameState
  | ⟨out, recent, code, tables⟩ => do
    let max := header.blockSize
    let literals ← Literals.decode? max code body
    if limit < out.size + literals.bytes.length then none
    let (limit, held) := layOut max out.size limit literals
    let (p, tables) ← Sequences.decode? tables start limit ⟨out, literals.bytes, held,
        recent⟩ literals.rest
    some ⟨p.out, p.recent, literals.code, tables⟩

/-- Carries out a block of a kind. The output grows to `limit` bytes at most. -/
def block? (header : FrameHeader) (start limit kind size : Nat) (bytes : List UInt8) :
    FrameState → Option (FrameState × List UInt8)
  | s => do
    match kind with
    | 0 =>
      let (stored, rest) ← Slice.split? size bytes
      if limit < s.out.size + size then none
      some ({ s with out := s.out ++ stored }, rest)
    | 1 =>
      let (byte, rest) ← Slice.split? 1 bytes
      if limit < s.out.size + size then none
      some ({ s with out := s.out ++ byte.flatMap (List.replicate size) }, rest)
    | 2 =>
      if header.blockSize < size then none
      let (body, rest) ← Slice.split? size bytes
      some (← compressed? header start limit body s, rest)
    | _ => none

/-- Carries out blocks up to the last one. -/
def blocks? (header : FrameHeader) (start limit : Nat) :
    Nat → List UInt8 → FrameState → Option (Array UInt8 × List UInt8)
  | 0, _, _ => none
  | fuel + 1, bytes, s => do
    let (head, rest) ← Slice.split? 3 bytes
    let head := LittleEndian.decode head
    -- the lowest bit marks the last block, and the next two tell the kind
    let (s, rest) ← block? header start limit (head / 2 % 4) (head / 8) rest s
    if head % 2 = 1 then some (s.out, rest) else blocks? header start limit fuel rest s

/-- Whether the output of a frame has the size that the header gives. -/
def sizeFits (header : FrameHeader) (produced : Nat) : Bool :=
  match header.size with
  | none => true
  | some n => n = produced

/-- Carries out the frame behind the magic bytes, and gives the output and what follows the
frame. -/
def decode? (limit : Nat) (out : Array UInt8) (bytes : List UInt8) :
    Option (Array UInt8 × List UInt8) := do
  let start := out.size
  let (header, rest) ← FrameHeader.decode? bytes
  let (out, rest) ← blocks? header start limit rest.length rest ⟨out, .start, none, none⟩
  if ¬ sizeFits header (out.size - start) then none
  if header.hasChecksum then
    let (checksum, rest) ← Slice.split? 4 rest
    let hash := XxHash64.hash (out.extract start out.size)
    if LittleEndian.decode checksum ≠ hash.toNat % UInt32.size then none
    some (out, rest)
  else some (out, rest)

end Frame

/-! ### Inputs -/

/-- Whether four bytes start a frame to be skipped. -/
def isSkipped (head : List UInt8) : Bool := LittleEndian.decode head / 16 = 0x184D2A5

/-- Carries out frames until nothing is left. -/
def frames? (limit : Nat) : Nat → List UInt8 → Array UInt8 → Option (Array UInt8)
  | _, [], out => some out
  | 0, _, _ => none
  | fuel + 1, bytes, out => do
    let (head, rest) ← Slice.split? 4 bytes
    if isSkipped head then
      let (size, rest) ← Slice.split? 4 rest
      let (_, rest) ← Slice.split? (LittleEndian.decode size) rest
      frames? limit fuel rest out
    else
      let (out, rest) ←
        if head = magic then Frame.decode? limit out rest
        else do Early.Frame.decode? (← Early.Edition.ofMagic? head) limit out rest
      frames? limit fuel rest out

/-- The bytes that an input expands to, which are `limit` at most. -/
def decode? (limit : Nat) (bytes : List UInt8) : Option (List UInt8) :=
  (frames? limit bytes.length bytes #[]).map Array.toList

end DocGateway.Zstd
