import DocGateway.Compression.Adler32
import DocGateway.Compression.Deflate.Encode
/-!
# The zlib format

Two bytes of header, a DEFLATE stream and the Adler-32 checksum of what it expands to, most
significant byte first. What follows the checksum is left alone.

Decoding stops when enough bytes are out, and then it does not matter how the stream goes on. But it
works in strides: the input is taken in pieces, and the output is made a window at a time. Whatever
is wrong in the stride that gives the last byte asked for is still found.
-/

namespace DocGateway.Zlib

/-! ### Reading -/

/-- Whether two bytes are a header: a multiple of 31, for DEFLATE with a window of at most 32 KiB
and without a preset dictionary. -/
def validHeader (cmf flg : Nat) : Bool :=
  (cmf * 256 + flg) % 31 = 0 ∧ cmf % 16 = 8 ∧ cmf / 16 ≤ 7 ∧ flg / 32 % 2 = 0

/-- The header, which says nothing that is needed. -/
def header : BitReader Unit := do
  let cmf ← Bits.byte
  let flg ← Bits.byte
  if validHeader cmf.toNat flg.toNat then pure () else Bits.corrupt

/-- The checksum of some output. -/
def trailer (out : Array UInt8) : BitReader Unit := do
  Bits.align
  let checksum ← Bits.word 4
  if LittleEndian.encode 4 checksum = (LittleEndian.encode 4 (Adler32.checksum out.toList)).reverse
    then pure ()
  else Bits.corrupt

/-- Everything, with at most `limit` bytes of output. -/
def whole (limit : Nat) : Inflate.Inflater Unit := do
  Inflate.read header
  Inflate.stream limit
  Inflate.read (trailer (← get).out)

/-- The number of bytes in a piece of the input, and in a window of the output. -/
def strideSize : Nat := 32768

/-- What comes of a beginning of the input: `none` when more of it is needed, `some none` when it is
wrong. -/
def attempt? (limit : Nat) (beginning : List UInt8) : Option (Option (List UInt8)) :=
  let windows := (limit + strideSize - 1) / strideSize
  match (whole (windows * strideSize)).run ⟨#[], ⟨beginning, 0⟩⟩ with
  | .ok _ p | .error .full p => some (some (p.out.toList.take limit))
  | .error (.shortfall .corrupt) _ => some none
  | .error (.shortfall .starved) p =>
    if limit ≤ p.out.size then some (some (p.out.toList.take limit)) else none

/-- The first `limit` bytes, when `taken` pieces of the input are there to begin with and up to
`more` can be had. -/
def decodeFrom? (limit : Nat) (payload : List UInt8) (taken : Nat) : Nat → Option (List UInt8)
  | 0 => (attempt? limit (payload.take (taken * strideSize))).join
  | more + 1 =>
    match attempt? limit (payload.take (taken * strideSize)) with
    | some result => result
    | none => decodeFrom? limit payload (taken + 1) more

/-- The bytes that an input expands to, but no more than `limit` of them. -/
def decode? (limit : Nat) (payload : List UInt8) : Option (List UInt8) :=
  decodeFrom? limit payload 1 (payload.length / strideSize)

/-! ### Writing -/

/-- A payload: the header, a stream and the checksum. -/
def wrap (flags : UInt8) (stream plain : List UInt8) : List UInt8 :=
  [0x78, flags] ++ stream ++ (LittleEndian.encode 4 (Adler32.checksum plain)).reverse

/-- A payload for an input. That `decode?` reads back what `Deflate.encode` writes is checked and
not proved: the check stands for what is assumed of any compressor, that its output expands to what
was written. A payload that does not pass it would be replaced by one in stored blocks. -/
def encode (plain : List UInt8) : List UInt8 :=
  let payload := wrap 0x9C (Deflate.encode plain) plain
  if decode? (plain.length + 1) payload = some plain then payload
  else wrap 0x01 (Inflate.encode plain) plain

end DocGateway.Zlib
