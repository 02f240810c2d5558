import DocGateway.Compression.Zstd.BlockEncode
import DocGateway.Compression.Zstd.Frame
/-!
# Writing Zstandard frames

An input is written as one frame. It is cut into blocks of `maxBlockSize` bytes, and each of them is
compressed, or stored if it would not get shorter.
-/

namespace DocGateway.Zstd

/-- A stored block. -/
def storedBlock (last : Bool) (bytes : List UInt8) : List UInt8 :=
  LittleEndian.encode 3 ((if last then 1 else 0) + 8 * bytes.length) ++ bytes

/-- Stored blocks, `more` at most before the last one. -/
def storedBlocks : Nat → List UInt8 → List UInt8
  | 0, bytes => storedBlock true bytes
  | more + 1, bytes =>
    if (bytes.drop maxBlockSize).isEmpty then storedBlock true bytes
    else storedBlock false (bytes.take maxBlockSize) ++ storedBlocks more (bytes.drop maxBlockSize)

/-- A compressed block, if there is such a form, and else a stored one. -/
def suitedBlock (isFirst last : Bool) (bytes : List UInt8) : List UInt8 :=
  match BlockEncode.encode isFirst bytes with
  | some body => LittleEndian.encode 3 ((if last then 5 else 4) + 8 * body.length) ++ body
  | none => storedBlock last bytes

/-- Blocks in the form that suits each, `more` at most before the last one. -/
def suitedBlocks : Nat → (isFirst : Bool) → List UInt8 → List UInt8
  | 0, isFirst, bytes => suitedBlock isFirst true bytes
  | more + 1, isFirst, bytes =>
    if (bytes.drop maxBlockSize).isEmpty then suitedBlock isFirst true bytes
    else
      suitedBlock isFirst false (bytes.take maxBlockSize) ++ suitedBlocks more false
        (bytes.drop maxBlockSize)

/-- The descriptor and the size of a single-segment frame, in as few bytes as hold it. -/
def header (size : Nat) : List UInt8 :=
  if size < 256 then 0x20 :: LittleEndian.encode 1 size
  else if size < 65536 + 256 then 0x60 :: LittleEndian.encode 2 (size - 256)
  else 0xA0 :: LittleEndian.encode 4 size

/-- One frame of stored blocks. -/
def encodeStored (plain : List UInt8) : List UInt8 :=
  magic ++ header plain.length ++ storedBlocks (plain.length / maxBlockSize) plain

/-- One frame of blocks in the form that suits each. -/
def encodeSuited (plain : List UInt8) : List UInt8 :=
  magic ++ header plain.length ++ suitedBlocks (plain.length / maxBlockSize) true plain

/-- A frame for an input. That `decode?` reads back what `encodeSuited` writes is checked and not
proved: the check stands for what is assumed of any compressor, that its output expands to what was
written. A frame that does not pass it would be replaced by one of stored blocks. -/
def encode (plain : List UInt8) : List UInt8 :=
  let frame := encodeSuited plain
  if decode? plain.length frame = some plain then frame else encodeStored plain

end DocGateway.Zstd
