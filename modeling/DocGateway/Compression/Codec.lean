import DocGateway.Compression.Compressor
import DocGateway.Compression.Snappy
import DocGateway.Compression.Zlib
import DocGateway.Compression.Zstd.Encode
/-!
# Compressing and decompressing

`compress` writes a payload in the format of a compressor, `decompress?` reads one of which a number
of bytes is expected. What comes out need not have that many bytes, but it is no use to put out many
more: the zlib format stops after one byte too many, and a Zstandard payload that is too long is
refused.
-/

namespace DocGateway.Compressor

/-- A payload in the format of a compressor. -/
def compress (c : Compressor) (plain : List UInt8) : List UInt8 :=
  match c with
  | noop => plain
  | snappy => Snappy.encode plain
  | zlib => Zlib.encode plain
  | zstd => Zstd.encode plain

/-- The bytes that a payload expands to when `expected` bytes are expected, or `none` if it is
malformed. -/
def decompress? (c : Compressor) (expected : Nat) (payload : List UInt8) : Option (List UInt8) :=
  match c with
  | noop => some payload
  | snappy => Snappy.decode? payload
  | zlib => Zlib.decode? (expected + 1) payload
  | zstd => Zstd.decode? expected payload

end DocGateway.Compressor
