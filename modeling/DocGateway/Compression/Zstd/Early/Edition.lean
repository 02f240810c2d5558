import DocGateway.Bytes.LittleEndian
import DocGateway.Bytes.Slice
/-!
# Early editions of the format

Seven editions came before the format that is written today, and their frames are still read. Each
edition has magic bytes of its own, and a header that says less than that of today. Numbers inside
blocks are mostly written with the most significant byte first.
-/

namespace DocGateway.Zstd.Early

/-- The early editions, the oldest first. -/
inductive Edition where
  | first | second | third | fourth | fifth | sixth | seventh
deriving DecidableEq, Repr

/-- The number that some bytes spell, the first byte being the most significant. -/
def bigEndian (bytes : List UInt8) : Nat := bytes.foldl (fun n b => 256 * n + b.toNat) 0

namespace Edition

/-- All editions. -/
def all : List Edition := [first, second, third, fourth, fifth, sixth, seventh]

/-- The number of an edition. -/
def number : Edition → Nat
  | first => 1
  | second => 2
  | third => 3
  | fourth => 4
  | fifth => 5
  | sixth => 6
  | seventh => 7

/-- The bytes that a frame starts with. -/
def magic : Edition → List UInt8
  | first => [0xFD, 0x2F, 0xB5, 0x1E]
  | e => [UInt8.ofNat (0x20 + e.number), 0xB5, 0x2F, 0xFD]

/-- The edition of a frame that starts with four bytes. -/
def ofMagic? (head : List UInt8) : Option Edition := all.find? fun e => e.magic = head

/-! ### Headers -/

/-- The number of bytes that a frame says it has. None at all and the largest number say nothing. -/
def statedSize (n : Nat) : Option Nat := if n = 0 ∨ n = UInt64.size - 1 then none else some n

/-- The header of a frame of the sixth edition: its stated size, and what follows. -/
def sixthHeader? (bytes : List UInt8) : Option (Option Nat × List UInt8) := do
  let (descriptor, rest) ← Slice.split? 1 bytes
  let descriptor := LittleEndian.decode descriptor
  if descriptor / 32 % 2 ≠ 0 then none
  let (size, rest) ← Slice.split? #[0, 1, 2, 8][descriptor / 64]! rest
  some (statedSize (LittleEndian.decode size + if size.length = 2 then 256 else 0), rest)

/-- The window of a frame may have at most so many bytes. -/
def maxWindow : Nat := 1 <<< 27

/-- The window that a byte stands for. -/
def window (b : UInt8) : Nat :=
  let base := 1 <<< (b.toNat / 8 + 10)
  base + base / 8 * (b.toNat % 8)

/-- The header of a frame of the seventh edition. A reserved bit, a dictionary and a window that is
too large are refused. A frame without a window has its size as the window, of which 32 bits
count. -/
def seventhHeader? (bytes : List UInt8) : Option (Option Nat × List UInt8) := do
  let (descriptor, rest) ← Slice.split? 1 bytes
  let descriptor := LittleEndian.decode descriptor
  let single := descriptor / 32 % 2
  if descriptor / 8 % 2 ≠ 0 then none
  let (given, rest) ← Slice.split? (1 - single) rest
  let (dictionary, rest) ← Slice.split? #[0, 1, 2, 4][descriptor % 4]! rest
  if LittleEndian.decode dictionary ≠ 0 then none
  let (size, rest) ← Slice.split? #[single, 2, 4, 8][descriptor / 64]! rest
  let size := LittleEndian.decode size + if size.length = 2 then 256 else 0
  let window := given.head?.elim (size % UInt32.size) window
  if maxWindow < window then none
  some (statedSize size, rest)

/-- The stated size of a frame, from the header behind the magic bytes, and what follows. The first
three editions have no header, and the next two one byte of settings. -/
def header? (e : Edition) (bytes : List UInt8) : Option (Option Nat × List UInt8) :=
  match e with
  | first | second | third => some (none, bytes)
  | fourth | fifth => do
    let (settings, rest) ← Slice.split? 1 bytes
    if 16 ≤ LittleEndian.decode settings then none else some (none, rest)
  | sixth => sixthHeader? bytes
  | seventh => seventhHeader? bytes

end Edition

end DocGateway.Zstd.Early
