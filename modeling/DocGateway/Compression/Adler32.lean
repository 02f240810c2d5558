/-!
# The Adler-32 checksum

Two sums modulo the largest prime below `2 ^ 16`: of the bytes, and of the first sum after each
byte.
-/

namespace DocGateway.Adler32

/-- The modulus of both sums. -/
def modulus : Nat := 65521

/-- Takes one more byte into the sums. -/
def step (sums : Nat × Nat) (b : UInt8) : Nat × Nat :=
  let low := (sums.1 + b.toNat) % modulus
  (low, (sums.2 + low) % modulus)

/-- The checksum of some bytes. -/
def checksum (bs : List UInt8) : Nat :=
  let (low, high) := bs.foldl step (1, 0)
  high * 65536 + low

end DocGateway.Adler32
