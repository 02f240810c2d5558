/-!
# The CRC-32C checksum

The remainder of a message, taken as a polynomial over two elements, by the Castagnoli polynomial,
with bits reflected. One byte is eight steps of one bit.
-/

namespace DocGateway.Wire.Crc32c

/-- The Castagnoli polynomial with its bits reflected and its leading bit dropped. -/
def polynomial : UInt32 := 0x82F63B78

/-- Moves the remainder down by one bit. -/
def shift (crc : UInt32) : UInt32 :=
  if crc &&& 1 = 1 then (crc >>> 1) ^^^ polynomial else crc >>> 1

/-- Takes one more byte into the remainder. -/
def step (crc : UInt32) (b : UInt8) : UInt32 :=
  shift (shift (shift (shift (shift (shift (shift (shift (crc ^^^ b.toUInt32))))))))

/-- The remainder after some bytes. -/
def update (crc : UInt32) (bs : List UInt8) : UInt32 := bs.foldl step crc

/-- The checksum of some bytes. -/
def checksum (bs : List UInt8) : UInt32 := update 0xFFFFFFFF bs ^^^ 0xFFFFFFFF

/-- `update` by bytes put together is by one after the other. -/
theorem update_append (crc : UInt32) (as bs : List UInt8) :
    update crc (as ++ bs) = update (update crc as) bs := List.foldl_append

end DocGateway.Wire.Crc32c
