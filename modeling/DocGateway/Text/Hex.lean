/-!
# Hexadecimal text

Two lower-case digits a byte, the high one first. Reading takes both cases and refuses an odd
count of digits.
-/

namespace DocGateway.Hex

/-- The digit of a number below sixteen. -/
def digit (n : Nat) : Char :=
  if n < 10 then Char.ofNat (48 + n) else Char.ofNat (87 + n)

/-- The number of a digit. -/
def digit? (c : Char) : Option Nat :=
  if '0' ≤ c ∧ c ≤ '9' then some (c.toNat - 48)
  else if 'a' ≤ c ∧ c ≤ 'f' then some (c.toNat - 87)
  else if 'A' ≤ c ∧ c ≤ 'F' then some (c.toNat - 55)
  else none

/-- The two digits of a byte. -/
def byte (b : UInt8) : List Char := [digit (b.toNat / 16), digit (b.toNat % 16)]

/-- The text of some bytes. -/
def encode (bs : List UInt8) : String := String.ofList (bs.flatMap byte)

/-- Reads pairs of digits, the bytes read so far given last first. -/
def readPairs (read : List UInt8) : List Char → Option (List UInt8)
  | [] => some read.reverse
  | hi :: lo :: rest => do
    let h ← digit? hi
    let l ← digit? lo
    readPairs (UInt8.ofNat (16 * h + l) :: read) rest
  | [_] => none

/-- The bytes that a text spells. -/
def decode? (s : String) : Option (List UInt8) := readPairs [] s.toList

end DocGateway.Hex
